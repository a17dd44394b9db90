/-!
# Properties of characters

A property of characters is a list of closed intervals of code points, and having it is
`Mapsmith.Text.inIntervals`; the tables themselves stand beside the property they define.

Two notions of blank are in use and differ in the four information separators. Trimming a text,
and asking whether anything is left of it, takes `Mapsmith.Text.isBlank`; reading a number out of
a text trims `Mapsmith.Text.isWhiteSpace`, the property White_Space of Unicode.
-/

namespace Mapsmith.Text

/-- A closed interval of code points. -/
abbrev Interval := Nat × Nat

/-- Membership of a code point in a union of intervals. -/
def inIntervals (intervals : List Interval) (n : Nat) : Bool :=
  intervals.any fun i => i.1 ≤ n && n ≤ i.2

/-! ### Blanks -/

/-- The property White_Space of Unicode 14. -/
def isWhiteSpace (c : Char) : Bool :=
  let n := c.toNat
  (0x09 ≤ n && n ≤ 0x0D) || n == 0x20 || n == 0x85 || n == 0xA0 || n == 0x1680 ||
    (0x2000 ≤ n && n ≤ 0x200A) || n == 0x2028 || n == 0x2029 || n == 0x202F || n == 0x205F ||
    n == 0x3000

/-- White space, or one of the four information separators of ASCII. -/
def isBlank (c : Char) : Bool :=
  isWhiteSpace c || (0x1C ≤ c.toNat && c.toNat ≤ 0x1F)

/-- Drops the characters with a property at the end of a text. -/
def dropEnd (p : Char → Bool) (cs : List Char) : List Char :=
  (cs.reverse.dropWhile p).reverse

/-- Drops the characters with a property at both ends of a text. -/
def trimBy (p : Char → Bool) (cs : List Char) : List Char :=
  dropEnd p (cs.dropWhile p)

/-- The text without the blanks at its ends. -/
def trim (s : String) : String :=
  String.ofList (trimBy isBlank s.toList)

/-- The text without the blanks at its end. -/
def trimEnd (s : String) : String :=
  String.ofList (dropEnd isBlank s.toList)

end Mapsmith.Text
