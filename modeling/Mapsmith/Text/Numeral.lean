import Mapsmith.Number.Arithmetic
import Mapsmith.Text.Character

/-!
# Numbers in texts

The digits of every script, and how a text spells an integer: a sign or none, then digits of any script, with at
most one underscore between two of them. Then how it spells a number that need not be whole: a decimal with a
point or an exponent, a fraction, a complex number, or an integer in some base. Blanks around a number do not
count.
-/

namespace Mapsmith.Text

/-! ### Decimal digits

The general category Nd of Unicode 14. Each script has its ten digits in a
row, so the table lists where they begin. -/

/-- The zero of every row of ten decimal digits. -/
def zeros : List Nat :=
  [0x30, 0x660, 0x6F0, 0x7C0, 0x966, 0x9E6, 0xA66, 0xAE6, 0xB66, 0xBE6, 0xC66, 0xCE6, 0xD66,
    0xDE6, 0xE50, 0xED0, 0xF20, 0x1040, 0x1090, 0x17E0, 0x1810, 0x1946, 0x19D0, 0x1A80, 0x1A90,
    0x1B50, 0x1BB0, 0x1C40, 0x1C50, 0xA620, 0xA8D0, 0xA900, 0xA9D0, 0xA9F0, 0xAA50, 0xABF0,
    0xFF10, 0x104A0, 0x10D30, 0x11066, 0x110F0, 0x11136, 0x111D0, 0x112F0, 0x11450, 0x114D0,
    0x11650, 0x116C0, 0x11730, 0x118E0, 0x11950, 0x11C50, 0x11D50, 0x11DA0, 0x16A60, 0x16AC0,
    0x16B50, 0x1D7CE, 0x1D7D8, 0x1D7E2, 0x1D7EC, 0x1D7F6, 0x1E140, 0x1E2F0, 0x1E950, 0x1FBF0]

/-- Is the character a decimal digit of some script? -/
def isDecimalDigit (c : Char) : Bool :=
  inIntervals (zeros.map fun z => (z, z + 9)) c.toNat

/-! ### Integers -/

/-- The digit that a character is. -/
def digit? (c : Char) : Option Nat :=
  (zeros.find? fun z => z ≤ c.toNat && c.toNat ≤ z + 9).map (c.toNat - ·)

/-- The number that digits spell, after a number that is spelled already. -/
def digitsFrom (n : Nat) : List Char → Option Nat
  | [] => some n
  | '_' :: c :: cs => (digit? c).bind fun d => digitsFrom (10 * n + d) cs
  | c :: cs => (digit? c).bind fun d => digitsFrom (10 * n + d) cs

/-- The number that digits spell. -/
def natural? : List Char → Option Nat
  | [] => none
  | c :: cs => (digit? c).bind fun d => digitsFrom d cs

/-- The integer that a text spells. -/
def integer? (s : String) : Option Int :=
  match (trim s).toList with
  | '-' :: cs => (natural? cs).map fun n => -Int.ofNat n
  | '+' :: cs => (natural? cs).map Int.ofNat
  | cs => (natural? cs).map Int.ofNat

example : integer? " +1_0 " = some 10 := by decide +kernel

example : integer? "1__0" = none := by decide +kernel

/-! ### Runs of digits -/

/-- The digit of a base that a character is. -/
def digitIn? (base : Nat) (c : Char) : Option Nat :=
  let n := if c.isLower then some (c.toNat - 'a'.toNat + 10)
    else if c.isUpper then some (c.toNat - 'A'.toNat + 10)
    else digit? c
  n.filter (· < base)

/-- The digits of a base at the beginning of a text, and the rest. -/
def digitRun (base : Nat) : List Char → List Nat × List Char
  | '_' :: c :: cs => match digitIn? base c with
    | some d => let (ds, rest) := digitRun base cs; (d :: ds, rest)
    | none => ([], '_' :: c :: cs)
  | c :: cs => match digitIn? base c with
    | some d => let (ds, rest) := digitRun base cs; (d :: ds, rest)
    | none => ([], c :: cs)
  | [] => ([], [])

/-- The digits of a base at the beginning of a text, the first of them without an underscore before it. -/
def digits (base : Nat) (cs : List Char) : List Nat × List Char :=
  if cs.head? = some '_' then ([], cs) else digitRun base cs

/-- The number that digits of a base spell. -/
def numberOf (base : Nat) (ds : List Nat) : Nat :=
  ds.foldl (fun n d => base * n + d) 0

/-- Is there a minus at the beginning of a text? And what follows a sign. -/
def signed : List Char → Bool × List Char
  | '-' :: cs => (true, cs)
  | '+' :: cs => (false, cs)
  | cs => (false, cs)

/-- The exponent at the beginning of a text, after its mark, if there is one. -/
def exponent? (cs : List Char) : Option (Int × List Char) :=
  match cs with
  | mark :: cs =>
    if mark = 'e' || mark = 'E' then
      let (negative, cs) := signed cs
      match digits 10 cs with
      | ([], _) => none
      | (ds, rest) =>
        let n := Int.ofNat (numberOf 10 ds)
        some (if negative then -n else n, rest)
    else none
  | [] => none

/-! ### Decimals -/

/-- The digits of a decimal and its exponent, and the rest of a text. -/
def decimal? (cs : List Char) : Option (Nat × Int × List Char) :=
  let (whole, rest) := digits 10 cs
  let (fraction, rest) : List Nat × List Char := match rest with
    | '.' :: rest => digits 10 rest
    | rest => ([], rest)
  if whole.isEmpty && fraction.isEmpty then none
  else
    let (e, rest) := (exponent? rest).getD (0, rest)
    some (numberOf 10 (whole ++ fraction), e - Int.ofNat fraction.length, rest)

/-- The binary number at the beginning of a text, with a sign or without, and the rest. -/
def floatStart? (cs : List Char) : Option (Binary64 × List Char) :=
  let (negative, rest) := signed cs
  let word := (String.ofList rest).toLower
  if word.startsWith "infinity" then some (.infinite negative, rest.drop 8)
  else if word.startsWith "inf" then some (.infinite negative, rest.drop 3)
  else if word.startsWith "nan" then some (.notANumber, rest.drop 3)
  else (decimal? rest).map fun (ds, e, rest) => (.ofDecimal negative ds e, rest)

/-- The binary number that a text spells. -/
def float? (s : String) : Option Binary64 :=
  match floatStart? (trim s).toList with
  | some (x, []) => some x
  | _ => none

/-! ### Other numbers -/

/-- The integer that a text spells in a base. In the base zero, and in its own, a text may tell its base
itself. -/
def integerIn? (base : Nat) (s : String) : Option Int :=
  let (negative, cs) := signed (trim s).toList
  let marked : Option Nat := match cs with
    | '0' :: 'x' :: _ | '0' :: 'X' :: _ => some 16
    | '0' :: 'o' :: _ | '0' :: 'O' :: _ => some 8
    | '0' :: 'b' :: _ | '0' :: 'B' :: _ => some 2
    | _ => none
  let isMarked := marked.any fun b => base = 0 || base = b
  let own := if base = 0 then marked.getD 10 else base
  let cs := if isMarked then cs.drop 2 else cs
  let (ds, rest) := if isMarked then digitRun own cs else digits own cs
  let hasZeros := base = 0 && !isMarked && ds.head? = some 0 && ds.any (· ≠ 0)
  if ds.isEmpty || !rest.isEmpty || hasZeros then none
  else some (if negative then -Int.ofNat (numberOf own ds) else Int.ofNat (numberOf own ds))

/-- The largest exponent of a fraction, without its sign. -/
def maxExponent : Nat := 100000

/-- The fraction that a text spells, as its parts. The second one may be zero. -/
def fraction? (s : String) : Option (Int × Nat) :=
  let (negative, cs) := signed (trim s).toList
  let withSign (n : Nat) : Int := if negative then -Int.ofNat n else Int.ofNat n
  let (whole, rest) := digits 10 cs
  match whole, rest with
  | _ :: _, '/' :: rest => match digits 10 rest with
    | (d :: ds, []) => some (withSign (numberOf 10 whole), numberOf 10 (d :: ds))
    | _ => none
  | _, _ => match decimal? cs with
    | some (n, e, []) =>
      if e.natAbs > maxExponent then none
      else
        let (num, den) := Binary64.scaled 10 n 1 e
        some (withSign num, den)
    | _ => none

/-- The complex number that a text spells, as its parts. -/
def complex? (s : String) : Option (Binary64 × Binary64) :=
  let cs := (trim s).toList
  let cs := match cs, cs.getLast? with
    | '(' :: cs, some ')' => (trim (String.ofList cs.dropLast)).toList
    | cs, _ => cs
  let isUnit (cs : List Char) : Bool := cs = ['j'] || cs = ['J']
  let unit (negative : Bool) : Binary64 := .ofInt (if negative then -1 else 1)
  let imaginary? (cs : List Char) : Option Binary64 :=
    let (negative, rest) := signed cs
    if isUnit rest then some (unit negative)
    else match floatStart? cs with
      | some (y, rest) => if isUnit rest then some y else none
      | none => none
  match imaginary? cs with
  | some y => some (.zero false, y)
  | none => match floatStart? cs with
    | some (x, []) => some (x, .zero false)
    | some (x, c :: rest) =>
      if c = '+' || c = '-' then (imaginary? (c :: rest)).map (x, ·) else none
    | none => none

example : float? " 1_0.5e1 " = some (.nearest 105 1) := by decide +kernel

example : integerIn? 16 "-0xff" = some (-255) := by decide +kernel

end Mapsmith.Text
