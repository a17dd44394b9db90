import Mapsmith.Calendar
import Mapsmith.Number.Decimal
import Mapsmith.Program.Library.Class
import Mapsmith.Value

/-!
# Data of the library

Values that classes of the library make beside the plain ones: numbers of other kinds, bytes, ranges,
points in time, spans of it, and identifiers. Each knows its class, how it is written where an expression
for it is wanted, and how it is shown as a text.
-/

namespace Mapsmith.Program

/-- A value that a class of the library has made. -/
inductive Datum
  /-- A complex number. -/
  | complex (re im : Binary64)
  /-- A fraction in lowest terms. -/
  | fraction (num : Int) (den : Nat)
  /-- A decimal number. -/
  | decimal (d : Decimal)
  /-- Bytes. -/
  | bytes (values : List Nat)
  /-- The integers from a first one on up to a last one that is left out, by a step. -/
  | range (first last step : Int)
  /-- A day. -/
  | date (d : Date)
  /-- A time of day. -/
  | time (t : TimeOfDay)
  /-- A time on a day. -/
  | moment (d : Date) (t : TimeOfDay)
  /-- A span of time, in microseconds. -/
  | duration (microseconds : Int)
  /-- A zone of the time of day. -/
  | zone (z : TimeZone)
  /-- An identifier of 128 binary digits. -/
  | identifier (n : Nat)
  deriving DecidableEq, Repr

namespace Datum

/-- The class of a value. -/
def cls : Datum → LibraryClass
  | complex .. => .builtin "complex"
  | fraction .. => ⟨"fractions", "Fraction"⟩
  | decimal _ => ⟨"decimal", "Decimal"⟩
  | bytes _ => .builtin "bytes"
  | range .. => .builtin "range"
  | date _ => ⟨"datetime", "date"⟩
  | time _ => ⟨"datetime", "time"⟩
  | moment .. => ⟨"datetime", "datetime"⟩
  | duration _ => ⟨"datetime", "timedelta"⟩
  | zone _ => ⟨"datetime", "timezone"⟩
  | identifier _ => ⟨"uuid", "UUID"⟩

/-! ### Making -/

/-- A fraction in lowest terms. The denominator is not zero. -/
def ofFraction (num : Int) (den : Nat) : Datum :=
  let divisor := Nat.gcd num.natAbs den
  if divisor = 0 then fraction num den else fraction (Int.tdiv num divisor) (den / divisor)

/-- An imaginary number. -/
def imaginary (x : Binary64) : Datum :=
  complex (.finite false 0 (-1074)) x

/-! ### Texts -/

/-- A number that need not be whole, without a point if it is. -/
def shortText (x : Binary64) : String :=
  let text := x.text
  if text.endsWith ".0" then (text.dropEnd 2).toString else text

/-- Is the number zero without a sign? -/
def isPlainZero (x : Binary64) : Bool :=
  match x with
  | .finite negative mantissa _ => !negative && mantissa = 0
  | _ => false

/-- How a complex number is written. -/
def complexText (re im : Binary64) : String :=
  let imaginary := shortText im ++ "j"
  if isPlainZero re then imaginary
  else "(" ++ shortText re ++ (if imaginary.startsWith "-" then "" else "+") ++ imaginary ++ ")"

/-- An identifier in five groups of hexadecimal digits. -/
def identifierText (n : Nat) : String :=
  let cs := Text.hexPadded 32 n
  let group (first length : Nat) : String := String.ofList ((cs.drop first).take length)
  "-".intercalate [group 0 8, group 8 4, group 12 4, group 16 4, group 20 12]

/-- Something that a class has been called with. -/
def called (name : String) (args : List String) : String :=
  name ++ "(" ++ ", ".intercalate args ++ ")"

/-- The numbers of a day. -/
def dateNumbers (d : Date) : List String :=
  [d.year, d.month, d.day].map toString

/-- How a span of time is written. -/
def spanLiteral (n : Int) : String :=
  let parts := Duration.parts n
  called "datetime.timedelta" <|
    if parts.isEmpty then ["0"] else parts.map fun (name, value) => name ++ "=" ++ toString value

/-- How a zone is written. -/
def zoneLiteral (z : TimeZone) : String :=
  if z = {} then "datetime.timezone.utc"
  else called "datetime.timezone" (spanLiteral z.offset :: (z.name.map Text.quote).toList)

/-- The parts of a time of day as they are written. -/
def clockParts (t : TimeOfDay) : List String :=
  t.numbers.map toString ++ (if t.isSecond then ["fold=1"] else [])
    ++ (t.zone.map fun z => "tzinfo=" ++ zoneLiteral z).toList

/-- How a value is written. -/
def literal : Datum → String
  | complex re im => complexText re im
  | fraction num den => called "Fraction" [toString num, toString den]
  | decimal d => called "Decimal" [Text.quote d.text]
  | bytes values => "b" ++ Text.quoteBytes values
  | range first last step =>
    called "range" ([first, last].map toString ++ if step = 1 then [] else [toString step])
  | date d => called "datetime.date" (dateNumbers d)
  | time t => called "datetime.time" (clockParts t)
  | moment d t => called "datetime.datetime" (dateNumbers d ++ clockParts t)
  | duration n => spanLiteral n
  | zone z => zoneLiteral z
  | identifier n => called "UUID" [Text.quote (identifierText n)]

/-- A value as a text. -/
def display : Datum → String
  | fraction num den => if den = 1 then toString num else toString num ++ "/" ++ toString den
  | decimal d => d.text
  | date d => d.text
  | time t => t.text
  | moment d t => d.text ++ " " ++ t.text
  | duration n => Duration.text n
  | zone z => z.shown
  | identifier n => identifierText n
  | d => d.literal

/-! ### Meaning -/

/-- The integers of a range. -/
def integers (first last step : Int) : List Int :=
  let count := if step > 0 then (last - first + step - 1) / step
    else if step < 0 then (first - last - step - 1) / (-step) else 0
  (List.range count.toNat).map fun i => first + step * Int.ofNat i

/-- Does the value count as true? -/
def isTruthy : Datum → Bool
  | complex re im => re.isNonzero || im.isNonzero
  | fraction num _ => num ≠ 0
  | decimal d => d.isNonzero
  | bytes values => !values.isEmpty
  | range first last step => !(integers first last step).isEmpty
  | duration n => n ≠ 0
  | _ => true

/-- The fraction that a value is, if it is a number on the line. -/
def fraction? : Datum → Option (Int × Nat)
  | complex re im => if im.isNonzero then none else re.fraction?
  | fraction num den => some (num, den)
  | decimal d => d.fraction?
  | _ => none

/-- The number of microseconds from the beginning to a time on a day, as clocks there show it. -/
def instant (d : Date) (t : TimeOfDay) : Int :=
  Int.ofNat d.ordinal * Duration.perDay + Int.ofNat t.microseconds

/-- Are two times told for a zone, or neither? -/
def areAlikeTold (t u : TimeOfDay) : Bool :=
  t.zone.isSome = u.zone.isSome

/-- Do two values count as the same? Times are compared as the same clock shows them. -/
def alike (a b : Datum) : Bool :=
  match a, b with
  | time t, time u =>
    areAlikeTold t u && Int.ofNat t.microseconds - t.offset = Int.ofNat u.microseconds - u.offset
  | moment d t, moment e u => areAlikeTold t u && instant d t - t.offset = instant e u - u.offset
  | zone y, zone z => y.offset = z.offset
  | range f l s, range g m t => integers f l s = integers g m t
  | complex a b, complex c d => a.isSame c && b.isSame d
  | a, b => a = b || match a.fraction?, b.fraction? with
    | some (m, k), some (n, l) => m * Int.ofNat l = n * Int.ofNat k
    | _, _ => false

/-- Is the value the number that a plain value is? -/
def isNumber (d : Datum) (v : Value) : Bool :=
  match d.fraction?, v with
  | some (n, l), .float x => x.fraction?.any fun (m, k) => m * Int.ofNat l = n * Int.ofNat k
  | some (n, l), .int m => m * Int.ofNat l = n
  | some (n, l), .bool b => (if b then Int.ofNat l else 0) = n
  | _, _ => false

end Datum

end Mapsmith.Program
