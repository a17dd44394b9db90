import Mapsmith.Config
import Mapsmith.Failure
import Mapsmith.Text.Character
import Mapsmith.Text.Identifier
import Mapsmith.Value.Json

/-!
# Reading a configuration

Settings come from a table of dynamic values. Every setting is checked on its own and every fault is
reported, those of known settings first, in their order, then keys that are no settings, in the
order of the table. Numbers may be written as integers, as floating-point numbers without a
fraction, as truth values, or as texts that spell an integer.
-/

namespace Mapsmith.Config

/-- What is wrong with the value of a setting. -/
inductive SettingFault
  /-- The settings are no table. -/
  | notATable
  /-- A row was expected. -/
  | notATuple
  /-- A text was expected. -/
  | notText
  /-- An integer was expected. -/
  | notInteger
  /-- The text spells no integer. -/
  | unparsable
  /-- The integer is too long to be read. -/
  | tooLong
  /-- The number is not finite. -/
  | notFinite
  /-- The number has a fraction. -/
  | fractional
  /-- The number is below its bound. -/
  | below (bound : Nat)
  /-- A group of values is too small. -/
  | shortGroup (group : List String)
  /-- The suffix does not continue a name. -/
  | badSuffix (suffix : String)
  /-- There is no such setting. -/
  | unknownKey
  deriving DecidableEq, Repr

/-- The wording of a fault. -/
def SettingFault.message : SettingFault → String
  | notATable => "Input should be a valid dictionary or instance of GeneratorConfig"
  | notATuple => "Input should be a valid tuple"
  | notText => "Input should be a valid string"
  | notInteger => "Input should be a valid integer"
  | unparsable => "Input should be a valid integer, unable to parse string as an integer"
  | tooLong => "Unable to parse input string as an integer, exceeded maximum size"
  | notFinite => "Input should be a finite number"
  | fractional => "Input should be a valid integer, got a number with a fractional part"
  | below bound => "Input should be greater than or equal to " ++ toString bound
  | shortGroup group =>
    "Value error, equivalence group " ++ (Value.list (group.map .str)).literal
      ++ " needs at least two values"
  | badSuffix suffix =>
    "Value error, unit_suffix " ++ Text.quote suffix ++ " must extend a module name"
  | unknownKey => "Extra inputs are not permitted"

/-- A fault with the keys and positions that lead to it. -/
structure Complaint where
  /-- The keys and positions. -/
  place : List String
  /-- What is wrong there. -/
  fault : SettingFault
  deriving DecidableEq, Repr

/-- A complaint in a message. -/
def Complaint.text (c : Complaint) : String :=
  let place := ".".intercalate c.place
  (if place = "" then "<root>" else place) ++ ": " ++ c.fault.message

/-- A checked part of a configuration, or everything that is wrong with it. -/
abbrev Checked (α : Type) := Except (List Complaint) α

/-! ### Integers -/

/-- Without zeros in front, low lines among them being dropped too. One zero stays when nothing else
follows or a point does; a minus sign may follow the zeros. -/
def dropLeadingZeros : List Char → Option (List Char)
  | '0' :: rest =>
    let tail := rest.dropWhile fun c => c = '0' || c = '_'
    let zeros := '0' :: rest.takeWhile fun c => c = '0' || c = '_'
    match tail with
    | [] => some (zeros.drop (zeros.length - 1))
    | '.' :: _ => some (zeros.drop (zeros.length - 1) ++ tail)
    | c :: _ => if c.isDigit || c = '-' then some tail else none
  | c :: rest => if c.isDigit || c = '-' then some (c :: rest) else none
  | [] => none

/-- Without a fraction of one zero or more. -/
def dropZeroFraction (cs : List Char) : List Char :=
  match cs.dropWhile (· ≠ '.') with
  | _ :: fraction =>
    if !fraction.isEmpty && fraction.all (· = '0') then cs.takeWhile (· ≠ '.') else cs
  | [] => cs

/-- Do two low lines stand side by side? -/
def doubleLine : List Char → Bool
  | a :: b :: rest => (a = '_' && b = '_') || doubleLine (b :: rest)
  | _ => false

/-- Without low lines, if each of them stands alone between other characters. -/
def dropLines (cs : List Char) : List Char :=
  if cs.head? = some '_' || cs.getLast? = some '_' || doubleLine cs then cs
  else cs.filter (· ≠ '_')

/-- How many digits an integer may have. -/
def maxIntegerLength : Nat := 4300

/-- An integer in its plain form: a minus sign or none, then digits without a zero in front. One that
is too long is refused for that, whatever follows it. -/
def plainInteger (cs : List Char) : Except SettingFault Int :=
  let (isNegative, unsigned) := match cs with
    | '-' :: rest => (true, rest)
    | _ => (false, cs)
  let digits := match unsigned with
    | '0' :: _ => ['0']
    | _ => unsigned.takeWhile Char.isDigit
  if digits.isEmpty then .error .unparsable
  else if digits.length > maxIntegerLength then .error .tooLong
  else if digits.length < unsigned.length then .error .unparsable
  else
    let n := Int.ofNat (Value.Json.decimalValue digits)
    .ok (if isNegative then -n else n)

/-- The plain form of an integer that is written more freely: with blanks around it, a plus sign,
zeros in front, low lines between its digits, or a fraction of zeros. -/
def plainForm (cs : List Char) : Option (List Char) := do
  let trimmed := Text.trimBy Text.isWhiteSpace cs
  let unsigned ← match trimmed with
    | '+' :: '-' :: _ => none
    | '+' :: rest => some rest
    | _ => some trimmed
  let (sign, unsigned) := match unsigned with
    | '-' :: rest => (['-'], rest)
    | _ => ([], unsigned)
  return sign ++ dropLines (dropZeroFraction (← dropLeadingZeros unsigned))

/-- The integer that a text spells. The plain form is tried first, and only there is an integer found
to be too long. -/
def integerOfText (s : String) : Except SettingFault Int :=
  match plainInteger s.toList with
  | .error .unparsable => match (plainForm s.toList).map plainInteger with
    | some (.ok n) => .ok n
    | _ => .error .unparsable
  | read => read

/-- The integer that a floating-point number is. -/
def integerOfFloat (x : Binary64) : Except SettingFault Int :=
  match x with
  | .finite .. => match x.toInt? with
    | none => .error .fractional
    | some n => if n.natAbs < Nat.pow 2 63 then .ok n else .error .tooLong
  | _ => .error .notFinite

/-- The integer that a value stands for. -/
def integerOf : Value → Except SettingFault Int
  | .int n => .ok n
  | .bool b => .ok (if b then 1 else 0)
  | .float x => integerOfFloat x
  | .str s => integerOfText s
  | _ => .error .notInteger

/-! ### Settings -/

/-- A number that is at least a bound. -/
def checkNumber (key : String) (bound : Nat) (v : Value) : Checked Nat :=
  match integerOf v with
  | .error fault => .error [⟨[key], fault⟩]
  | .ok n => if n < bound then .error [⟨[key], .below bound⟩] else .ok n.toNat

/-- A text at a place. -/
def checkText (place : List String) : Value → Checked String
  | .str s => .ok s
  | _ => .error [⟨place, .notText⟩]

/-- A suffix that continues any name. -/
def checkSuffix (key : String) (v : Value) : Checked String :=
  match checkText [key] v with
  | .error complaints => .error complaints
  | .ok s => if Text.isIdentifierSuffix s then .ok s else .error [⟨[key], .badSuffix s⟩]

/-- Checks the items of a row, each at its position, and gathers all complaints. -/
def checkItems {α : Type} (place : List String) (check : List String → Value → Checked α) :
    Nat → List Value → Checked (List α)
  | _, [] => .ok []
  | position, v :: vs =>
    match check (place ++ [toString position]) v, checkItems place check (position + 1) vs with
    | .ok x, .ok xs => .ok (x :: xs)
    | .ok _, .error complaints => .error complaints
    | .error complaints, .ok _ => .error complaints
    | .error first, .error rest => .error (first ++ rest)

/-- A row at a place. -/
def checkRow {α : Type} (check : List String → Value → Checked α) (place : List String) :
    Value → Checked (List α)
  | .list items => checkItems place check 0 items
  | _ => .error [⟨place, .notATuple⟩]

/-- Groups of at least two texts. -/
def checkGroups (key : String) (v : Value) : Checked (List (List String)) :=
  match checkRow (checkRow checkText) [key] v with
  | .error complaints => .error complaints
  | .ok groups => match groups.find? (·.length < 2) with
    | some group => .error [⟨[key], .shortGroup group⟩]
    | none => .ok groups

/-- The names of the settings, in their order. -/
def keys : List String :=
  ["enum_equivalence_groups", "max_workers", "unit_suffix", "runtime_module", "cache_size",
    "header"]

/-- A setting of the table, or its default. -/
def setting {α : Type} (table : Value) (key : String) (check : Value → Checked α) (default : α) :
    Checked α :=
  match table.get? key with
  | some v => check v
  | none => .ok default

/-- The complaints about a part. -/
def complaints {α : Type} : Checked α → List Complaint
  | .ok _ => []
  | .error cs => cs

/-- Reads a configuration from a value. -/
def ofValue (v : Value) : Checked Config :=
  match v with
  | .dict entries =>
    let groups := setting v "enum_equivalence_groups" (checkGroups "enum_equivalence_groups")
      EnumMatching.defaultGroups
    let workers := setting v "max_workers" (checkNumber "max_workers" 1) 1
    let suffix := setting v "unit_suffix" (checkSuffix "unit_suffix") "_mappings"
    let runtime := setting v "runtime_module" (checkText ["runtime_module"]) "map_compiler.runtime"
    let size := setting v "cache_size" (checkNumber "cache_size" 0) 256
    let header := setting v "header" (checkText ["header"])
      "Generated by map_compiler. Do not edit."
    let unknown := (entries.filter fun e => e.1 ∉ keys).map fun e => ⟨[e.1], .unknownKey⟩
    match groups, workers, suffix, runtime, size, header, unknown with
    | .ok equivalenceGroups, .ok maxWorkers, .ok unitSuffix, .ok runtimeModule, .ok cacheSize,
        .ok header, [] =>
      .ok { equivalenceGroups, maxWorkers, unitSuffix, runtimeModule, cacheSize, header }
    | _, _, _, _, _, _, _ =>
      .error (complaints groups ++ complaints workers ++ complaints suffix ++ complaints runtime
        ++ complaints size ++ complaints header ++ unknown)
  | _ => .error [⟨[], .notATable⟩]

/-! ### Writing -/

/-- The settings as a table. -/
def toValue (c : Config) : Value :=
  .dict [("enum_equivalence_groups",
      .list (c.equivalenceGroups.map fun group => .list (group.map .str))),
    ("max_workers", .int c.maxWorkers), ("unit_suffix", .str c.unitSuffix),
    ("runtime_module", .str c.runtimeModule), ("cache_size", .int c.cacheSize),
    ("header", .str c.header)]

/-- The settings as one text, different for different settings. -/
def fingerprint (c : Config) : String :=
  Value.Json.write .unicode c.toValue

/-! ### Errors -/

/-- Settings that cannot be used, with where they come from. -/
structure Invalid where
  /-- Where the settings come from. -/
  source : String
  /-- What is wrong. -/
  detail : String
  deriving DecidableEq, Repr

/-- The failure that such settings are reported as. -/
def Invalid.failure (e : Invalid) : Failure :=
  .configuration e.source e.detail

/-- Reads a configuration that comes from somewhere. -/
def ofTable (source : String) (v : Value) : Except Invalid Config :=
  match ofValue v with
  | .ok c => .ok c
  | .error cs => .error ⟨source, "; ".intercalate (cs.map (·.text))⟩

end Mapsmith.Config
