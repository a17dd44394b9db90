import Mapsmith.TypeRef

/-!
# Conversions

How a source value becomes a target value: as it is, through one of the built-in conversions
between scalars, through a routine for a nested object or an enum, or element by element.
-/

namespace Mapsmith

/-- A generated routine, as the code that calls it sees it. -/
structure RoutineRef where
  /-- The routine's name. -/
  name : String
  /-- The type it maps from. -/
  source : String
  /-- The type it maps to. -/
  target : String
  /-- The namespace whose unit holds it. -/
  home : String
  /-- Is it private to the unit that uses it? -/
  helper : Bool := false
  deriving DecidableEq, Repr, Inhabited

/-- A way of making a target value. -/
inductive ConversionKind
  /-- The value as it is. -/
  | direct
  /-- The text of the value. -/
  | toText
  /-- The ISO form of a date or time. -/
  | toIsoText
  /-- An integer as a floating-point number. -/
  | toFloat
  /-- An integer as a decimal. -/
  | toDecimal
  /-- A text read as an integer. -/
  | parseInt
  /-- A text read as a floating-point number. -/
  | parseFloat
  /-- A text read as a decimal. -/
  | parseDecimal
  /-- A text read as a truth value. -/
  | parseBool
  /-- A text read as a UUID. -/
  | parseUuid
  /-- A text read as a date with a time. -/
  | parseDatetime
  /-- A text read as a date. -/
  | parseDate
  /-- A text read as a time. -/
  | parseTime
  /-- An object mapped by a routine. -/
  | nested
  /-- An enum value mapped by a routine. -/
  | enum
  /-- A collection rebuilt from converted elements. -/
  | collection
  /-- There is no way. -/
  | unconvertible
  deriving DecidableEq, Repr, Inhabited

namespace ConversionKind

/-- Is it one of the conversions between scalars? -/
def isBuiltin : ConversionKind → Bool
  | direct | nested | enum | collection | unconvertible => false
  | _ => true

/-- The word for a kind of conversion. -/
def word : ConversionKind → String
  | direct => "direct"
  | toText => "to_string"
  | toIsoText => "to_iso_string"
  | toFloat => "to_float"
  | toDecimal => "to_decimal"
  | parseInt => "parse_int"
  | parseFloat => "parse_float"
  | parseDecimal => "parse_decimal"
  | parseBool => "parse_bool"
  | parseUuid => "parse_uuid"
  | parseDatetime => "parse_datetime"
  | parseDate => "parse_date"
  | parseTime => "parse_time"
  | nested => "nested"
  | enum => "enum"
  | collection => "collection"
  | unconvertible => "unconvertible"

/-- The built-in conversion between two scalars, if there is one. -/
def between (source target : String) : Option ConversionKind :=
  match source, target with
  | "int", "str" | "float", "str" | "bool", "str" => some toText
  | "decimal.Decimal", "str" | "uuid.UUID", "str" => some toText
  | "datetime.datetime", "str" | "datetime.date", "str" | "datetime.time", "str" => some toIsoText
  | "int", "float" => some toFloat
  | "int", "decimal.Decimal" => some toDecimal
  | "str", "int" => some parseInt
  | "str", "float" => some parseFloat
  | "str", "decimal.Decimal" => some parseDecimal
  | "str", "bool" => some parseBool
  | "str", "uuid.UUID" => some parseUuid
  | "str", "datetime.datetime" => some parseDatetime
  | "str", "datetime.date" => some parseDate
  | "str", "datetime.time" => some parseTime
  | _, _ => none

end ConversionKind

/-- How one source value becomes a target value. -/
inductive Conversion
  /-- A conversion of a kind, with the routine it calls, the conversion of the elements of a
  collection, the container they are collected in, and whether a missing value is passed on. -/
  | mk (kind : ConversionKind) (routine : Option RoutineRef) (element : Option Conversion)
    (container : Option Container) (nullable : Bool)
  deriving Repr, Inhabited

namespace Conversion

/-! ### Parts -/

/-- The kind of conversion. -/
def kind : Conversion → ConversionKind
  | mk kind _ _ _ _ => kind

/-- The routine it calls. -/
def routine : Conversion → Option RoutineRef
  | mk _ routine _ _ _ => routine

/-- The conversion of the elements. -/
def element : Conversion → Option Conversion
  | mk _ _ element _ _ => element

/-- The container the elements are collected in. -/
def container : Conversion → Option Container
  | mk _ _ _ container _ => container

/-- Is a missing value passed on? -/
def nullable : Conversion → Bool
  | mk _ _ _ _ nullable => nullable

/-! ### The forms that planning makes -/

/-- The value as it is. -/
def direct : Conversion :=
  mk .direct none none none false

/-- No conversion. -/
def unconvertible : Conversion :=
  mk .unconvertible none none none false

/-- A conversion between scalars. -/
def builtin (kind : ConversionKind) (nullable : Bool) : Conversion :=
  mk kind none none none nullable

/-- An object mapped by a routine. -/
def nested (routine : RoutineRef) (nullable : Bool) : Conversion :=
  mk .nested (some routine) none none nullable

/-- An enum value mapped by a routine. -/
def enum (routine : RoutineRef) (nullable : Bool) : Conversion :=
  mk .enum (some routine) none none nullable

/-- A collection rebuilt from converted elements. -/
def collection (element : Conversion) (container : Option Container) (nullable : Bool) :
    Conversion :=
  mk .collection none (some element) container nullable

/-! ### Equality and routines -/

/-- Equality of conversions. -/
def decEq : (a b : Conversion) → Decidable (a = b)
  | mk k r none c u, mk k' r' none c' u' =>
    if h : k = k' ∧ r = r' ∧ c = c' ∧ u = u' then
      isTrue (by obtain ⟨rfl, rfl, rfl, rfl⟩ := h; rfl)
    else isFalse fun heq => h (by cases heq; exact ⟨rfl, rfl, rfl, rfl⟩)
  | mk k r (some e) c u, mk k' r' (some e') c' u' =>
    match decEq e e' with
    | isTrue he =>
      if h : k = k' ∧ r = r' ∧ c = c' ∧ u = u' then
        isTrue (by obtain ⟨rfl, rfl, rfl, rfl⟩ := h; rw [he])
      else isFalse fun heq => h (by cases heq; exact ⟨rfl, rfl, rfl, rfl⟩)
    | isFalse he => isFalse fun heq => he (by cases heq; rfl)
  | mk _ _ none _ _, mk _ _ (some _) _ _ => isFalse nofun
  | mk _ _ (some _) _ _, mk _ _ none _ _ => isFalse nofun

instance : DecidableEq Conversion := decEq

/-- Every routine the conversion calls, at any depth. -/
def routines : Conversion → List RoutineRef
  | mk _ routine none _ _ => routine.toList
  | mk _ routine (some e) _ _ => routine.toList ++ routines e

end Conversion

end Mapsmith
