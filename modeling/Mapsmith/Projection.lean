import Mapsmith.Failure
import Mapsmith.Text.Part

/-!
# Projections

A projection selects values along attribute paths of a source and builds a target from them, with
no conversion but the look-up of enum values. It reads either a source object or a row of columns;
the column of a path is its attributes joined with two low lines. A missing object on the way makes
the selected value missing. Columns may be looked for in a table, a list or a text, but only a table has
values for them.
-/

namespace Mapsmith

/-- Why a projection fails. -/
inductive ProjectionError
  /-- A value has no such attribute. -/
  | noAttribute (name : String)
  /-- A value is no row: columns cannot be looked for in it, or not be read from it. -/
  | notARow
  /-- A value is no series of rows. -/
  | notRows
  /-- A keyword of the target names what is built itself. -/
  | takenKeyword (name : String)
  /-- A failure that generated code reports. -/
  | failed (failure : Failure)
  deriving Repr

/-- A selected member of the target. -/
structure ProjectedField where
  /-- The target member. -/
  targetMember : String
  /-- The keyword the constructor takes it under. -/
  keyword : String
  /-- The attributes of the source it is read along. -/
  path : List String
  /-- Does the constructor take it? -/
  viaConstructor : Bool := true
  /-- What becomes of a value that is not missing. -/
  convert : Option (Value → Except ProjectionError Value) := none

namespace ProjectedField

/-- The column that holds the member's value in a row. -/
def column (f : ProjectedField) : String :=
  "__".intercalate f.path

/-- The value of the member for a raw value. -/
def value (f : ProjectedField) (raw : Value) : Except ProjectionError Value :=
  match raw, f.convert with
  | .null, _ => .ok .null
  | v, some convert => convert v
  | v, none => .ok v

end ProjectedField

/-- A target built by a projection. -/
structure BuiltTarget where
  /-- The arguments of its constructor. -/
  arguments : List (String × Value)
  /-- The members assigned afterwards, in order. -/
  assigned : List (String × Value)
  deriving Repr

/-- A selection of source values into a target type. -/
structure Projection where
  /-- The name of the source type. -/
  source : String
  /-- The name of the target type. -/
  target : String
  /-- The selected members. -/
  fields : List ProjectedField

namespace Projection

/-- Entries with one under a key, in place of an earlier one. -/
def assign {α : Type} (entries : List (String × α)) (key : String) (x : α) : List (String × α) :=
  if entries.any (·.1 == key) then entries.map fun e => if e.1 = key then (key, x) else e
  else entries ++ [(key, x)]

/-- The columns that a row must have. -/
def columns (p : Projection) : List String :=
  p.fields.map (·.column)

/-- The paths of the target members. -/
def paths (p : Projection) : List (String × List String) :=
  p.fields.foldl (fun entries f => assign entries f.targetMember f.path) []

/-- The value of the attribute of an object. -/
def readAttribute (v : Value) (name : String) : Except ProjectionError Value :=
  match v.get? name with
  | some x => .ok x
  | none => .error (.noAttribute name)

/-- The value at the end of a path; a missing value on the way ends it. -/
def follow (v : Value) : List String → Except ProjectionError Value
  | [] => .ok v
  | name :: path => match v with
    | .null => .ok .null
    | _ => do follow (← readAttribute v name) path

/-- The values of the target members, each made from what a reader finds for its field. -/
def collect (read : ProjectedField → Except ProjectionError Value) :
    List ProjectedField → List (String × Value) → Except ProjectionError (List (String × Value))
  | [], values => .ok values
  | f :: fs, values => do
    let v ← f.value (← read f)
    collect read fs (assign values f.targetMember v)

/-- The selected values of a source object. -/
def select (p : Projection) (object : Value) : Except ProjectionError (List (String × Value)) :=
  collect (fun f => follow object f.path) p.fields []

/-- The selected value of a field. -/
def valueOf (values : List (String × Value)) (f : ProjectedField) : Value :=
  (values.lookup f.targetMember).getD .null

/-- The keyword that a constructor has for the object it makes. -/
def selfKeyword : String :=
  "self"

/-- The target built from the values of its members. A constructor takes any keyword but the one for the
object it makes. -/
def build (p : Projection) (values : List (String × Value)) : Except ProjectionError BuiltTarget :=
  let passed := p.fields.filter (·.viaConstructor)
  if passed.any (·.keyword = selfKeyword) then .error (.takenKeyword selfKeyword)
  else .ok {
    arguments := passed.foldl (fun entries f => assign entries f.keyword (valueOf values f)) []
    assigned := (p.fields.filter fun f => !f.viaConstructor).map fun f =>
      (f.targetMember, valueOf values f) }

/-- Projects a source object. -/
def apply (p : Projection) (object : Value) : Except ProjectionError BuiltTarget := do
  p.build (← p.select object)

/-- Is a column found in a row? It is a key of a table, an element of a list or a part of a text. -/
def holdsColumn (row : Value) (column : String) : Except ProjectionError Bool :=
  match row with
  | .dict entries => .ok (entries.any (·.1 = column))
  | .list items => .ok (items.any (· = .str column))
  | .str s => .ok (Text.isWithin column.toList s.toList)
  | _ => .error .notARow

/-- The value of a row under a column that is found in it. -/
def cell (row : Value) (column : String) : Except ProjectionError Value :=
  match row with
  | .dict entries => .ok ((entries.lookup column).getD .null)
  | _ => .error .notARow

/-- The columns that a row lacks. -/
def missingColumns (p : Projection) (row : Value) : Except ProjectionError (List String) :=
  p.columns.filterM fun c => do return !(← holdsColumn row c)

/-- Projects a row. -/
def mapOne (p : Projection) (row : Value) : Except ProjectionError BuiltTarget := do
  let missing ← p.missingColumns row
  if missing.isEmpty then p.build (← collect (fun f => cell row f.column) p.fields [])
  else .error (.failed (.projectionColumn p.target missing))

/-- The rows of a series: the elements of a list, the keys of a table or the characters of a text. -/
def rowsOf : Value → Except ProjectionError (List Value)
  | .list items => .ok items
  | .dict entries => .ok (entries.map fun e => .str e.1)
  | .str s => .ok (s.toList.map fun c => .str (String.singleton c))
  | _ => .error .notRows

/-- Projects a series of rows in order. -/
def mapMany (p : Projection) (rows : Value) : Except ProjectionError (List BuiltTarget) := do
  (← rowsOf rows).mapM p.mapOne

/-- The projection in a message. -/
def text (p : Projection) : String :=
  "Projection(" ++ p.source ++ " -> " ++ p.target ++ ", columns="
    ++ (Value.list (p.columns.map .str)).literal ++ ")"

end Projection

/-- The look-up of an enum value in a table of counterparts. -/
def enumLookup (table : List (String × Value)) (source target : String) (v : Value) :
    Except ProjectionError Value :=
  match v with
  | .str s => match table.lookup s with
    | some x => .ok x
    | none => .error (.failed (.unmappedEnumValue source target v))
  | _ => .error (.failed (.unmappedEnumValue source target v))

end Mapsmith
