import Mapsmith.Program.Evaluator
import Mapsmith.Text.Character

/-!
# Bodies of classes

What the body of a class leaves behind: what it has given names to, and the types of its annotated names.
A name that is given a second meaning keeps its place. The body of an enum keeps book of the names that stand
for its values, and does not let every name be one.
-/

namespace Mapsmith.Program

/-! ### What a body leaves behind -/

/-- The names of an enum's values, as far as its body has been run. -/
structure EntryNames where
  /-- The names that stand for values. -/
  entries : List String := []
  /-- The names that are to be forgotten. -/
  ignored : List String := []
  deriving Repr

/-- A body as far as it has been run. -/
structure Body where
  /-- The name of the class. -/
  owner : String
  /-- The name of the class with its module. -/
  path : String := ""
  /-- The names that are given a meaning somewhere in it. -/
  bound : List String := []
  /-- What has been given names. -/
  attributes : List (String × Attribute) := []
  /-- The types of the annotated names. -/
  annotations : List (String × Object) := []
  /-- The names of values, if it is the body of an enum. -/
  entryNames : Option EntryNames := none

namespace Body

/-- The names that the body knows. -/
def names (b : Body) : List (String × Object) :=
  b.attributes.map fun (name, a) => (name, a.toObject)

/-- Gives something a name. The name of the types of annotated names gives these up for what they are in the
table that it is given; if it is given something else, there are no types any more. -/
def set (b : Body) (name : String) (a : Attribute) : Body :=
  let held := { b with attributes := setEntry name a b.attributes }
  if name ≠ typesName then held
  else match a with
    | .object (.constant (.dict types)) => { b with
        attributes := b.attributes.filter (·.1 ≠ typesName)
        annotations := types.map fun (name, v) => (name, .ofValue v) }
    | _ => { held with annotations := [] }

/-- Gives an annotated name its type. -/
def annotate (b : Body) (name : String) (type : Object) : Run Body := do
  match b.attributes.lookup typesName with
  | some a =>
    Run.refuse (.other (Text.quote ((← get).typeName a.toObject)
      ++ " object does not support item assignment"))
  | none => return { b with annotations := setEntry name type b.annotations }

end Body

/-! ### Names in an enum -/

namespace EntryNames

/-- Does a name end with two underscores? -/
def endsDouble (name : String) : Bool :=
  name.endsWith "__"

/-- Is the name private to a class? -/
def isPrivate (owner name : String) : Bool :=
  let start := "_" ++ owner ++ "__"
  start.length < name.length && name.startsWith start && !endsDouble name

/-- Is the name reserved, by one underscore at each end? -/
def isReserved (name : String) : Bool :=
  match name.toList, name.toList.reverse with
  | '_' :: second :: _ :: _, '_' :: last :: _ => second ≠ '_' && last ≠ '_'
  | _, _ => false

/-- Does the name belong to the language, by two underscores at each end? -/
def isSpecial (name : String) : Bool :=
  match name.toList, name.toList.reverse with
  | '_' :: '_' :: third :: _ :: _ :: _, '_' :: '_' :: last :: _ => third ≠ '_' && last ≠ '_'
  | _, _ => false

/-- The reserved names that can be given a meaning. -/
def openNames : List String :=
  ["_order_", "_generate_next_value_", "_numeric_repr_", "_missing_", "_ignore_", "_iter_member_",
    "_iter_member_by_value_", "_iter_member_by_def_"]

/-- The words of a text, divided by commas or blanks. -/
def wordsOf (s : String) : List String :=
  let spaced := s.toList.map fun c => if c = ',' || Text.isBlank c then ' ' else c
  ((spaced.splitOn ' ').map String.ofList).filter (· ≠ "")

/-- The names in a value that is meant to be a list of names. -/
def listed (o : Object) : Run (List Object) := do
  match o with
  | .constant (.str s) => return (wordsOf s).map .text
  | .list items => return items
  | .constant (.dict entries) => return entries.map fun (key, _) => .text key
  | .constant (.list items) => return items.map .constant
  | o => Run.refuse (.other (Text.quote ((← get).typeName o) ++ " object is not iterable"))

/-- Forgets names later on. -/
def ignore (n : EntryNames) (o : Object) : Run EntryNames := do
  let names := (← listed o).filterMap (·.text?)
  if n.entries.any (· ∈ names) then throw .badValue
  return { n with ignored := names }

/-- Is what stands under a name a value of the enum? Functions and properties are not. -/
def isEntry : Attribute → Bool
  | .function _ | .property .. => false
  | .object _ | .dataclassField _ | .modelField _ => true

end EntryNames

namespace Body

/-- Gives something a name in the body of an enum. -/
def setInEnum (b : Body) (n : EntryNames) (name : String) (a : Attribute) : Run Body := do
  let taken : Misuse := .other (Text.quote name ++ " already defined")
  if EntryNames.isPrivate b.owner name then return b.set name a
  if EntryNames.isReserved name then
    if name ∉ EntryNames.openNames then throw .badValue
    if name ≠ "_ignore_" then return b.set name a
    return { b.set name a with entryNames := some (← n.ignore a.toObject) }
  if EntryNames.isSpecial name then
    return b.set (if name = "__order__" then "_order_" else name) a
  if name ∈ n.entries then Run.refuse taken
  if name ∈ n.ignored || !EntryNames.isEntry a then return b.set name a
  if (b.attributes.lookup name).isSome then Run.refuse taken
  return { b.set name a with entryNames := some { n with entries := n.entries ++ [name] } }

/-- Gives something a name. -/
def assign (b : Body) (name : String) (a : Attribute) : Run Body :=
  let name := keptName b.owner name
  match b.entryNames with
  | none => return b.set name a
  | some n => b.setInEnum n name a

end Body

/-! ### Fields -/

namespace FieldDetails

/-- What stands under the name of a field of a dataclass. -/
def inDataclass (d : FieldDetails) : Run (Option Attribute) := do
  if d.hasFactory || !d.inConstructor || d.metadata.isSome then
    if d.hasDefault && d.hasFactory then throw .badValue
    match d.metadata with
    | none | some .null | some (.dict _) | some (.str _) => return some (.dataclassField d)
    | some v =>
      Run.refuse (.other ("mappingproxy() argument must be a mapping, not " ++ v.typeName))
  return if d.hasDefault then some (.object .none) else none

/-- What stands under the name of a field of a model. -/
def inModel (d : FieldDetails) : Run (Option Attribute) := do
  if d.hasDefault && d.hasFactory then
    Run.refuse (.other "cannot specify both default and default_factory")
  if d.hasDefault || d.hasFactory || d.aliasName.isSome || d.frozen || d.metadata.isSome then
    return some (.modelField d)
  return none

/-- What stands under the name of a field. -/
def attribute? (d : FieldDetails) : ClassKind → Run (Option Attribute)
  | .dataclass => d.inDataclass
  | .model => d.inModel
  | .namedTuple | .protocol | .enum | .plain =>
    return if d.hasDefault then some (.object .none) else none

end FieldDetails

end Mapsmith.Program
