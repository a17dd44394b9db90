import Mapsmith.Program.Function.Types

/-!
# Functions on records

What the functions of the library that deal in classes with members yield: the fields of a dataclass, its
values as tables and rows or with other members, tuples with named members made of their names, and what marks a
class or a method.
-/

namespace Mapsmith.Program

namespace Run

/-! ### Dataclasses -/

/-- The dataclass that an object is, or is a value of. -/
def dataclassOf? (m : Memory) (o : Object) : Option DataclassShape :=
  match m.seen o with
  | .cls c => m.dataclass? c
  | .made _ maker .. => m.dataclass? maker
  | .enumValue owner _ => m.dataclass? (.program owner)
  | .formed (.generic c) _ => m.dataclass? c
  | _ => none

/-- The parameters that a class takes. -/
def parametersOf (c : ClassId) : Run (List (Parameter Object)) := do
  match (← get).attribute? c "__init__" with
  | some (.function f) => return f.parameters
  | some a => refuse (.notCallable ((← get).typeName a.toObject))
  | none => return []

/-- What the constructor of a class is given for its parameters. It is known by the class that declares it. -/
def givenParameters (c : ClassId) (given : Arguments) : Run (List (String × Option Object)) := do
  let m ← get
  let path := match m.attribute? c "__init__" with
    | some (.function f) => if f.name = "function" then m.pathOf c ++ ".__init__" else pathOfFunction m f
    | _ => m.pathOf c ++ ".__init__"
  assigned (path ++ "()") true (← parametersOf c) given

/-- The members that a dataclass makes of what it is given. -/
def givenMembers (c : ClassId) (shape : DataclassShape) (given : Arguments) : Run (List (String × Object)) := do
  let given ← givenParameters c given
  (shape.fields.filter fun (_, f) => f.role = FieldRole.member).filterMapM fun (n, f) => do
    match (given.lookup n).join with
    | some o => return some (n, o)
    | none =>
      if f.hasFactory then return some (n, ← newTable [])
      else if f.hasDefault then return some (n, f.default)
      else return none

/-- The fields of an object that are members. -/
def memberFields (what : String) (o : Object) : Run (List (String × DataclassField)) := do
  match dataclassOf? (← get) o with
  | some shape => return shape.fields.filter fun (_, f) => f.role = FieldRole.member
  | none => refuse (.other what)

/-- The members of a value of a dataclass. -/
def membersOf (what : String) (o : Object) : Run (List (String × Object)) := do
  let wording := what ++ " should be called on dataclass instances"
  if o matches .cls _ | .formed .. then refuse (.other wording)
  (← memberFields wording o).mapM fun (name, _) => do return (name, ← member o name)

/-- A value with the values of dataclasses in it laid out as tables or as rows by a function, as deep as is told. -/
def laidOpen (ev : Evaluator) (s : Scope) (asTable : Bool) (factory : Option Object) : Nat → Object → Run Object
  | 0, _ => throw .tooDeep
  | levels + 1, o => do
    let inner := laidOpen ev s asTable factory levels
    let m ← get
    match m.seen o with
    | .made _ c kept members _ =>
      match m.dataclass? c, m.nearest? c (·.tuple), kept with
      | some shape, _, _ =>
        let names := (shape.fields.filter fun (_, f) => f.role = FieldRole.member).map (·.1)
        let values ← names.mapM fun name => do return (name, ← inner ((members.lookup name).getD .none))
        match factory with
        | some f =>
          let rows := values.map fun (name, o) => Object.row [.text name, o]
          ev.call s f (.ofItems [← newList (if asTable then rows else values.map (·.2))])
        | none => if asTable then newTableOf values else return .row (values.map (·.2))
      | none, some shape, .row items :: _ =>
        let items ← items.mapM inner
        newMade c [.row items] (shape.fields.zip items) []
      | none, none, .table es :: _ => keptLike o (.table (← es.mapM inner))
      | none, none, .list items :: _ => keptLike o (.list (← items.mapM inner))
      | _, _, _ => return o
    | .list items => newList (← items.mapM inner)
    | .row items => return .row (← items.mapM inner)
    | .table entries => newTable (← entries.mapM inner)
    | .set items => newSet items
    | o' => return if o matches .cell _ then o else o'

/-- A value of a dataclass with other members. -/
def withMembers (ev : Evaluator) (s : Scope) (o : Object) (others : List (String × Object)) :
    Run Object := do
  let m ← get
  match m.seen o, dataclassOf? m o with
  | .made _ maker .., some shape =>
    let fields := shape.fields.filter fun (_, f) => f.role ≠ FieldRole.ofClass
    for (name, f) in fields do
      if !f.inConstructor && (others.lookup name).isSome then throw .badValue
    let given ← (fields.filter fun (_, f) => f.inConstructor).filterMapM fun (name, f) => do
      match others.lookup name with
      | some o => return some (name, o)
      | none =>
        if f.role = .forConstruction then
          if !f.hasDefault then throw .badValue
          return none
        return some (name, ← member o name)
    let unknown := others.filter fun (name, _) => (given.lookup name).isNone
    ev.call s (.cls maker) { byName := given ++ unknown }
  | _, _ => refuse (.other "replace() should be called on dataclass instances")

/-- What is said of a field. -/
def fieldNote (given : Arguments) : Run Object := do
  let names := ["default", "default_factory", "init", "repr", "hash", "compare", "metadata", "kw_only"]
  let args ← taken "field()" ("* " ++ " ".intercalate (names.map (· ++ "?"))) given
  if (argAt args 0).isSome && (argAt args 1).isSome then throw .badValue
  let nothing := DataclassField.nothing
  let usual := [nothing, nothing, truth true, truth true, .none, truth true, .view "mappingproxy" (.table []),
    nothing]
  let parts := (names.zip usual).mapIdx fun i (name, o) => (name, (argAt args i).getD o)
  let members := [("name", Object.none), ("type", .none)] ++ parts
  let m ← get
  let shown := "Field(" ++ String.join ((members.map fun (name, o) => name ++ "=" ++ m.written o ++ ","))
    ++ "_field_type=None)"
  newMade (.library ⟨"dataclasses", "Field"⟩) [] members [(Memory.shownName, .text shown)]

/-! ### Tuples -/

/-- The names of members that are given in a text or one by one. -/
def namesGiven (ev : Evaluator) (o : Object) : Run (List String) := do
  match ← text? o with
  | some s =>
    let words := s.toList.map fun c => if c = ',' || Text.isBlank c then ' ' else c
    return ((String.ofList words).splitOn " ").filter (· ≠ "")
  | none => (← parts ev o).mapM (display ev)

/-- Can a class have a name, or a tuple a member of it? -/
def isUsable (name : String) : Bool :=
  Text.isIdentifier name && name ∉ Token.keywords

/-- Makes a class of tuples with named members. -/
def makeTuple (s : Scope) (module : Option String) (name : String) (fields : List (String × Option Object))
    (usual : List (String × Object)) : Run Object := do
  let names := fields.map (·.1)
  if !isUsable name || !names.all isUsable || !names.Nodup then throw .badValue
  let module := (module.or (← moduleNameIn s)).getD "__main__"
  let index := (← get).classes.length
  let line ← Bases.line index ⟨[], [.library .tuple]⟩
  let shape : TupleShape := ⟨names, usual.map (·.1)⟩
  modify fun m => m.addClass {
    module, path := name, name, bases := [.library .tuple], line
    attributes := setEntry "_field_defaults" (.object (tableOf usual)) (shape.attributes s.moduleIndex)
    annotations := fields.filterMap fun (name, type) => type.map (name, ·)
    places := some []
    tuple := some shape }
  return .cls (.program index)

/-- A class of tuples of a name and the names of its members. -/
def tupleOfNames (ev : Evaluator) (s : Scope) (given : Arguments) : Run Object := do
  let args ← taken "namedtuple()" "typename field_names * rename? defaults? module?" given
  let renames ← match argAt args 2 with
    | some o => isTrue ev o
    | none => pure false
  let name ← display ev (argOr args 0)
  let names ← namesGiven ev (argOr args 1)
  let isBad (names : List String) (i : Nat) (n : String) : Bool :=
    !isUsable n || n.startsWith "_" || (names.take i).contains n
  let names := if renames then
      names.mapIdx fun i n => if isBad names i n then "_" ++ toString i else n
    else names
  if !renames && (names.any (·.startsWith "_")) then throw .badValue
  let usual ← match (argAt args 3).filter (!·.same .none) with
    | some o => parts ev o
    | none => pure []
  if names.length < usual.length then refuse (.other "Got more default values than field names")
  let module ← match (argAt args 4).filter (!·.same .none) with
    | some o => text? o
    | none => pure none
  makeTuple s module name (names.map (·, none)) ((names.drop (names.length - usual.length)).zip usual)

/-- A class of tuples of a name and members with types, whose names do not begin with an underscore. -/
def typedTuple (s : Scope) (name : String) (fields : List (String × Option Object)) : Run Object := do
  if fields.any (·.1.startsWith "_") then throw .badValue
  makeTuple s none name fields []

/-- A class of tuples of a name and members with their types. -/
def tupleOfTypes (ev : Evaluator) (s : Scope) (given : Arguments) : Run Object := do
  match given.inPlace with
  | [] => refuse (.other "NamedTuple() missing 1 required positional argument: 'typename'")
  | [name] =>
    let fields ← given.byName.mapM fun (field, type) => do
      return (field, some (← checked "field annotation must be a type." false (← whole type)))
    typedTuple s (← display ev name) fields
  | [name, fields] =>
    if !given.byName.isEmpty then
      refuse (.other "Either list of fields or keywords can be provided to NamedTuple, not both")
    let fields ← (← parts ev fields).mapM fun o => do
      match ← parts ev o with
      | [field, type] =>
        return (← textual "name" field, some (← checked "field annotation must be a type." false (← whole type)))
      | _ => throw .badValue
    typedTuple s (← display ev name) fields
  | all => refuseMany "NamedTuple()" 1 2 all.length 0

/-! ### All of them -/

/-- Does an enum have a name that is just another one for a value? -/
def hasOtherNames (m : Memory) (o : Object) : Bool :=
  match o with
  | .cls (.program index) => (m.class? index).any fun c => !c.otherNames.isEmpty
  | _ => false

/-- What a function of the library of classes yields that takes one thing under a name. -/
def markFunctions : List (String × String) :=
  [("abc.abstractmethod", "funcobj"), ("abc.update_abstractmethods", "cls"),
    ("enum.global_enum", "cls update_str?"), ("enum.unique", "enumeration")]

/-- What a function of the library yields, by its name with its module. -/
def ofLibrary (ev : Evaluator) (s : Scope) (name : String) (given : Arguments) : Run Object := do
  let what := lastPart name ++ "()"
  match name with
  | "dataclasses.fields" =>
    let o := argOr (← taken what "class_or_instance" given) 0
    let fields ← memberFields "must be called with a dataclass type or instance" o
    let index := match (← get).classOf o, o with
      | _, .cls (.program index) | .program index, _ => index
      | _, _ => 0
    return .row (fields.mapIdx fun i (name, f) => f.toObject (DataclassField.placeOfHeld index (i + 1)) name)
  | "dataclasses.is_dataclass" =>
    let o := argOr (← taken what "obj" given) 0
    return truth (dataclassOf? (← get) o).isSome
  | "dataclasses.asdict" | "dataclasses.astuple" =>
    let isTable := name = "dataclasses.asdict"
    let args ← taken what ("obj * " ++ (if isTable then "dict_factory?" else "tuple_factory?")) given
    let _ ← membersOf what (argOr args 0)
    laidOpen ev s isTable (argAt args 1) 100 (argOr args 0)
  | "dataclasses.replace" =>
    let o := argOr (← taken what "obj /" { given with byName := [] }) 0
    withMembers ev s o given.byName
  | "dataclasses.field" => fieldNote given
  | "collections.namedtuple" => tupleOfNames ev s given
  | "typing.NamedTuple" => tupleOfTypes ev s given
  | "pydantic.Field" => modelFieldNote given
  | "enum.bin" => inBase 2 "0b" (argOr (← taken what "num max_bits?" given) 0)
  | "dataclasses.dataclass" =>
    let args ← taken what ("cls? / * init? repr? eq? order? unsafe_hash? frozen? match_args? kw_only? slots? "
      ++ "weakref_slot?") given
    match argAt args 0 with
    | some o => return o
    | none => return .function "dataclasses.dataclass.<locals>.wrap"
  | "abc.get_cache_token" => return intOf 0
  | _ => match markFunctions.lookup name with
    | some words =>
      let o := argOr (← taken what words given) 0
      if name = "enum.unique" && hasOtherNames (← get) o then throw .badValue
      return o
    | none =>
      if name.startsWith "typing." then ofTypes ev (lastPart name) given
      else if name.startsWith "pydantic." then limitedType (lastPart name) given
      else refuse (.other (what ++ " cannot be called in this way"))

end Run

end Mapsmith.Program
