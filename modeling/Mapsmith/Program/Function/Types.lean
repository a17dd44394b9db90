import Mapsmith.Program.Construction.Model
import Mapsmith.Program.Function.Language
import Mapsmith.Program.Method.Text

/-!
# Functions on types

What the functions of the library of types yield: what a type is made of, the types of the annotated names of
a class, and the thing itself from those that only mark one for a checker. Other functions of the library make
types with notes that limit their values.

Such notes are also made of what is said of a field of a model: the value that stands for it if it is left out,
its other names, and what its values are limited to. The limits are kept in an order of their own.
-/

namespace Mapsmith.Program

namespace Run

/-! ### Fields of models -/

/-- The names under which something is said of a field, in the order in which it is written. -/
def fieldNames : List String :=
  ["annotation", "default", "default_factory", "alias", "alias_priority", "validation_alias",
    "serialization_alias", "title", "field_title_generator", "description", "examples", "exclude",
    "discriminator", "deprecated", "json_schema_extra", "frozen", "validate_default", "repr", "init",
    "init_var", "kw_only", "metadata"]

/-- The notes that limit the values of a field, by the names under which these are given. -/
def limitNames : List (String × String) :=
  [("strict", "Strict"), ("gt", "Gt"), ("ge", "Ge"), ("lt", "Lt"), ("le", "Le"),
    ("multiple_of", "MultipleOf"), ("min_length", "MinLen"), ("max_length", "MaxLen"),
    ("fail_fast", "FailFast")]

/-- The limits that are kept in one note together. -/
def generalLimits : List String :=
  ["pattern", "coerce_numbers_to_str", "allow_inf_nan", "max_digits", "decimal_places", "union_mode"]

/-- A note of a kind with its parts under names. -/
def noteOf (kind : String) (parts : List (String × Object)) : Run Object := do
  let m ← get
  let shown := kind ++ "(" ++ ", ".intercalate (parts.map fun (name, o) => name ++ "=" ++ m.written o) ++ ")"
  return .other kind shown

/-- The notes that limit the values of a field. -/
def limitsOf (names : List (String × Object)) : Run (List Object) := do
  let single ← limitNames.filterMapM fun (name, kind) => do
    match (names.lookup name).filter (!·.same .none) with
    | some o => return some (← noteOf kind [(name, o)])
    | none => return none
  let general := generalLimits.filterMap fun name =>
    ((names.lookup name).filter (!·.same .none)).map (name, ·)
  if general.isEmpty then return single
  return single ++ [← noteOf "_PydanticGeneralMetadata" general]

/-- The part of what is said of a field that is written, if it is. -/
def writtenPart? (m : Memory) (members : List (String × Object)) (name : String) : Option String :=
  let o := (members.lookup name).getD .none
  let isLikeAlias := name ∈ ["validation_alias", "serialization_alias"]
    && ((members.lookup "alias").any o.same)
  let isEmpty : Bool := match o with
    | .list [] => true
    | o => o.same .none || o.same notGiven
  if name = "annotation" || isEmpty || isLikeAlias then none
  else if name = "repr" && o.same (truth true) then none
  else if name = "frozen" && o.same (truth false) then none
  else some (name ++ "=" ++ if name = "default_factory" then m.display o else m.written o)

/-- What is said of a field, under its names, as an object. -/
def newFieldNote (members : List (String × Object)) : Run Object := do
  let m ← get
  let given (name : String) : Object := (members.lookup name).getD .none
  let isRequired := (given "default").same notGiven && (given "default_factory").same .none
  let annotation := given "annotation"
  let type := if annotation.same .none then "NoneType" else m.display annotation
  let shown := "FieldInfo(" ++ ", ".intercalate (["annotation=" ++ type,
    "required=" ++ (if isRequired then "True" else "False")] ++ fieldNames.filterMap (writtenPart? m members))
    ++ ")"
  newMade (.library ⟨"pydantic.fields", "FieldInfo"⟩) [] members
    [(Memory.shownName, .text shown)]

/-- What is said of a field of a model. -/
def modelFieldNote (given : Arguments) : Run Object := do
  let own := fieldNames.filter fun name => name ∉ ["annotation", "default", "metadata"]
  let words := "default? * " ++ " ".intercalate ((own ++ limitNames.map (·.1) ++ generalLimits).map (· ++ "?"))
  let extra := given.byName.filter fun (name, _) => name ∉ (words.splitOn "? ").map fun w =>
    (w.replace "* " "").replace "?" ""
  let isKnown (name : String) : Bool := extra.all (·.1 ≠ name)
  let args ← taken "Field()" words { given with byName := given.byName.filter fun (name, _) => isKnown name }
  let usual := ((argAt args 0).filter fun o => !(o matches .ellipsis)).getD notGiven
  let names := given.byName.filter fun (name, _) => isKnown name
  let isGiven (name : String) : Bool := ((names.lookup name).filter (!·.same .none)).isSome
  if !usual.same notGiven && isGiven "default_factory" then
    refuse (.other "cannot specify both default and default_factory")
  let aliasName := (names.lookup "alias").getD .none
  let hasAlias := ["alias", "validation_alias", "serialization_alias"].any isGiven
  let members ← fieldNames.mapM fun name => do
    let o := (names.lookup name).getD .none
    let held ← match name with
      | "default" => pure usual
      | "validation_alias" | "serialization_alias" => pure (if o.same .none then aliasName else o)
      | "alias_priority" => pure (if !o.same .none then o else if hasAlias then intOf 2 else .none)
      | "repr" => pure ((names.lookup "repr").getD (truth true))
      | "metadata" => newList (← limitsOf names)
      | "json_schema_extra" => if extra.isEmpty then pure o else newTableOf extra
      | _ => pure o
    return (name, held)
  let m ← get
  newFieldNote (members.map fun (name, o) => (name, if name = "metadata" then m.seen o else o))

/-! ### What types are made of -/

/-- A callable type's arguments as one list, and its result. -/
def calledParts (m : Memory) (args : List Object) : List Object :=
  if m.isOpenCallable args then args else [.list args.dropLast, args.getLast?.getD .none]

/-- What a type is made of. -/
def typeParts (m : Memory) (o : Object) : List Object :=
  match o with
  | .formed .callable args => calledParts m args
  | .formed (.subscripted c) args =>
    if c = .library (.abstractCollection "Callable") then calledParts m args else args
  | .formed _ args => args
  | .annotated inner notes => inner :: notes
  | _ => []

/-- What a type is of in the first place. -/
def typeOrigin (o : Object) : Object :=
  match o with
  | .annotated .. => .cls (.library .annotated)
  | .formed .bars _ => .cls (.library ⟨"types", "UnionType"⟩)
  | .formed former _ => (originOf former).getD .none
  | .named name => (originOf (.named name)).getD .none
  | .cls c => if c = .library .generic then o else .none
  | _ => .none

mutual

/-- A type without notes on it or on what it is made of. -/
def unannotated : Object → Run Object
  | .annotated inner _ => unannotated inner
  | .formed (.special name) args => do
    let args ← unannotatedAll args
    if name ∈ ["Required", "NotRequired"] then return args.headD .none
    return .formed (.special name) args
  | .formed .literal values => return .formed .literal values
  | .formed .union args => do union (.row (← unannotatedAll args))
  | .formed .bars args => do barredAll (← unannotatedAll args)
  | .formed former args => return .formed former (← unannotatedAll args)
  | o => return o

/-- Types in a row without notes. -/
def unannotatedAll : List Object → Run (List Object)
  | [] => return []
  | o :: os => return (← unannotated o) :: (← unannotatedAll os)

end

/-- The types of the annotated names of an object, as a table. -/
def hintTable (ev : Evaluator) (given : Arguments) : Run Object := do
  let args ← taken "get_type_hints()" "obj globalns? localns? include_extras?" given
  let keepsNotes ← match argAt args 3 with
    | some o => isTrue ev o
    | none => pure false
  let hints ← ev.hints (argOr args 0)
  let hints ← if keepsNotes then pure hints
    else hints.mapM fun (name, o) => do return (name, ← unannotated o)
  newTableOf hints

/-- Marks a description of members as one that values can be told to be of. -/
def checkable (o : Object) : Run Object := do
  let m ← get
  match o with
  | .cls (.library l) =>
    if l.name.startsWith "Supports" || l.module = "collections.abc" then return o
  | .cls c@(.program index) =>
    if m.isDescription c then
      modify (·.changeClass index fun x => { x with
        attributes := setEntry checkableName (.object (truth true)) x.attributes })
      return o
  | _ => pure ()
  refuse (.other ("@runtime_checkable can be only applied to protocol classes, got " ++ m.written o))

/-- The parameters of the functions of the library of types, by their names. -/
def typeFunctions : List (String × String) :=
  [("get_args", "tp"), ("get_origin", "tp"), ("cast", "typ val"), ("assert_type", "val typ /"),
    ("final", "f"), ("overload", "func"), ("no_type_check", "arg"), ("reveal_type", "obj /"),
    ("no_type_check_decorator", "decorator"), ("runtime_checkable", "cls"), ("is_typeddict", "tp"),
    ("get_overloads", "func"), ("clear_overloads", ""), ("assert_never", "arg /"),
    ("dataclass_transform", "* eq_default? order_default? kw_only_default? field_specifiers?")]

/-- What a function of the library of types yields. -/
def ofTypes (ev : Evaluator) (name : String) (given : Arguments) : Run Object := do
  if name = "get_type_hints" then return ← hintTable ev given
  if name = "_overload_dummy" then fail "NotImplementedError"
  let some words := typeFunctions.lookup name
    | refuse (.other (name ++ "() cannot be called in this way"))
  let args ← taken (name ++ "()") words (if name = "dataclass_transform" then
    { given with byName := given.byName.filter fun (key, _) => key ∈ words.splitOn "? " } else given)
  let first := argOr args 0
  match name with
  | "get_args" => return .row (typeParts (← get) first)
  | "get_origin" => match (← get).seen first with
    | .made _ (.library c) _ members _ =>
      return if c.name ∈ ["ParamSpecArgs", "ParamSpecKwargs"] then (members.lookup "__origin__").getD .none else .none
    | o => return typeOrigin o
  | "cast" => return argOr args 1
  | "runtime_checkable" => checkable first
  | "overload" => return .function "typing._overload_dummy"
  | "is_typeddict" => return truth false
  | "get_overloads" => newList []
  | "clear_overloads" => return .none
  | "dataclass_transform" => return .function "typing.dataclass_transform.<locals>.decorator"
  | "assert_never" => fail "AssertionError"
  | _ => return first

/-! ### Types with limits -/

/-- Something that is given under a name. -/
def under (given : Arguments) (name : String) : Object :=
  (given.byName.lookup name).getD .none

/-- A note unless the missing value is given for it. -/
def noteUnless (kind name : String) (o : Object) : Run Object := do
  if o.same .none then return .none else noteOf kind [(name, o)]

/-- The note on the bounds of a number. -/
def boundsNote (given : Arguments) : Run Object :=
  noteOf "Interval" (["gt", "ge", "lt", "le"].map fun name => (name, under given name))

/-- The note on the bounds of a length. -/
def lengthNote (given : Arguments) : Run Object := do
  let least := under given "min_length"
  noteOf "Len" [("min_length", if least.isTruthy then least else intOf 0),
    ("max_length", under given "max_length")]

/-- The names of what a text is checked for. -/
def textChecks : List String :=
  ["strip_whitespace", "to_upper", "to_lower", "strict", "min_length", "max_length", "pattern"]

/-- A type whose values are limited in a way that the name of a function tells. -/
def limitedType (name : String) (given : Arguments) : Run Object := do
  let strict ← noteUnless "Strict" "strict" (under given "strict")
  let number (c : LibraryClass) (more : List Object) : Run Object := do
    if !given.inPlace.isEmpty then
      refuse (.other (name ++ "() takes 0 positional arguments but "
        ++ toString given.inPlace.length ++ " was given"))
    return .annotated (.cls (.library c)) ([strict, ← boundsNote given,
      ← noteUnless "MultipleOf" "multiple_of" (under given "multiple_of")] ++ more)
  let holding (form : String) (more : List Object) : Run Object := do
    match given.inPlace.head?.or (given.byName.lookup "item_type") with
    | some o =>
      return .annotated (.formed (.subscripted (.library (.builtin form))) [o])
        ((← lengthNote given) :: more)
    | none => refuse (.other (name ++ "() missing 1 required positional argument: 'item_type'"))
  match name with
  | "conint" => number .integer []
  | "confloat" =>
    number (.builtin "float") [← noteUnless "AllowInfNan" "allow_inf_nan" (under given "allow_inf_nan")]
  | "condecimal" => number ⟨"decimal", "Decimal"⟩ [
      ← noteOf "PydanticGeneralMetadata" [("max_digits", under given "max_digits"),
        ("decimal_places", under given "decimal_places")],
      ← noteUnless "AllowInfNan" "allow_inf_nan" (under given "allow_inf_nan")]
  | "constr" => return .annotated (.cls (.library .text)) [
      ← noteOf "StringConstraints" (textChecks.map fun name => (name, under given name))]
  | "conbytes" => return .annotated (.cls (.library (.builtin "bytes"))) [strict, ← lengthNote given]
  | "condate" =>
    return .annotated (.cls (.library ⟨"datetime", "date"⟩)) [strict, ← boundsNote given]
  | "conlist" => holding "list" []
  | "conset" => holding "set" []
  | "confrozenset" => holding "frozenset" []
  | _ => refuse (.other (name ++ "() cannot be called in this way"))

end Run

end Mapsmith.Program
