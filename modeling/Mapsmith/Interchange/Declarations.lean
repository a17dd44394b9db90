import Mapsmith.Interchange.Decode
import Mapsmith.Program.Reading

/-!
# Reading declared programs

Modules, classes and type expressions from tables. A class is named in full there; in the expressions of
the module that declares it, it goes by its path alone.
-/

namespace Mapsmith.Interchange

open Program

/-! ### Type expressions -/

/-- An expression that is written as a text. -/
def written (s : String) : Expr :=
  (Expr.ofText? s).getD (.invalid s)

/-- The name under which a class is known, given its path: one that is declared in a function has a name of
its own in its module. -/
def knownAs (path : String) : String :=
  match path.splitOn ".<locals>." with
  | [maker, inner] =>
    let module := if maker.contains '.' then allButLastPart maker ++ "." else ""
    if (lastPart maker).startsWith "make_" then module ++ "_local_" ++ inner else path
  | _ => path

/-- The expression for a class in a module. -/
def classNamed (module name : String) : Expr :=
  let own := module ++ "."
  written (knownAs (if name.startsWith own then String.ofList (name.toList.drop own.length) else name))

/-- A type of the library of types. -/
def typing (name : String) : Expr :=
  .ofParts ["typing", name]

/-- A class of abstract collections. -/
def collection (name : String) : Expr :=
  .ofParts ["collections", "abc", name]

/-- The words for formers on one type. -/
def formers : List (String × Expr) :=
  [("list", .name "list"), ("set", .name "set"), ("frozenset", .name "frozenset"),
    ("type", .name "type"), ("opt", typing "Optional"), ("classvar", typing "ClassVar"),
    ("seq", collection "Sequence"), ("mutseq", collection "MutableSequence"),
    ("collection", collection "Collection"), ("iterable", collection "Iterable"),
    ("absset", collection "Set"), ("mutset", collection "MutableSet"),
    ("iterator", collection "Iterator")]

/-- The words for formers on several types. -/
def rowFormers : List (String × Expr) :=
  [("union", typing "Union"), ("tuple", .name "tuple"), ("dict", .name "dict")]

/-- A note on a type. -/
def note : Decoder Expr
  | .str "ignore" => some (.note .ignore)
  | .dict [("prop", .str target)] => some (.note (.property target))
  | .dict [("other", v)] => some (.ofValue v)
  | _ => none

/-- A type expression of a bounded depth in a module. -/
def typeExprWithin (module : String) : Nat → Decoder Expr
  | 0, _ => none
  | levels + 1, v =>
    let inner := typeExprWithin module levels
    match v with
    | .str "None" => some (.constant .null)
    | .str word => some (written word)
    | .dict [("ref", .str name)] => some (classNamed module name)
    | .dict [("fwd", .str text)] => some (.constant (.str text))
    | .dict [("tv", .str name)] => some (written name)
    | .dict [("or", xs)] => (listOf inner xs).map .barred
    | .dict [("tuple_of", x)] => do return .applied (.name "tuple") [← inner x, .ellipsis]
    | .dict [("callable", .list [args, result])] => do
      return .applied (typing "Callable") [.list (← listOf inner args), ← inner result]
    | .dict [("literal", .list values)] =>
      some (.applied (typing "Literal") (values.map Expr.ofValue))
    | .dict [("generic", .list (.str name :: args))] => do
      return .applied (classNamed module name) (← args.mapM inner)
    | .dict [("ann", .list (x :: notes))] => do
      return .applied (typing "Annotated") ((← inner x) :: (← notes.mapM note))
    | .dict [(word, x)] => match formers.lookup word with
      | some former => do return .applied former [← inner x]
      | none => do return .applied (← rowFormers.lookup word) (← listOf inner x)
    | _ => none

/-- A type expression in a module. -/
def typeExpr (module : String) : Decoder Expr :=
  fun v => typeExprWithin module (depth v + 1) v

/-! ### Classes -/

/-- The words for kinds of classes. -/
def classKinds : List (String × ClassKind) :=
  [("dataclass", .dataclass), ("pydantic", .model), ("namedtuple", .namedTuple),
    ("protocol", .protocol), ("enum", .enum), ("plain", .plain)]

/-- The words for ways of passing an argument. -/
def passings : List (String × Passing) :=
  [("posonly", .positional), ("args", .rest), ("kwonly", .keyword), ("kwargs", .keywords)]

/-- What stands for a type in a decorator. -/
def reference (module : String) : Decoder Target
  | .dict [("class", .str name)] => some (.object (classNamed module name))
  | v => some (.value v)

/-- A field of a class. -/
def classField (module : String) : Decoder Field := fun v => do
  return {
    name := ← field "name" text v
    type := ← field "type" (typeExpr module) v
    details := {
      hasDefault := ← fieldOr "default" flag false v
      hasFactory := ← fieldOr "factory" flag false v
      inConstructor := ← fieldOr "init" flag true v
      aliasName := ← fieldOr "alias" (optional text) none v
      frozen := ← fieldOr "frozen" flag false v
      metadata := v.get? "metadata" } }

/-- A parameter of a constructor. -/
def parameter (module : String) : Decoder (Parameter Expr) := fun v => do
  return {
    name := ← field "name" text v
    type := ← fieldOr "type" (optional (typeExpr module)) none v
    hasDefault := ← fieldOr "default" flag false v
    passing := ← fieldOr "kind" (oneOf passings) .either v }

/-- A property. One that cannot be read can be assigned. -/
def property (module : String) : Decoder Property := fun v => do
  let hasGetter ← fieldOr "getter" flag true v
  return {
    hasGetter
    name := ← field "name" text v
    type := ← fieldOr "type" (optional (typeExpr module)) none v
    hasSetter := (← fieldOr "setter" flag false v) || !hasGetter }

/-- The words for what methods are called on. -/
def methodKinds : List (String × MethodKind) :=
  [("instance", .ofValue), ("class", .ofClass), ("static", .free), ("abstract", .awaited)]

/-- A method. -/
def method : Decoder Method := fun v => do
  return ⟨← field "name" text v, ((v.get? "kind").bind (oneOf methodKinds)).getD .ofValue⟩

/-- A name with a value. -/
def namedValue : Decoder (String × Value)
  | .list [.str name, v] => some (name, v)
  | _ => none

/-- The options beside the target of a decorator. -/
def decoratorOptions : Value → Value
  | .dict entries => .dict (entries.filter (·.1 ≠ "target"))
  | v => v

/-- A decorator that asks for a mapping. -/
def mapTo (module : String) : Decoder Decorator := fun v => do
  return .mapTo (← field "target" (reference module) v) (decoratorOptions v)

/-- A decorator that pairs derived types. -/
def derivedType (module : String) : Decoder Decorator := fun v => do
  return .derivedType (← field "source" (reference module) v) (← field "target" (reference module) v)

/-- The constructor of a class. -/
def constructor (module : String) (v : Value) : Option Constructor := do
  if ← fieldOr "bad_init" flag false v then return .unreadable
  match v.get? "init" with
  | none | some .null => return .inherited
  | some parameters => return .taking (← listOf (parameter module) parameters)

/-- Does a class of a kind inherit from what makes its kind beside its bases? A model does if it has no bases,
an enum if its bases are classes that go by a word. -/
def joins (kind : ClassKind) (bases : List Value) : Bool :=
  match kind with
  | .model => bases.isEmpty
  | .enum => bases.all fun v => (v matches .str _)
  | .dataclass | .namedTuple | .protocol | .plain => true

/-- A class but for the classes in its body. -/
def classHead (module : String) : Decoder ClassHead := fun v => do
  let kind ← field "kind" (oneOf classKinds) v
  return {
    name := ← field "name" text v
    kind
    joinsKind := joins kind (← fieldOr "bases" (listOf some) [] v)
    isLocal := ← fieldOr "local" flag false v
    frozen := ← fieldOr "frozen" flag false v
    isAbstractBase := ← fieldOr "abc" flag false v
    bases := ← fieldOr "bases" (listOf (typeExpr module)) [] v
    typeParameters := (← fieldOr "type_params" (listOf text) [] v).map written
    fields := ← fieldOr "fields" (listOf (classField module)) [] v
    values := ← fieldOr "values" (listOf namedValue) [] v
    constructor := ← constructor module v
    properties := ← fieldOr "properties" (listOf (property module)) [] v
    methods := ← fieldOr "methods" (listOf method) [] v
    decorators := (← fieldOr "directives" (listOf (mapTo module)) [] v)
      ++ (← fieldOr "derived" (listOf (derivedType module)) [] v)
    line := ← fieldOr "line" (optional integer) none v }

/-- A class of a bounded depth. -/
def classWithin (module : String) : Nat → Decoder ClassDeclaration
  | 0, _ => none
  | levels + 1, v => do
    return ⟨← classHead module v,
      ← fieldOr "nested" (listOf (classWithin module levels)) [] v⟩

/-- A class. -/
def classDeclaration (module : String) : Decoder ClassDeclaration :=
  fun v => classWithin module (depth v + 1) v

/-! ### Modules -/

/-- A type variable. -/
def variableDeclaration (module : String) : Decoder TypeVariable := fun v => do
  return {
    name := ← field "name" text v
    bound := ← fieldOr "bound" (optional (typeExpr module)) none v
    constraints := ← fieldOr "constraints" (listOf (typeExpr module)) [] v
    covariant := ← fieldOr "covariant" flag false v
    contravariant := ← fieldOr "contravariant" flag false v }

/-- A module. -/
def moduleDeclaration : Decoder ModuleDeclaration := fun v => do
  let name ← field "name" text v
  return {
    name
    file := ← fieldOr "path" (optional text) none v
    imports := ← fieldOr "imports" (listOf text) [] v
    fromImports := ← fieldOr "from_imports" (listOf text) [] v
    typeVariables := ← fieldOr "typevars" (listOf (variableDeclaration name)) [] v
    classes := ← fieldOr "classes" (listOf (classDeclaration name)) [] v }

/-- A program. -/
def program : Decoder Program := fun v => do
  return ⟨← field "modules" (listOf moduleDeclaration) v⟩

end Mapsmith.Interchange
