import Mapsmith.Program.Body
import Mapsmith.Program.Dataclass
import Mapsmith.Program.Enum
import Mapsmith.Program.Member
import Mapsmith.Program.Model
import Mapsmith.Program.Particulars
import Mapsmith.Program.Parts

/-!
# Making classes

What happens where a class is declared. Its decorators are looked at first, from the topmost to the lowest,
then its bases, and what makes a class is settled; then its body is run, the classes in it included, and
the class comes into being. The decorators take effect last, the lowest first. Every class in a body comes
into being before the class that the body is of.
-/

namespace Mapsmith.Program

/-! ### Tuples with named members

What makes a class a tuple with named members: its annotated names are the members, in order, and those that
have a value in the body can be left out at the end. Some names of its own a tuple keeps for itself. Each
type has to be one. -/

namespace NamedTuple

/-- The names that a tuple keeps for itself. -/
def keptNames : List String :=
  ["__new__", "__init__", "__slots__", "__getnewargs__", "_fields", "_field_defaults", "_field_types",
    "_make", "_replace", "_asdict", "_source"]

/-- The names under which no class can be given anything. -/
def fixedNames : List String :=
  ["__dict__", "__mro__", "__base__", "__basicsize__", "__itemsize__", "__flags__", "__dictoffset__",
    "__weakrefoffset__", "__text_signature__"]

/-- Checks that a tuple can be given something under a name. -/
def checkGiven (name : String) : Run Unit :=
  if name ∈ keptNames then throw (.noMember ("Cannot overwrite NamedTuple attribute " ++ name))
  else if name ∈ fixedNames then
    throw (.noMember ("attribute " ++ Text.quote name ++ " of 'type' objects is not writable"))
  else if name = "__class__" || name = "__bases__" then
    Run.refuse (.other (name ++ " must be set to a class or to classes"))
  else return

/-- The first member that has to be given, after one that can be left out. -/
def misplaced? (optional : String → Bool) : List String → Option String
  | [] => none
  | name :: names =>
    if optional name then names.find? (!optional ·) else misplaced? optional names

/-- The types of the members. -/
def typesOf (annotations : List (String × Object)) : Run (List (String × Object)) :=
  annotations.mapM fun (name, type) => do
    return (name, ← Run.checked ("field " ++ name ++ " annotation must be a type.") false type)

/-- Makes a body that of a tuple with named members. -/
def make (ev : Evaluator) (module : Nat) (b : Body) : Run (Body × TupleShape) := do
  match b.attributes.lookup typesName with
  | some a =>
    let _ ← Run.parts ev a.toObject
    Run.noMember a.toObject "items"
  | none => pure ()
  let names := b.annotations.map (·.1)
  let isOptional (name : String) : Bool :=
    (b.attributes.lookup name).isSome || name ∈ ["__module__", "__qualname__", typesName]
  match misplaced? isOptional names with
  | some name =>
    Run.refuse (.other ("Non-default namedtuple field " ++ name ++ " cannot follow default fields"))
  | none => pure ()
  let annotations ← typesOf b.annotations
  if names.any (·.startsWith "_") || (b.owner :: names).any (· ∈ Token.keywords) then throw .badValue
  let _ ← Particulars.pathIn b.path b.attributes
  let others := b.attributes.filter fun (name, _) => name ∉ names
  others.forM fun (name, _) => checkGiven name
  let shape : TupleShape := ⟨names, names.filter isOptional⟩
  return ({ b with annotations, attributes := setEntries (shape.attributes module) others }, shape)

end NamedTuple

/-! ### Sites -/

/-- Where classes are declared. -/
structure Site where
  /-- The module, by its place. -/
  index : Nat
  /-- The name of the module. -/
  module : String

namespace Making

/-! ### Bases -/

/-- The bases that things in their places stand for. A tuple with named members can be generic, and
nothing else. -/
def resolvedBases (kind : ClassKind) (given : List Object) : Run Bases := do
  let b ← Bases.ofObjects given
  if kind ≠ .namedTuple then return b
  if b.classes.any (· ≠ .library .generic) then
    Run.refuse (.other "can only inherit from a NamedTuple type and Generic")
  return { given := .function "typing.NamedTuple" :: given, classes := .library .tuple :: b.classes }

/-- What makes a class with these bases. -/
def metaclassOf (b : Bases) : Run Metaclass := do
  match b.metaclass (← get) with
  | some metaclass => return metaclass
  | none => Run.refuse (.other "metaclass conflict")

/-! ### Decorators -/

/-- A decorator with what is passed to it: what it records, and the classes. -/
structure Passed where
  /-- What it records. -/
  decorator : Directive.Decorator
  /-- The classes that are passed. -/
  classes : List ClassId

/-- What a decorator is given where a type is expected, and the class if it is one. -/
def reference (s : Scope) : Target → Run (Directive.Reference × List ClassId)
  | .value v => return (.value v, [])
  | .object e => do
    let o ← Run.whole (← Run.evaluate s e)
    let m ← get
    match o with
    | .cls c => return (.cls (m.qualifiedName c), [c])
    | .constant v => return (.value v, [])
    | o => match m.asText? o with
      | some s => return (.value (.str s), [])
      | none => return (.other (m.literal o), [])

/-- The name under which decorators go in a program. -/
def decoratorName : Decorator → String
  | .mapTo .. => "map_to"
  | .derivedType .. => "map_derived_type"

/-- Checks that a decorator is there, as far as the program has given its module's name another meaning. -/
def checkThere (s : Scope) (d : Decorator) : Run Unit := do
  match ← Run.meaning? s Run.directivesName with
  | some o => let _ ← Run.member o (decoratorName d)
  | none => return

/-- A decorator with what is passed to it. -/
def passed (s : Scope) : Decorator → Run Passed
  | .mapTo target options => do
    let (target, classes) ← reference s target
    return ⟨.mapTo target options, classes⟩
  | .derivedType source target => do
    let (source, first) ← reference s source
    let (target, second) ← reference s target
    return ⟨.derivedType source target, first ++ second⟩

/-- Records a decorator of a class of a name. -/
def record (name : String) (declared : Directive.Declared) (p : Passed) : Run Directive.Declared :=
  match declared.apply name p.decorator with
  | .ok declared => return declared
  | .error e => throw (.directive e)

/-- The decorators of a class of a name, each checked before the next one is looked at. -/
def checkedDecorators (s : Scope) (name : String) (ds : List Decorator) : Run (List Passed) :=
  ds.mapM fun d => do
    checkThere s d
    let p ← passed s d
    let _ ← record name {} p
    return p

/-- What makes a class a dataclass, if it is not what does so in the language. -/
def otherDataclassMaker? (s : Scope) (d : ClassHead) : Run (Option Object) := do
  if d.kind ≠ .dataclass then return none
  let o ← Run.evaluate s (.ofParts ["dataclasses", "dataclass"])
  if o.same (.function "dataclasses.dataclass") then return none
  if !d.frozen then return some o
  return some (← Run.call s o { byName := [("frozen", .constant (.bool true))] })

/-- Lets decorators take effect on a class. -/
def decorate (index : Nat) (name : String) (ps : List Passed) : Run Unit := do
  let ps := ps.reverse
  let declared ← ps.foldlM (record name) {}
  modify fun m => m.changeClass index fun c =>
    { c with declared, references := ps.flatMap (·.classes) }

/-! ### The class -/

/-- The constructor of a description of members, which takes nothing. -/
def emptyConstructor (module : Nat) : String × Attribute :=
  ("__init__", .function { module })

/-- Can a description of members inherit from the class? -/
def isDescribing (m : Memory) : ClassId → Bool
  | .library l => l ∈ [.generic, .protocol] || (l.module = "collections.abc" && l.name ∈
      ["Callable", "Awaitable", "Iterable", "Iterator", "AsyncIterable", "Hashable", "Sized",
        "Container", "Collection", "Reversible"])
  | c => m.isDescription c

/-- Settles whether a class describes members, if this is asked of the classes that it inherits from. A
description inherits from descriptions only. -/
def describeMembers (module index : Nat) (hearers : List ClassId) (b : Bases) : Run Unit := do
  if .library .protocol ∉ hearers then return
  modify fun m => m.changeClass index fun c =>
    { c with isProtocol := some (.library .protocol ∈ b.classes) }
  let m ← get
  if !m.isDescription (.program index) then return
  if !b.classes.all (isDescribing m) then
    Run.refuse (.other "Protocols can only inherit from other protocols")
  let hasConstructor := (m.attribute? (.program index) "__init__").isSome
  modify fun m => m.changeClass index fun c => { c with
    attributes := if hasConstructor then c.attributes
      else setEntries c.attributes [emptyConstructor module] }

/-- Settles the type variables that a class leaves open, if this is asked of the classes that it inherits
from. -/
def openParameters (index : Nat) (hearers : List ClassId) (b : Bases) : Run Unit := do
  if .library .generic ∉ hearers then return
  let parameters ← b.parameters
  modify fun m => m.changeClass index fun c => { c with parameters := some parameters }

/-- The names that the body of a class gives a meaning. -/
def namesBound (d : ClassHead) (nested : List ClassDeclaration) : List String :=
  (d.values.map (·.1) ++ d.fields.map (·.name) ++ d.properties.map (·.name)
    ++ d.methods.map (·.name) ++ nested.map (·.head.name)).map (keptName d.name)

/-- What a body begins with. -/
def start (site : Site) (name : String) (d : ClassHead) (nested : List ClassDeclaration)
    (metaclass : Metaclass) (bases : Bases) : Run Body := do
  let b : Body := { owner := d.name, path := name, bound := namesBound d nested }
  let b ← if metaclass = .enum then do
      let attributes ← Enum.start site.index bases
      pure { b with attributes, entryNames := some {} }
    else pure b
  if d.kind = .model then b.assign Settings.name (.object (.table (Settings.declared d.frozen)))
  else return b

/-- The body of a class as its kind and what makes the class leave it. -/
structure Prepared where
  /-- The body. -/
  body : Body
  /-- The tuple that the class is. -/
  tuple : Option TupleShape := none
  /-- Are there attributes that are no fields? -/
  hasPrivate : Bool := false
  /-- Are the members of the model that it is fixed at construction? -/
  frozen : Bool := false

/-- Prepares the body of a class that stands at a path. -/
def prepared (site : Site) (path : String) (d : ClassHead) (metaclass : Metaclass) (bases : Bases)
    (b : Body) : Run Prepared := do
  if d.kind = .namedTuple then
    let (body, shape) ← NamedTuple.make .usual site.index b
    return { body, tuple := some shape }
  if metaclass = .model then
    let inspected ← Model.inspected (← get) site.index site.module path bases.classes b
    return { body := inspected.body, hasPrivate := inspected.hasPrivate, frozen := inspected.frozen }
  return { body := b }

/-- What warnings of the next class of a path are about. -/
def warningPlace (m : Memory) (site : Site) (path : String) : WarningPlace :=
  let o := (m.modules[site.index]?).getD { name := site.module }
  let earlier := m.classes.countP fun c => c.module = o.name && c.path = path
  let places := (o.places.filter (·.1 = path)).drop earlier
  let (line, text) := ((places.head?).map fun (_, place) => (place.line, place.title)).getD (1, "")
  ⟨o.file.getD "", line, text⟩

/-- Makes a class of a body that has been run: its place. -/
def make (site : Site) (s : Scope) (path : String) (d : ClassHead) (metaclass : Metaclass)
    (bases : Bases) (b : Body) : Run Nat := do
  let ⟨b, tuple, hasPrivate, frozen⟩ ← prepared site path d metaclass bases b
  let m ← get
  let index := m.classes.length
  let line ← bases.line index
  let told ← Particulars.told .usual site.module path d.name bases b.attributes (!b.annotations.isEmpty)
  modify fun m => m.addClass {
    module := told.module
    path := told.path
    name := d.name
    metaclass
    bases := bases.classes
    given := if bases.isIndirect then bases.given else []
    line
    attributes := told.attributes
    annotations := b.annotations
    places := if tuple.isSome then some [] else told.places
    tuple }
  if metaclass = .enum then Enum.make .usual s index bases { b with attributes := told.attributes }
  let hearers ← Particulars.hearers line
  openParameters index hearers bases
  describeMembers site.index index hearers bases
  modify fun m => m.changeClass index fun c => { c with awaited := m.awaitedIn index c }
  if metaclass = .model then Model.make (warningPlace m site path) index frozen hasPrivate
  return index

/-- The scope around a class. One that is declared in a function does not know itself. -/
def scopeAround (s : Scope) (outer : Option String) (d : ClassHead) : Scope :=
  if d.isLocal && outer.isNone then { s with pending := some d.name, near := .names [] } else s

mutual

/-- Runs the declaration of a class. -/
def run (site : Site) (s : Scope) (outer : Option String) : ClassDeclaration → Run Object
  | ⟨d, nested⟩ => do
    let path := d.path outer
    let name := site.module ++ "." ++ path
    let s := scopeAround s outer d
    let decorators ← checkedDecorators s name d.decorators
    let maker ← otherDataclassMaker? s d
    if d.kind = .namedTuple then let _ ← Run.evaluate s (.ofParts ["typing", "NamedTuple"])
    let given ← (← Run.evaluateAll s d.allBases).mapM Run.whole
    let bases ← resolvedBases d.kind given
    let metaclass ← metaclassOf bases
    let b ← start site name d nested metaclass bases
    let b ← b.run s d
    let b ← runNested site s path nested b
    let index ← make site s path d metaclass bases b
    match maker with
    | some maker => Run.call s maker (.ofItems [.cls (.program index)])
    | none =>
      if d.kind = .dataclass then Dataclass.make index d.frozen
      decorate index name decorators
      return .cls (.program index)

/-- Runs the declarations of the classes in a body. -/
def runNested (site : Site) (s : Scope) (path : String) : List ClassDeclaration → Body → Run Body
  | [], b => return b
  | d :: ds, b => do
    let o ← run site (b.scope s) (some path) d
    let b ← b.assign d.head.name (.object o)
    runNested site s path ds b

end

end Making

end Mapsmith.Program
