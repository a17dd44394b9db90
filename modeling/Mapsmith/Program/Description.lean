import Mapsmith.Program.Dataclass
import Mapsmith.Program.Schema
import Mapsmith.Program.Shape
import Mapsmith.TypeGraph

/-!
# Describing classes

The descriptor of a class of a program. Members come from the fields of a dataclass, model or named
tuple, or else from the annotated names and the constructor's parameters; properties follow, as far
as no member has their name. Beside the descriptor stand the classes that the types of members name,
those of hidden properties included, since they are of interest too.
-/

namespace Mapsmith.Program

/-- A member beside the shape of its type. -/
structure DescribedMember where
  /-- The member. -/
  member : Member
  /-- The shape of its type. -/
  shape : Shape
  deriving Inhabited

/-- A descriptor with what it is made of. -/
structure Description where
  /-- The class. -/
  id : ClassId
  /-- The descriptor. -/
  type : TypeDescriptor
  /-- The members by the fields, annotated names and constructor of the class. -/
  data : List DescribedMember := []
  /-- The properties of the class, also those that other members hide. -/
  properties : List DescribedMember := []
  /-- The classes that are passed to its decorators. -/
  passed : List ClassRef := []
  deriving Inhabited

/-- The class as its descriptor tells of it. -/
def Description.ref (d : Description) : ClassRef :=
  ⟨d.id, d.type.module, d.type.name, d.type.kind == .enum⟩

/-- The classes that a described class brings in. -/
def Description.mentions (d : Description) : List ClassRef :=
  (d.data ++ d.properties).flatMap (·.shape.classes) ++ d.passed

namespace Describing

/-! ### Members -/

/-- The class of a lineage that has something under a name, or the class itself. -/
def declaredIn (m : Memory) (c : ClassId) (name : String) : String :=
  let holds (a : ClassId) : Bool := match a with
    | .program index => (m.class? index).any fun o =>
      (o.annotations.lookup name).isSome || ((Run.classEntries m index o).lookup name).isSome
    | .library _ => (m.own? a name).isSome
  m.qualifiedName (((m.line c).find? holds).getD c)

/-- A member of a class: its name and type, with the markers on its type and elsewhere. How it is read
and written is filled in by the kind of class. -/
def member (packages : List String) (c : ClassId) (name : String) (type : Object)
    (elsewhere : List Directive.Marker) (metadata : Value) (access : Member → Member) :
    Run DescribedMember := do
  let m ← get
  if !Directive.isReadable metadata then throw (.noMember "metadata has no entries")
  let markers := type.markers ++ elsewhere
  let shape ← match (Surroundings.mk m packages).shape type with
    | .ok shape => pure shape
    | .error e => throw e
  return {
    shape
    member := access {
      name
      initName := name
      type := shape.ref
      isPrivate := name.startsWith "_"
      renameTo := Directive.renameOf markers metadata
      ignored := Directive.isIgnored markers metadata
      declaredIn := declaredIn m c name } }

/-- The type of a name, or any type. -/
def typeOf (hints : List (String × Object)) (name : String) : Object :=
  (hints.lookup name).getD .anything

/-- The members of a dataclass. -/
def dataclassMembers (packages : List String) (c : ClassId) (hints : List (String × Object))
    (shape : DataclassShape) : Run (List DescribedMember) :=
  (shape.fields.filter fun (_, f) => f.role = .member).mapM fun (name, f) =>
    member packages c name ((hints.lookup name).getD f.type) [] f.metadata fun m =>
      { m with init := f.inConstructor, settable := !shape.frozen
               required := f.inConstructor && !f.hasDefault }

/-- The members of a model. -/
def modelMembers (packages : List String) (c : ClassId) (hints : List (String × Object))
    (shape : ModelShape) : Run (List DescribedMember) :=
  shape.fields.mapM fun (name, f) =>
    member packages c name (typeOf hints name) f.markers (f.metadata.getD .null) fun m =>
      { m with
        initName := (f.aliasName.filter (· ≠ "")).getD name
        settable := !(shape.frozen || f.frozen)
        required := f.isRequired }

/-- What a named tuple lists as its fields. -/
def tupleFields (c : ClassId) : Run (List Object) := do
  let held := ((← get).attribute? c "_fields").map (·.toObject)
  Run.parts .usual (held.getD (.row []))

/-- A field of a named tuple as a member, given what the tuple holds in the place of default values.
-/
def tupleMember (packages : List String) (c : ClassId) (hints : List (String × Object))
    (defaults? : Option Object) (o : Object) : Run DescribedMember := do
  Run.checkHashable [o]
  let isOptional ← match defaults? with
    | some defaults => Run.isAmong .usual o defaults
    | none => pure false
  match o.text? with
  | some name =>
    member packages c name (typeOf hints name) [] .null fun m =>
      { m with settable := false, required := !isOptional }
  | none => Run.noMember o "startswith"

/-- The members of a named tuple, as far as it tells by what it holds. -/
def tupleMembers (packages : List String) (c : ClassId) (hints : List (String × Object)) :
    Run (List DescribedMember) := do
  let defaults? := ((← get).attribute? c "_field_defaults").map (·.toObject)
  (← tupleFields c).mapM (tupleMember packages c hints defaults?)

/-- The constructor of a class without fields of its own making. What cannot be called is none. -/
def constructorOf (m : Memory) (c : ClassId) : Except GraphError (Option Function) :=
  match m.attribute? c "__init__" with
  | none => .ok none
  | some (.function f) => .ok (some f)
  | some a => .error (.undescribable (m.qualifiedName c)
      ("unreadable constructor: " ++ m.literal a.toObject ++ " is not a callable object"))

/-- Is a name of this type one of the class itself? -/
def isOfClass : Object → Bool
  | .special name | .formed (.special name) _ => name = "ClassVar"
  | _ => false

/-- The members of a class without fields of its own making: its annotated names, then what else its
constructor takes. -/
def plainMembers (packages : List String) (c : ClassId) (hints : List (String × Object)) :
    Run (List DescribedMember) := do
  let f ← match constructorOf (← get) c with
    | .ok f => pure f
    | .error e => throw (.graph e)
  let taken := setEntries [] <|
    (((f.map (·.parameters)).getD []).filter (·.passing.byName)).map fun p => (p.name, p)
  let ownHints ← match f with
    | some f => Run.functionHints .usual f
    | none => pure []
  let annotated := (hints.filter fun (_, type) => !isOfClass type).map (·.1)
  let names := annotated ++ (taken.map (·.1)).filter (· ∉ annotated)
  let types := setEntries ownHints hints
  names.mapM fun name =>
    let parameter := taken.lookup name
    member packages c name (typeOf types name) [] .null fun m =>
      { m with init := parameter.isSome, required := parameter.any fun p => !p.hasDefault }

/-- What a model has in the place of its fields, if it does not leave them alone. -/
def heldFields? (m : Memory) (c : ClassId) : Option Object :=
  let ahead := (m.line c).takeWhile (· ≠ .library .model)
  (ahead.findSome? fun a => m.own? a "model_fields").map (·.toObject)

/-- Does a class hold something else in the place of what makes it a dataclass? -/
def hidesShape (m : Memory) (c : ClassId) : Bool :=
  Dataclass.shapeNames.any fun name =>
    (m.nearest? c fun o =>
      (o.dataclass.map fun _ => false).or ((o.attributes.lookup name).map fun _ => true)).getD false

/-- The members that a class has by its fields, annotated names and constructor. -/
def dataMembers (packages : List String) (c : ClassId) (hints : List (String × Object)) :
    Run (List DescribedMember) := do
  let m ← get
  if m.isDataclass c && hidesShape m c then Run.noMember (.cls c) "frozen"
  match m.dataclass? c, m.model? c with
  | some shape, _ => dataclassMembers packages c hints shape
  | none, some shape => match heldFields? m c with
    | some (.constant (.dict [])) => return []
    | some o => Run.noMember o "items"
    | none => modelMembers packages c hints shape
  | none, none =>
    if m.isNamedTuple c then tupleMembers packages c hints else plainMembers packages c hints

/-! ### Properties -/

/-- What a class holds, as attributes. -/
def attributesOf (m : Memory) : ClassId → List (String × Attribute)
  | .program index => ((m.class? index).map (·.attributes)).getD []
  | .library c => c.held.filterMap fun (name, _) => (c.attribute? name).map (name, ·)

/-- A class and all that it inherits from, as far as they have members for mapping. -/
def describedLine (m : Memory) (c : ClassId) : List ClassId :=
  (m.line c).filter fun a => !isFramework (m.moduleOf a)

/-- The properties of a class and of all that it inherits from; a name keeps its first place and is
the nearest property. -/
def propertiesOf (m : Memory) (c : ClassId) : List (String × Option Function × Bool) :=
  setEntries [] <| (describedLine m c).reverse.flatMap fun a =>
    (attributesOf m a).filterMap fun (name, a) => match a with
      | .property getter hasSetter => some (name, getter, hasSetter)
      | _ => none

/-- The type that a property yields. -/
def propertyType : Option Function → Run Object
  | some f => do return typeOf (← Run.functionHints .usual f) Run.resultName
  | none => return .anything

/-- The properties of a class as members. -/
def propertyMembers (packages : List String) (c : ClassId) : Run (List DescribedMember) := do
  (propertiesOf (← get) c).mapM fun (name, getter, hasSetter) => do
    member packages c name (← propertyType getter) [] .null fun m =>
      { m with init := false, settable := hasSetter, readable := getter.isSome }

/-- The members of a class: its data, then the properties that no data hides. -/
def visible (data properties : List DescribedMember) : List Member :=
  let data := data.map (·.member)
  data ++ (properties.map (·.member)).filter fun p => p.name ∉ data.map (·.name)

/-! ### Other parts of a descriptor -/

/-- The shape of a class that is no enum. -/
def kindOf (m : Memory) (c : ClassId) : TypeKind :=
  if m.isDescription c then .interface
  else if m.isNamedTuple c then .struct
  else if (m.dataclass? c).any (·.frozen) || (m.model? c).any (·.frozen) then .record
  else .cls

/-- The shape of a class that is no enum, unless it cannot be told since the class is a dataclass by
its own account only. -/
def toldKind (c : ClassId) : Run TypeKind := do
  let m ← get
  if !m.isDescription c && !m.isNamedTuple c && m.isDataclass c && hidesShape m c then
    Run.noMember (.cls c) "frozen"
  return kindOf m c

/-- Refuses a class that is in no module, or inherits from one that is in none. -/
def checkModules (m : Memory) (c : ClassId) : Run Unit := do
  if (m.line c).any fun a => m.moduleOf a = "" then throw (.noMember "__module__")

/-- The classes that a class inherits from, the nearest first. -/
def ancestorsOf (m : Memory) (c : ClassId) : List String :=
  ((m.line c).tail.filter fun a => !isFramework (m.moduleOf a)).map m.qualifiedName

/-- The methods that a directive may name. -/
def callablesOf (m : Memory) (c : ClassId) : List String :=
  Text.sort <| Text.distinct <| (describedLine m c).flatMap fun a =>
    ((attributesOf m a).filter fun (name, a) => a.isFunction && !name.startsWith "__").map (·.1)

/-- Does the module know the class under its own name? -/
def isExtensible (m : Memory) (c : ClassId) : Bool :=
  '.' ∉ (m.pathOf c).toList && match c with
    | .library _ => true
    | .program _ => ((m.module? (m.moduleOf c)).bind (m.global? · (m.pathOf c))).any
      (Object.same (.cls c))

/-- A type variable as a type parameter. -/
def genericParameter (m : Memory) (index : Nat) : GenericParameter :=
  match m.typeVariables[index]? with
  | some v => {
      name := v.name
      bound := v.bound.map m.label
      constraints := v.constraints.map m.label
      covariant := v.covariant
      contravariant := v.contravariant }
  | none => { name := "" }

/-- What the nearest class on that says something of its type variables holds in their place, if
that is something else. -/
def heldParameters? (m : Memory) (c : ClassId) : Option Object :=
  (m.nearest? c fun o =>
    (o.parameters.map fun _ => none).or
      ((o.attributes.lookup "__parameters__").map fun a => some a.toObject)).join

/-- The open type parameters of a class. -/
def genericParametersOf (m : Memory) (c : ClassId) : Run (List GenericParameter) := do
  match m.model? c, heldParameters? m c with
  | some shape, some o =>
    if o.isTruthy then
      let _ ← Run.parts .usual o
      return []
    return shape.parameters.map (genericParameter m)
  | some shape, none => return shape.parameters.map (genericParameter m)
  | none, some o =>
    let _ ← Run.parts .usual o
    return []
  | none, none => return ((m.parameters? c).getD []).map (genericParameter m)

/-- The class as its program holds it, if it is one of the program. -/
def object? (m : Memory) : ClassId → Option ClassObject
  | .program index => m.class? index
  | .library _ => none

/-- Where a class is declared. -/
def locationOf (m : Memory) (c : ClassId) : Location :=
  match c, object? m c with
  | .program index, some o => m.locationOf index o
  | .library l, _ => match l.record? with
    | some r => ⟨m.pathOf c, r.file, r.line⟩
    | none => .ofSymbol (m.pathOf c)
  | _, _ => .ofSymbol (m.pathOf c)

/-! ### Descriptors -/

/-- What all descriptors say alike: names, ancestors, methods, directives and the place. -/
def outline (m : Memory) (c : ClassId) (kind : TypeKind) : TypeDescriptor :=
  { name := m.pathOf c
    module := m.moduleOf c
    kind
    ancestors := ancestorsOf m c
    isAbstract := (object? m c).any fun o => !o.awaited.isEmpty
    extensible := isExtensible m c
    callables := callablesOf m c
    directives := (m.declared c).directives
    derived := (m.declared c).derived
    location := some (locationOf m c) }

/-- The classes passed to the decorators of a class. -/
def passedTo (m : Memory) (c : ClassId) : List ClassRef :=
  (((object? m c).map (·.references)).getD []).map m.ref

/-- The description of an enum. -/
def describeEnum (c : ClassId) : Run Description := do
  let m ← get
  checkModules m c
  let values := ((object? m c).map (·.values)).getD []
  return {
    id := c
    type := { outline m c .enum with enumValues := values.map (·.1) }
    passed := passedTo m c }

/-- The description of a class of a kind that is no enum, given the types of its annotated names. -/
def describeObject (packages : List String) (c : ClassId) (kind : TypeKind)
    (hints : List (String × Object)) : Run Description := do
  let data ← dataMembers packages c hints
  checkModules (← get) c
  let properties ← propertyMembers packages c
  let m ← get
  let genericParameters ← genericParametersOf m c
  return {
    id := c
    type := { outline m c kind with members := visible data properties, genericParameters }
    data, properties
    passed := passedTo m c }

end Describing

end Mapsmith.Program
