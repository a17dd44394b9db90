import Mapsmith.Program.Spelling

/-!
# Shapes

What mapping makes of a type: a scalar, an enum or object of the program, a collection of one
element type, a type parameter, or a type known by its spelling only; each may be one whose value
can be missing. A shape is a type reference that still knows the classes it names: the reference of
a shape names an object or an enum exactly where the shape has a class. Which classes are objects
depends on the packages of interest: any class of these is, and of other packages only those made
for data.
-/

namespace Mapsmith.Program

/-! ### Classes by their names -/

/-- A class with what is known of it wherever it is named. -/
structure ClassRef where
  /-- The class. -/
  id : ClassId
  /-- The module that declares it. -/
  module : String
  /-- Its path within the module. -/
  path : String
  /-- Is it an enum? -/
  isEnum : Bool
  deriving DecidableEq, Repr, Inhabited

/-- The name of a class with its module. -/
def ClassRef.name (c : ClassRef) : String :=
  c.module ++ "." ++ c.path

/-- A class with what is known of it wherever it is named. -/
def Memory.ref (m : Memory) (c : ClassId) : ClassRef :=
  ⟨c, m.moduleOf c, m.pathOf c, m.metaclassOf c == .enum⟩

/-! ### Shapes -/

/-- What mapping makes of a type. -/
inductive Shape
  /-- A scalar. -/
  | scalar (name : String)
  /-- A type parameter. -/
  | parameter (name : String)
  /-- A type known by its spelling. -/
  | verbatim (spelling : String)
  /-- An enum of the program. -/
  | enum (c : ClassRef)
  /-- A class of the program with type arguments. -/
  | object (c : ClassRef) (args : List Shape)
  /-- A collection. -/
  | collection (container : Container) (element : Shape)
  /-- A type whose value may be missing. -/
  | nullable (inner : Shape)
  deriving Inhabited

namespace Shape

mutual

/-- The type reference of a shape. -/
def ref : Shape → TypeRef
  | scalar name => .plain name .scalar
  | parameter name => .plain name .typeParameter
  | verbatim spelling => .plain spelling .verbatim
  | enum c => .plain c.name .enum
  | object c args => .mk c.name .object (refs args) none false
  | collection container element => .collectionOf container (ref element)
  | nullable inner => (ref inner).orMissing

/-- The type references of shapes in a row. -/
def refs : List Shape → List TypeRef
  | [] => []
  | s :: ss => ref s :: refs ss

end

mutual

/-- The classes that a shape names, in the order in which it names them. -/
def classes : Shape → List ClassRef
  | scalar _ | parameter _ | verbatim _ => []
  | enum c => [c]
  | object c args => c :: classesAll args
  | collection _ element => classes element
  | nullable inner => classes inner

/-- The classes that shapes in a row name. -/
def classesAll : List Shape → List ClassRef
  | [] => []
  | s :: ss => classes s ++ classesAll ss

end

/-- The type that anything has. -/
def anything : Shape :=
  verbatim LibraryClass.anything.qualifiedName

/-- The shape of a union: that of its only option beside the missing value, or a type known by the
labels of the options. -/
def ofUnion (labels : List String) (shapes : List Shape) (canBeMissing : Bool) : Shape :=
  let inner := match shapes with
    | [s] => s
    | _ => verbatim (" | ".intercalate labels)
  if canBeMissing then nullable inner else inner

end Shape

/-! ### Which classes belong into the graph -/

namespace Memory

variable (m : Memory)

/-- Is the class a model that the program declares? -/
def isModel (c : ClassId) : Bool :=
  (m.model? c).isSome

/-- Does the class say of itself that it is a dataclass? -/
def isDataclass (c : ClassId) : Bool :=
  (m.dataclass? c).isSome || (m.nearest? c (·.attributes.lookup "__dataclass_fields__")).isSome

/-- Is the class a tuple with named members? -/
def isNamedTuple (c : ClassId) : Bool :=
  m.inherits c (.library .tuple) && (m.attribute? c "_fields").isSome

/-- What the decorators of a class have recorded. -/
def declared (c : ClassId) : Directive.Declared :=
  match c with
  | .program index => ((m.class? index).map (·.declared)).getD {}
  | .library _ => {}

/-- Does a class belong into the graph when a member's type names it? -/
def isWanted (packages : List String) (c : ClassId) : Bool :=
  m.moduleOf c ∉ languageModules
    && (m.isDataclass c || m.isModel c || m.isNamedTuple c
      || !(m.declared c).directives.isEmpty || firstPart (m.moduleOf c) ∈ packages)

end Memory

/-! ### Shapes of types -/

/-- What shapes of types depend on. -/
structure Surroundings where
  /-- What the program holds. -/
  memory : Memory
  /-- The packages whose classes are of interest in any case. -/
  packages : List String

namespace Surroundings

variable (s : Surroundings)

/-- How deep types may be nested. -/
def maxDepth : Nat := 400

/-- The shape of a class with type arguments. -/
def classShape (c : ClassId) (args : Except Fault (List Shape)) : Except Fault Shape :=
  let ref := s.memory.ref c
  if ref.isEnum then .ok (.enum ref)
  else if s.memory.isWanted s.packages c then args.map (.object ref)
  else .ok (.verbatim ref.name)

/-- The class that a former with arguments stands for. -/
def originOf : Former → Option ClassId
  | .subscripted c | .generic c => some c
  | .named name => (namedForms.lookup name).map fun form => .library form.origin
  | .callable => some (.library (.abstractCollection "Callable"))
  | .union | .bars | .literal | .special _ => none

/-- The container that values of a class are rebuilt into. -/
def containerOf : ClassId → Option Container
  | .library c => c.container?
  | .program _ => none

/-- Is a class of types known by how it is written when it has arguments? -/
def isVerbatim (c : ClassId) : Bool :=
  let module := s.memory.moduleOf c
  module ∈ languageModules || module.startsWith "collections"

/-- Refuses a class that is in no module. -/
def checkModule : Object → Except Fault Unit
  | .cls c | .formed (.generic c) _ | .formed (.subscripted c) _ =>
    if s.memory.moduleOf c = "" then .error (.noMember "__module__") else .ok ()
  | _ => .ok ()

/-- Are the arguments of a tuple those of a tuple of fixed length? -/
def isFixed : List Object → Bool
  | [] | [_, .ellipsis] => false
  | _ => true

/-- Refuses a type that cannot be looked up in a table. -/
def checkHashable (o : Object) : Except Fault Unit :=
  match s.memory.unhashable? o with
  | some type => .error (.misuse (.unhashable type))
  | none => .ok ()

/-- The shape of a class by itself: one that is a model given types is the model with these. -/
def plainShape (shapes : List Object → Except Fault (List Shape)) (c : ClassId) :
    Except Fault Shape :=
  let given := (s.memory.model? c).bind fun model => model.origin.map (·, model.args)
  match given, c with
  | some (origin, args), _ => s.classShape (.program origin) (shapes args)
  | none, .library l =>
    if l = .anything then .ok .anything
    else match l.scalarName?, l.container? with
      | some name, _ => .ok (.scalar name)
      | none, some container => .ok (.collection container .anything)
      | none, none =>
        if l.isBuiltin then .ok (.verbatim l.name) else s.classShape c (.ok [])
  | none, .program _ =>
    if s.memory.moduleOf c = "builtins" then .ok (.verbatim (s.memory.nameOf c))
    else s.classShape c (.ok [])

/-- The shape of a type with arguments. -/
def formedShape (shapes : List Object → Except Fault (List Shape)) (o : Object) (f : Former)
    (args : List Object) : Except Fault Shape :=
  let verbatim := Shape.verbatim (s.memory.spelling o)
  match originOf f with
  | none => .ok verbatim
  | some c => match containerOf c with
    | some container =>
      if container = .tuple && isFixed args then .ok verbatim
      else do return .collection container ((← shapes (args.take 1)).headD .anything)
    | none => if s.isVerbatim c then .ok verbatim else s.classShape c (shapes args)

/-- The shape of a union. -/
def unionShape (shapes : List Object → Except Fault (List Shape)) (args : List Object) :
    Except Fault Shape := do
  let options := args.filter (!·.isMissing)
  let inner ← match options with
    | [_] => shapes options
    | _ => (options.forM s.checkModule).map fun _ => []
  return .ofUnion (options.map s.memory.label) inner (options.length < args.length)

/-- The shape of a type that is nested so deep. -/
def shapeWithin : Nat → Object → Except Fault Shape
  | 0, _ => .error .tooDeep
  | levels + 1, o =>
    let shapes (os : List Object) := os.mapM (shapeWithin levels)
    let o := o.bare
    match o with
    | .formed .union args | .formed .bars args => s.unionShape shapes args
    | .typeVariable index =>
      if s.memory.variableKind index ≠ .type then .ok (.verbatim (s.memory.literal o))
      else .ok (.parameter (((s.memory.typeVariables[index]?).map (·.name)).getD ""))
    | .forward .. => .ok (.verbatim (s.memory.label o))
    | .cls c => do
      s.checkModule o
      s.plainShape shapes c
    | .named name => s.formedShape shapes o (.named name) []
    | .formed f args => do
      s.checkHashable o
      s.checkModule o
      s.formedShape shapes o f args
    | o => match s.memory.asText? o with
      | some text => .ok (.verbatim text)
      | none => do
        s.checkHashable o
        return .verbatim (s.memory.literal o)

/-- The shape of a type. -/
def shape (o : Object) : Except Fault Shape :=
  s.shapeWithin maxDepth o

end Surroundings

end Mapsmith.Program
