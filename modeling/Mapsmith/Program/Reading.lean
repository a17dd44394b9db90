import Mapsmith.Program.Description
import Mapsmith.Program.Running

/-!
# Reading a program

From chosen classes of a program to a type graph. Reading starts with the chosen classes and goes on
to every class that their members or decorators bring in; classes are described in the order in
which they are found, and a name is found once. Every class of the packages that the chosen ones
ship in is of interest, of other packages only those made for data. Looking up the types of a class
may make new classes, so what the program holds changes on the way.
-/

namespace Mapsmith.Program

/-- A step of reading worth telling. -/
inductive Event
  /-- A class is described. -/
  | describing (name : String)
  /-- Something in the types of a class stands for nothing. -/
  | unresolved (name detail : String)
  /-- The program is warned. -/
  | warned (text : String)
  deriving DecidableEq, Repr

/-- The wording of an event. -/
def Event.text : Event → String
  | describing name => "Describing " ++ name
  | unresolved name detail => "Falling back to raw annotations for " ++ name ++ ": " ++ detail
  | warned text => text

/-- Is an event told to those who do not ask for all that happens? -/
def Event.isWarning : Event → Bool
  | warned _ => true
  | _ => false

/-- What has been read so far: the described classes are the first ones of those that are found. A
class is found under the name that it has then, and described under the one that it has then. -/
structure Reader where
  /-- What the program holds. -/
  memory : Memory
  /-- The packages whose classes are of interest in any case. -/
  packages : List String := []
  /-- The classes that are found. -/
  found : List ClassRef := []
  /-- The descriptions of the first of these. -/
  described : List Description := []
  /-- What has happened. -/
  events : List Event := []

/-- The descriptors of the classes that are described. -/
def Reader.types (r : Reader) : List TypeDescriptor :=
  r.described.map (·.type)

/-- A part of reading. -/
abbrev Read := ExceptT Fault (StateM Reader)

namespace Read

/-- Lets the program do something. -/
def run {α : Type} (x : Run α) : Read α := fun r =>
  let (result, memory) := x r.memory
  let events := r.events ++ memory.warnings.map .warned
  (result, { r with memory := { memory with warnings := [] }, events })

/-- Tells what has happened. -/
def tell (event : Event) : Read Unit :=
  modify fun r => { r with events := r.events ++ [event] }

/-! ### Finding classes -/

/-- Classes with others that are found. A name is found once. -/
def withFound (found more : List ClassRef) : List ClassRef :=
  more.foldl (fun kept c => if kept.any (·.name = c.name) then kept else kept ++ [c]) found

/-- Finds the classes among objects to start with. Only classes can be described. -/
def choose (o : Object) : Read Unit := do
  let r ← get
  match o with
  | .cls c =>
    let ref := r.memory.ref c
    if ref.module = "" then throw (.noMember "__module__")
    set { r with
      packages := r.packages ++ [firstPart ref.module], found := withFound r.found [ref] }
  | o => throw (.graph (.undescribable (r.memory.literal o)
      "only classes can be added to a type graph"))

/-! ### Describing classes -/

/-- The types of the annotated names of a class. -/
def hintsOf (c : ClassId) : Read (List (String × Object)) := do
  let (hints, detail) ← run (Run.classHintsOrRaw .usual c)
  match detail with
  | some detail => tell (.unresolved ((← get).memory.ref c).name detail)
  | none => pure ()
  return hints

/-- What is looked up of a class before its members are read: its kind and the types of its annotated
names, unless it is an enum. -/
def lookUp (c : ClassId) : Read (Option (TypeKind × List (String × Object))) := do
  let ref := (← get).memory.ref c
  tell (.describing ref.name)
  if ref.isEnum then return none
  let kind ← run (Describing.toldKind c)
  return some (kind, ← hintsOf c)

/-- Describes a class. -/
def describe (c : ClassId) : Read Description := do
  match ← lookUp c with
  | none => run (Describing.describeEnum c)
  | some (kind, hints) =>
    let r ← get
    run (Describing.describeObject r.packages c kind hints)

/-- Describes a class and finds those that it brings in. -/
def visit (c : ClassId) : Read Unit := do
  let d ← describe c
  modify fun r => { r with
    described := r.described ++ [d], found := withFound r.found d.mentions }

/-- The number of classes after which reading gives up. -/
def maxClasses : Nat := 100000

/-- Describes all classes that are found and not described yet, and those that they bring in. -/
def describeWithin : Nat → Read (List TypeDescriptor)
  | 0 => throw .tooDeep
  | steps + 1 => do
    let r ← get
    match r.found[r.described.length]? with
    | none => return r.types
    | some c =>
      visit c.id
      describeWithin steps

/-- The types of all classes that are found and of those that they bring in. -/
def graph : Read TypeGraph := do
  match TypeGraph.ofTypes (← describeWithin maxClasses) with
  | .ok g => return g
  | .error e => throw (.graph e)

/-- The graph of chosen objects. -/
def graphOf (chosen : List Object) : Read TypeGraph := do
  chosen.forM choose
  graph

end Read

/-! ### Choosing classes -/

namespace Memory

variable (m : Memory)

/-- The classes that a module declares and still has under a name, in order of these names. -/
def classesOf (module : Nat) : List Object :=
  match m.modules[module]? with
  | none => []
  | some o =>
    (Text.sort (o.names.map (·.1))).filterMap fun name => match o.names.lookup name with
      | some (.cls c) => if m.moduleOf c = o.name then some (.cls c) else none
      | _ => none

/-- What a path of names leads to from an object. -/
def follow (o : Object) : List String → Option Object
  | [] => some o
  | name :: names =>
    let next := match o with
      | .module index => m.global? index name
      | .cls c => (m.own? c name).map Attribute.toObject
      | _ => none
    next.bind (follow · names)

/-- The names that lead to a class from its module: one that is declared in a function has a name of
its own there. -/
def wayTo (path : List String) : List String :=
  match path with
  | maker :: "<locals>" :: name :: rest =>
    if maker = "make_" ++ name then ("_local_" ++ name) :: rest else path
  | _ => path

/-- What a dotted name stands for in the modules of the program, the longest name of a module first.
-/
def resolve? (name : String) : Option Object :=
  let parts := name.splitOn "."
  (List.range parts.length).reverse.findSome? fun n =>
    (m.module? (".".intercalate (parts.take n))).bind fun index =>
      m.follow (.module index) (wayTo (parts.drop n))

/-- The latest class of a qualified name. -/
def latest? (name : String) : Option Object :=
  ((List.range m.classes.length).reverse.find? fun index =>
    m.qualifiedName (.program index) = name).map fun index => .cls (.program index)

end Memory

/-- The classes of the module of a name, if it can be imported after a program has run. -/
def Run.classesOf (module : String) : Run (List Object) := do
  if module = "" then throw .emptyName
  if module.startsWith "." then throw .relativeName
  let m ← get
  match (packagesOf module).find? fun package => (m.module? package).isNone with
  | some missing =>
    throw (.graph (.noModule module ("No module named " ++ Text.quote missing)))
  | none => return ((m.module? module).map m.classesOf).getD []

/-- The graph of the classes that modules declare. -/
def Read.ofModules (names : List String) : Read TypeGraph := do
  graphOf (← run (names.mapM Run.classesOf)).flatten

end Mapsmith.Program
