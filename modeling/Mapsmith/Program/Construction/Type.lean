import Mapsmith.Program.Bases
import Mapsmith.Program.Construction.Collection
import Mapsmith.Program.Particulars

/-!
# Type variables and classes of what classes are given

A type variable of its name, its bound and the types that it is limited to; a type that stands for another one under a
name of its own; and a class of its name, its bases and what it holds.
-/

namespace Mapsmith.Program

namespace Run

/-! ### Type variables -/

/-- Adds a type variable. -/
def makeVariable (name : String) (constraints : List Object) (bound : Option Object)
    (covariant contravariant : Bool) (kind : VariableKind) (module : String) : Run Object := do
  if covariant && contravariant then throw .badValue
  let checkedBound ← (bound.filter (·.isTruthy)).mapM (checked "Bound must be a type." false)
  if !constraints.isEmpty && bound.any (!·.same .none) then
    refuse (.other "Constraints cannot be combined with bound=...")
  if constraints.length = 1 then refuse (.other "A single constraint is not allowed")
  let constraints ← constraints.mapM
    (checked "TypeVar(name, constraint, ...): constraints must be types." false)
  let index := (← get).typeVariables.length
  modify fun m => { m with typeVariables := m.typeVariables ++ [{
    name, kind, module, bound := checkedBound, constraints, covariant, contravariant }] }
  return .typeVariable index

/-- The name of the module that what is made where an expression stands belongs to, if that is known. -/
def moduleNameIn (s : Scope) : Run (Option String) := do
  return ((← get).inSpace? s.far "__name__").bind (·.text?)

/-- Does an object that is given under a name count as true? -/
def flagged (ev : Evaluator) (o : Option Object) : Run Bool := do
  match o with
  | some o => isTrue ev o
  | none => return false

/-- What a class of the module of types makes of what it is given. -/
def makeOfTypes (ev : Evaluator) (s : Scope) (c : LibraryClass) (given : Arguments) : Run Object := do
  let m ← get
  let init := c.name ++ ".__init__()"
  let named (ps : String) (given : Arguments) : Run (List (Option Object)) := takenBy init ps given
  let text (o : Object) : Run String := textual "name" o
  let moduleHere : Run String := do return (← moduleNameIn s).getD "__main__"
  match c.name with
  | "TypeVar" =>
    let constraints := given.inPlace.tail
    let args ← named "name * bound? covariant? contravariant?"
      { given with inPlace := given.inPlace.take 1 }
    makeVariable (← text ((args.headD none).getD .none)) (← constraints.mapM whole)
      (← (args.getD 1 none).mapM whole) (← flagged ev (args.getD 2 none)) (← flagged ev (args.getD 3 none)) .type
      (← moduleHere)
  | "NewType" => match ← named "name tp" given with
    | [some name, some type] => match (m.plain name).text? with
      | some name =>
        let module := (← moduleNameIn s).getD "__main__"
        newMade (.library c) [] [("__supertype__", ← whole type), ("__name__", .text (lastPart name)),
          ("__qualname__", .text name), ("__module__", .text module)]
          [(Memory.shownName, .text (module ++ "." ++ lastPart name))]
      | none => refuse (.other ("argument of type " ++ Text.quote (m.typeName name) ++ " is not iterable"))
    | _ => return .none
  | "ForwardRef" =>
    let args ← named "arg is_argument? module? * is_class?" given
    let o := (args.headD none).getD .none
    match (m.plain o).text? with
    | some text =>
      let isArgument ← match args.getD 1 none with
        | some o => isTrue ev o
        | none => pure true
      forward text !isArgument
    | none => refuse (.other ("Forward reference must be a string -- got " ++ m.written o))
  | "ParamSpec" =>
    let args ← named "name * bound? covariant? contravariant?" given
    makeVariable (← text ((args.headD none).getD .none)) [] (← (args.getD 1 none).mapM whole)
      (← flagged ev (args.getD 2 none)) (← flagged ev (args.getD 3 none)) .parameters (← moduleHere)
  | "TypeVarTuple" =>
    let args ← named "name" given
    makeVariable (← text ((args.headD none).getD .none)) [] none false false .several (← moduleHere)
  | "Any" => refuse (.other "Any cannot be instantiated")
  | "Annotated" => refuse (.other "Type Annotated cannot be instantiated.")
  | name =>
    if !c.awaited.isEmpty then
      refuse (.other ("Can't instantiate abstract class " ++ name ++ " with abstract "
        ++ plural c.awaited.length "method" ++ " " ++ ", ".intercalate (Text.sort c.awaited)))
    if !given.isEmpty then refuse (.other (name ++ "() takes no arguments"))
    newMade (.library c) [] [] []

/-! ### Classes -/

/-- The wording for classes that do not go together. -/
def conflict : Misuse :=
  .other ("metaclass conflict: the metaclass of a derived class must be a (non-strict) subclass of the "
    ++ "metaclasses of all its bases")

/-- What a class holds under a name when it comes into being. A function that the language calls on the class itself
is marked for that. -/
def ofClassItself (name : String) (o : Object) : Run Object := do
  let shown ← written o
  let marked (kind : String) : Run Object :=
    newMade (.library (.builtin kind)) [] [("__func__", o), ("__wrapped__", o)]
      [(Memory.shownName, .text ("<" ++ kind ++ "(" ++ shown ++ ")>"))]
  match o, name with
  | .lambda _, "__class_getitem__" | .lambda _, "__init_subclass__" => marked "classmethod"
  | .lambda _, "__new__" => marked "staticmethod"
  | _, _ => return o

/-- A class of its name, its bases and what it holds. -/
def makeClass (ev : Evaluator) (s : Scope) (name : String) (bases entries : List Object) : Run Object := do
  let isForm (o : Object) : Bool := o matches .formed .. | .named _ | .annotated ..
  if bases.any fun o => isForm o then
    refuse (.other "type() doesn't support MRO entry resolution; use types.new_class()")
  if bases.any fun o => !(o matches .cls _) then refuse conflict
  let b ← Bases.ofObjects bases
  let m ← get
  let some metaclass := b.metaclass m | refuse conflict
  if metaclass = .enum || metaclass = .model then fail "NotImplementedError"
  if '\x00' ∈ name.toList then throw .badValue
  let index := m.classes.length
  let held ← (Memory.namesOf entries).mapM fun (name, o) => do
    return (name, Attribute.object (← ofClassItself name o))
  let told ← Particulars.told ev ((← moduleNameIn s).getD "") name name b held false
  let line ← b.line index
  modify fun m => m.addClass {
    module := told.module
    path := told.path
    name
    metaclass
    bases := b.classes
    line
    attributes := told.attributes
    places := told.places
    parameters := if .library .generic ∈ line then some [] else none }
  return .cls (.program index)

/-- What a class of classes makes of what it is given. -/
def makeType (ev : Evaluator) (s : Scope) (c : ClassId) (given : Arguments) : Run Object := do
  let m ← get
  match given with
  | ⟨[o], []⟩ =>
    if c = .library .type then return m.typeOf o
    if c = .library ⟨"enum", "EnumType"⟩ then fail "NotImplementedError"
    refuse (.other (m.nameOf c ++ ".__new__() missing 2 required positional arguments: 'bases' and 'namespace'"))
  | ⟨[name, bases, held], names⟩ =>
    let wrong {α : Type} (place what : String) (o : Object) : Run α :=
      refuse (.other ("type.__new__() argument " ++ place ++ " must be " ++ what ++ ", not " ++ m.typeName o))
    match (m.plain name).text?, m.plain bases, m.plain held with
    | none, _, _ => wrong "1" "str" name
    | some _, .row bases, .table entries =>
      if !names.isEmpty then
        refuse (.other (((m.plain name).text?.getD "") ++ ".__init_subclass__() takes no keyword arguments"))
      makeClass ev s ((m.plain name).text?.getD "") bases entries
    | some _, .row _, _ => wrong "3" "dict" held
    | some _, _, _ => wrong "2" "tuple" bases
  | ⟨[_], _ :: _⟩ => refuse (.other "type() takes no keyword arguments")
  | _ =>
    if c = .library ⟨"abc", "ABCMeta"⟩ then
      let _ ← takenBy "ABCMeta.__new__()" "name bases namespace /" given
    refuse (.other "type() takes 1 or 3 arguments")

end Run

end Mapsmith.Program
