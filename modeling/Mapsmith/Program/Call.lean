import Mapsmith.Program.Function.Class
import Mapsmith.Program.Method

/-!
# Calls

What a call of an object yields. A class of the library makes a value of what it is given; an enum finds the
value that is kept in one of its own; a model, a dataclass, a tuple with named members and a plain class check
what they are given against their parameters and make a value of it. What waits for a subclass, describes
members or is no class at all is refused.
-/

namespace Mapsmith.Program

namespace Run

/-! ### Classes of the program -/

/-- What a model makes of what it is given. -/
def modelCall (ev : Evaluator) (s : Scope) (index : Nat) (given : Arguments) : Run Object := do
  let m ← get
  let id := ClassId.program index
  let shape := (m.model? id).getD default
  if !shape.isBuilt then throw (.raised ⟨"pydantic.errors", "PydanticUserError"⟩)
  if !given.inPlace.isEmpty then
    refuse (.other ("BaseModel.__init__() takes 1 positional argument but "
      ++ toString (given.inPlace.length + 1) ++ " were given"))
  let keyOf (name : String) (f : ModelField) : String := f.aliasName.getD name
  let members ← shape.fields.mapM fun (name, f) => do
    match given.byName.lookup (keyOf name f) with
    | some o => return (name, ← accepted ev s f.type o)
    | none =>
      if f.isRequired then throw .invalidModel
      let usual ← if f.hasFactory then newTable [] else pure .none
      return (name, usual)
  let told := (shape.fields.filter fun (name, f) => (given.byName.lookup (keyOf name f)).isSome).map (·.1)
  newMade id [] members [(givenNames, .set (told.map .text))]

/-- The values that stand for those members of a tuple that are left out. -/
def usualOf (m : Memory) (c : ClassId) : List (String × Object) :=
  match (m.nearest? c (·.attributes.lookup "_field_defaults")).map (·.toObject) with
  | some o => Memory.namesOf ((m.entries? o).getD [])
  | none => []

/-- What a tuple with named members makes of what it is given. -/
def tupleCall (c : ClassId) (name : String) (shape : TupleShape) (given : Arguments) : Run Object := do
  let parameters := shape.fields.map fun n => { name := n, hasDefault := n ∈ shape.optional }
  let members ← assigned (name ++ ".__new__()") true parameters given
  let usual := usualOf (← get) c
  newMade c [.row (members.map fun (n, o) => o.getD ((usual.lookup n).getD .none))] [] []

/-- What a dataclass makes of what it is given. -/
def dataclassCall (c : ClassId) (shape : DataclassShape) (given : Arguments) : Run Object := do
  newMade c [] (← givenMembers c shape given) []

/-- What a plain class makes of what it is given, before a method of its own is asked to make it ready. -/
def plainValue (ev : Evaluator) (s : Scope) (c : ClassId) (o : ClassObject) (given : Arguments) :
    Run Object := do
  let m ← get
  let isOpen := match m.attribute? c "__init__" with
    | some (.object _) => true
    | _ => false
  let hasOwn := isOpen || declares m c "__init__"
  if hasOwn && !isOpen then
    let _ ← givenParameters c given
  if m.inherits c (.library (.builtin "BaseException")) then return ← makeFailure ev c given
  match layoutOf? m c with
  | some l =>
    let isFilledLater := l.name ∈ ["list", "dict", "set", "bytearray"] && l.module = "builtins"
    let value ← construct ev s l (if !hasOwn then given else if isFilledLater then {} else { given with byName := [] })
    match (← get).seen value with
    | .made _ _ kept members state =>
      let isMarker (e : String × Object) : Bool := e.1 = Object.byValue || e.1 = Object.notLookedUp
      newMade c kept members (state.filter fun e => !isMarker e)
    | o => newMade c [o] [] []
  | none =>
    if !hasOwn && (ownAttribute? m c "__new__").isNone && !given.isEmpty then
      refuse (.other (o.name ++ "() takes no arguments"))
    newMade c [] [] []

/-- What a class makes of what it is given by methods of its own: one that yields a value, and one that makes a
value of the class ready and yields nothing. -/
def plainCall (ev : Evaluator) (s : Scope) (c : ClassId) (o : ClassObject) (given : Arguments) :
    Run Object := do
  let m ← get
  let value ← match ownAttribute? m c "__new__" with
    | some (.object f) => ev.call s (← hadFrom none c f) (given.after (.cls c))
    | some _ => pure .none
    | none => plainValue ev s c o given
  match m.attribute? c "__init__" with
  | some (.object f) =>
    if (← get).isValueOf value c then
      let answer ← callHeld ev value c (.object f) given
      if !answer.same .none then
        refuse (.other ("__init__() should return None, not " ++ Text.quote ((← get).typeName answer)))
  | _ => pure ()
  return value

/-- What a class of the program makes of what it is given. -/
def programCall (ev : Evaluator) (s : Scope) (index : Nat) (c : ClassObject) (given : Arguments) :
    Run Object := do
  let m ← get
  let id := ClassId.program index
  if c.metaclass = .enum then enumCall ev s id given
  else if c.metaclass = .model then modelCall ev s index given
  else if m.inherits id (.library .type) then makeType ev s id given
  else if m.isDescription id then refuse (.other "Protocols cannot be instantiated")
  else if !c.awaited.isEmpty then
    refuse (.other ("Can't instantiate abstract class " ++ c.name ++ " with abstract method"
      ++ (if c.awaited.length = 1 then " " else "s ") ++ ", ".intercalate (Text.sort c.awaited)))
  else
    let isOwn := ["__init__", "__new__"].any fun name => match m.attribute? id name with
      | some (.object _) => true
      | _ => false
    match m.nearest? id (·.tuple), m.dataclass? id with
    | some shape, _ => tupleCall id c.name shape given
    | none, some shape => if isOwn then plainCall ev s id c given else dataclassCall id shape given
    | none, none => plainCall ev s id c given

/-- What a class makes of what it is given. -/
def classCall (ev : Evaluator) (s : Scope) (c : ClassId) (given : Arguments) : Run Object := do
  match c with
  | .library l => if l.isEnumeration then enumCall ev s c given else construct ev s l given
  | .program index => match (← get).class? index with
    | some c => programCall ev s index c given
    | none => refuse (.notCallable "type")

/-! ### Functions and methods -/

/-- What a class of the library holds under a name for a call, if the name of a function is that of one. -/
def holder? (name : String) : Option (LibraryClass × Holding) :=
  let c := LibraryClass.ofName (allButLastPart name)
  (c.holding? (lastPart name)).map (c, ·)

/-- What a method of all objects yields, which each class can have in its own way. -/
def methodOfAll? (o : Object) (word : String) (given : Arguments) : Run (Option Object) := do
  let one : Run Object := do return (← inSlots ("__" ++ word ++ "__") 1 1 given).headD .none
  match comparisonWords.lookup word with
  | some operator =>
    let result := identityMethod operator o (← one)
    if operator = "!=" && result.same leftOpen then return some (truth true) else return some result
  | none => return none

/-- What a call on an object of a class yields that is not had from the object but from the class. -/
def callFor (ev : Evaluator) (s : Scope) (holding : Holding) (c : LibraryClass) (name : String)
    (given : Arguments) : Run Object := do
  let m ← get
  let quoted := Text.quote name
  match given.inPlace with
  | o :: _ =>
    if !m.isValueOf (m.plain o) (.library c) && !m.isValueOf o (.library c) then
      refuse (.other (if holding = .slot then
          "descriptor " ++ quoted ++ " requires a " ++ Text.quote c.name ++ " object but received a "
            ++ Text.quote (m.typeName o)
        else "descriptor " ++ quoted ++ " for " ++ Text.quote c.name ++ " objects doesn't apply to a "
          ++ Text.quote (m.typeName o) ++ " object"))
    let word := (keptWord? name).getD ""
    if c = .builtin "object" then
      match ← methodOfAll? o word given.tail with
      | some result => return result
      | none => methodOf ev s o name given.tail
    else if c = .integer && word = "repr" then return .text (toString (← integer o))
    else methodOf ev s o name given.tail
  | [] =>
    refuse (.other (match holding with
      | .slot => "descriptor " ++ quoted ++ " of " ++ Text.quote c.name ++ " object needs an argument"
      | .function => c.name ++ "." ++ name ++ "() missing 1 required positional argument: 'self'"
      | _ => "unbound method " ++ c.name ++ "." ++ name ++ "() needs an argument"))

/-- The methods that come with a dataclass or with a tuple with named members, and are had from the class. -/
def givenMethods : List String :=
  ["__repr__", "__eq__", "__hash__", "_replace", "_asdict"]

/-- What a function yields, by its name with its module. What the program declares does nothing. -/
def functionCall (ev : Evaluator) (s : Scope) (name : String) (given : Arguments) : Run Object := do
  match holder? name with
  | some (c, .shared) => methodOf ev s (.cls (.library c)) (lastPart name) given
  | some (c, holding) => callFor ev s holding c (lastPart name) given
  | none =>
    if firstPart name ∈ libraryModules then match ← makeClassBy? ev name given with
      | some o => return o
      | none => ofLibrary ev s name given
    else
      let m ← get
      let isDeclared := (functionNamed? m name).any fun f => !f.parameters.isEmpty
      if let some f := (functionNamed? m name).filter fun f => !f.isGiven && f.name ≠ "function" then
        if lastPart name ∉ ["__init__", "__new__"] then return ← declaredCall f given
      match given.inPlace with
      | o :: _ =>
        let isMade := m.seen o matches .made ..
        if isMade && lastPart name ∈ givenMethods && !isDeclared then
          methodOf ev s o (lastPart name) given.tail
        else if lastPart name = "__new__" && !isDeclared && (o matches .cls _) then
          ev.call s o given.tail
        else return .none
      | [] => return .none

/-- The forms that are named for a class of the language and make no values of it. -/
def closedForms : List String :=
  ["List", "Set", "FrozenSet", "Dict", "Tuple", "Type"]

/-- What a named form makes of what it is given. -/
def namedCall (ev : Evaluator) (s : Scope) (name : String) (given : Arguments) : Run Object := do
  match namedForms.lookup name with
  | some form =>
    if name ∈ closedForms then
      refuse (.other ("Type " ++ name ++ " cannot be instantiated; use " ++ form.origin.name
        ++ "() instead"))
    construct ev s form.origin given
  | none => refuse (.other ("Type " ++ name ++ " cannot be instantiated"))

/-- What a type that is made of others makes of what it is given: what it is of in the first place does. A value
that can be given names keeps the type. -/
def formedCall (ev : Evaluator) (s : Scope) (former : Former) (o : Object) (given : Arguments) :
    Run Object := do
  match former with
  | .subscripted c => classCall ev s c given
  | .generic c =>
    let value ← classCall ev s c given
    match (← get).seen value with
    | .made _ _ [] _ _ =>
      becomeWith value (setEntry "__orig_class__" o)
      return value
    | _ => return value
  | .named name => namedCall ev s name given
  | .callable => namedCall ev s "Callable" given
  | .bars => refuse (.notCallable "types.UnionType")
  | .union => refuse (.other "Cannot instantiate typing.Union")
  | .literal => refuse (.other "Cannot instantiate typing.Literal")
  | .special name => refuse (.other ("Cannot instantiate typing." ++ name))

/-- What a call of an object yields where an expression stands. -/
def called (ev : Evaluator) (s : Scope) (f : Object) (given : Arguments) : Run Object := do
  let m ← get
  match m.seen f with
  | .cls c => classCall ev s c given
  | .formed former _ => formedCall ev s former f given
  | .named name => namedCall ev s name given
  | .annotated inner _ => ev.call s inner given
  | .special _ => refuse (.other ("Cannot instantiate " ++ m.spelling f))
  | .builtinFunction name => ofLanguage ev s name given
  | .function name => functionCall ev s name given
  | .method owner name => methodOf ev s owner name given
  | .descriptor holding owner name =>
    if holding = .slot || holding = .method then callFor ev s holding owner name given
    else refuse (.notCallable (m.typeName f))
  | .made _ maker _ members state =>
    if (members.lookup "__supertype__").isSome then
      return ((← takenBy "NewType.__call__()" "x" given).headD none).getD .none
    if let some a := ownAttribute? m maker "__call__" then return ← callHeld ev f maker a given
    match (state.lookup "__func__").or (members.lookup "__func__"), members.lookup "__self__" with
    | some inner, some owner => ev.call s inner (given.after owner)
    | some inner, none =>
      if maker = .library (.builtin "staticmethod") then ev.call s inner given
      else refuse (.notCallable (m.typeName f))
    | none, _ => refuse (.notCallable (m.typeName f))
  | _ => refuse (.notCallable (m.typeName f))

end Run

end Mapsmith.Program
