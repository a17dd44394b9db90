import Mapsmith.Program.Hints

/-!
# Schemas and the evaluator

What a model needs in order to check what it is built from. The types of its fields are gone through, and so
are those of the dataclasses, tuples and models that they lead to; each has to be one whose values can be told.
A model waits, without a fault, as long as one of these types names something unknown. What cannot be told to
be a value of a type, such as one of a description of members, is a fault, though only after all other faults.

Schemas are the last of what evaluations lead to: a call leads to the body of a function, a text to what it
stands for, a model that is given types to the types of its fields. The evaluator allows this as deep as a
program can go; what leads deeper is a fault.
-/

namespace Mapsmith.Program

/-! ### What is said of a whole type -/

namespace Qualifier

/-- What is said of a type as a whole, from the outside inwards. -/
def all : Object → List String
  | .annotated inner _ => all inner
  | .formed (.special name) [o] =>
    if name ∈ ["ClassVar", "Final", "Required", "NotRequired", "ReadOnly"] then name :: all o else []
  | .made _ c _ [(_, o)] _ => if c = .library .forConstruction then "InitVar" :: all o else []
  | .special name => if name = "ClassVar" || name = "Final" then [name] else []
  | .cls c => if c = .library .forConstruction then ["InitVar"] else []
  | _ => []

/-- A type without what is said of it as a whole. -/
def without : Object → Object
  | .annotated inner notes =>
    if (all inner).isEmpty then .annotated inner notes else without inner
  | o@(.formed _ [inner]) | o@(.made _ _ _ [(_, inner)] _) =>
    if (all o).isEmpty then o else without inner
  | o => if (all o).isEmpty then o else .cls (.library .anything)

/-- Refuses what cannot be said of a type where it stands. -/
def check (allowed : List String) (o : Object) : Run Unit := do
  if (all o).any (· ∉ allowed) then
    throw (.raised ⟨"pydantic.errors", "PydanticForbiddenQualifier"⟩)

/-- What can be said of the types of a model's fields. -/
def ofModels : List String := ["ClassVar", "Final"]

/-- What can be said of the types of a dataclass's fields. -/
def ofDataclasses : List String := ["ClassVar", "Final", "InitVar"]

end Qualifier

namespace Schema

/-! ### Where types are looked up -/

/-- Where the types of a class are looked up for a schema: the class whose types they are, and the model that
the schema is for. -/
structure Site where
  /-- The model that the schema is for. -/
  first : Nat
  /-- The class whose types they are. -/
  current : Nat

/-- The names that are known where the types of a class are looked up for a schema: the class by its name,
what it holds, the model that the schema is for, then those of its module. -/
def Site.scope (m : Memory) (s : Site) : Scope :=
  let named (index : Nat) : List (String × Object) :=
    ((m.class? index).map fun c => (c.name, Object.cls (.program index))).toList
  let held := ((m.class? s.current).map (Run.classEntries m s.current)).getD []
  let module := ((m.class? s.current).map (·.module)).getD ""
  { near := .names (named s.current ++ held ++ named s.first), far := m.spaceOf module }

/-- A type as it is written, looked up. -/
def resolved (ev : Evaluator) (s : Site) (o : Object) : Run Object := do
  Run.resolved ev (s.scope (← get)) false true o

/-- A type as it is written, looked up unless it names something unknown. -/
def resolved? (ev : Evaluator) (s : Site) (o : Object) : Run (Option Object) :=
  tryCatch (do return some (← resolved ev s o)) fun e => match e with
    | .unknownName _ => return none
    | e => throw e

/-! ### Types for type variables -/

mutual

/-- A type with types in the place of type variables, models among them. -/
def filled (ev : Evaluator) (given : List (Nat × Object)) : Object → Run Object
  | .typeVariable index => return (given.lookup index).getD (.typeVariable index)
  | .cls (.program index) => do
    let open_ := (((← get).model? (.program index)).map (·.parameters)).getD []
    if open_.any fun p => (given.lookup p).isSome then
      Run.modelWith ev false index
        (.row (open_.map fun p => (given.lookup p).getD (.typeVariable p)))
    else return .cls (.program index)
  | .formed .literal values => return .formed .literal values
  | .formed .union args => do Run.union (.row (← filledAll ev given args))
  | .formed .bars args => do Run.barredAll (← filledAll ev given args)
  | .formed former args => return .formed former (← filledAll ev given args)
  | .annotated inner notes => do Run.withNotes notes (← filled ev given inner)
  | o => return o

/-- Types in a row with types in the place of type variables. -/
def filledAll (ev : Evaluator) (given : List (Nat × Object)) : List Object → Run (List Object)
  | [] => return []
  | o :: os => return (← filled ev given o) :: (← filledAll ev given os)

end

/-! ### Going through types -/

/-- What is known while types are gone through. -/
structure Progress where
  /-- The types that have been met, of those that have members. -/
  met : List Object := []
  /-- Can it be told what is a value of each type so far? -/
  isSound : Bool := true

/-- A part of going through types. -/
abbrev Check := StateT Progress Run

/-- Tells that it cannot be told what is a value of a type. -/
def unsound : Check Unit :=
  modify fun p => { p with isSound := false }

/-- Does something for a type that is met for the first time. -/
def once (o : Object) (x : Check Unit) : Check Unit := do
  if (← get).met.any (·.same o) then return
  modify fun p => { p with met := p.met ++ [o] }
  x

/-- Collections whose types are gone through, each with how many types it takes if that is checked. -/
def collections : List (ClassId × Option Nat) :=
  let ofLanguage (names : List String) : List ClassId := names.map fun n => .library (.builtin n)
  let abstract (names : List String) : List ClassId :=
    names.map fun n => .library (.abstractCollection n)
  let others (names : List String) : List ClassId := names.map fun n => .library ⟨"collections", n⟩
  (ofLanguage ["list", "set", "frozenset"] ++ abstract ["Sequence", "MutableSequence", "Set",
      "MutableSet", "Iterable", "Generator"] ++ others ["deque", "Counter"]).map (·, none)
    ++ (ofLanguage ["dict"] ++ abstract ["Mapping", "MutableMapping"]
      ++ others ["OrderedDict", "defaultdict"]).map (·, some 2)

/-- The types in a collection that are gone through. -/
def itemsOf (arity : Option Nat) (args : List Object) : Run (List Object) := do
  match arity with
  | none => return args.take 1
  | some n =>
    if !args.isEmpty && args.length ≠ n then
      Run.refuse (.other ("Expected two type arguments, got " ++ toString args.length))
    return args

/-- The types in a tuple that are gone through. -/
def tupleItems (args : List Object) : Run (List Object) := do
  match args.reverse with
  | .ellipsis :: rest => if rest.length = 1 then return rest else throw .badValue
  | _ => return args

/-- Checks what classes are asked for: one that is given types is refused, and so is what is none. -/
def checkClassOf (m : Memory) : Object → Run Unit
  | .cls _ | .typeVariable _ | .special _ => return
  | .annotated .. => return
  | .formed former args => do
    if former.isUnion then
      for o in args do
        if o matches .formed .. then
          throw (.raised ⟨"pydantic.errors", "PydanticUserError"⟩)
    else throw (.raised ⟨"pydantic.errors", "PydanticUserError"⟩)
  | .constant .null => return
  | o => Run.refuse (.other ("Expected a class, got " ++ m.literal o))

/-- Can it be told what is a value of a class? -/
def isTellable (m : Memory) : ClassId → Bool
  | .library l => l ≠ .protocol
  | c => !m.isDescription c

/-- The types that a type variable can stand for. -/
def optionsOf (v : VariableObject) : List Object :=
  if v.constraints.isEmpty then v.bound.toList else v.constraints

/-- The types for the type variables of a class that is given some. -/
def givenFor (m : Memory) (c : ClassId) (args : List Object) : List (Nat × Object) :=
  if args.isEmpty then [] else ((m.parameters? c).getD []).zip args

/-- Does a field of a dataclass count for a schema? -/
def isCounted (f : DataclassField) (type : Object) : Bool :=
  !("ClassVar" ∈ Qualifier.all type) && (f.inConstructor || f.hasDefault)

/-- The types of the fields of a dataclass; each is looked up where the class that mentions it is, and again
for the dataclass if it was unknown there. -/
def dataclassTypes (ev : Evaluator) (first index : Nat) (shape : DataclassShape) (args : List Object) :
    Run (List (String × Object)) := do
  let m ← get
  let c := ClassId.program index
  let bases := (m.lineage c).reverse.filter fun (i, _) => (m.dataclass? (.program i)).isSome
  let fields ← bases.mapM fun (i, base) => do
    let own := shape.fields.filter fun (name, _) => (base.annotations.lookup name).isSome
    own.filterMapM fun (name, f) => do
      match ← resolved? ev ⟨first, i⟩ f.type with
      | none => return some (name, f.type, false)
      | some type =>
        if !isCounted f type then return none
        Qualifier.check Qualifier.ofDataclasses type
        return some (name, Qualifier.without type, true)
  let fields := setEntries [] fields.flatten
  fields.mapM fun (name, type, isKnown) => do
    let type ← if isKnown then pure type else resolved ev ⟨first, index⟩ type
    return (name, ← filled ev (givenFor m c args) type)

/-- The types of the members of a tuple. -/
def tupleTypes (ev : Evaluator) (first index : Nat) (args : List Object) :
    Run (List (String × Object)) := do
  let m ← get
  let c := ClassId.program index
  let types ← (m.lineage c).reverse.mapM fun (i, base) =>
    base.annotations.mapM fun (name, o) => do return (name, ← resolved ev ⟨first, i⟩ o)
  (setEntries [] types.flatten).mapM fun (name, type) => do
    Qualifier.check [] type
    return (name, ← filled ev (givenFor m c args) type)

/-- The types of the fields of a model. -/
def modelTypes (ev : Evaluator) (first index : Nat) : Run (List (String × Object)) := do
  let m ← get
  let shape := (m.model? (.program index)).getD default
  let origin := (shape.origin.bind m.class?).bind (·.model)
  let given := ((origin.map (·.parameters)).getD []).zip shape.args
  shape.fields.mapM fun (name, f) => do
    let type ← if f.isComplete then pure f.type else resolved ev ⟨first, index⟩ f.type
    return (name, ← filled ev given (Qualifier.without type))

/-- Goes through a type, as deep as is told. -/
def checkType (ev : Evaluator) : Nat → Site → Object → Check Unit
  | 0, _, _ => throw Fault.tooDeep
  | levels + 1, s, o => do
    let inner (o : Object) : Check Unit := checkType ev levels s o
    let members (index : Nat) (types : Run (List (String × Object))) : Check Unit := do
      for (_, o) in ← (types : Check _) do
        checkType ev levels { s with current := index } o
    let m ← (get : Run Memory)
    let ofClass (c : ClassId) (args : List Object) : Check Unit := do
      let whole := if args.isEmpty then Object.cls c else .formed (.generic c) args
      match c with
      | .library _ =>
        if c = .library .tuple then (← (tupleItems args : Check _)).forM inner
        else if c = .library .type then (args.take 1).forM fun o => (checkClassOf m o : Check Unit)
        else match collections.lookup c with
          | some arity => (← (itemsOf arity args : Check _)).forM inner
          | none => if !isTellable m c then unsound
      | .program index =>
        match m.model? c, m.nearest? c (·.tuple), m.dataclass? c with
        | some shape, _, _ =>
          if !shape.isBuilt then once whole (members index (modelTypes ev s.first index))
        | none, some _, _ => once whole (members index (tupleTypes ev s.first index args))
        | none, none, some shape =>
          if m.metaclassOf c != .enum then
            once whole (members index (dataclassTypes ev s.first index shape args))
        | none, none, none => if !isTellable m c then unsound
    match o with
    | .annotated o _ => inner o
    | .forward .. | .constant (.str _) => inner (← (resolved ev s o : Check _))
    | .cls c => ofClass c []
    | .typeVariable index =>
      ((m.typeVariables[index]?).map optionsOf).getD [] |>.forM inner
    | .formed .union args | .formed .bars args => args.forM inner
    | .formed (.subscripted c) args | .formed (.generic c) args => ofClass c args
    | .formed (.named name) args => match namedForms.lookup name with
      | some form => ofClass (.library form.origin) args
      | none => unsound
    | .formed (.special name) args => if name = "Final" then args.forM inner else unsound
    | .formed .literal _ | .formed .callable _ => return
    | .special name => if name ∉ ["Final", "Self", "LiteralString", "Never", "NoReturn"] then unsound
    | .named _ | .constant .null | .function _ | .builtinFunction _ | .lambda _ | .descriptor .. => return
    | .method .. => return
    | .made _ _ _ members _ => match members.lookup "__supertype__" with
      | some o => inner o
      | none => unsound
    | .row items => if !items.all fun o => (match o with
        | .cls c => isTellable m c
        | _ => false) then unsound
    | _ => unsound

/-- How deep types may lead to types. -/
def maxDepth : Nat := 300

/-- Sees to it that a model can check what it is built from. It waits if it knows too little. -/
def settle (ev : Evaluator) (index : Nat) : Run Unit := do
  let m ← get
  let shape := (m.model? (.program index)).getD default
  if shape.isBuilt then return
  let checkAll : Check Unit := do
    for (_, o) in ← (modelTypes ev index index : Check _) do
      checkType ev maxDepth ⟨index, index⟩ o
  let progress : Option Progress ←
    tryCatch (do
        let (_, p) ← checkAll.run { met := [.cls (.program index)] }
        return some p) fun e => match e with
      | .unknownName _ => return none
      | e => throw e
  match progress with
  | none => return
  | some p =>
    if !p.isSound then throw (.raised ⟨"pydantic_core._pydantic_core", "SchemaError"⟩)
    modify fun m => m.changeClass index fun c =>
      { c with model := c.model.map fun shape => { shape with isBuilt := true } }

end Schema

/-! ### The evaluator -/

/-- The evaluator whose evaluations lead to others as deep as is told. -/
def Evaluator.within : Nat → Evaluator
  | 0 => {
    evaluate := fun _ _ => throw .tooDeep
    next := fun _ => throw .tooDeep
    call := fun _ _ _ => throw .tooDeep
    read := fun _ _ => throw .tooDeep
    hints := fun _ => throw .tooDeep
    settle := fun _ => throw .tooDeep }
  | levels + 1 =>
    let inner := within levels
    { evaluate := Run.evaluateWith inner
      next := Run.nextWith inner
      call := Run.callWith inner
      read := Run.readWith inner
      hints := Run.hintsWith inner
      settle := Schema.settle inner }

/-- The evaluator. -/
def Evaluator.usual : Evaluator :=
  within 250

namespace Run

/-- What an expression stands for where it stands. -/
def evaluate (s : Scope) (e : Expr) : Run Object :=
  evaluateWith .usual s e

/-- What a call of an object yields. -/
def call (s : Scope) (o : Object) (given : Arguments) : Run Object :=
  Evaluator.usual.call s o given

/-- What expressions in a row stand for. -/
def evaluateAll (s : Scope) (es : List Expr) : Run (List Object) :=
  evaluateEach .usual s es

end Run

end Mapsmith.Program
