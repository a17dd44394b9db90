import Mapsmith.Program.Forming
import Mapsmith.Program.Place

/-!
# Subscripts

What an object with others in its subscript stands for. A generic class takes one type for each of the type
variables that it leaves open, and so does a type that leaves some open. A model that is given types is a
class of its own, known by a name that tells the types; one that is given its own type variables is itself.
A value of an enum is had by its name.
-/

namespace Mapsmith.Program

namespace Run

/-! ### What is given for type variables -/

/-- Is it a type variable for any number of types, unpacked? -/
def isUnpackedVariable (m : Memory) : Object → Bool
  | .formed (.special "Unpack") [.typeVariable index] => m.variableKind index = .several
  | _ => false

/-- The types in a tuple that is unpacked. -/
def unpackedTypes? : Object → Option (List Object)
  | .formed (.special "Unpack") [.formed (.named "Tuple") args] => some args
  | .formed (.special "Unpack") [.formed (.subscripted c) args] =>
    if c = .library .tuple then some args else none
  | _ => none

/-- Types with those of unpacked tuples in their places. -/
def unpacked (os : List Object) : List Object :=
  os.flatMap fun o => match unpackedTypes? o with
    | some args => if (args.getLast?.map (·.same .ellipsis)).getD false then [o] else args
    | none => [o]

/-- What is given for the type variables of something, with all that goes to a variable for any number of types in
one row. The variables before and after it take one type each, from both ends. -/
def gatheredFor (what : String) (params : List Nat) (place : Nat) (args : List Object) : Run (List Object) := do
  let m ← get
  if (params.drop (place + 1)).any (m.variableKind · = .several) then
    refuse (.other ("More than one TypeVarTuple parameter in " ++ what))
  let (count, wanted) := (args.length, params.length)
  let right := wanted - place - 1
  let endless := args.zipIdx.filterMap fun (o, k) => match unpackedTypes? o with
    | some [type, .ellipsis] => some (type, k)
    | _ => none
  let (left, right, filling) ← match endless with
    | [] =>
      if place + right > count then
        refuse (.other ("Too few arguments for " ++ what ++ "; actual " ++ toString count
          ++ ", expected at least " ++ toString (wanted - 1)))
      pure (place, right, Object.none)
    | [(type, k)] => pure (min place k, min right (count - k - 1), type)
    | _ => refuse (.other "More than one unpacked arbitrary-length tuple argument")
  return args.take left ++ List.replicate (place - left) filling
    ++ [.row ((args.drop left).take (count - right - left))]
    ++ List.replicate (wanted - right - left - place - 1) filling ++ args.drop (count - right)

/-- What is given for the type variables of something, with all that goes to a variable for parameters in one
row. -/
def parametersFor (what : String) (params : List Nat) (place : Nat) (args : List Object) : Run (List Object) := do
  let m ← get
  match args[place]? with
  | none => refuse (.other ("Too few arguments for " ++ what))
  | some o =>
    if params.length = 1 && !m.isParameterList o then return [.row args]
    else match o with
      | .list items => return args.set place (.row items)
      | _ => return args

/-- What is given for the type variables of something, one thing for each of them if their number fits. -/
def preparedFor (what : String) (params : List Nat) (args : List Object) : Run (List Object) := do
  let m ← get
  params.zipIdx.foldlM (fun args (p, place) => match m.variableKind p with
    | .type => return args
    | .parameters => parametersFor what params place args
    | .several => gatheredFor what params place args) args

/-! ### Generic classes -/

/-- A generic class with types for its type variables. The two that declare type variables take nothing
else. -/
def generic (c : ClassId) (index : Object) : Run Object :=
  once "generic" false [.cls c, index] do
    let m ← get
    let os ← index.items.mapM (converted false)
    if c = .library .generic || c = .library .protocol then
      if os.isEmpty then
        refuse (.other ("Parameter list to " ++ m.pathOf c ++ "[...] cannot be empty"))
      let isVariable (o : Object) : Bool := match o with
        | .typeVariable i => m.variableKind i ≠ .several
        | o => isUnpackedVariable m o
      if !os.all isVariable then
        refuse (.other ("Parameters to " ++ m.pathOf c ++ "[...] must all be type variables "
          ++ "or parameter specification variables."))
      if (Object.distinct os).length ≠ os.length then
        refuse (.other ("Parameters to " ++ m.pathOf c ++ "[...] must all be unique"))
      return .formed (.generic c) os
    else
      let params := (m.parameters? c).getD []
      let os ← preparedFor (m.literal (.cls c)) params os
      checkArity (m.literal (.cls c)) os.length params.length
      return .formed (.generic c) <| (params.zip os).flatMap fun (p, o) =>
        if m.variableKind p = .several then o.items else [o]

/-- A callable type by the class of what can be called. -/
def callableClass (c : ClassId) (index : Object) : Run Object := do
  let m ← get
  match index with
  | .row [.list args, result] | .row [.row args, result] =>
    return .formed (.subscripted c) (args ++ [result])
  | .row [args, result] =>
    if m.isParameterList args then return .formed (.subscripted c) [args, result]
    refuse (.other ("Expected a list of types, an ellipsis, ParamSpec, or Concatenate. Got " ++ args.text?.getD (m.literal args)))
  | _ => refuse (.other "Callable must be used as Callable[[arg, ...], result].")

/-! ### Types for type variables -/

/-- What stands for a type variable, given what it is given. -/
def givenFor (kind : VariableKind) (arg : Object) : Run Object := do
  let m ← get
  match kind with
  | .type =>
    let o ← checked "Parameters to generic types must be types." false arg
    if o matches .formed (.special "Unpack") _ then refuse (.notAnArgument (m.spelling o))
    return o
  | .parameters => match arg with
    | .row items | .list items => return .row (← items.mapM (checked "Expected a type." false))
    | arg =>
      if m.isParameterList arg then return arg
      refuse (.other ("Expected a list of types, an ellipsis, ParamSpec, or Concatenate. Got " ++ arg.text?.getD (m.literal arg)))
  | .several => refuse (.other "Substitution of bare TypeVarTuple is not supported")

/-- Parameters of something that can be called, the last of which has been replaced. -/
def concatenated (args : List Object) : Object :=
  match args.reverse with
  | .row items :: others => .row (others.reverse ++ items)
  | .formed (.special "Concatenate") items :: others =>
    .formed (.special "Concatenate") (others.reverse ++ items)
  | _ => .formed (.special "Concatenate") args

/-- Is it a class or a form of what can be called? -/
def isCallableFormer : Former → Bool
  | .callable => true
  | .subscripted c => c = .library (.abstractCollection "Callable")
  | _ => false

mutual

/-- An object with types in the place of type variables. -/
def substituted (given : List (Nat × Object)) : Object → Run Object
  | .typeVariable index => do
    match given.lookup index with
    | some arg => givenFor ((← get).variableKind index) arg
    | none => return .typeVariable index
  | .formed .union args => do union (.row (← substitutedAll given false args))
  | .formed .bars args => do barredAll (← substitutedAll given false args)
  | .formed (.special "Concatenate") args => return concatenated (← substitutedAll given false args)
  | .formed former args => return .formed former (← substitutedAll given (isCallableFormer former) args)
  | .annotated inner notes => do withNotes notes (← substituted given inner)
  | .row items => return .row (← substitutedAll given false items)
  | o => return o

/-- Objects in a row with types in the place of type variables. Parameters are spread out where that is asked for, and
so are types for an unpacked variable. -/
def substitutedAll (given : List (Nat × Object)) (spreads : Bool) : List Object → Run (List Object)
  | [] => return []
  | .formed (.special "Unpack") [.typeVariable index] :: os => do
    let rest ← substitutedAll given spreads os
    match given.lookup index with
    | some (.row items) => return items ++ rest
    | some o => return o :: rest
    | none => return .formed (.special "Unpack") [.typeVariable index] :: rest
  | o :: os => do
    let new ← substituted given o
    let rest ← substitutedAll given spreads os
    match spreads, new with
    | true, .row items => return items ++ rest
    | _, new => return new :: rest

end

/-- A type with types for the type variables that it leaves open. -/
def again (o index : Object) : Run Object :=
  once "again" false [o, index] do
    let m ← get
    if isUnpackedVariable m o then return index
    let parameters := Object.parameters [o]
    match o with
    | .formed (.generic c) _ =>
      if c = .library .generic || c = .library .protocol then
        refuse (.other ("Cannot subscript already-subscripted " ++ m.spelling o))
    | _ => pure ()
    if parameters.isEmpty then refuse (.notGeneric (m.spelling o))
    let os ← index.items.mapM (converted false)
    let os ← preparedFor (m.spelling o) parameters (unpacked os)
    checkArity (m.spelling o) os.length parameters.length
    substituted (parameters.zip os) o

/-! ### Models -/

mutual

/-- The type variables in a type, those that a model in it leaves open included. -/
def heldVariables (m : Memory) : Object → List Nat
  | .typeVariable index => [index]
  | .cls c => ((m.model? c).map (·.parameters)).getD []
  | .formed .literal _ => []
  | .formed _ args | .list args | .row args => heldVariablesAll m args
  | .annotated inner _ => heldVariables m inner
  | _ => []

/-- The type variables in types in a row. -/
def heldVariablesAll (m : Memory) : List Object → List Nat
  | [] => []
  | o :: os => heldVariables m o ++ heldVariablesAll m os

end

/-- The order of the alternatives of a type, by which models that are given it differ. -/
def alternativeOrder : Object → Object
  | .formed .union args | .formed .bars args => .row args
  | _ => .ellipsis

/-- Gives an object the first free name in a module, of a name and those with underscores after it. -/
def bindFree (module : Nat) (o : Object) : Nat → String → Run Unit
  | 0, _ => return
  | tries + 1, name => do
    match (← get).global? module name with
    | none => modify fun m => m.bind module name o
    | some other => if other.same o then return else bindFree module o tries (name ++ "_")

/-- The method that looks after attributes of a model that are no fields. -/
def privateInitializer (module : Nat) : String × Attribute :=
  ("model_post_init", .function { module })

/-- Makes the model that another one is when it is given types. If it is made at the top of a module, the
module of the other one knows it by its name. -/
def specialize (ev : Evaluator) (isGlobal : Bool) (origin : Nat) (args : List Object)
    (parameters : List Nat) : Run Object := do
  let m ← get
  let some c := m.class? origin | return .none
  let shape := c.model.getD default
  let index := m.classes.length
  let name := c.name ++ "[" ++ ", ".intercalate (args.map m.givenName) ++ "]"
  let o := Object.cls (.program index)
  modify fun m => m.addClass {
    module := c.module
    path := name
    name
    metaclass := .model
    bases := [.program origin]
    line := .program index :: c.line
    attributes := if shape.hasPrivate then [privateInitializer 0] else []
    parameters := some []
    model := some { shape with origin := some origin, args, parameters, isBuilt := false }
    awaited := c.awaited }
  ev.settle index
  if isGlobal then
    match m.module? c.module with
    | some module => bindFree module o (m.classes.length + 2) name
    | none => return o
  return o

/-- A model with types for its type variables. -/
def modelWith (ev : Evaluator) (isGlobal : Bool) (c : Nat) (index : Object) : Run Object := do
  let m ← get
  let what := m.literal (.cls (.program c))
  let args := index.items
  checkHashable args
  once "model" false (.cls (.program c) :: args ++ args.map alternativeOrder) do
    let shape := (m.model? (.program c)).getD default
    if (m.parameters? (.program c)).isNone then
      refuse (.other (what ++ " cannot be parametrized because it does not inherit from typing.Generic"))
    if shape.parameters.isEmpty then refuse (.notGeneric what)
    checkArity what args.length shape.parameters.length
    if Object.sameAll args (shape.parameters.map .typeVariable) then
      return .cls (.program c)
    let all ← if shape.args.isEmpty then pure args
      else shape.args.mapM (substituted (shape.parameters.zip args))
    let origin := shape.origin.getD c
    once "specialized" false (.cls (.program origin) :: all ++ all.map alternativeOrder)
      (specialize ev isGlobal origin all (heldVariablesAll m args).eraseDups)

/-! ### Subscripts -/

/-- What a class of the program says itself of something in its subscript, if it does. -/
def saidOfSubscript? (ev : Evaluator) (id : ClassId) (arg : Object) : Run (Option Object) := do
  match ownAttribute? (← get) id "__class_getitem__" with
  | some (.object f) =>
    let scope : Scope := { near := .names [], far := .names [] }
    return some (← ev.call scope (← hadFrom none id f) (.ofItems [arg]))
  | some (.function _) => return some .none
  | _ => return none

/-- What a class of the program with something in its subscript stands for. -/
def classWith (ev : Evaluator) (isGlobal : Bool) (index : Nat) (c : ClassObject) (arg : Object) :
    Run Object := do
  let id := ClassId.program index
  let m ← get
  if c.metaclass = .enum then
    checkHashable [arg]
    let some name := m.asText? arg | throw .noEntry
    if (c.values.lookup name).isSome then return .enumValue index name
    match c.otherNames.lookup name with
    | some first => return .enumValue index first
    | none => throw .noEntry
  else if let some answer ← saidOfSubscript? ev id arg then return answer
  else if c.metaclass = .model then modelWith ev isGlobal index arg
  else
    let taker := (m.line id).find? fun a => match a with
      | .library l => l.takesTypes || l = .generic
      | .program i => (m.class? i).any fun a => a.tuple.isSome && .library .generic ∈ a.bases
    match taker with
    | none => refuse (.notSubscriptable ("type " ++ Text.quote c.name))
    | some (.library l) =>
      if l = .generic then generic id arg else return .formed (.subscripted id) arg.items
    | some (.program _) => generic id arg

/-- What a special form with something in its subscript stands for. -/
def specialWith (name : String) (index : Object) : Run Object :=
  if name = "Union" then union index
  else if name = "Optional" then optional index
  else if name = "Literal" then literal index
  else if name = "Concatenate" then concatenate index
  else if name ∈ typeForms then refuse (.notSubscriptable ("typing." ++ name))
  else special name index

/-! ### All objects -/

/-- The type of a name that is there for construction only. -/
def forConstruction (type : Object) : Run Object := do
  let m ← get
  let shown := match type with
    | .cls c => m.nameOf c
    | o => m.literal o
  newMade (.library .forConstruction) [] [("type", type)]
    [(Memory.shownName, .text ("dataclasses.InitVar[" ++ shown ++ "]"))]

/-- The classes of the library that note something of the type that they are given, each with how the note is
written. -/
def notingClasses : List (String × String) :=
  [("Json", "Json"), ("SkipValidation", "SkipValidation()"), ("SerializeAsAny", "SerializeAsAny()"),
    ("InstanceOf", "InstanceOf()"), ("ImportString", "ImportString")]

/-- A type with a note of a class that notes something of what it is given. -/
def notedBy (c : LibraryClass) (shown : String) (type : Object) : Run Object := do
  let note ← newMade (.library c) [] [] [(Memory.shownName, .text shown), (Object.byValue, .none)]
  annotated (.row [type, note])

/-- What a class of the library with something in its subscript stands for. -/
def libraryClassWith (c : LibraryClass) (index : Object) : Run Object := do
  if c = .annotated then annotated index
  else if c = .forConstruction then forConstruction index
  else if c = .generic || c = .protocol then generic (.library c) index
  else if c = .abstractCollection "Callable" then callableClass (.library c) index
  else if c.takesTypes then return .formed (.subscripted (.library c)) index.items
  else if c = .model then
    refuse (.other "Type parameters should be placed on typing.Generic, not BaseModel")
  else if c.isEnumeration then throw .noEntry
  else match notingClasses.lookup c.name with
    | some shown => notedBy c shown index
    | none => refuse (.notSubscriptable ("type " ++ Text.quote c.typeName))

/-- What an object with something in its subscript stands for. At the top of a module, a model that is
given types gets a name. -/
def subscript (ev : Evaluator) (s : Scope) (owner index : Object) : Run Object := do
  let m ← get
  match owner with
  | .cls (.program i) => match m.class? i with
    | some c => classWith ev s.isGlobal i c (← whole index)
    | none => return .none
  | .cls (.library c) => libraryClassWith c (← whole index)
  | .special name => specialWith name (← whole index)
  | .named name => match namedForms.lookup name with
    | some form => named name form (← whole index)
    | none => return .none
  | .formed .. | .annotated .. => again owner (← whole index)
  | owner => valueWith ev s owner index

end Run

end Mapsmith.Program
