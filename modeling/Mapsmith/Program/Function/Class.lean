import Mapsmith.Program.Dataclass
import Mapsmith.Program.Enum
import Mapsmith.Program.Function.Records

/-!
# Functions that make classes

An enum that is called finds the value that is kept in one of its own, or, if it is told names, makes another enum
of these. A dataclass can be made of a name and its fields.
-/

namespace Mapsmith.Program

namespace Run

/-! ### Enums -/

/-- A value of an enum, by what is kept in it. -/
def valueOf (index : Nat) (c : ClassObject) (o : Object) : Run Object := do
  let m ← get
  match m.seen o with
  | .enumValue owner _ => if owner = index then return m.seen o
  | _ => pure ()
  let rec find : List (String × Object) → Run (Option String)
    | [] => return none
    | (name, kept) :: rest => do if ← alike kept o then return some name else find rest
  match ← find c.values with
  | some name => return .enumValue index name
  | none => match m.plain o with
    | .constant v => match v, v.count? with
      | .float _, _ | _, none => throw .badValue
      | _, some n => if m.isFlag index then flagValue index n else throw .badValue
    | _ => throw .badValue

/-- A class that is made while a program runs, put under those that are known. -/
def addMade (ev : Evaluator) (module : Option String) (path name : String) (metaclass : Metaclass) (bases : Bases)
    (b : Body) : Run Nat := do
  let m ← get
  let index := m.classes.length
  let line ← bases.line index
  let told ← Particulars.told ev (module.getD "") path name bases b.attributes (!b.annotations.isEmpty)
  modify fun m => m.addClass {
    module := told.module
    path := told.path
    name
    metaclass
    bases := bases.classes
    line
    attributes := told.attributes
    annotations := b.annotations
    places := told.places
    parameters := if .library .generic ∈ line then some [] else none }
  return index

/-- The values that stand for names that are told without any. -/
def generated (ev : Evaluator) (base : ClassId) (start : Object) (names : List String) :
    Run (List (String × Object)) := do
  let m ← get
  if declares m base Enum.generatorName then return names.map (·, Object.none)
  let isOf (name : String) : Bool := m.inherits base (.library ⟨"enum", name⟩)
  if isOf "StrEnum" then return names.map fun n => (n, .text n.toLower)
  else if isOf "Flag" then
    let first ← integer start
    let next (n : Int) : Int := if n ≤ 0 then 1 else Int.ofNat (Nat.pow 2 (n.natAbs.log2 + 1))
    let (all, _) := names.foldl (fun (done, n) name => (done ++ [(name, intOf n)], next n)) ([], first)
    return all
  else
    let (all, _) ← names.foldlM (fun (done, o) name => do
      return (done ++ [(name, o)], ← operated ev "+" o (intOf 1))) (([] : List (String × Object)), start)
    return all

/-- The names that are told for an enum, with what is to be kept in their values. -/
def namesWithValues (ev : Evaluator) (base : ClassId) (names start : Object) :
    Run (List (String × Object)) := do
  let m ← get
  let given ← match m.plain names, m.entries? names with
    | .constant (.str _), _ => pure ((← namesGiven ev names).map Object.text)
    | _, some entries => pure entries
    | _, none => parts ev names
  match given.head?.map m.plain with
  | some (.constant (.str _)) =>
    generated ev base start (← given.mapM (textual "name"))
  | _ => given.mapM fun o => do
    match ← parts ev o with
    | [name, o] => return (← textual "name" name, ← whole o)
    | _ => throw .badValue

/-- An enum of a name and the names of its values, which extends another one. -/
def makeEnum (ev : Evaluator) (s : Scope) (base : ClassId) (args : List (Option Object)) : Run Object := do
  let m ← get
  let told (place : Nat) : Option Object := (argAt args place).filter (!·.same .none)
  let name := argOr args 0
  let given := (told 4).toList ++ [Object.cls base]
  let bases ← Bases.ofObjects given
  if bases.classes.any fun c => (m.line c).any fun a => !(Enum.valuesOf m a).isEmpty then
    refuse (.other ("<enum " ++ (← written name) ++ "> cannot extend " ++ m.written (.cls base)))
  let names ← namesWithValues ev base (argOr args 1) ((argAt args 5).getD (intOf 1))
  let some shown := (m.plain name).text?
    | refuse (.other ("type.__new__() argument 1 must be str, not " ++ m.typeName name))
  let module ← match told 2 with
    | some o => pure (m.plain o).text?
    | none => moduleNameIn s
  let path := ((told 3).bind fun o => (m.plain o).text?).getD shown
  let start : Body := {
    owner := shown, path, attributes := ← Enum.start s.moduleIndex bases, entryNames := some {} }
  let body ← names.foldlM (fun b (name, o) => b.assign name (.object o)) start
  let index ← addMade ev (some (module.getD "<unknown>")) path shown .enum bases body
  Enum.make ev s index bases body
  return .cls (.program index)

/-- What an enum makes of what it is given: the value that is kept in one of its own, or an enum of the names that
it is told. -/
def enumCall (ev : Evaluator) (s : Scope) (c : ClassId) (given : Arguments) : Run Object := do
  let args ← takenBy "EnumType.__call__()" "value names? * module? qualname? type? start? boundary?" given
  match (argAt args 1).filter (!·.same .none), c with
  | some _, _ => makeEnum ev s c args
  | none, .program index => match (← get).class? index with
    | some o => valueOf index o (argOr args 0)
    | none => throw .badValue
  | none, .library _ => throw .badValue

/-! ### Dataclasses -/

/-- The field that is told for a dataclass: its name, its type and the value that stands for it. -/
def fieldTold (ev : Evaluator) (o : Object) : Run (String × Object × Option Object) := do
  let m ← get
  let (name, type, usual) ← match (m.plain o).text? with
    | some _ => pure (o, Object.text "typing.Any", none)
    | none => match ← parts ev o with
      | [name, type] => pure (name, type, none)
      | [name, type, usual] => pure (name, type, some usual)
      | _ => refuse (.other ("Invalid field: " ++ m.written o))
  let shown ← written name
  match (m.plain name).text? with
  | some s =>
    if !Text.isIdentifier s then refuse (.other ("Field names must be valid identifiers: " ++ shown))
    if s ∈ Token.keywords then refuse (.other ("Field names must not be keywords: " ++ shown))
    return (s, ← whole type, usual)
  | none => refuse (.other ("Field names must be valid identifiers: " ++ shown))

/-- A dataclass of a name and its fields. -/
def makeDataclass (ev : Evaluator) (given : Arguments) : Run Object := do
  let args ← taken "make_dataclass()" ("cls_name fields * bases? namespace? init? repr? eq? order? unsafe_hash? "
    ++ "frozen? match_args? kw_only? slots? weakref_slot?") given
  let name ← textual "type.__new__() argument 1" (argOr args 0)
  let fields ← (← parts ev (argOr args 1)).mapM (fieldTold ev)
  match fields.find? fun f => (fields.filter (·.1 = f.1)).length > 1 with
  | some (name, _) => refuse (.other ("Field name duplicated: " ++ Text.quote name))
  | none => pure ()
  let held ← match argAt args 3 with
    | some o => pure (((← get).entries? o).getD [])
    | none => pure []
  let bases ← match argAt args 2 with
    | some o => Bases.ofObjects (← parts ev o)
    | none => Bases.ofObjects []
  let usual := fields.filterMap fun (name, _, o) => o.map fun o => (name, Attribute.object o)
  let own := (Memory.namesOf held).map fun (name, o) => (name, Attribute.object o)
  let body : Body := {
    owner := name, path := name, attributes := setEntries own usual
    annotations := fields.map fun (name, type, _) => (name, type) }
  let some metaclass := bases.metaclass (← get) | refuse conflict
  let index ← addMade ev (some "types") name name metaclass bases body
  let isFrozen ← match argAt args 9 with
    | some o => isTrue ev o
    | none => pure false
  Dataclass.make index isFrozen
  return .cls (.program index)

/-- What a function makes that makes classes, by its name with its module. -/
def makeClassBy? (ev : Evaluator) (name : String) (given : Arguments) : Run (Option Object) := do
  match name with
  | "dataclasses.make_dataclass" => return some (← makeDataclass ev given)
  | "dataclasses.dataclass.<locals>.wrap" => decorated given
  | "dataclasses.dataclass" =>
    if given.inPlace.isEmpty then return none else decorated given
  | _ => return none
where
  /-- What becomes of a class that is made a dataclass. -/
  decorated (given : Arguments) : Run (Option Object) := do
    match given.inPlace with
    | o@(.cls (.program index)) :: _ =>
      Dataclass.make index false
      return some o
    | _ => return none

end Run

end Mapsmith.Program
