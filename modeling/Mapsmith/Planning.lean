import Mapsmith.DirectiveIndex
import Mapsmith.EnumMatching
import Mapsmith.Matching
import Mapsmith.Plan

/-!
# Planning

From a directive to its plan. Members of object type are mapped by the routine of a directive where
there is one; for the other pairs a private mapping is planned on the spot, and its own members
may call for more. Two things end that recursion: a pair that is being planned is not planned
again, and a private mapping that exists already is used as it is. So planning goes no deeper than
there are pairs of types, which `Mapsmith.Planning.depth` counts.
-/

namespace Mapsmith

/-- What planning a directive depends on. -/
structure Planning where
  /-- The directives of the pass over its types. -/
  index : DirectiveIndex
  /-- The groups of enum values that count as equal. -/
  groups : List (List String)

/-- The private mappings planned so far, by the names of their routines. -/
abbrev HelperTable := List (String × Mapping)

namespace HelperTable

/-- The table with a mapping under a name, in place of an earlier one. -/
def insert (table : HelperTable) (name : String) (mapping : Mapping) : HelperTable :=
  if table.any (·.1 == name) then
    table.map fun entry => if entry.1 = name then (name, mapping) else entry
  else table ++ [(name, mapping)]

/-- Is there a mapping under the name? -/
def contains (table : HelperTable) (name : String) : Bool :=
  table.any (·.1 == name)

/-- The mappings in the order of their names. -/
def sorted (table : HelperTable) : List Mapping :=
  (Text.sortByKey (fun entry => [entry.1]) table).map (·.2)

end HelperTable

/-- Planning steps: they can fail, and they add private mappings. -/
abbrev PlanM := StateT HelperTable (Except PlanningError)

namespace Planning

variable (p : Planning)

/-- The types of the pass. -/
def graph : TypeGraph :=
  p.index.graph

/-- A type of the graph. -/
def getType (name : String) : Except PlanningError TypeDescriptor :=
  match p.graph.get? name with
  | some t => .ok t
  | none => .error (.typeNotFound name)

/-! ### Enums -/

/-- The mapping of two enums; the table is empty if the target is no enum. -/
def enumMapping (d : Directive) (routine : RoutineRef) : Except PlanningError EnumMapping := do
  let source ← p.getType d.source
  let target ← p.getType d.target
  let values :=
    if target.kind = .enum then
      EnumMatching.matchValues p.groups source.enumValues target.enumValues
    else []
  return { directive := d, source, target, routine, values }

/-! ### Objects -/

/-- The type parameters of two types, each name once. -/
def mergeParameters (source target : TypeDescriptor) : List GenericParameter :=
  (source.genericParameters ++ target.genericParameters).foldl
    (fun seen q => if seen.any (·.name == q.name) then seen else seen ++ [q]) []

/-- The name of the private routine for a pair of object types under a strategy. -/
def helperName (source target : TypeDescriptor) (strategy : NamingStrategy) : String :=
  RoutineName.helper source.name target.name ++
    (if strategy = .identity then "" else "_" ++ strategy.word)

/-- What one planning run is about: where its private routines live and where its diagnostics
point. -/
structure Owner where
  /-- The namespace of the plan. -/
  home : String
  /-- The location of its directive. -/
  location : Option Location

/-- Supplies the routine of a pair of enums, planning a private mapping if need be. -/
def supplyEnum (owner : Owner) (source target : String) : PlanM (Option RoutineRef) := do
  match p.index.routineFor source target with
  | some declared => return some declared
  | none =>
    let s ← (p.getType source : Except PlanningError _)
    let t ← (p.getType target : Except PlanningError _)
    let ref : RoutineRef := ⟨RoutineName.helper s.name t.name, source, target, owner.home, true⟩
    if (← get).contains ref.name then return some ref
    else
      let mapping ← (p.enumMapping { source, target, location := owner.location } ref :
        Except PlanningError _)
      modify (·.insert ref.name (.enum mapping))
      return some ref

/-- Plans the mapping of a directive between object types, and on the way the private mappings it
needs. `path` holds the pairs that are being planned, so many levels are left. -/
def objectMapping (owner : Owner) :
    Nat → List (String × String) → Bool → Directive → RoutineRef → PlanM ObjectMapping
  | 0, _, _, _, _ => throw .tooDeep
  | levels + 1, path, inverseRenames, d, routine => do
    let source ← (p.getType d.source : Except PlanningError _)
    let target ← (p.getType d.target : Except PlanningError _)
    if !target.kind.isObject || source.kind = .enum then
      return { directive := d, source, target, routine }
    else
      let path := d.pair :: path
      let supply : Matching.Supplier HelperTable := fun request =>
        match request with
        | .enum s t => p.supplyEnum owner s t
        | .nested s t => do
          match p.index.routineFor s t with
          | some declared => return some declared
          | none =>
            let src ← (p.getType s : Except PlanningError _)
            let tgt ← (p.getType t : Except PlanningError _)
            if src.kind = .enum || !tgt.kind.isObject then return none
            else
              let ref : RoutineRef := ⟨helperName src tgt d.strategy, s, t, owner.home, true⟩
              if (s, t) ∈ path || (← get).contains ref.name then return some ref
              else
                let inner : Directive :=
                  { source := s, target := t, strategy := d.strategy, location := owner.location }
                let mapping ← objectMapping owner levels path false inner ref
                modify (·.insert ref.name (.object mapping))
                return some ref
      let options : Matching.Options :=
        { strategy := d.strategy, flatten := d.flattening.isOn, includePrivate := d.includePrivate.isOn,
          inverseRenames }
      let result ← Matching.matchMembers p.graph supply options source target
      return { directive := d, source, target, routine
               result := if inverseRenames then { result with danglingRenames := [] } else result
               genericParameters := mergeParameters source target }

/-- How deep planning can go: once for every pair of types, and once more. -/
def depth : Nat :=
  p.graph.size * p.graph.size + 1

/-! ### Plans -/

/-- The dispatch over the derived pairs of a directive, as far as they have routines. -/
def dispatch (d : Directive) : List DerivedPair → Except PlanningError (List DispatchEntry)
  | [] => .ok []
  | pair :: rest =>
    if pair.source = d.source then .error (.repeatedBase d.describe)
    else do
      let entries ← dispatch d rest
      match p.index.routineFor pair.source pair.target with
      | some routine => return ⟨pair.source, pair.target, routine⟩ :: entries
      | none => return entries

/-- The routine of the way from one type to another, in the namespace of the target. -/
def routineBetween (source target : TypeDescriptor) (home : String) : RoutineRef :=
  ⟨RoutineName.forward source.name target.name, source.qualifiedName, target.qualifiedName, home,
    false⟩

/-- The mappings of both directions between object types. -/
def objectMappings (d : Directive) (source target : TypeDescriptor) :
    PlanM (ObjectMapping × Option ObjectMapping) := do
  let owner : Owner := ⟨target.module, d.location⟩
  let forward ←
    p.objectMapping owner p.depth [] false d (routineBetween source target target.module)
  if d.bidirectional.isOn && target.kind.isObject && source.kind.isObject then
    let reverse ← p.objectMapping owner p.depth [] true d.reversed
      (routineBetween target source target.module)
    return (forward, some reverse)
  else return (forward, none)

/-- The plan of a directive between object types. -/
def objectPlan (d : Directive) (source target : TypeDescriptor) : Except PlanningError Plan := do
  let ((forward, reverse), helpers) ← (p.objectMappings d source target).run []
  let dispatch ← p.dispatch d d.derived
  let forward :=
    { forward with
      updateRoutine := if d.update.isOn then some (RoutineName.update source.name target.name) else none
      projectionRoutine :=
        if d.projection.isOn then some (RoutineName.projection source.name target.name) else none
      projection := if d.projection.isOn then forward.mappings.filter (·.projectable) else []
      projectionExcluded :=
        if d.projection.isOn then
          (forward.mappings.filter fun m => !m.projectable).map (·.targetMember)
        else []
      dispatch
      genericParameters := mergeParameters source target }
  return .object forward reverse helpers.sorted

/-- The plan of a directive from an enum. -/
def enumPlan (d : Directive) (source target : TypeDescriptor) : Except PlanningError Plan := do
  let forward ← p.enumMapping d (routineBetween source target target.module)
  if d.bidirectional.isOn && target.kind = .enum then
    let reverse ← p.enumMapping d.reversed (routineBetween target source target.module)
    return .enum forward (some reverse)
  else return .enum forward none

/-- The plan of a directive. -/
def plan (d : Directive) : Except PlanningError Plan := do
  let source ← p.getType d.source
  let target ← p.getType d.target
  if source.kind = .enum then p.enumPlan d source target else p.objectPlan d source target

end Planning

end Mapsmith
