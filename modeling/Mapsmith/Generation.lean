import Mapsmith.Directive.Resolution
import Mapsmith.Emission.GeneratedUnit
import Mapsmith.PlanCache
import Mapsmith.Planning
import Mapsmith.Validation

/-!
# Generation passes

One pass goes from a type graph to generated units: it resolves the directives, plans and validates
each of them, withholds the plans that call routines which will not exist, and generates the rest.
What goes wrong with a directive becomes a diagnostic. A plan depends on nothing but its key, the
`Mapsmith.Generation.PlanKey`, so passes over unchanged types take their plans from the cache.
-/

namespace Mapsmith.Generation

/-- Everything a plan and its diagnostics depend on. -/
structure PlanKey where
  /-- The directive. -/
  directive : Directive
  /-- The types it can reach. -/
  closure : List TypeDescriptor
  /-- All directives of the pass. -/
  directives : List Directive
  /-- The settings. -/
  config : Config
  deriving DecidableEq, Repr

/-- What planning a directive yields: the plan, if there is one, and what was found. -/
structure Entry where
  /-- The plan. -/
  plan : Option Plan
  /-- What was found. -/
  diagnostics : List Diagnostic
  deriving Repr

/-- The cache of a pass. -/
abbrev Cache := PlanCache PlanKey Entry

/-- Why a pass ends without a result. -/
inductive PassError
  /-- A plan could not be made, for a reason that is no fault of its directive. -/
  | planning (e : PlanningError)
  /-- A plan could not be rendered. -/
  | emission (e : Emission.EmissionError)
  deriving DecidableEq, Repr

/-- A step of a pass worth telling. -/
inductive Event
  /-- The pass begins. -/
  | started (types directives : Nat)
  /-- A directive is planned. -/
  | planning (directive : Directive)
  /-- A plan was in the cache. -/
  | cacheHit (directive : Directive)
  /-- A directive could not be planned. -/
  | failed (directive : Directive) (detail : String)
  /-- A unit is generated. -/
  | emitting (plans : Nat) (ns : String)
  /-- The pass ends. -/
  | finished (units plans errors warnings : Nat)
  deriving Repr

/-- The wording of an event. -/
def Event.text : Event → String
  | started types directives =>
    "Generation pass over " ++ toString types ++ " type(s), " ++ toString directives
      ++ " directive(s)"
  | planning d => "Planning " ++ d.describe
  | cacheHit d => "Plan cache hit for " ++ d.describe
  | failed d detail => "Planning " ++ d.describe ++ " failed: " ++ detail
  | emitting plans ns => "Emitting " ++ toString plans ++ " plan(s) into " ++ ns
  | finished units plans errors warnings =>
    "Generated " ++ toString units ++ " unit(s) from " ++ toString plans ++ " plan(s); "
      ++ toString errors ++ " error(s), " ++ toString warnings ++ " warning(s)"

/-- What a pass carries along: the cache, and what has happened so far. -/
structure PassState where
  /-- The cache. -/
  cache : Cache
  /-- What has happened. -/
  events : List Event := []

/-- Steps of a pass. What they do to the cache stays when they fail. -/
abbrev PassM := ExceptT PassError (StateM PassState)

/-- Notes an event. -/
def note (e : Event) : PassM Unit :=
  modify fun s => { s with events := s.events ++ [e] }

/-! ### Planning with the cache -/

/-- What the pass is over. -/
structure Setting where
  /-- The settings. -/
  config : Config
  /-- The directives and types. -/
  index : DirectiveIndex

namespace Setting

variable (s : Setting)

/-- The key of a directive's plan. -/
def key (d : Directive) : PlanKey :=
  ⟨d, s.index.graph.closure d.typeNames, s.index.directives, s.config⟩

/-- The report that a directive has no plan. -/
def planFailed (d : Directive) (location : Location) (detail : String) : Diagnostic :=
  ⟨.planFailed d.source d.target detail, location⟩

/-- Plans and validates the directive at a position. -/
def entry (position : Nat) (d : Directive) : Except PlanningError Entry :=
  match (Planning.mk s.index s.config.equivalenceGroups).plan d with
  | .ok plan => .ok ⟨some plan, Validation.validate s.index plan (s.index.conflict position)⟩
  | .error e =>
    match e.failure? with
    | some failure =>
      let anchor := ((s.index.graph.get? d.source).map (·.anchor)).getD (.ofSymbol d.source)
      .ok ⟨none, [planFailed d (d.location.getD anchor) failure.message]⟩
    | none => .error e

/-- The entry of a directive, from the cache if it is there. -/
def cachedEntry (position : Nat) (d : Directive) : PassM Entry := do
  let key := s.key d
  let (found, cache) := (← get).cache.get key
  modify fun state => { state with cache }
  match found with
  | some entry =>
    note (.cacheHit d)
    return entry
  | none =>
    note (.planning d)
    match s.entry position d with
    | .error e => throw (.planning e)
    | .ok entry =>
      if entry.plan.isNone then
        for diagnostic in entry.diagnostics do
          match diagnostic.problem with
          | .planFailed _ _ detail => note (.failed d detail)
          | _ => pure ()
      modify fun state => { state with cache := state.cache.put key entry }
      return entry

/-- The entries of directives from a position on. -/
def cachedEntries : Nat → List Directive → PassM (List (Directive × Entry))
  | _, [] => return []
  | position, d :: ds => do
    let entry ← s.cachedEntry position d
    return (d, entry) :: (← cachedEntries (position + 1) ds)

end Setting

/-! ### Withholding plans -/

/-- The public routines that a plan calls, those of other directives included. -/
def publicCalls : Plan → List RoutineRef
  | .enum .. => []
  | .object m reverse helpers =>
    (Mapping.object m :: (reverse.toList.map .object ++ helpers)).flatMap fun part =>
      (part.calls.filter fun r => !r.helper) ++ part.dispatch.map (·.routine)

/-- The routines that the plans of a pass define for others, each with its namespace. -/
def provided (plans : List Plan) : List (String × String) :=
  plans.flatMap fun p => p.publicMappings.map fun m => (p.home, m.routine.name)

/-- The names of the routines a plan calls that none of some plans defines, in order. -/
def missingRoutines (plans : List Plan) (p : Plan) : List String :=
  let defined := provided plans
  let stranded (r : RoutineRef) : Bool :=
    !defined.any fun (home, name) => home = r.home && name = r.name
  Text.sort (((publicCalls p).filter stranded).map (·.name))

/-- A plan without errors of its own, beside its directive. -/
structure ValidPlan where
  /-- The directive. -/
  directive : Directive
  /-- Its plan. -/
  plan : Plan
  deriving Repr

/-- The first plan that calls a routine which none defines, and that routine. -/
def firstStranded (kept : List ValidPlan) : Option (Nat × ValidPlan × String) :=
  let plans := kept.map (·.plan)
  kept.zipIdx.findSome? fun (v, i) =>
    (missingRoutines plans v.plan).head?.map fun name => (i, v, name)

/-- The report that a plan is withheld for want of a routine. -/
def stranded (v : ValidPlan) (name : String) : Diagnostic :=
  Setting.planFailed v.directive (v.directive.location.getD v.plan.source.anchor)
    ("depends on routine '" ++ name ++ "' whose mapping has errors")

/-- Withholds stranded plans one by one, in at most so many steps. -/
def withholdWithin : Nat → List ValidPlan → List ValidPlan × List Diagnostic
  | 0, kept => (kept, [])
  | steps + 1, kept =>
    match firstStranded kept with
    | none => (kept, [])
    | some (i, v, name) =>
      let (rest, diagnostics) := withholdWithin steps (kept.eraseIdx i)
      (rest, stranded v name :: diagnostics)

/-- Withholds plans that call routines which will not exist, until none is left; withholding one
can strand another. -/
def withhold (valid : List ValidPlan) : List ValidPlan × List Diagnostic :=
  withholdWithin valid.length valid

/-! ### A pass -/

/-- What a pass yields. -/
structure PassResult where
  /-- The generated units. -/
  units : List Emission.GeneratedUnit
  /-- Everything found, in the order in which it is listed. -/
  diagnostics : List Diagnostic
  /-- The plans the units are generated from. -/
  plans : List Plan
  /-- The keys of these plans. -/
  keys : List PlanKey
  deriving Repr

namespace PassResult

/-- The errors. -/
def errors (r : PassResult) : List Diagnostic :=
  r.diagnostics.filter (·.isError)

/-- The warnings. -/
def warnings (r : PassResult) : List Diagnostic :=
  r.diagnostics.filter fun d => !d.isError

/-- Is there an error? -/
def hasErrors (r : PassResult) : Bool :=
  Diagnostic.anyError r.diagnostics

/-- The unit of a module name. -/
def unit? (r : PassResult) (module : String) : Option Emission.GeneratedUnit :=
  r.units.find? (·.module == module)

end PassResult

/-- The plans without errors among entries. -/
def validPlans (entries : List (Directive × Entry)) : List ValidPlan :=
  entries.filterMap fun (d, entry) =>
    if Diagnostic.anyError entry.diagnostics then none
    else entry.plan.map fun plan => ⟨d, plan⟩

/-- Runs a pass over a type graph. -/
def pass (config : Config) (g : TypeGraph) : PassM PassResult := do
  let resolved := Directive.Resolution.ofGraph g
  let s : Setting := ⟨config, ⟨resolved.directives, g⟩⟩
  note (.started g.size resolved.directives.length)
  let entries ← s.cachedEntries 0 resolved.directives
  let (kept, withheld) := withhold (validPlans entries)
  let plans := kept.map (·.plan)
  for ns in Emission.namespaces plans do
    note (.emitting (Emission.plansOf plans ns).length ns)
  match Emission.generateUnits config (some g) plans with
  | .error e => throw (.emission e)
  | .ok units =>
    let result : PassResult :=
      { units, plans, keys := kept.map fun v => s.key v.directive
        diagnostics :=
          Diagnostic.sort (resolved.diagnostics ++ entries.flatMap (·.2.diagnostics) ++ withheld) }
    note (.finished units.length plans.length result.errors.length result.warnings.length)
    return result

/-- Runs a pass with a cache: its result, the cache afterwards and what happened. -/
def runPass (config : Config) (g : TypeGraph) (cache : Cache) :
    Except PassError PassResult × PassState :=
  (pass config g).run.run ⟨cache, []⟩

/-- Runs a pass on its own. -/
def generate (config : Config) (g : TypeGraph) : Except PassError PassResult :=
  (runPass config g { capacity := config.cacheSize }).1

end Mapsmith.Generation
