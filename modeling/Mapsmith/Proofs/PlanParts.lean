import Mapsmith.Proofs.Planning

/-!
# The parts of a plan

The plan of a directive between object types consists of the mapping of the declared direction, that
of the way back where there is one, and private mappings. Both directions are the mappings under
settled answers. The private mappings serve the requests that the plan wants
(`Mapsmith.Planning.Wanted`): the private ones among those that its two directions make, and among
those that the mappings for wanted requests make. Every private routine that some part of the plan
calls has a private mapping under its name.
-/

namespace Mapsmith.Planning

open Matching

variable {p : Planning} {d : Directive} {source target : TypeDescriptor}

/-! ### Wanted requests -/

/-- Has the plan of a directive between object types a way back? -/
def goesBack (d : Directive) (source target : TypeDescriptor) : Bool :=
  d.bidirectional.isOn && target.kind.isObject && source.kind.isObject

/-- The private requests that the plan of a directive has to serve. -/
inductive Wanted (p : Planning) (d : Directive) : Request → Prop
  /-- Those of the declared direction. -/
  | ahead {request name} (hasked : request ∈ p.asked false d)
    (hname : p.privateName? d.strategy request = some name) : Wanted p d request
  /-- Those of the way back. -/
  | back {request name source target} (hs : p.graph.get? d.source = some source)
    (ht : p.graph.get? d.target = some target) (hback : goesBack d source target = true)
    (hasked : request ∈ p.asked true d.reversed)
    (hname : p.privateName? d.strategy request = some name) : Wanted p d request
  /-- Those of the private mapping for a wanted request. -/
  | inside {outer request name} (houter : Wanted p d outer)
    (hasked : request ∈ p.inside d.strategy outer)
    (hname : p.privateName? d.strategy request = some name) : Wanted p d request

theorem Wanted.exists_name {request : Request} (h : Wanted p d request) :
    ∃ name, p.privateName? d.strategy request = some name := by
  cases h with
  | ahead _ hname | back _ _ _ _ hname | inside _ _ hname => exact ⟨_, hname⟩

/-! ### Dispatch -/

theorem dispatch_eq_ok {pairs : List DerivedPair} {entries : List DispatchEntry}
    (h : p.dispatch d pairs = .ok entries) :
    entries = pairs.filterMap fun pair =>
      (p.index.routineFor pair.source pair.target).map (⟨pair.source, pair.target, ·⟩) := by
  induction pairs generalizing entries with
  | nil =>
    cases h
    rfl
  | cons pair pairs ih =>
    unfold dispatch at h
    split at h
    · cases h
    obtain ⟨rest, hrest, h⟩ := Steps.bind_eq_ok.1 h
    rw [List.filterMap_cons]
    cases hroutine : p.index.routineFor pair.source pair.target with
    | none =>
      rw [hroutine] at h
      cases h
      exact ih hrest
    | some routine =>
      rw [hroutine] at h
      cases h
      rw [Option.map_some, ih hrest]

/-! ### Plans between object types -/

/-- Where the private routines of a directive's plan live. -/
def ownerOf (d : Directive) (target : TypeDescriptor) : Owner :=
  ⟨target.module, d.location⟩

/-- The mapping of the declared direction, with everything that belongs to it alone. -/
def forwardMapping (p : Planning) (d : Directive) (source target : TypeDescriptor)
    (entries : List DispatchEntry) : ObjectMapping :=
  let m := p.mappingWith target.module false d (routineBetween source target target.module) source target
  { m with
    updateRoutine := if d.update.isOn then some (RoutineName.update source.name target.name) else none
    projectionRoutine :=
      if d.projection.isOn then some (RoutineName.projection source.name target.name) else none
    projection := if d.projection.isOn then m.mappings.filter (·.projectable) else []
    projectionExcluded :=
      if d.projection.isOn then (m.mappings.filter fun c => !c.projectable).map (·.targetMember) else []
    dispatch := entries
    genericParameters := mergeParameters source target }

/-- The mapping of the way back. -/
def reverseMapping? (p : Planning) (d : Directive) (source target : TypeDescriptor) :
    Option ObjectMapping :=
  if goesBack d source target then
    some (p.mappingWith target.module true d.reversed (routineBetween target source target.module)
      target source)
  else none

/-- **The private mappings of a plan** serve what the plan wants, each under a name of its own, and
whatever private routine one of some mappings calls is there. -/
structure Helpers (p : Planning) (d : Directive) (target : TypeDescriptor) (helpers : List Mapping)
    (callers : List Mapping) : Prop where
  nodup : (helpers.map (·.routine.name)).Nodup
  made : ∀ h ∈ helpers, ∃ request name, Wanted p d request ∧
    p.privateName? d.strategy request = some name ∧
    Serves p (ownerOf d target) d.strategy request (privateRef target.module request name) h
  there : ∀ m ∈ callers, ∀ r ∈ m.calls, r.helper = true → ∃ h ∈ helpers, h.routine.name = r.name

theorem helpers_of_table {table : HelperTable} {callers : List Mapping}
    (htable : Table p (ownerOf d target) d.strategy (Wanted p d) [] table)
    (hcallers : ∀ m ∈ callers, ∀ r ∈ m.calls, r.helper = true → table.contains r.name = true) :
    Helpers p d target table.sorted (callers ++ table.sorted) := by
  have hmem : ∀ h, h ∈ table.sorted ↔ ∃ e ∈ table, e.2 = h := fun h => by
    rw [HelperTable.sorted_perm.mem_iff, List.mem_map]
  have hname : ∀ e ∈ table, e.2.routine.name = e.1 := fun e he => by
    obtain ⟨request, -, -, hserves⟩ := htable.made e he
    rw [hserves.routine_eq, privateRef]
  have hthere : ∀ name, table.contains name = true → ∃ h ∈ table.sorted, h.routine.name = name := by
    intro name hcontains
    obtain ⟨e, he, rfl⟩ := List.mem_map.1 (HelperTable.contains_iff.1 hcontains)
    exact ⟨e.2, (hmem _).2 ⟨e, he, rfl⟩, hname e he⟩
  refine ⟨?_, ?_, ?_⟩
  · have hnames : table.map ((fun m => m.routine.name) ∘ (·.2)) = table.map (·.1) :=
      List.map_congr_left hname
    rw [(HelperTable.sorted_perm.map _).nodup_iff, List.map_map, hnames]
    exact htable.nodup
  · intro h hh
    obtain ⟨e, he, rfl⟩ := (hmem h).1 hh
    obtain ⟨request, hwanted, hprivate, hserves⟩ := htable.made e he
    exact ⟨request, e.1, hwanted, hprivate, hserves⟩
  · intro m hm r hr hhelper
    rcases List.mem_append.1 hm with hm | hm
    · exact hthere _ (hcallers m hm r hr hhelper)
    · -- with no pair under way, what an entry calls is there
      obtain ⟨e, he, rfl⟩ := (hmem m).1 hm
      rcases htable.closed e he r hr hhelper with h | ⟨_, _, hpath, -⟩
      · exact hthere _ h
      · cases hpath

theorem wanted_inside (request : Request) (h : Wanted p d request) :
    AllPrivate p d.strategy (Wanted p d) (p.inside d.strategy request) :=
  fun _ hasked _ hname => .inside h hasked hname

/-- The mapping of a pair that the index knows leaves nothing waiting. -/
theorem Planned.complete {owner : Owner} {strategy : NamingStrategy} {W : Request → Prop}
    {inverse : Bool} {routine : RoutineRef} {table table' : HelperTable} {m : ObjectMapping}
    (h : Planned p owner strategy W [] inverse d routine table m table')
    (hstrategy : d.strategy = strategy)
    (hmapped : (p.index.routineFor d.source d.target).isSome = true) :
    Table p owner strategy W [] table' ∧ ∀ r ∈ (Mapping.object m).calls, r.helper = true →
      table'.contains r.name = true := by
  refine ⟨h.inv.of_cons hmapped, fun r hr hhelper => ?_⟩
  rcases (h.calls hstrategy hr hhelper).of_cons hmapped with hthere | ⟨_, _, hpath, -⟩
  · exact hthere
  · cases hpath

/-- Both directions of a directive between object types, and the private mappings they leave. -/
theorem objectMappings_run (hd : d ∈ p.index.directives) (hs : p.graph.get? d.source = some source)
    (ht : p.graph.get? d.target = some target) {forward : ObjectMapping}
    {reverse : Option ObjectMapping} {table : HelperTable}
    (hrun : (p.objectMappings d source target).run [] = .ok ((forward, reverse), table)) :
    forward = p.mappingWith target.module false d (routineBetween source target target.module)
        source target ∧
      reverse = p.reverseMapping? d source target ∧
      Helpers p d target table.sorted
        ((.object forward :: reverse.toList.map .object) ++ table.sorted) := by
  obtain ⟨forward, table₁, hforward, hrun⟩ := Steps.run_bind_eq_ok.1 hrun
  -- the index knows the pair, so nothing waits for it once it is planned
  have hahead := objectMapping_run wanted_inside p.depth rfl Table.empty
    (fun _ hasked _ hname => .ahead hasked hname) hforward
  obtain ⟨htable₁, hcalls⟩ := hahead.complete rfl (p.index.isSome_routineFor hd)
  obtain ⟨source', target', hs', ht', rfl⟩ := hahead.mapping
  obtain rfl : source = source' := Option.some.inj (hs.symm.trans hs')
  obtain rfl : target = target' := Option.some.inj (ht.symm.trans ht')
  split at hrun
  next hback =>
    -- the way back goes on with the table of the declared direction
    obtain ⟨reverse, table₂, hreverse, hrun⟩ := Steps.run_bind_eq_ok.1 hrun
    cases hrun
    have hbehind := objectMapping_run wanted_inside p.depth d.strategy_reversed htable₁
      (fun _ hasked _ hname => .back hs ht hback hasked hname) hreverse
    have hon : d.bidirectional.isOn = true := (Bool.and_eq_true_iff.1 (Bool.and_eq_true_iff.1 hback).1).1
    obtain ⟨htable₂, hcalls'⟩ := hbehind.complete d.strategy_reversed
      (p.index.isSome_routineFor_reversed hd hon)
    obtain ⟨target', source', ht', hs', rfl⟩ := hbehind.mapping
    obtain rfl : target = target' := Option.some.inj (ht.symm.trans ht')
    obtain rfl : source = source' := Option.some.inj (hs.symm.trans hs')
    refine ⟨rfl, (if_pos hback).symm, helpers_of_table htable₂ ?_⟩
    simp only [Option.toList_some, List.map_cons, List.map_nil, List.mem_cons, List.not_mem_nil,
      or_false, forall_eq_or_imp, forall_eq]
    exact ⟨fun r hr hhelper => hbehind.grown _ (hcalls r hr hhelper), hcalls'⟩
  next hback =>
    cases hrun
    refine ⟨rfl, (if_neg hback).symm, helpers_of_table htable₁ ?_⟩
    simpa only [Option.toList_none, List.map_nil, List.mem_singleton, forall_eq] using hcalls

/-- **What a plan between object types consists of.** -/
structure ObjectParts (p : Planning) (d : Directive) (source target : TypeDescriptor) (plan : Plan) :
    Prop where
  parts : ∃ entries helpers, p.dispatch d d.derived = .ok entries ∧
    plan = .object (p.forwardMapping d source target entries) (p.reverseMapping? d source target) helpers
  helpers : Helpers p d target plan.helpers (plan.publicMappings ++ plan.helpers)

theorem objectPlan_eq_ok (hd : d ∈ p.index.directives) (hs : p.graph.get? d.source = some source)
    (ht : p.graph.get? d.target = some target) {plan : Plan}
    (h : p.objectPlan d source target = .ok plan) : ObjectParts p d source target plan := by
  obtain ⟨⟨⟨forward, reverse⟩, table⟩, hrun, h⟩ := Steps.bind_eq_ok.1 h
  obtain ⟨entries, hentries, h⟩ := Steps.bind_eq_ok.1 h
  obtain ⟨rfl, rfl, hhelpers⟩ := objectMappings_run hd hs ht hrun
  cases h
  refine ⟨⟨entries, _, hentries, rfl⟩, hhelpers.nodup, hhelpers.made, fun m hm r hr hhelper => ?_⟩
  -- the declared direction gains routines and a dispatch here, which call nothing private
  rw [Plan.publicMappings, Plan.reverse?, Option.toList_map, List.cons_append, List.mem_cons] at hm
  rcases hm with rfl | hm
  · exact hhelpers.there _ List.mem_cons_self r hr hhelper
  · exact hhelpers.there m (List.mem_cons_of_mem _ hm) r hr hhelper

/-! ### Plans of either kind -/

/-- Has the plan of a directive a way back, be it between enums or between object types? -/
def returns (d : Directive) (source target : TypeDescriptor) : Bool :=
  if source.kind = .enum then d.bidirectional.isOn && target.kind = .enum
  else goesBack d source target

theorem isOn_of_returns (h : returns d source target = true) : d.bidirectional.isOn = true := by
  unfold returns goesBack at h
  split at h
  · exact (Bool.and_eq_true_iff.1 h).1
  · exact (Bool.and_eq_true_iff.1 (Bool.and_eq_true_iff.1 h).1).1

/-- **What a plan is**: the routines of its two directions are those that the index knows for the
pair of its directive, there and back. -/
structure PlanOf (p : Planning) (d : Directive) (source target : TypeDescriptor) (plan : Plan) :
    Prop where
  hs : p.graph.get? d.source = some source
  ht : p.graph.get? d.target = some target
  directive_eq : plan.directive = d
  source_eq : plan.source = source
  target_eq : plan.target = target
  ahead : plan.forward.routine = p.index.routineOf d.source d.target d
  isSome_back : plan.reverse?.isSome = returns d source target
  back : ∀ m, plan.reverse? = some m → m.routine = p.index.routineOf d.target d.source d ∧
    m.source = target ∧ m.target = source
  object : source.kind ≠ .enum → ObjectParts p d source target plan
  enum : source.kind = .enum → ∃ forward reverse, plan = .enum forward reverse

theorem simpleName_of_get? {n : String} {t : TypeDescriptor} (h : p.graph.get? n = some t) :
    p.index.simpleName n = t.name := by
  have hget : p.index.graph.get? n = some t := h
  rw [DirectiveIndex.simpleName, hget]

theorem home_of_get? (ht : p.graph.get? d.target = some target) : p.index.home d = target.module := by
  have hget : p.index.graph.get? d.target = some target := ht
  rw [DirectiveIndex.home, hget]

/-- The routine between the types of a directive is the one that the index knows. -/
theorem routineBetween_ahead (hs : p.graph.get? d.source = some source)
    (ht : p.graph.get? d.target = some target) :
    routineBetween source target target.module = p.index.routineOf d.source d.target d := by
  rw [routineBetween, DirectiveIndex.routineOf, simpleName_of_get? hs, simpleName_of_get? ht,
    home_of_get? ht, TypeGraph.qualifiedName_of_get? hs, TypeGraph.qualifiedName_of_get? ht]

theorem routineBetween_back (hs : p.graph.get? d.source = some source)
    (ht : p.graph.get? d.target = some target) :
    routineBetween target source target.module = p.index.routineOf d.target d.source d := by
  rw [routineBetween, DirectiveIndex.routineOf, simpleName_of_get? hs, simpleName_of_get? ht,
    home_of_get? ht, TypeGraph.qualifiedName_of_get? hs, TypeGraph.qualifiedName_of_get? ht]

theorem planOf_object {plan : Plan} (hs : p.graph.get? d.source = some source)
    (ht : p.graph.get? d.target = some target) (hkind : source.kind ≠ .enum)
    (h : ObjectParts p d source target plan) : PlanOf p d source target plan := by
  obtain ⟨entries, helpers, -, rfl⟩ := h.parts
  refine ⟨hs, ht, directive_mappingWith, source_mappingWith, target_mappingWith,
    routine_mappingWith.trans (routineBetween_ahead hs ht), ?_, fun m hm => ?_, fun _ => h,
    fun henum => absurd henum hkind⟩
  · rw [Plan.reverse?, reverseMapping?, returns, if_neg hkind]
    split
    next hback => exact hback.symm
    next hback => exact (Bool.eq_false_iff.2 hback).symm
  · obtain ⟨r, hr, rfl⟩ := Option.map_eq_some_iff.1 hm
    rw [reverseMapping?] at hr
    split at hr
    · cases hr
      exact ⟨routine_mappingWith.trans (routineBetween_back hs ht), source_mappingWith,
        target_mappingWith⟩
    · cases hr

theorem enumPlan_eq_ok {plan : Plan} (hs : p.graph.get? d.source = some source)
    (ht : p.graph.get? d.target = some target) (henum : source.kind = .enum)
    (h : p.enumPlan d source target = .ok plan) : PlanOf p d source target plan := by
  obtain ⟨forward, hforward, h⟩ := Steps.bind_eq_ok.1 h
  obtain ⟨hfs, hft, hroutine, hdirective⟩ := enumMapping_eq_ok hforward
  have hsource : forward.source = source := Option.some.inj (hfs.symm.trans hs)
  have htarget : forward.target = target := Option.some.inj (hft.symm.trans ht)
  split at h
  next hback =>
    obtain ⟨reverse, hreverse, h⟩ := Steps.bind_eq_ok.1 h
    cases h
    refine ⟨hs, ht, hdirective, hsource, htarget, hroutine.trans (routineBetween_ahead hs ht), ?_,
      fun m hm => ?_, fun hkind => absurd henum hkind, fun _ => ⟨forward, some reverse, rfl⟩⟩
    · rw [returns, if_pos henum, hback]
      rfl
    · cases hm
      obtain ⟨hrs, hrt, hroutine', -⟩ := enumMapping_eq_ok hreverse
      exact ⟨hroutine'.trans (routineBetween_back hs ht), Option.some.inj (hrs.symm.trans ht),
        Option.some.inj (hrt.symm.trans hs)⟩
  next hback =>
    cases h
    refine ⟨hs, ht, hdirective, hsource, htarget, hroutine.trans (routineBetween_ahead hs ht), ?_,
      fun m hm => ?_, fun hkind => absurd henum hkind, fun _ => ⟨forward, none, rfl⟩⟩
    · rw [returns, if_pos henum, Bool.eq_false_iff.2 hback]
      rfl
    · cases hm

theorem plan_eq_ok {plan : Plan} (hd : d ∈ p.index.directives) (h : p.plan d = .ok plan) :
    ∃ source target, PlanOf p d source target plan := by
  obtain ⟨source, hs, h⟩ := Steps.bind_eq_ok.1 h
  obtain ⟨target, ht, h⟩ := Steps.bind_eq_ok.1 h
  rw [getType_eq_ok] at hs ht
  refine ⟨source, target, ?_⟩
  split at h
  next henum => exact enumPlan_eq_ok hs ht henum h
  next hkind => exact planOf_object hs ht hkind (objectPlan_eq_ok hd hs ht h)

end Mapsmith.Planning
