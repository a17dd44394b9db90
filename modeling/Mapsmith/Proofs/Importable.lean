import Mapsmith.Proofs.Accounting
import Mapsmith.Proofs.PrivateRoutines
import Mapsmith.Proofs.Vetted

/-!
# What generated code imports

A unit imports the classes of its import table: the sources and targets of its mappings, and the
sources that these dispatch to. Generated code can import a class only if it is declared at module
scope, and the check of a plan looks at most of them: both types of a directive, in either kind of
plan, and both types of every private mapping between object types
(`Mapsmith.Plan.Checks`). A dispatch is checked for another reason: what it calls belongs to another
directive, whose plan was checked, unless a stale entry of the cache stands in its place
(`Mapsmith.Generation.Strays`). Only the types of private mappings between enums are not looked at.
So these are the ones that can come into an import table although they cannot be imported, and they
do (`Mapsmith.Generation.importable`).
-/

namespace Mapsmith

namespace Emission

variable {config : Config} {g : TypeGraph} {m : Mapping} {ms : List Mapping} {t : TypeDescriptor}
  {table : ImportTable} {plans : List Plan}

/-! ### Import tables -/

/-- Do the routines of a mapping refer to a type? -/
def Refers (g : TypeGraph) (m : Mapping) (t : TypeDescriptor) : Prop :=
  t = m.source ∨ t = m.target ∨ ∃ entry ∈ m.dispatch, g.get? entry.source = some t

theorem dispatchType_eq_ok {d : Directive} {name : String} :
    dispatchType (some g) d name = .ok t ↔ g.get? name = some t := by
  unfold dispatchType
  rw [Option.bind_some]
  cases g.get? name with
  | none => exact ⟨nofun, nofun⟩
  | some t' => simp

theorem mem_of_referredTypes {types : List TypeDescriptor}
    (h : referredTypes (some g) m = .ok types) : t ∈ types ↔ Refers g m t := by
  obtain ⟨derived, hderived, h⟩ := Steps.bind_eq_ok.1 h
  cases h
  replace hderived := Steps.mapM_eq_ok.1 hderived
  rw [List.mem_cons, List.mem_cons, Refers]
  refine or_congr_right (or_congr_right ⟨fun ht => ?_, ?_⟩)
  · obtain ⟨entry, hentry, hget⟩ := Steps.exists_of_mem_right hderived ht
    exact ⟨entry, hentry, dispatchType_eq_ok.1 hget⟩
  · rintro ⟨entry, hentry, hget⟩
    obtain ⟨t', ht', hget'⟩ := Steps.exists_of_mem_left hderived hentry
    obtain rfl : t' = t := Option.some.inj ((dispatchType_eq_ok.1 hget').symm.trans hget)
    exact ht'

/-- Does a table hold, after some classes were registered, what it held before, and classes under all
their names, and no others? -/
structure Registered (table : ImportTable) (classes : List ImportedClass) (table' : ImportTable) :
    Prop where
  closed : table'.closed = false
  origin : ∀ c ∈ table'.classes, c ∈ table.classes ∨ c ∈ classes
  named : ∀ c, c ∈ table.classes ∨ c ∈ classes → ∃ c' ∈ table'.classes, c'.qualified = c.qualified

theorem Registered.cons {c : ImportedClass} {classes : List ImportedClass}
    {table₁ table₂ : ImportTable} (h₁ : Registered table [c] table₁)
    (h₂ : Registered table₁ classes table₂) : Registered table (c :: classes) table₂ := by
  refine ⟨h₂.closed, fun b hb => ?_, fun b hb => ?_⟩
  · rcases h₂.origin b hb with hb | hb
    · exact (h₁.origin b hb).imp_right fun hb => List.mem_cons.2 (.inl (List.mem_singleton.1 hb))
    · exact .inr (List.mem_cons_of_mem _ hb)
  · -- what the first step registered, the others keep under its name
    have hkept : b ∈ table.classes ∨ b = c → ∃ b' ∈ table₂.classes, b'.qualified = b.qualified := by
      intro hb
      obtain ⟨b₁, hb₁, hname₁⟩ := h₁.named b (hb.imp_right List.mem_singleton.2)
      obtain ⟨b₂, hb₂, hname₂⟩ := h₂.named b₁ (.inl hb₁)
      exact ⟨b₂, hb₂, hname₂.trans hname₁⟩
    rcases hb with hb | hb
    · exact hkept (.inl hb)
    · rcases List.mem_cons.1 hb with hb | hb
      · exact hkept (.inr hb)
      · exact h₂.named b (.inr hb)

theorem exists_addClass (c : ImportedClass) (hopen : table.closed = false) :
    ∃ table', table.addClass c = .ok table' ∧ Registered table [c] table' := by
  by_cases hany : table.classes.any (·.qualified == c.qualified) = true
  · -- a class of this name is there already
    refine ⟨table, by simp [ImportTable.addClass, hopen, hany], hopen, fun _ hb => .inl hb, ?_⟩
    rintro b (hb | hb)
    · exact ⟨b, hb, rfl⟩
    · obtain rfl := List.mem_singleton.1 hb
      obtain ⟨b', hb', hname⟩ := List.any_eq_true.1 hany
      exact ⟨b', hb', beq_iff_eq.1 hname⟩
  · refine ⟨{ table with classes := table.classes ++ [c] },
      by simp [ImportTable.addClass, hopen, hany], hopen, fun b hb => List.mem_append.1 hb, ?_⟩
    exact fun b hb => ⟨b, List.mem_append.2 hb, rfl⟩

/-- Registering classes in an open table succeeds. -/
theorem exists_addClasses (classes : List ImportedClass) (hopen : table.closed = false) :
    ∃ table', classes.foldlM (fun table c => table.addClass c) table = .ok table' ∧
      Registered table classes table' := by
  induction classes generalizing table with
  | nil =>
    refine ⟨table, rfl, hopen, fun _ hc => .inl hc, fun c hc => ⟨c, ?_, rfl⟩⟩
    exact hc.resolve_right List.not_mem_nil
  | cons c classes ih =>
    obtain ⟨table₁, hadd, hfirst⟩ := exists_addClass c hopen
    obtain ⟨table₂, hfold, hrest⟩ := ih hfirst.closed
    exact ⟨table₂, by rw [List.foldlM_cons, hadd]; exact hfold, hfirst.cons hrest⟩

theorem closed_blank (ms : List Mapping) :
    ({ reserved := commonReserved ++ ms.flatMap reservedBy } : ImportTable).closed = false := rfl

/-- The import table of some mappings can be made if the types that they dispatch to are known. -/
theorem exists_importTable
    (h : ∀ m ∈ ms, ∀ entry ∈ m.dispatch, (g.get? entry.source).isSome = true) :
    ∃ table, importTable (some g) ms = .ok table := by
  have htypes : ∃ types, ms.mapM (referredTypes (some g)) = .ok types := by
    refine Steps.exists_mapM_eq_ok fun m hm => ?_
    have hderived : ∃ derived, (m.dispatch.mapM fun entry =>
        dispatchType (some g) m.directive entry.source) = .ok derived := by
      refine Steps.exists_mapM_eq_ok fun entry hentry => ?_
      obtain ⟨t, ht⟩ := Option.isSome_iff_exists.1 (h m hm entry hentry)
      exact ⟨t, dispatchType_eq_ok.2 ht⟩
    obtain ⟨derived, hderived⟩ := hderived
    exact ⟨_, Steps.bind_eq_ok.2 ⟨derived, hderived, rfl⟩⟩
  obtain ⟨types, htypes⟩ := htypes
  obtain ⟨table, hfold, -⟩ := exists_addClasses (types.flatten.map importedClass) (closed_blank ms)
  exact ⟨table.close, Steps.bind_eq_ok.2 ⟨types, htypes, Steps.bind_eq_ok.2 ⟨table, hfold, rfl⟩⟩⟩

/-- **The import table of some mappings** holds the types that their routines refer to. -/
theorem classes_importTable (h : importTable (some g) ms = .ok table) :
    (∀ c ∈ table.classes, ∃ m ∈ ms, ∃ t, Refers g m t ∧ c = importedClass t) ∧
      ∀ m ∈ ms, ∀ t, Refers g m t → ∃ c ∈ table.classes, c.qualified = t.qualifiedName := by
  obtain ⟨types, htypes, h⟩ := Steps.bind_eq_ok.1 h
  obtain ⟨table', hfold, h⟩ := Steps.bind_eq_ok.1 h
  cases h
  replace htypes := Steps.mapM_eq_ok.1 htypes
  obtain ⟨table'', hfold', hregistered⟩ :=
    exists_addClasses (types.flatten.map importedClass) (closed_blank ms)
  obtain rfl : table' = table'' := Except.ok.inj (hfold.symm.trans hfold')
  refine ⟨fun c hc => ?_, fun m hm t ht => ?_⟩
  · rcases hregistered.origin c hc with hc | hc
    · cases hc
    · obtain ⟨t, ht, rfl⟩ := List.mem_map.1 hc
      obtain ⟨ts, hts, ht⟩ := List.mem_flatten.1 ht
      obtain ⟨m, hm, hreferred⟩ := Steps.exists_of_mem_right htypes hts
      exact ⟨m, hm, t, (mem_of_referredTypes hreferred).1 ht, rfl⟩
  · obtain ⟨ts, hts, hreferred⟩ := Steps.exists_of_mem_left htypes hm
    have hmem := List.mem_flatten_of_mem hts ((mem_of_referredTypes hreferred).2 ht)
    exact hregistered.named _ (.inr (List.mem_map_of_mem hmem))

/-! ### The imports of a unit -/

theorem classes_completeImports {routines : List Routine} {parameters : List GenericParameter} :
    (completeImports config table routines parameters).classes = table.classes := by
  have hmodules : ∀ modules : List String,
      (modules.foldl (fun t m => t.addModule m) table).classes = table.classes := by
    intro modules
    induction modules generalizing table with
    | nil => rfl
    | cons module modules ih =>
      rw [List.foldl_cons, ih, ImportTable.addModule]
      split
      · rfl
      · rfl
  unfold completeImports
  simp only
  split
  · exact hmodules _
  · exact hmodules _

/-- **The imports of a unit** among those of some plans: the classes of the table are those of its
mappings, and its text begins with the lines that import them. -/
structure ImportsOf (config : Config) (g : TypeGraph) (plans : List Plan) (u : GeneratedUnit)
    (table : ImportTable) : Prop where
  table_eq : importTable (some g) (Generation.renderedMappings (plansOf plans u.ns)) = .ok table
  written : ∃ imports parameters offered text, imports.classes = table.classes ∧
    u.source = Layout.render (preamble config u.ns imports parameters offered) ++ text

theorem exists_importsOf {units : List GeneratedUnit} {u : GeneratedUnit}
    (h : generateUnits config (some g) plans = .ok units) (hu : u ∈ units) :
    ∃ table, ImportsOf config g plans u table := by
  obtain ⟨ns, -, hunit⟩ := Steps.exists_of_mem_right (Steps.mapM_eq_ok.1 h) hu
  obtain ⟨table, htable, hunit⟩ := Steps.bind_eq_ok.1 hunit
  obtain ⟨rss, -, hunit⟩ := Steps.bind_eq_ok.1 hunit
  cases hunit
  exact ⟨table, htable, _, _, _, _, classes_completeImports, rfl⟩

end Emission

/-! ### What a check looks at -/

/-- Does the check of a plan look at whether a type can be imported? It looks at the types of the
public mappings and of the private ones between object types. -/
def Plan.Checks (p : Plan) (t : TypeDescriptor) : Prop :=
  ∃ m ∈ p.parts, (m ∈ p.publicMappings ∨ ∃ o, m = .object o) ∧ (t = m.source ∨ t = m.target)

/-- Does a plan dispatch to the mapping of another type? -/
def Plan.Dispatches (p : Plan) (g : TypeGraph) (t : TypeDescriptor) : Prop :=
  ∃ m ∈ p.parts, ∃ entry ∈ m.dispatch, g.get? entry.source = some t

theorem Validation.notExtensible_pair {source target : TypeDescriptor} :
    notExtensible [source, target] = [] ↔
      source.extensible = true ∧ target.extensible = true := by
  simp [notExtensible, List.filter_eq_nil_iff]

namespace Generation

open Planning Emission Validation

variable {s : Setting} {d : Directive} {plan : Plan} {conflict : Option String} {t : TypeDescriptor}
  {m : Mapping} {plans : List Plan} {ns : String}

/-- A plan without errors has been checked against conflicts, so its own types were looked at. -/
theorem Passed.facesConflict (h : Passed s conflict d plan) : plan.FacesConflict := by
  by_contra hnot
  -- otherwise no conflict would make a difference
  have hsame : check s.index conflict plan = check s.index (some "") plan :=
    check_of_not_facesConflict hnot
  have hfree := h.free
  rw [hsame] at hfree
  cases conflict_eq_none_of_check hfree

/-- The types that a plan without errors is from and to can be imported. -/
theorem Passed.extensible_own (h : Passed s conflict d plan) :
    plan.source.extensible = true ∧ plan.target.extensible = true := by
  have hfaces := h.facesConflict
  cases plan with
  | object m reverse helpers => exact notExtensible_pair.1 hfaces.2
  | enum m reverse => exact notExtensible_pair.1 hfaces.2

/-- The types of a public mapping are those that its plan is from and to. -/
theorem types_of_mem_publicMappings {source target : TypeDescriptor}
    (hplan : PlanOf s.planning d source target plan) (hm : m ∈ plan.publicMappings) :
    (m.source = source ∧ m.target = target) ∨ (m.source = target ∧ m.target = source) := by
  rcases List.mem_cons.1 hm with rfl | hm
  · exact .inl ⟨hplan.source_eq, hplan.target_eq⟩
  · exact .inr (hplan.back m (Option.mem_toList.1 hm)).2

/-- **What the check of a plan looks at can be imported** if it finds no error. -/
theorem Passed.extensible (h : Passed s conflict d plan) (ht : plan.Checks t) :
    t.extensible = true := by
  obtain ⟨source, target, hplan⟩ := h.planOf
  obtain ⟨m, hm, hkind, ht⟩ := ht
  have hown := h.extensible_own
  rw [hplan.source_eq, hplan.target_eq] at hown
  by_cases hpublic : m ∈ plan.publicMappings
  · rcases types_of_mem_publicMappings hplan hpublic with ⟨hs, htg⟩ | ⟨hs, htg⟩
    · rw [hs, htg] at ht
      rcases ht with rfl | rfl
      · exact hown.1
      · exact hown.2
    · rw [hs, htg] at ht
      rcases ht with rfl | rfl
      · exact hown.2
      · exact hown.1
  · obtain ⟨o, rfl⟩ := hkind.resolve_left hpublic
    have hhelper : .object o ∈ plan.helpers := (List.mem_append.1 hm).resolve_left hpublic
    cases plan with
    | enum forward reverse => cases hhelper
    | object forward reverse helpers =>
      obtain ⟨-, hrest⟩ := anyError_andThen.1 h.free
      obtain ⟨-, hhelpers⟩ := anyError_andThen.1 hrest
      have hcheck := checkHelpers_free hhelpers _ hhelper
      have hrule := anyError_run.1 hcheck typesExtensible List.mem_cons_self
      have hnil : notExtensible [o.source, o.target] = [] := by
        by_contra hsome
        rw [typesExtensible, anyError_notExtensible hsome] at hrule
        cases hrule
      obtain ⟨hsource, htarget⟩ := notExtensible_pair.1 hnil
      rcases ht with rfl | rfl
      · exact hsource
      · exact htarget

/-! ### Types of the graph -/

theorem serves_types {owner : Owner} {strategy : NamingStrategy} {request : Matching.Request}
    {ref : RoutineRef} (h : Serves s.planning owner strategy request ref m) :
    m.source ∈ s.index.graph.types ∧ m.target ∈ s.index.graph.types := by
  cases h with
  | nested hs ht =>
    rw [Mapping.source, Mapping.target, source_mappingWith, target_mappingWith]
    exact ⟨(TypeGraph.get?_eq_some.1 hs).1, (TypeGraph.get?_eq_some.1 ht).1⟩
  | enum h =>
    obtain ⟨hs, ht, -⟩ := enumMapping_eq_ok h
    exact ⟨(TypeGraph.get?_eq_some.1 hs).1, (TypeGraph.get?_eq_some.1 ht).1⟩

/-- The private mappings of a plan serve requests. -/
theorem exists_serves {source target : TypeDescriptor}
    (hplan : PlanOf s.planning d source target plan) (hm : m ∈ plan.helpers) :
    ∃ owner strategy request ref, Serves s.planning owner strategy request ref m := by
  by_cases hkind : source.kind = .enum
  · obtain ⟨forward, reverse, rfl⟩ := hplan.enum hkind
    cases hm
  · obtain ⟨request, name, -, -, hserves⟩ := (hplan.object hkind).helpers.made m hm
    exact ⟨_, _, _, _, hserves⟩

/-- The mappings of a plan are between types of the graph. -/
theorem mem_types_of_parts {source target : TypeDescriptor}
    (hplan : PlanOf s.planning d source target plan) (hm : m ∈ plan.parts) :
    m.source ∈ s.index.graph.types ∧ m.target ∈ s.index.graph.types := by
  have hsource : source ∈ s.index.graph.types := (TypeGraph.get?_eq_some.1 hplan.hs).1
  have htarget : target ∈ s.index.graph.types := (TypeGraph.get?_eq_some.1 hplan.ht).1
  rcases List.mem_append.1 hm with hm | hm
  · rcases types_of_mem_publicMappings hplan hm with ⟨hs, ht⟩ | ⟨hs, ht⟩
    · exact ⟨hs ▸ hsource, ht ▸ htarget⟩
    · exact ⟨hs ▸ htarget, ht ▸ hsource⟩
  · obtain ⟨owner, strategy, request, ref, hserves⟩ := exists_serves hplan hm
    exact serves_types hserves

/-- Only the declared direction of a plan between object types dispatches, over the derived pairs of
its directive. -/
theorem dispatch_of_parts {source target : TypeDescriptor}
    (hplan : PlanOf s.planning d source target plan) (hm : m ∈ plan.parts) {entry : DispatchEntry}
    (hentry : entry ∈ m.dispatch) : m ∈ plan.publicMappings ∧ source.kind ≠ .enum ∧
      ∃ entries, s.planning.dispatch d d.derived = .ok entries ∧ entry ∈ entries := by
  by_cases hkind : source.kind = .enum
  · obtain ⟨forward, reverse, rfl⟩ := hplan.enum hkind
    rw [(mem_parts_enum hm).2] at hentry
    cases hentry
  · have hparts := hplan.object hkind
    obtain ⟨entries, helpers, hentries, rfl⟩ := hparts.parts
    rcases mem_parts_object hm with rfl | ⟨o, ho, rfl⟩ | hm
    · exact ⟨List.mem_cons_self, hkind, entries, hentries, hentry⟩
    · unfold reverseMapping? at ho
      split at ho
      · cases ho
        simp [Mapping.dispatch] at hentry
      · cases ho
    · obtain ⟨request, name, -, -, hserves⟩ := hparts.helpers.made m hm
      rw [hserves.dispatch_eq] at hentry
      cases hentry

theorem routineFor_of_dispatch {pairs : List DerivedPair} {entries : List DispatchEntry}
    (h : s.planning.dispatch d pairs = .ok entries) {entry : DispatchEntry} (hentry : entry ∈ entries) :
    s.index.routineFor entry.source entry.target = some entry.routine ∧
      ⟨entry.source, entry.target⟩ ∈ pairs := by
  rw [dispatch_eq_ok h] at hentry
  obtain ⟨pair, hpair, hmap⟩ := List.mem_filterMap.1 hentry
  obtain ⟨routine, hroutine, rfl⟩ := Option.map_eq_some_iff.1 hmap
  exact ⟨hroutine, hpair⟩

/-! ### Dispatch to the mappings of other plans -/

/-- A type that a plan dispatches to is the source of a mapping of the plan that provides the
routine. -/
theorem checks_of_provides {q : Plan} {e : Directive} (hq : Passed s conflict e q)
    {entry : DispatchEntry} (hroutine : s.index.routineFor entry.source entry.target = some entry.routine)
    (hprovides : q.Provides entry.routine) (ht : s.index.graph.get? entry.source = some t) :
    q.Checks t := by
  obtain ⟨source, target, hplan⟩ := hq.planOf
  obtain ⟨m, hm, -, -, hsource, -⟩ := hprovides
  have hparts : m ∈ q.parts := List.mem_append_left _ hm
  have hget : s.index.graph.get? entry.source = some m.source := by
    rw [TypeGraph.get?_eq_some, hsource, (DirectiveIndex.pair_of_routineFor hroutine).1]
    exact ⟨(mem_types_of_parts hplan hparts).1, rfl⟩
  obtain rfl : t = m.source := Option.some.inj (ht.symm.trans hget)
  exact ⟨m, hparts, .inl hm, .inl rfl⟩

/-- A directive is declared for every derived pair of a plan without errors. -/
theorem Passed.declared {source target : TypeDescriptor} (h : Passed s conflict d plan)
    (hplan : PlanOf s.planning d source target plan) (hkind : source.kind ≠ .enum)
    {pair : DerivedPair} (hpair : pair ∈ d.derived) :
    (s.index.directiveFor pair.source pair.target).isSome = true := by
  obtain ⟨entries, helpers, -, rfl⟩ := (hplan.object hkind).parts
  have hdirective : (s.planning.forwardMapping d source target entries).directive = d :=
    directive_mappingWith
  have hderived := (sound_of_check h.free).derived
  rw [hdirective] at hderived
  exact hderived pair hpair

/-- **In a pass on its own, what a plan dispatches to is provided** by a plan of the result. -/
theorem exists_provides_of_dispatch {config : Config} {g : TypeGraph} {r : PassResult}
    (h : Yielded config g r) {p : Plan} (hp : p ∈ r.plans) (hm : m ∈ p.parts)
    {entry : DispatchEntry} (hentry : entry ∈ m.dispatch) :
    ∃ q ∈ r.plans, q.Provides entry.routine := by
  obtain ⟨i, d, hemitted⟩ := h.emitted hp
  obtain ⟨source, target, hplan⟩ := hemitted.planOf
  obtain ⟨-, hkind, entries, hentries, hmem⟩ := dispatch_of_parts hplan hm hentry
  obtain ⟨hroutine, hpair⟩ := routineFor_of_dispatch hentries hmem
  have hdeclared := hemitted.passed.declared hplan hkind hpair
  have hreaches : p.Reaches entry.routine :=
    ⟨DirectiveIndex.helper_of_routineFor hroutine, m, hm, .inr ⟨entry, hentry, rfl⟩⟩
  obtain ⟨behind, hanswers, href⟩ := DirectiveIndex.routineFor_eq_some.1 hroutine
  obtain ⟨hsource, htarget⟩ := DirectiveIndex.pair_of_routineFor hroutine
  rw [← hsource, ← htarget] at hdeclared hanswers href
  -- the plan that withholding left for this name is that of the directive behind the routine
  obtain ⟨q, hq, m', hm', hhome, hname⟩ :=
    mem_provided.1 (h.provided p hp entry.routine (mem_publicCalls hreaches))
  obtain ⟨j, e, hemitted'⟩ := h.emitted hq
  obtain rfl := eq_of_provides hemitted' hanswers href hm' hname hhome
  refine ⟨q, hq, provides_of_answers hemitted' hanswers href fun hbroken => ?_⟩
  rw [hbroken.1] at hdeclared
  cases hdeclared

/-! ### Where the types of a unit come from -/

/-- Is a type one of a private mapping between enums in the unit of a namespace? -/
def Unchecked (plans : List Plan) (ns : String) (t : TypeDescriptor) : Prop :=
  ∃ e, .enum e ∈ keptMappings (plansOf plans ns) ∧ (t = e.source ∨ t = e.target)

/-- Does the unit of a namespace dispatch to a type by a routine that no plan provides? -/
def Strays (plans : List Plan) (ns : String) (t : TypeDescriptor) : Prop :=
  ∃ p ∈ plansOf plans ns, ∃ m ∈ p.parts, ∃ entry ∈ m.dispatch, entry.source = t.qualifiedName ∧
    ∀ q ∈ plans, ¬ q.Provides entry.routine

/-- What a unit refers to can be imported, or it is a type that nothing has looked at. -/
theorem cases_of_refers (hpassed : ∀ p ∈ plans, ∃ conflict d, Passed s conflict d p)
    (hm : m ∈ renderedMappings (plansOf plans ns)) (ht : Refers s.index.graph m t) :
    t ∈ s.index.graph.types ∧
      (t.extensible = true ∨ Unchecked plans ns t ∨ Strays plans ns t) := by
  obtain ⟨p, hp, hpart⟩ := exists_part hm
  obtain ⟨conflict, d, hfree⟩ := hpassed p (mem_plansOf.1 hp).1
  obtain ⟨source, target, hplan⟩ := hfree.planOf
  obtain ⟨hsource, htarget⟩ := mem_types_of_parts hplan hpart
  -- the types of a mapping are looked at unless it is a private one between enums
  have hown : t = m.source ∨ t = m.target →
      t.extensible = true ∨ Unchecked plans ns t ∨ Strays plans ns t := by
    intro hown
    rcases mem_renderedMappings.1 hm with ⟨p', hp', hm'⟩ | hkept
    · obtain ⟨conflict', d', hfree'⟩ := hpassed p' (mem_plansOf.1 hp').1
      exact .inl (hfree'.extensible ⟨m, List.mem_append_left _ hm', .inl hm', hown⟩)
    · cases m with
      | object o => exact .inl (hfree.extensible ⟨_, hpart, .inr ⟨o, rfl⟩, hown⟩)
      | enum e => exact .inr (.inl ⟨e, hkept, hown⟩)
  rcases ht with rfl | rfl | ⟨entry, hentry, hget⟩
  · exact ⟨hsource, hown (.inl rfl)⟩
  · exact ⟨htarget, hown (.inr rfl)⟩
  · refine ⟨(TypeGraph.get?_eq_some.1 hget).1, ?_⟩
    obtain ⟨-, -, entries, hentries, hmem⟩ := dispatch_of_parts hplan hpart hentry
    have hroutine := (routineFor_of_dispatch hentries hmem).1
    by_cases hprovided : ∃ q ∈ plans, q.Provides entry.routine
    · obtain ⟨q, hq, hprovides⟩ := hprovided
      obtain ⟨conflict', e, hfree'⟩ := hpassed q hq
      exact .inl (hfree'.extensible (checks_of_provides hfree' hroutine hprovides hget))
    · refine .inr (.inr ⟨p, hp, m, hpart, entry, hentry, ?_, fun q hq hprovides =>
        hprovided ⟨q, hq, hprovides⟩⟩)
      exact (TypeGraph.qualifiedName_of_get? hget).symm

/-- A class in the import table of a unit is that of the type by its name. -/
theorem importedClass_mem {g : TypeGraph} {table : ImportTable} {ms : List Mapping}
    (htable : importTable (some g) ms = .ok table)
    (hgraph : ∀ m ∈ ms, ∀ t, Refers g m t → t ∈ g.types) (hm : m ∈ ms) (ht : Refers g m t) :
    importedClass t ∈ table.classes := by
  obtain ⟨hclasses, hregistered⟩ := classes_importTable htable
  obtain ⟨c, hc, hname⟩ := hregistered m hm t ht
  obtain ⟨m', hm', t', ht', rfl⟩ := hclasses c hc
  have hget := TypeGraph.get?_eq_some.2 ⟨hgraph m hm t ht, rfl⟩
  have hget' := TypeGraph.get?_eq_some.2 ⟨hgraph m' hm' t' ht', hname⟩
  obtain rfl : t = t' := Option.some.inj (hget.symm.trans hget')
  exact hc

/-- **Only classes that can be imported are imported**, with one exception. Every class in the import
table of a unit is that of a type which is declared at module scope, or of a type of a private mapping
between enums, of which all come into the table; or the unit dispatches to it by a routine that no
plan of the result provides, which happens only where the cache held a stale entry. A directive whose
plan needs any other type that cannot be imported has no plan in the result, and an error. -/
theorem importable {config : Config} {g : TypeGraph} {cache : Cache} {r : PassResult}
    (hcache : Used cache) (h : (runPass config g cache).1 = .ok r) :
    (∀ u ∈ r.units, ∃ table, ImportsOf config g r.plans u table ∧
      (∀ c ∈ table.classes, ∃ t ∈ g.types, c = importedClass t ∧
        (t.extensible = true ∨ Unchecked r.plans u.ns t ∨ Strays r.plans u.ns t)) ∧
      ∀ t, Unchecked r.plans u.ns t → importedClass t ∈ table.classes) ∧
    (generate config g = .ok r → ∀ ns t, ¬ Strays r.plans ns t) ∧
    ∀ d ∈ (settingOf config g).index.directives, ∀ plan,
      (settingOf config g).planning.plan d = .ok plan → ∀ t, t.extensible = false →
      (plan.Checks t ∨ generate config g = .ok r ∧ plan.Dispatches g t) →
      (∀ p ∈ r.plans, p.directive ≠ d) ∧
        ∃ x ∈ r.diagnostics, x.isError = true ∧ d.location = some x.location := by
  have hpassed : ∀ p ∈ r.plans, ∃ conflict d, Passed (settingOf config g) conflict d p :=
    fun p hp => ⟨none, p.directive, (accepted_of_mem hcache h hp).passed⟩
  have hprovides : generate config g = .ok r → ∀ p ∈ r.plans, ∀ m ∈ p.parts, ∀ entry ∈ m.dispatch,
      ∃ q ∈ r.plans, q.Provides entry.routine :=
    fun halone p hp m hm entry hentry =>
      exists_provides_of_dispatch (yielded_of_generate halone) hp hm hentry
  refine ⟨fun u hu => ?_, ?_, fun d hd plan hplanned t ht hneeds => ?_⟩
  · obtain ⟨table, himports⟩ := exists_importsOf (units_eq hcache h) hu
    have hcases : ∀ m ∈ renderedMappings (plansOf r.plans u.ns), ∀ t, Refers g m t → t ∈ g.types ∧
        (t.extensible = true ∨ Unchecked r.plans u.ns t ∨ Strays r.plans u.ns t) :=
      fun m hm t ht => cases_of_refers hpassed hm ht
    refine ⟨table, himports, fun c hc => ?_, ?_⟩
    · obtain ⟨m, hm, t, ht, rfl⟩ := (classes_importTable himports.table_eq).1 c hc
      obtain ⟨hmem, hcase⟩ := hcases m hm t ht
      exact ⟨t, hmem, rfl, hcase⟩
    · rintro t ⟨e, hkept, ht⟩
      have hm : .enum e ∈ renderedMappings (plansOf r.plans u.ns) :=
        mem_renderedMappings.2 (.inr hkept)
      exact importedClass_mem himports.table_eq (fun m hm t ht => (hcases m hm t ht).1) hm
        (ht.imp_right .inl)
  · rintro halone ns t ⟨p, hp, m, hm, entry, hentry, -, hnone⟩
    obtain ⟨q, hq, hprovided⟩ := hprovides halone p (mem_plansOf.1 hp).1 m hm entry hentry
    exact hnone q hq hprovided
  · have habsent : ∀ p ∈ r.plans, p.directive ≠ d := by
      rintro p hp rfl
      -- the plan of the result is the one that was planned
      have haccepted := accepted_of_mem hcache h hp
      obtain rfl : plan = p := Except.ok.inj (hplanned.symm.trans haccepted.planned)
      have hextensible : t.extensible = true := by
        rcases hneeds with hchecks | ⟨halone, m, hm, entry, hentry, hget⟩
        · exact haccepted.passed.extensible hchecks
        · obtain ⟨source, target, hplan⟩ := haccepted.planOf
          obtain ⟨-, -, entries, hentries, hmem⟩ := dispatch_of_parts hplan hm hentry
          obtain ⟨q, hq, hprovided⟩ := hprovides halone plan hp m hm entry hentry
          have hq := (accepted_of_mem hcache h hq).passed
          exact hq.extensible (checks_of_provides hq (routineFor_of_dispatch hentries hmem).1
            hprovided hget)
      rw [ht] at hextensible
      cases hextensible
    exact ⟨habsent, exists_error_of_absent hcache h hd habsent⟩

/-- Cars with a colour, and vans. The target of vans cannot be imported; whether the colours of one
side can is open. -/
def cars (declared : Bool) : TypeGraph :=
  let color (type : String) : Member := { name := "color", type := .mk type .enum [] none false }
  { types := [
      { name := "Car", module := "shop", kind := .cls, members := [color "shop.Color"]
        directives := [{ source := "shop.Car", target := "dto.Car" }] },
      { name := "Color", module := "shop", kind := .enum, enumValues := ["RED"]
        extensible := declared },
      { name := "Van", module := "shop", kind := .cls
        directives := [{ source := "shop.Van", target := "dto.Van" }] },
      { name := "Car", module := "dto", kind := .cls, members := [color "dto.Color"] },
      { name := "Color", module := "dto", kind := .enum, enumValues := ["RED"] },
      { name := "Van", module := "dto", kind := .cls, extensible := false }]
    nodup := by cases declared <;> decide +kernel }

/-- The directive between vans, as the pass has it. -/
def vanDirective : Directive :=
  { source := "shop.Van", target := "dto.Van", location := some (.ofSymbol "shop.Van") }

/-- With all colours declared, everything that is imported can be; the vans are reported. -/
theorem importable_cars : Used { capacity := 2 } ∧
    ∃ r, (runPass {} (cars true) { capacity := 2 }).1 = .ok r ∧ r.units.length = 1 ∧
      (∀ u ∈ r.units, ∃ table, ImportsOf {} (cars true) r.plans u table ∧ table.classes.length = 4 ∧
        ∀ c ∈ table.classes, ∃ t ∈ (cars true).types, c = importedClass t ∧ t.extensible = true) ∧
      ∃ x ∈ r.diagnostics, x.isError = true ∧ vanDirective.location = some x.location := by
  obtain ⟨r, h, hlength, hclasses⟩ : ∃ r, (runPass {} (cars true) { capacity := 2 }).1 = .ok r ∧
      r.units.length = 1 ∧ ∀ u ∈ r.units,
        (importTable (some (cars true)) (renderedMappings (plansOf r.plans u.ns))).toOption.any
            (·.classes.length == 4) = true ∧
          ∀ m ∈ keptMappings (plansOf r.plans u.ns),
            m.source.extensible = true ∧ m.target.extensible = true :=
    Steps.exists_of_any (by decide +kernel)
  obtain ⟨plan, hplanned, hchecks⟩ :
      ∃ plan, (settingOf {} (cars true)).planning.plan vanDirective = .ok plan ∧
        ∃ t ∈ [plan.target], t.extensible = false :=
    Steps.exists_of_any (by decide +kernel)
  obtain ⟨t, ht, hextensible⟩ := hchecks
  obtain rfl := List.mem_singleton.1 ht
  obtain ⟨hunits, hstrays, hwithheld⟩ := importable (.new 2) h
  have hvan : vanDirective ∈ (settingOf {} (cars true)).index.directives := by decide +kernel
  have htarget : plan.Checks plan.target :=
    ⟨plan.forward, List.mem_append_left _ List.mem_cons_self, .inl List.mem_cons_self, .inr rfl⟩
  refine ⟨.new 2, r, h, hlength, fun u hu => ?_,
    (hwithheld vanDirective hvan plan hplanned _ hextensible (.inl htarget)).2⟩
  obtain ⟨table, himports, hcases, -⟩ := hunits u hu
  obtain ⟨hcount, hkept⟩ := hclasses u hu
  rw [himports.table_eq] at hcount
  refine ⟨table, himports, by simpa [Except.toOption] using hcount, fun c hc => ?_⟩
  have halone : generate {} (cars true) = .ok r := by
    rw [← h, generate_eq_uncached]
    exact ((runPass_eq_uncached (coherent_single (settingOf {} (cars true))) rfl
      (faithful_empty 2)).1).symm
  obtain ⟨t, ht, rfl, hextensible | ⟨e, he, hte⟩ | hstray⟩ := hcases c hc
  · exact ⟨t, ht, rfl, hextensible⟩
  · obtain ⟨hsource, htarget⟩ := hkept _ he
    rcases hte with rfl | rfl
    · exact ⟨_, ht, rfl, hsource⟩
    · exact ⟨_, ht, rfl, htarget⟩
  · exact absurd hstray (hstrays halone _ t)

/-- With the colours of one side undeclared, a class that cannot be imported is, and nothing is
reported about cars. -/
theorem not_importable_cars : ∃ r, generate {} (cars false) = .ok r ∧
    (∃ u ∈ r.units, ∃ table, ImportsOf {} (cars false) r.plans u table ∧
      ∃ c ∈ table.classes, ∀ t ∈ (cars false).types, c = importedClass t → t.extensible = false) ∧
    ∀ x ∈ r.diagnostics, x.location = .ofSymbol "shop.Van" := by
  obtain ⟨r, h, ⟨u, hu, hclass⟩, hvans⟩ : ∃ r, generate {} (cars false) = .ok r ∧
      (∃ u ∈ r.units,
        (importTable (some (cars false)) (renderedMappings (plansOf r.plans u.ns))).toOption.any
          (fun table => decide (∃ c ∈ table.classes, ∀ t ∈ (cars false).types,
            c = importedClass t → t.extensible = false)) = true) ∧
      ∀ x ∈ r.diagnostics, x.location = .ofSymbol "shop.Van" :=
    Steps.exists_of_any (by decide +kernel)
  obtain ⟨table, himports⟩ := exists_importsOf (yielded_of_generate h).units hu
  rw [himports.table_eq] at hclass
  exact ⟨r, h, ⟨u, hu, table, himports, of_decide_eq_true hclass⟩, hvans⟩

end Generation

end Mapsmith
