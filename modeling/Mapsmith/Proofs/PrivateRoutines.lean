import Mapsmith.Proofs.Links
import Mapsmith.Proofs.RoutineNames

/-!
# Private routines of a unit

A unit keeps one private routine for every name, and names are made of simple type names. So what a
call reaches depends on which requests share a name. The requests that the plans of a unit want
(`Mapsmith.Planning.Wanted`) and the calls of its mappings determine each other, in as far as the
routines that are kept are the right ones: every private call of a unit reaches the routine of its
pair of types and kind exactly if no two wanted requests of the unit's plans share a name
(`Mapsmith.Generation.private_calls`).
-/

namespace Mapsmith

open Matching

/-- The kind of conversion that a mapping serves. -/
def Mapping.conversionKind : Mapping → ConversionKind
  | .object _ => .nested
  | .enum _ => .enum

/-- Does a mapping serve a request: between its types, for its kind of conversion? -/
structure Mapping.Fits (m : Mapping) (request : Request) : Prop where
  source : m.source.qualifiedName = request.source
  target : m.target.qualifiedName = request.target
  kind : m.conversionKind = request.conversionKind

/-- A mapping serves one request. -/
theorem Mapping.Fits.unique {m : Mapping} {a b : Request} (ha : m.Fits a) (hb : m.Fits b) : a = b :=
  Request.eq_of_conversionKind (ha.source.symm.trans hb.source) (ha.target.symm.trans hb.target)
    (ha.kind.symm.trans hb.kind)

namespace Planning

variable {p : Planning} {d : Directive} {strategy strategy' : NamingStrategy} {request : Request}
  {name : String}

theorem Serves.fits {owner : Owner} {ref : RoutineRef} {m : Mapping}
    (h : Serves p owner strategy request ref m) : m.Fits request := by
  refine ⟨h.source_eq, h.target_eq, ?_⟩
  cases h <;> rfl

/-! ### Names of private routines -/

/-- The name of a private routine between object types tells the strategy that its members are
compared under. -/
theorem eq_of_helperName {source target : TypeDescriptor}
    (h : helperName source target strategy = helperName source target strategy') :
    strategy = strategy' := by
  have hsuffix : (if strategy = .identity then "" else "_" ++ strategy.word) =
      if strategy' = .identity then "" else "_" ++ strategy'.word := by
    rw [helperName, helperName] at h
    exact String.append_right_inj _ |>.1 h
  revert hsuffix
  cases strategy <;> cases strategy' <;> simp [NamingStrategy.word]

theorem helperName_of_privateName? {s t : String}
    (h : p.privateName? strategy (.nested s t) = some name) :
    ∃ source target, p.graph.get? s = some source ∧ p.graph.get? t = some target ∧
      name = helperName source target strategy := by
  have hroutine := routineFor_of_privateName? h
  simp only [Request.source, Request.target] at hroutine
  cases hs : p.graph.get? s with
  | none => simp [privateName?, Request.source, hs] at h
  | some source =>
    cases ht : p.graph.get? t with
    | none => simp [privateName?, Request.target, ht] at h
    | some target =>
      rw [privateName?_nested hroutine hs ht] at h
      split at h
      · cases h
      · exact ⟨source, target, rfl, rfl, (Option.some.inj h).symm⟩

theorem eq_of_privateName?_nested {s t : String}
    (h : p.privateName? strategy (.nested s t) = some name)
    (h' : p.privateName? strategy' (.nested s t) = some name) : strategy = strategy' := by
  obtain ⟨source, target, hs, ht, rfl⟩ := helperName_of_privateName? h
  obtain ⟨source', target', hs', ht', heq⟩ := helperName_of_privateName? h'
  obtain rfl : source = source' := Option.some.inj (hs.symm.trans hs')
  obtain rfl : target = target' := Option.some.inj (ht.symm.trans ht')
  exact eq_of_helperName heq

/-- Two strategies under which a request has one name agree, if its mapping makes requests at all. -/
theorem strategy_eq_of_inside (h : p.privateName? strategy request = some name)
    (h' : p.privateName? strategy' request = some name) (hinside : p.inside strategy request ≠ []) :
    strategy = strategy' := by
  cases request with
  | nested s t => exact eq_of_privateName?_nested h h'
  | enum s t => exact absurd rfl hinside

/-- A wanted request stands for references in members of types of the graph. -/
theorem Wanted.origin (h : Wanted p d request) : Originates p.graph request := by
  cases h with
  | ahead hasked _ => exact origin_of_asked hasked
  | back _ _ _ hasked _ => exact origin_of_asked hasked
  | inside _ hasked _ =>
    obtain ⟨e, hasked⟩ := exists_asked_of_inside hasked
    exact origin_of_asked hasked

/-- Nothing is asked for between types that are not matched. -/
theorem not_unmatchable_of_asked {inverse : Bool} {source target : TypeDescriptor}
    (hs : p.graph.get? d.source = some source) (ht : p.graph.get? d.target = some target)
    (h : request ∈ p.asked inverse d) : ¬ Unmatchable source target := by
  intro hnone
  unfold asked at h
  simp only [hs, ht, if_pos hnone] at h
  cases h

end Planning

namespace Generation

open Planning Emission

variable {s : Setting} {i : Nat} {d : Directive} {plan : Plan} {m k : Mapping}
  {kind : ConversionKind} {r : RoutineRef} {request : Request} {name : String}

/-! ### The private routines of a plan -/

/-- A private mapping of an emitted plan serves a request that the plan wants. -/
theorem Emitted.serves_of_mem_helpers (h : Emitted s i d plan) (hm : m ∈ plan.helpers) :
    ∃ request owner, Wanted s.planning d request ∧
      s.planning.privateName? d.strategy request = some m.routine.name ∧
      Serves s.planning owner d.strategy request m.routine m := by
  obtain ⟨source, target, hplan⟩ := h.planOf
  by_cases hkind : source.kind = .enum
  · obtain ⟨forward, reverse, rfl⟩ := hplan.enum hkind
    cases hm
  · obtain ⟨request, name, hwanted, hname, hserves⟩ := (hplan.object hkind).helpers.made m hm
    have hroutine := hserves.routine_eq
    rw [← hroutine] at hserves
    refine ⟨request, _, hwanted, ?_, hserves⟩
    rw [hroutine]
    exact hname

/-- Every private routine that some part of an emitted plan calls has a private mapping. -/
theorem Emitted.exists_helper (h : Emitted s i d plan) (hm : m ∈ plan.parts) (hr : r ∈ m.calls)
    (hprivate : r.helper = true) : ∃ k ∈ plan.helpers, k.routine.name = r.name := by
  obtain ⟨source, target, hplan⟩ := h.planOf
  by_cases hkind : source.kind = .enum
  · obtain ⟨forward, reverse, rfl⟩ := hplan.enum hkind
    rw [(mem_parts_enum hm).1] at hr
    cases hr
  · exact (hplan.object hkind).helpers.there m hm r hr hprivate

/-- The private routines that a plan uses in its two directions are those of requests it wants. -/
theorem Emitted.wanted_of_uses (h : Emitted s i d plan) (hm : m ∈ plan.publicMappings)
    (huse : (kind, r) ∈ m.uses) (hprivate : r.helper = true) :
    ∃ request, Wanted s.planning d request ∧
      s.planning.privateName? d.strategy request = some r.name ∧
      r.source = request.source ∧ r.target = request.target ∧ request.conversionKind = kind := by
  obtain ⟨source, target, hplan⟩ := h.planOf
  by_cases hkind : source.kind = .enum
  · obtain ⟨forward, reverse, rfl⟩ := hplan.enum hkind
    have hcall := Mapping.mem_calls_iff.2 ⟨kind, huse⟩
    rw [(mem_parts_enum (List.mem_append_left _ hm)).1] at hcall
    cases hcall
  · obtain ⟨entries, helpers, -, rfl⟩ := (hplan.object hkind).parts
    rcases List.mem_cons.1 hm with rfl | hm
    · obtain ⟨request, hasked, hanswer, rfl⟩ := (mem_uses_mappingWith hplan.hs hplan.ht).1 huse
      obtain ⟨name, hname, rfl⟩ := answer_private hanswer hprivate
      exact ⟨request, .ahead hasked hname, hname, rfl, rfl, rfl⟩
    · obtain ⟨o, ho, rfl⟩ := Option.map_eq_some_iff.1 (Option.mem_toList.1 hm)
      unfold reverseMapping? at ho
      split at ho
      next hback =>
        cases ho
        obtain ⟨request, hasked, hanswer, rfl⟩ := (mem_uses_mappingWith hplan.ht hplan.hs).1 huse
        obtain ⟨name, hname, rfl⟩ := answer_private hanswer hprivate
        exact ⟨request, .back hplan.hs hplan.ht hback hasked hname, hname, rfl, rfl, rfl⟩
      · cases ho

/-- The declared direction uses the private routines of the requests it makes. -/
theorem Emitted.uses_ahead (h : Emitted s i d plan) (hasked : request ∈ s.planning.asked false d)
    (hname : s.planning.privateName? d.strategy request = some name) :
    ∃ home, ∃ m ∈ plan.publicMappings,
      (request.conversionKind, privateRef home request name) ∈ m.uses := by
  obtain ⟨source, target, hplan⟩ := h.planOf
  have hmatch := not_unmatchable_of_asked hplan.hs hplan.ht hasked
  have hkind : source.kind ≠ .enum := fun hkind => hmatch (by simp [Unmatchable, hkind])
  obtain ⟨entries, helpers, -, rfl⟩ := (hplan.object hkind).parts
  refine ⟨target.module, _, List.mem_cons_self, ?_⟩
  exact (mem_uses_mappingWith hplan.hs hplan.ht).2
    ⟨request, hasked, answer_of_privateName? hname, rfl⟩

/-- The way back uses the private routines of the requests it makes. -/
theorem Emitted.uses_back (h : Emitted s i d plan) {source target : TypeDescriptor}
    (hs : s.planning.graph.get? d.source = some source)
    (ht : s.planning.graph.get? d.target = some target) (hback : goesBack d source target = true)
    (hasked : request ∈ s.planning.asked true d.reversed)
    (hname : s.planning.privateName? d.strategy request = some name) :
    ∃ home, ∃ m ∈ plan.publicMappings,
      (request.conversionKind, privateRef home request name) ∈ m.uses := by
  obtain ⟨source', target', hplan⟩ := h.planOf
  obtain rfl : source = source' := Option.some.inj (hs.symm.trans hplan.hs)
  obtain rfl : target = target' := Option.some.inj (ht.symm.trans hplan.ht)
  have hmatch := not_unmatchable_of_asked ht hs hasked
  have hkind : source.kind ≠ .enum := fun hkind =>
    hmatch (by simp [Unmatchable, hkind, TypeKind.isObject])
  obtain ⟨entries, helpers, -, rfl⟩ := (hplan.object hkind).parts
  let back := s.planning.mappingWith target.module true d.reversed
    (routineBetween target source target.module) target source
  have hreverse : s.planning.reverseMapping? d source target = some back := if_pos hback
  have huses : (request.conversionKind, privateRef target.module request name) ∈
      (Mapping.object back).uses :=
    (mem_uses_mappingWith ht hs).2 ⟨request, hasked, answer_of_privateName? hname, rfl⟩
  refine ⟨target.module, .object back, List.mem_cons_of_mem _ (Option.mem_toList.2 ?_), huses⟩
  rw [Plan.reverse?, hreverse]
  rfl

/-! ### The private routines of a unit -/

/-- The private mappings that a unit of some plans keeps, the first of every name. -/
def keptMappings (plans : List Plan) : List Mapping :=
  helperMappings (sortPlans plans)

/-- The mappings that a unit of some plans is rendered from. -/
def renderedMappings (plans : List Plan) : List Mapping :=
  (unitMappings (sortPlans plans)).map (·.2)

/-- Does some plan among those of a unit want a request, under the name of a private routine? -/
def WantedBy (s : Setting) (plans : List Plan) (request : Request) (name : String) : Prop :=
  ∃ p ∈ plans, Wanted s.planning p.directive request ∧
    s.planning.privateName? p.directive.strategy request = some name

/-- Does the name of a private routine tell which request it is for, among those that the plans of a
unit want? -/
def NamesTell (s : Setting) (plans : List Plan) : Prop :=
  ∀ a b name, WantedBy s plans a name → WantedBy s plans b name → a = b

/-- Does the name of a private routine tell the pair of types that it is for? -/
def NamesTellPairs (s : Setting) (plans : List Plan) : Prop :=
  ∀ a b name, WantedBy s plans a name → WantedBy s plans b name →
    a.source = b.source ∧ a.target = b.target

/-- Does every private call of a unit reach a routine for its pair of types? -/
def ReachesPairs (plans : List Plan) : Prop :=
  ∀ m ∈ renderedMappings plans, ∀ r ∈ m.calls, r.helper = true →
    ∀ k ∈ keptMappings plans, k.routine.name = r.name →
      k.source.qualifiedName = r.source ∧ k.target.qualifiedName = r.target

instance (plans : List Plan) : Decidable (ReachesPairs plans) :=
  inferInstanceAs (Decidable (∀ m ∈ renderedMappings plans, _))

/-- Does every private call of a unit reach a routine for its pair of types and its kind of
conversion? -/
def ReachesRight (plans : List Plan) : Prop :=
  ∀ m ∈ renderedMappings plans, ∀ kind r, (kind, r) ∈ m.uses → r.helper = true →
    ∀ k ∈ keptMappings plans, k.routine.name = r.name →
      k.source.qualifiedName = r.source ∧ k.target.qualifiedName = r.target ∧
        k.conversionKind = kind

theorem mem_renderedMappings {plans : List Plan} : m ∈ renderedMappings plans ↔
    (∃ p ∈ plans, m ∈ p.publicMappings) ∨ m ∈ keptMappings plans := by
  simp [renderedMappings, unitMappings, keptMappings, sortPlans]

/-- A unit is rendered from parts of its plans. -/
theorem exists_part {plans : List Plan} (hm : m ∈ renderedMappings plans) :
    ∃ p ∈ plans, m ∈ p.parts := by
  rcases mem_renderedMappings.1 hm with ⟨p, hp, hm⟩ | hm
  · exact ⟨p, hp, List.mem_append_left _ hm⟩
  · obtain ⟨p, hp, hm⟩ := mem_of_mem_helperMappings hm
    exact ⟨p, Text.mem_sortByKey.1 hp, List.mem_append_right _ hm⟩

theorem eq_of_mem_keptMappings {plans : List Plan} {k' : Mapping} (hk : k ∈ keptMappings plans)
    (hk' : k' ∈ keptMappings plans) (hname : k.routine.name = k'.routine.name) : k = k' :=
  List.inj_on_of_nodup_map nodup_helperMappings hk hk' hname

/-- Every private routine of a plan is kept under its name. -/
theorem exists_kept_of_mem_helpers {plans : List Plan} (hp : plan ∈ plans) (hm : m ∈ plan.helpers) :
    ∃ k ∈ keptMappings plans, k.routine.name = m.routine.name := by
  have hm : m ∈ (sortPlans plans).flatMap (·.helpers) :=
    List.mem_flatMap.2 ⟨plan, Text.mem_sortByKey.2 hp, hm⟩
  have hname : m.routine.name ∈ (Text.addFirsts (fun m : Mapping => m.routine.name) []
      ((sortPlans plans).flatMap (·.helpers))).map (·.routine.name) := Text.name_mem_addFirsts hm
  obtain ⟨k, hk, hname⟩ := List.mem_map.1 hname
  exact ⟨k, helperMappings_perm.mem_iff.2 hk, hname⟩

section Unit

variable {config : Config} {g : TypeGraph} {result : PassResult} {ns : String}
  (h : Yielded config g result)
include h

theorem emitted_of_mem_plansOf (hp : plan ∈ plansOf result.plans ns) :
    ∃ i, Emitted (settingOf config g) i plan.directive plan := by
  obtain ⟨i, d, hemitted⟩ := h.emitted (mem_plansOf.1 hp).1
  obtain ⟨source, target, hplan⟩ := hemitted.planOf
  exact ⟨i, hplan.directive_eq ▸ hemitted⟩

/-- What a unit keeps serves a request that one of its plans wants. -/
theorem serves_of_kept (hk : k ∈ keptMappings (plansOf result.plans ns)) :
    ∃ p ∈ plansOf result.plans ns, ∃ request owner,
      Wanted (settingOf config g).planning p.directive request ∧
      (settingOf config g).planning.privateName? p.directive.strategy request =
        some k.routine.name ∧
      Serves (settingOf config g).planning owner p.directive.strategy request k.routine k := by
  obtain ⟨p, hp, hmem⟩ := mem_of_mem_helperMappings hk
  have hp := Text.mem_sortByKey.1 hp
  obtain ⟨i, hemitted⟩ := emitted_of_mem_plansOf h hp
  exact ⟨p, hp, hemitted.serves_of_mem_helpers hmem⟩

theorem fits_of_kept (hk : k ∈ keptMappings (plansOf result.plans ns)) :
    ∃ request, WantedBy (settingOf config g) (plansOf result.plans ns) request k.routine.name ∧
      k.Fits request := by
  obtain ⟨p, hp, request, owner, hwanted, hname, hserves⟩ := serves_of_kept h hk
  exact ⟨request, ⟨p, hp, hwanted, hname⟩, hserves.fits⟩

/-- **No private call of a unit dangles.** -/
theorem exists_kept_of_call (hm : m ∈ renderedMappings (plansOf result.plans ns)) (hr : r ∈ m.calls)
    (hprivate : r.helper = true) :
    ∃ k ∈ keptMappings (plansOf result.plans ns), k.routine.name = r.name := by
  obtain ⟨p, hp, hm⟩ := exists_part hm
  obtain ⟨i, hemitted⟩ := emitted_of_mem_plansOf h hp
  obtain ⟨k, hk, hname⟩ := hemitted.exists_helper hm hr hprivate
  obtain ⟨k', hk', hname'⟩ := exists_kept_of_mem_helpers hp hk
  exact ⟨k', hk', hname'.trans hname⟩

/-- What a unit uses is the routine of a request that one of its plans wants. -/
theorem wanted_of_uses (hm : m ∈ renderedMappings (plansOf result.plans ns))
    (huse : (kind, r) ∈ m.uses) (hprivate : r.helper = true) :
    ∃ request, WantedBy (settingOf config g) (plansOf result.plans ns) request r.name ∧
      r.source = request.source ∧ r.target = request.target ∧ request.conversionKind = kind := by
  rcases mem_renderedMappings.1 hm with ⟨p, hp, hm⟩ | hm
  · obtain ⟨i, hemitted⟩ := emitted_of_mem_plansOf h hp
    obtain ⟨request, hwanted, hname, hrest⟩ := hemitted.wanted_of_uses hm huse hprivate
    exact ⟨request, ⟨p, hp, hwanted, hname⟩, hrest⟩
  · obtain ⟨p, hp, outer, owner, houter, -, hserves⟩ := serves_of_kept h hm
    obtain ⟨request, hinside, hanswer, rfl⟩ := hserves.mem_uses.1 huse
    obtain ⟨name, hname, rfl⟩ := answer_private hanswer hprivate
    exact ⟨request, ⟨p, hp, .inside houter hinside hname, hname⟩, rfl, rfl, rfl⟩

/-- Where every use reaches the right routine, the one under the name of a used request fits it. -/
theorem fits_of_uses {home : String} (hright : ReachesRight (plansOf result.plans ns))
    (hm : m ∈ renderedMappings (plansOf result.plans ns))
    (huse : (request.conversionKind, privateRef home request name) ∈ m.uses) :
    ∃ k ∈ keptMappings (plansOf result.plans ns), k.routine.name = name ∧ k.Fits request := by
  obtain ⟨k, hk, hname⟩ := exists_kept_of_call h hm (Mapping.mem_calls_iff.2 ⟨_, huse⟩) rfl
  obtain ⟨hsource, htarget, hkind⟩ := hright m hm _ _ huse rfl k hk hname
  exact ⟨k, hk, hname, hsource, htarget, hkind⟩

/-- Where every use reaches the right routine, every wanted request is served under its name. -/
theorem fits_of_wanted (hright : ReachesRight (plansOf result.plans ns))
    (hp : plan ∈ plansOf result.plans ns)
    (hwanted : Wanted (settingOf config g).planning plan.directive request)
    (hname : (settingOf config g).planning.privateName? plan.directive.strategy request =
      some name) :
    ∃ k ∈ keptMappings (plansOf result.plans ns), k.routine.name = name ∧ k.Fits request := by
  obtain ⟨i, hemitted⟩ := emitted_of_mem_plansOf h hp
  -- a request is used by the mapping that makes it, which the unit renders
  induction hwanted generalizing name with
  | ahead hasked _ =>
    obtain ⟨home, m, hm, huse⟩ := hemitted.uses_ahead hasked hname
    exact fits_of_uses h hright (mem_renderedMappings.2 (.inl ⟨plan, hp, hm⟩)) huse
  | back hs ht hback hasked _ =>
    obtain ⟨home, m, hm, huse⟩ := hemitted.uses_back hs ht hback hasked hname
    exact fits_of_uses h hright (mem_renderedMappings.2 (.inl ⟨plan, hp, hm⟩)) huse
  | @inside outer request _ houter hinside _ ih =>
    -- what is kept for the outer request may stem from another plan, but makes the same requests
    obtain ⟨outerName, houterName⟩ := houter.exists_name
    obtain ⟨k, hk, hkname, hfits⟩ := ih houterName
    obtain ⟨q, hq, request', owner, -, hname', hserves⟩ := serves_of_kept h hk
    obtain rfl := hserves.fits.unique hfits
    rw [hkname] at hname'
    have hstrategy := strategy_eq_of_inside houterName hname' (List.ne_nil_of_mem hinside)
    rw [hstrategy] at hinside hname
    exact fits_of_uses h hright (mem_renderedMappings.2 (.inr hk))
      (hserves.mem_uses.2 ⟨request, hinside, answer_of_privateName? hname, rfl⟩)

/-- **Every private call reaches the right routine** exactly if no two requests that the plans of
the unit want share a name. -/
theorem reachesRight_iff : ReachesRight (plansOf result.plans ns) ↔
    NamesTell (settingOf config g) (plansOf result.plans ns) := by
  constructor
  · rintro hright a b name ⟨p, hp, ha, hna⟩ ⟨q, hq, hb, hnb⟩
    obtain ⟨k, hk, hkname, hfits⟩ := fits_of_wanted h hright hp ha hna
    obtain ⟨k', hk', hkname', hfits'⟩ := fits_of_wanted h hright hq hb hnb
    obtain rfl := eq_of_mem_keptMappings hk hk' (hkname.trans hkname'.symm)
    exact hfits.unique hfits'
  · intro hapart m hm kind r huse hprivate k hk hkname
    obtain ⟨a, ha, hsource, htarget, hkind⟩ := wanted_of_uses h hm huse hprivate
    obtain ⟨b, hb, hfits⟩ := fits_of_kept h hk
    obtain rfl := hapart a b _ ha (hkname ▸ hb)
    exact ⟨hfits.source.trans hsource.symm, hfits.target.trans htarget.symm, hfits.kind.trans hkind⟩

/-- Where requests that share a name agree in their types, private calls reach their pairs. -/
theorem reachesPairs_of_namesTellPairs
    (hapart : NamesTellPairs (settingOf config g) (plansOf result.plans ns)) :
    ReachesPairs (plansOf result.plans ns) := by
  intro m hm r hr hprivate k hk hkname
  obtain ⟨kind, huse⟩ := Mapping.mem_calls_iff.1 hr
  obtain ⟨a, ha, hsource, htarget, -⟩ := wanted_of_uses h hm huse hprivate
  obtain ⟨b, hb, hfits⟩ := fits_of_kept h hk
  obtain ⟨hs, ht⟩ := hapart a b _ ha (hkname ▸ hb)
  exact ⟨hfits.source.trans (hs.symm.trans hsource.symm),
    hfits.target.trans (ht.symm.trans htarget.symm)⟩

end Unit

/-! ### Calls that reach the right routine -/

/-- Does no enum reference of a graph name an object type? -/
def EnumsNamedAsSuch (g : TypeGraph) : Prop :=
  ∀ name, EnumReference g name → (g.get? name).any (·.kind.isObject) = false

section NamedAsSuch

variable {g : TypeGraph} (henums : EnumsNamedAsSuch g)
include henums

/-- Under references that name enums as such, no object request shares its target with an enum one. -/
theorem not_originates_nested_enum {s s' t : String} (ha : Originates g (.nested s t))
    (hb : Originates g (.enum s' t)) : False := by
  obtain ⟨hobject, -⟩ := ha
  obtain ⟨-, type, htype, m, hm, q, hpart, hkind, hname⟩ := hb
  have hnone := henums t ⟨type, htype, m, hm, q, hpart, hkind, hname⟩
  exact absurd (hobject.symm.trans hnone) Bool.noConfusion

/-- Under references that name enums as such, a request is known by its pair of types. -/
theorem eq_of_pair {a b : Request} (ha : Originates g a) (hb : Originates g b)
    (hsource : a.source = b.source) (htarget : a.target = b.target) : a = b := by
  refine Request.eq_of_conversionKind hsource htarget ?_
  cases a with
  | nested s t =>
    cases b with
    | nested s' t' => rfl
    | enum s' t' =>
      obtain rfl : t = t' := htarget
      exact (not_originates_nested_enum henums ha hb).elim
  | enum s t =>
    cases b with
    | nested s' t' =>
      obtain rfl : t = t' := htarget
      exact (not_originates_nested_enum henums hb ha).elim
    | enum s' t' => rfl

end NamedAsSuch

/-- **Private calls reach the right routine.** A private call of a unit never dangles, and what it
reaches is the only routine of its name. It is the routine for its pair of types and its kind of
conversion, for all calls of the unit, exactly if no two requests that the unit's plans want share a
name. Where the enum references of the graph name no object type, a pair of types tells the kind, and
all calls reach their pairs exactly if no two pairs share a name; that is enough in any case. -/
theorem private_calls {config : Config} {g : TypeGraph} {result : PassResult}
    (h : generate config g = .ok result) : ∀ u ∈ result.units,
    (∀ m ∈ renderedMappings (plansOf result.plans u.ns), ∀ r ∈ m.calls, r.helper = true →
      ∃ k ∈ keptMappings (plansOf result.plans u.ns), k.routine.name = r.name ∧
        ∀ k' ∈ keptMappings (plansOf result.plans u.ns), k'.routine.name = r.name → k' = k) ∧
    (ReachesRight (plansOf result.plans u.ns) ↔
      NamesTell (settingOf config g) (plansOf result.plans u.ns)) ∧
    (NamesTellPairs (settingOf config g) (plansOf result.plans u.ns) →
      ReachesPairs (plansOf result.plans u.ns)) ∧
    (EnumsNamedAsSuch g → (ReachesPairs (plansOf result.plans u.ns) ↔
      NamesTellPairs (settingOf config g) (plansOf result.plans u.ns))) := by
  have hyielded := yielded_of_generate h
  intro u _
  refine ⟨fun m hm r hr hprivate => ?_, reachesRight_iff hyielded,
    reachesPairs_of_namesTellPairs hyielded, fun henums => ⟨fun hpairs => ?_,
      reachesPairs_of_namesTellPairs hyielded⟩⟩
  · obtain ⟨k, hk, hname⟩ := exists_kept_of_call hyielded hm hr hprivate
    exact ⟨k, hk, hname, fun k' hk' hname' =>
      eq_of_mem_keptMappings hk' hk (hname'.trans hname.symm)⟩
  · -- the pair tells the kind, so calls that reach their pairs reach the right routines
    have hright : ReachesRight (plansOf result.plans u.ns) := by
      intro m hm kind r huse hprivate k hk hname
      obtain ⟨hs, ht⟩ := hpairs m hm r (Mapping.mem_calls_iff.2 ⟨kind, huse⟩) hprivate k hk hname
      obtain ⟨a, ⟨p, -, ha, -⟩, hsource, htarget, hkind⟩ := wanted_of_uses hyielded hm huse hprivate
      obtain ⟨b, ⟨q, -, hb, -⟩, hfits⟩ := fits_of_kept hyielded hk
      obtain rfl := eq_of_pair henums ha.origin hb.origin
        (hsource.symm.trans (hs.symm.trans hfits.source))
        (htarget.symm.trans (ht.symm.trans hfits.target))
      exact ⟨hs, ht, hfits.kind.trans hkind⟩
    intro a b name ha hb
    obtain rfl := (reachesRight_iff hyielded).1 hright a b name ha hb
    exact ⟨rfl, rfl⟩

/-- A scalar member that holds a text. -/
def textMember (name : String) : Member :=
  { name, type := .mk "str" .scalar [] none false }

/-- A member that holds an object of a type. -/
def objectMember (name type : String) : Member :=
  { name, type := .mk type .object [] none false }

/-- Parcels with an address, of which only the parcels are declared to be mapped. -/
def parcels : TypeGraph :=
  { types := [
      { name := "Address", module := "shop", kind := .cls, members := [textMember "street"] },
      { name := "Address", module := "dto", kind := .cls, members := [textMember "street"] },
      { name := "Parcel", module := "shop", kind := .cls
        members := [objectMember "address" "shop.Address"]
        directives := [{ source := "shop.Parcel", target := "dto.Parcel" }] },
      { name := "Parcel", module := "dto", kind := .cls
        members := [objectMember "address" "dto.Address"] }]
    nodup := by decide +kernel }

theorem private_calls_parcels : ∃ result, generate {} parcels = .ok result ∧
    ∃ u ∈ result.units, ∃ m ∈ renderedMappings (plansOf result.plans u.ns),
      ∃ r ∈ m.calls, r.helper = true ∧
        ∃ k ∈ keptMappings (plansOf result.plans u.ns), k.routine.name = r.name := by
  obtain ⟨result, h, u, hu, m, hm, r, hr, hprivate⟩ : ∃ result, generate {} parcels = .ok result ∧
      ∃ u ∈ result.units, ∃ m ∈ renderedMappings (plansOf result.plans u.ns),
        ∃ r ∈ m.calls, r.helper = true :=
    Steps.exists_of_any (by decide +kernel)
  obtain ⟨k, hk, hname, -⟩ := (private_calls h u hu).1 m hm r hr hprivate
  exact ⟨result, h, u, hu, m, hm, r, hr, hprivate, k, hk, hname⟩

/-- Orders with two addresses of types that go by one simple name. -/
def deliveries : TypeGraph :=
  { types := [
      { name := "Address", module := "billing", kind := .cls, members := [textMember "street"] },
      { name := "Address", module := "shipping", kind := .cls, members := [textMember "city"] },
      { name := "AddressDto", module := "dto", kind := .cls
        members := [textMember "street", textMember "city"] },
      { name := "Order", module := "shop", kind := .cls
        members := [objectMember "bill" "billing.Address", objectMember "ship" "shipping.Address"]
        directives := [{ source := "shop.Order", target := "dto.OrderDto" }] },
      { name := "OrderDto", module := "dto", kind := .cls
        members := [objectMember "bill" "dto.AddressDto", objectMember "ship" "dto.AddressDto"] }]
    nodup := by decide +kernel }

/-- Both addresses are mapped by the routine for the first one, and nothing is reported. -/
theorem not_reachesPairs_deliveries : ∃ result, generate {} deliveries = .ok result ∧
    result.diagnostics = [] ∧ ∃ u ∈ result.units, ¬ ReachesPairs (plansOf result.plans u.ns) :=
  Steps.exists_of_any (by decide +kernel)

end Generation

end Mapsmith
