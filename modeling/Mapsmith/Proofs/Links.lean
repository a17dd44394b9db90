import Mapsmith.Proofs.Units

/-!
# Links between generated routines

A plan of a result calls public routines of other plans: in the conversions of its members at any
depth, in its dispatch, on its way back and in its private mappings. No such call dangles: some unit
offers a routine of that name in that namespace. Nor does it reach the routine of another pair, with
one exception. The index promises a way back for every two-way directive, but a plan has one only
where both its types can be built, so nothing stands behind a promise that leads back to an
interface; a call of it reaches whatever else goes by its name. Of the two checks that come before
a call, that of nested objects rules such targets out and that of enums does not, so all calls are
sound where enum references name no interface (`Mapsmith.Generation.links`).
-/

namespace Mapsmith

open Matching

/-! ### What a plan reaches -/

/-- Does a conversion call a routine, at any depth of collections? -/
inductive Conversion.Calls : Conversion → RoutineRef → Prop
  /-- The conversion itself. -/
  | here {kind r element container nullable} : Calls (.mk kind (some r) element container nullable) r
  /-- The conversion of the elements. -/
  | inside {kind routine e r container nullable} (h : Calls e r) :
    Calls (.mk kind routine (some e) container nullable) r

theorem Conversion.calls_iff {c : Conversion} {r : RoutineRef} : c.Calls r ↔ r ∈ c.routines := by
  constructor
  · intro h
    induction h with
    | @here _ _ element => cases element <;> exact List.mem_cons_self
    | inside _ ih => exact List.mem_append_right _ ih
  · induction c using Conversion.routines.induct with
    | case1 kind routine container nullable =>
      intro h
      obtain rfl : routine = some r := Option.mem_toList.1 h
      exact .here
    | case2 kind routine e container nullable ih =>
      intro h
      rcases List.mem_append.1 h with h | h
      · obtain rfl : routine = some r := Option.mem_toList.1 h
        exact .here
      · exact .inside (ih h)

/-- The correspondences of a mapping's members. -/
def Mapping.correspondences : Mapping → List PropertyMapping
  | .object m => m.mappings
  | .enum _ => []

/-- The parts of a plan: its declared direction, its way back and its private mappings. -/
def Plan.parts (p : Plan) : List Mapping :=
  p.publicMappings ++ p.helpers

/-- Does a plan call a public routine: in a conversion or in a dispatch, in some part of it? -/
def Plan.Reaches (p : Plan) (r : RoutineRef) : Prop :=
  r.helper = false ∧ ∃ m ∈ p.parts,
    (∃ c ∈ m.correspondences, c.conversion.Calls r) ∨ ∃ entry ∈ m.dispatch, entry.routine = r

/-- Does a plan refer to a routine as to a public one: in a conversion at any depth or in a dispatch, in
some part of it? -/
def Plan.References (p : Plan) (r : RoutineRef) : Prop :=
  ∃ m ∈ p.parts, (r.helper = false ∧ ∃ c ∈ m.correspondences, c.conversion.Calls r) ∨
    ∃ entry ∈ m.dispatch, entry.routine = r

/-- Does a plan provide a routine: under its name, in its namespace, for its pair of types? -/
def Plan.Provides (p : Plan) (r : RoutineRef) : Prop :=
  ∃ m ∈ p.publicMappings, m.routine.name = r.name ∧ m.routine.home = r.home ∧
    m.source.qualifiedName = r.source ∧ m.target.qualifiedName = r.target

theorem Mapping.mem_calls {m : Mapping} {r : RoutineRef} :
    r ∈ m.calls ↔ ∃ c ∈ m.correspondences, c.conversion.Calls r := by
  cases m with
  | object m => simp only [calls, correspondences, List.mem_flatMap, Conversion.calls_iff]
  | enum m => simp [calls, correspondences]

instance (p : Plan) (r : RoutineRef) : Decidable (p.Reaches r) :=
  decidable_of_iff (r.helper = false ∧ ∃ m ∈ p.parts,
      r ∈ m.calls ∨ ∃ entry ∈ m.dispatch, entry.routine = r) <| by
    simp only [Plan.Reaches, Mapping.mem_calls]

instance (p : Plan) (r : RoutineRef) : Decidable (p.Provides r) :=
  inferInstanceAs (Decidable (∃ m ∈ p.publicMappings, _))

namespace Generation

open Planning Emission

variable {s : Setting} {i : Nat} {conflict : Option String} {d : Directive} {plan : Plan}
  {r : RoutineRef}

theorem mem_parts_enum {forward : EnumMapping} {reverse : Option EnumMapping} {m : Mapping}
    (h : m ∈ (Plan.enum forward reverse).parts) : m.calls = [] ∧ m.dispatch = [] := by
  have henum : m = .enum forward ∨ ∃ e, reverse = some e ∧ Mapping.enum e = m := by
    simpa [Plan.parts, Plan.publicMappings, Plan.forward, Plan.reverse?, Plan.helpers] using h
  rcases henum with rfl | ⟨e, -, rfl⟩
  · exact ⟨rfl, rfl⟩
  · exact ⟨rfl, rfl⟩

theorem parts_object {forward : ObjectMapping} {reverse : Option ObjectMapping}
    {helpers : List Mapping} : (Plan.object forward reverse helpers).parts =
      .object forward :: (reverse.toList.map .object ++ helpers) := by
  simp [Plan.parts, Plan.publicMappings, Plan.forward, Plan.reverse?, Plan.helpers,
    Option.toList_map]

theorem mem_parts_object {forward : ObjectMapping} {reverse : Option ObjectMapping}
    {helpers : List Mapping} {m : Mapping} (h : m ∈ (Plan.object forward reverse helpers).parts) :
    m = .object forward ∨ (∃ o, reverse = some o ∧ m = .object o) ∨ m ∈ helpers := by
  simpa [parts_object, eq_comm] using h

/-- **Withholding looks at all that a plan refers to**, and at nothing else. -/
theorem mem_publicCalls_iff : r ∈ publicCalls plan ↔ plan.References r := by
  have hpart (m : Mapping) : r ∈ (m.calls.filter fun r => !r.helper) ++ m.dispatch.map (·.routine) ↔
      (r.helper = false ∧ ∃ c ∈ m.correspondences, c.conversion.Calls r) ∨
        ∃ entry ∈ m.dispatch, entry.routine = r := by
    simp only [List.mem_append, List.mem_filter, List.mem_map, Mapping.mem_calls,
      Bool.not_eq_true', and_comm]
  cases plan with
  | enum forward reverse =>
    refine ⟨fun h => absurd h List.not_mem_nil, fun ⟨m, hm, h⟩ => ?_⟩
    obtain ⟨hcalls, hdispatch⟩ := mem_parts_enum hm
    rw [← hpart, hcalls, hdispatch] at h
    exact absurd h List.not_mem_nil
  | object forward reverse helpers =>
    simp only [publicCalls, Plan.References, parts_object, List.mem_flatMap, hpart]

theorem mem_publicCalls (h : plan.Reaches r) : r ∈ publicCalls plan := by
  obtain ⟨hpublic, m, hm, hcalls⟩ := h
  exact mem_publicCalls_iff.2 ⟨m, hm, hcalls.imp_left fun hcall => ⟨hpublic, hcall⟩⟩

/-- The references of members that a call can come from: those of enums, under the name of its
target. -/
def EnumReference (g : TypeGraph) (name : String) : Prop :=
  ∃ t ∈ g.types, ∃ m ∈ t.members, ∃ q : TypeRef, q.Part m.type ∧ q.kind = .enum ∧ q.name = name

/-- What stands behind a public routine that a plan reaches: the index names it, and if no directive
is declared for its pair, its target can be built or an enum reference names it. -/
def Justified (s : Setting) (r : RoutineRef) : Prop :=
  s.index.routineFor r.source r.target = some r ∧
    (s.index.directiveFor r.source r.target = none →
      (s.index.graph.get? r.target).any (·.kind.isObject) = true ∨
        EnumReference s.index.graph r.target)

theorem justified_of_answer {home : String} {strategy : NamingStrategy} {request : Request}
    {inverse : Bool} {e : Directive} (hasked : request ∈ s.planning.asked inverse e)
    (hanswer : s.planning.answer home strategy request = some r) (hpublic : r.helper = false) :
    Justified s r := by
  have hroutine := answer_public hanswer hpublic
  obtain ⟨hsource, htarget⟩ := DirectiveIndex.pair_of_routineFor hroutine
  obtain ⟨hbuildable, t, ht, m, hm, q, hpart, hkind, hname⟩ := origin_of_asked hasked
  refine ⟨?_, fun _ => ?_⟩
  · rw [hsource, htarget]
    exact hroutine
  · cases request with
    | nested s t => exact .inl (htarget ▸ hbuildable)
    | enum s t => exact .inr ⟨_, ht, m, hm, q, hpart, hkind, hname.trans htarget.symm⟩

theorem justified_of_dispatch {entries : List DispatchEntry}
    (hentries : s.planning.dispatch d d.derived = .ok entries)
    (hderived : ∀ pair ∈ d.derived,
      (s.index.directiveFor pair.source pair.target).isSome = true)
    {entry : DispatchEntry} (hentry : entry ∈ entries) : Justified s entry.routine := by
  rw [dispatch_eq_ok hentries] at hentry
  obtain ⟨pair, hpair, hmap⟩ := List.mem_filterMap.1 hentry
  obtain ⟨routine, hroutine, rfl⟩ := Option.map_eq_some_iff.1 hmap
  obtain ⟨hsource, htarget⟩ := DirectiveIndex.pair_of_routineFor hroutine
  refine ⟨?_, fun hnone => ?_⟩
  · rw [hsource, htarget]
    exact hroutine
  · rw [hsource, htarget] at hnone
    have hsome := hderived pair hpair
    rw [hnone] at hsome
    cases hsome

/-- **What a plan without errors reaches is justified.** -/
theorem Passed.justified (h : Passed s conflict d plan) (hr : plan.Reaches r) : Justified s r := by
  obtain ⟨source, target, hplan⟩ := h.planOf
  obtain ⟨hpublic, m, hm, hcalls⟩ := hr
  rw [← Mapping.mem_calls] at hcalls
  by_cases hkind : source.kind = .enum
  · obtain ⟨forward, reverse, rfl⟩ := hplan.enum hkind
    obtain ⟨hnone, hnodispatch⟩ := mem_parts_enum hm
    rw [hnone, hnodispatch] at hcalls
    simp at hcalls
  · have hparts := hplan.object hkind
    obtain ⟨entries, helpers, hentries, rfl⟩ := hparts.parts
    -- the declared direction dispatches, the way back and the private mappings do not
    rcases mem_parts_object hm with rfl | ⟨o, ho, rfl⟩ | hm
    · rcases hcalls with hcalls | ⟨entry, hentry, rfl⟩
      · obtain ⟨request, hasked, hanswer⟩ := (mem_calls_mappingWith hplan.hs hplan.ht).1 hcalls
        exact justified_of_answer hasked hanswer hpublic
      · have hsound := Validation.sound_of_check h.free
        have hdirective : (s.planning.forwardMapping d source target entries).directive = d :=
          directive_mappingWith
        exact justified_of_dispatch hentries (hdirective ▸ hsound.derived) hentry
    · unfold reverseMapping? at ho
      split at ho
      · cases ho
        rcases hcalls with hcalls | ⟨entry, hentry, -⟩
        · obtain ⟨request, hasked, hanswer⟩ := (mem_calls_mappingWith hplan.ht hplan.hs).1 hcalls
          exact justified_of_answer hasked hanswer hpublic
        · simp [Mapping.dispatch] at hentry
      · cases ho
    · obtain ⟨request, name, -, -, hserves⟩ := hparts.helpers.made m hm
      rcases hcalls with hcalls | ⟨entry, hentry, -⟩
      · obtain ⟨other, hinside, hanswer⟩ := hserves.mem_calls.1 hcalls
        obtain ⟨e, hasked⟩ := exists_asked_of_inside hinside
        exact justified_of_answer hasked hanswer hpublic
      · rw [hserves.dispatch_eq] at hentry
        cases hentry

theorem justified_of_reaches (h : Emitted s i d plan) (hr : plan.Reaches r) : Justified s r :=
  h.passed.justified hr

/-! ### Who provides a routine -/

theorem provides_ahead {source target : TypeDescriptor}
    (hplan : PlanOf s.planning d source target plan) :
    plan.Provides (s.index.routineOf d.source d.target d) := by
  refine ⟨plan.forward, List.mem_cons_self, ?_, ?_, ?_, ?_⟩
  · exact congrArg RoutineRef.name hplan.ahead
  · exact congrArg RoutineRef.home hplan.ahead
  · exact (congrArg _ hplan.source_eq).trans (TypeGraph.qualifiedName_of_get? hplan.hs)
  · exact (congrArg _ hplan.target_eq).trans (TypeGraph.qualifiedName_of_get? hplan.ht)

theorem provides_back {source target : TypeDescriptor}
    (hplan : PlanOf s.planning d source target plan) (hreturns : returns d source target = true) :
    plan.Provides (s.index.routineOf d.target d.source d) := by
  obtain ⟨m, hm⟩ := Option.isSome_iff_exists.1 (hplan.isSome_back.trans hreturns)
  obtain ⟨hroutine, hsource, htarget⟩ := hplan.back m hm
  refine ⟨m, List.mem_cons_of_mem _ (Option.mem_toList.2 hm), ?_, ?_, ?_, ?_⟩
  · exact congrArg RoutineRef.name hroutine
  · exact congrArg RoutineRef.home hroutine
  · exact (congrArg _ hsource).trans (TypeGraph.qualifiedName_of_get? hplan.ht)
  · exact (congrArg _ htarget).trans (TypeGraph.qualifiedName_of_get? hplan.hs)

/-- An emitted plan that provides a routine is that of the directive behind it. -/
theorem eq_of_provides (h : Emitted s i d plan) {e : Directive}
    (hanswers : s.index.Answers r.source r.target e) (hr : r = s.index.routineOf r.source r.target e)
    {m : Mapping} (hm : m ∈ plan.publicMappings) (hname : m.routine.name = r.name)
    (hhome : plan.home = r.home) : d = e := by
  obtain ⟨j, hj⟩ := List.mem_iff_getElem?.1 hanswers.mem
  have hd := h.mem_definitions hm routine_name_mem_definedNames
  have he := hanswers.mem_definitions
  rw [← hr] at he
  rw [hname, hhome] at hd
  obtain rfl := h.unique hj hd he
  exact Option.some.inj (h.getElem?.symm.trans hj)

theorem Passed.routine_home_eq (h : Passed s conflict d plan) {m : Mapping}
    (hm : m ∈ plan.publicMappings) : m.routine.home = plan.home := by
  obtain ⟨source, target, hplan⟩ := h.planOf
  rw [h.home_eq]
  rcases List.mem_cons.1 hm with rfl | hm
  · exact congrArg RoutineRef.home hplan.ahead
  · exact congrArg RoutineRef.home (hplan.back m (Option.mem_toList.1 hm)).1

theorem home_of_mem_publicMappings (h : Emitted s i d plan) {m : Mapping}
    (hm : m ∈ plan.publicMappings) : m.routine.home = plan.home :=
  h.passed.routine_home_eq hm

/-! ### Promises that nobody keeps -/

/-- Does a name stand for an interface, a type that can neither be built nor is an enum? -/
def IsInterface (g : TypeGraph) (name : String) : Prop :=
  ∃ t, g.get? name = some t ∧ t.kind = .interface

/-- Is a routine that of a way back to an interface: one that no directive declares, but that the
index promises for a two-way directive? -/
def Broken (s : Setting) (r : RoutineRef) : Prop :=
  s.index.directiveFor r.source r.target = none ∧ IsInterface s.index.graph r.target

/-- A plan whose directive stands behind a routine provides it, unless the promise is broken. -/
theorem Passed.provides (h : Passed s conflict d plan)
    (hanswers : s.index.Answers r.source r.target d)
    (hr : r = s.index.routineOf r.source r.target d) (hkept : ¬ Broken s r) : plan.Provides r := by
  obtain ⟨source, target, hplan⟩ := h.planOf
  rcases hanswers with hahead | ⟨hnone, hback⟩
  · obtain ⟨-, hsource, htarget⟩ := DirectiveIndex.directiveFor_eq_some hahead
    rw [hr, ← hsource, ← htarget]
    exact provides_ahead hplan
  · obtain ⟨-, hon, hsource, htarget⟩ := DirectiveIndex.reverseFor_eq_some hback
    rw [hr, ← hsource, ← htarget]
    refine provides_back hplan ?_
    have htargetKind := h.target_kind hplan
    have hkind : source.kind ≠ .interface := fun hkind =>
      hkept ⟨hnone, source, hsource ▸ hplan.hs, hkind⟩
    unfold returns goesBack
    rw [hon]
    cases hs : source.kind with
    | interface => exact absurd hs hkind
    | enum => simpa [hs] using htargetKind
    | cls | record | struct => simpa [hs, TypeKind.isObject] using htargetKind

/-- No plan whose directive stands behind a broken promise provides the routine. -/
theorem Passed.not_provides (h : Passed s conflict d plan)
    (hanswers : s.index.Answers r.source r.target d) (hbroken : Broken s r) :
    ¬ plan.Provides r := by
  rintro ⟨m, hm, -, -, hsource, htarget⟩
  obtain ⟨hnone, t, ht, hkind⟩ := hbroken
  obtain ⟨source, target, hplan⟩ := h.planOf
  have hback : s.index.reverseFor r.source r.target = some d := by
    rcases hanswers with hahead | ⟨-, hback⟩
    · rw [hnone] at hahead
      cases hahead
    · exact hback
  obtain ⟨hmem, -, hds, hdt⟩ := DirectiveIndex.reverseFor_eq_some hback
  rcases List.mem_cons.1 hm with rfl | hm
  -- the declared direction maps the pair of the directive, so one is declared for it
  · have hs' : d.source = r.source := by
      rw [← hsource, ← TypeGraph.qualifiedName_of_get? hplan.hs]
      exact (congrArg _ hplan.source_eq).symm
    have ht' : d.target = r.target := by
      rw [← htarget, ← TypeGraph.qualifiedName_of_get? hplan.ht]
      exact (congrArg _ hplan.target_eq).symm
    have hsome := DirectiveIndex.isSome_directiveFor hmem
    rw [hs', ht', hnone] at hsome
    cases hsome
  -- there is no way back to an interface
  · have hreturns : returns d source target = true := by
      rw [← hplan.isSome_back, Option.isSome_iff_exists]
      exact ⟨m, Option.mem_toList.1 hm⟩
    have hsourceKind : source.kind = .interface := by
      have hget : s.index.graph.get? d.source = some source := hplan.hs
      rw [hds, ht] at hget
      cases hget
      exact hkind
    simp [returns, goesBack, hsourceKind, TypeKind.isObject] at hreturns

theorem provides_of_answers (h : Emitted s i d plan) (hanswers : s.index.Answers r.source r.target d)
    (hr : r = s.index.routineOf r.source r.target d) (hkept : ¬ Broken s r) : plan.Provides r :=
  h.passed.provides hanswers hr hkept

theorem not_provides_of_broken (h : Emitted s i d plan)
    (hanswers : s.index.Answers r.source r.target d) (hbroken : Broken s r) : ¬ plan.Provides r :=
  h.passed.not_provides hanswers hbroken

/-! ### Linked results -/

/-- Is every public routine that a plan of a result reaches offered by the unit of its namespace,
and provided for its pair of types by a plan of the result? -/
def Linked (result : PassResult) : Prop :=
  ∀ p ∈ result.plans, ∀ r, p.Reaches r →
    (∃ u ∈ result.units, u.ns = r.home ∧ r.name ∈ u.routines) ∧ ∃ q ∈ result.plans, q.Provides r

/-- **No call dangles, and a call reaches the routine of its own pair** exactly unless the index
promises it as a way back to an interface. No such promise is called where the enum references of
the graph name no interface. -/
theorem links {config : Config} {g : TypeGraph} {result : PassResult}
    (h : generate config g = .ok result) :
    (∀ p ∈ result.plans, ∀ r, p.Reaches r →
      (∃ u ∈ result.units, u.ns = r.home ∧ r.name ∈ u.routines) ∧
        ((∃ q ∈ result.plans, q.Provides r) ↔ ¬ Broken (settingOf config g) r)) ∧
      ((∀ name, EnumReference g name → ¬ IsInterface g name) → Linked result) := by
  have hyielded := yielded_of_generate h
  have hlinks : ∀ p ∈ result.plans, ∀ r, p.Reaches r →
      Justified (settingOf config g) r ∧
        (∃ u ∈ result.units, u.ns = r.home ∧ r.name ∈ u.routines) ∧
          ((∃ q ∈ result.plans, q.Provides r) ↔ ¬ Broken (settingOf config g) r) := by
    intro p hp r hr
    obtain ⟨i, d, hemitted⟩ := hyielded.emitted hp
    have hjustified := justified_of_reaches hemitted hr
    obtain ⟨behind, hanswers, href⟩ := DirectiveIndex.routineFor_eq_some.1 hjustified.1
    -- withholding leaves a plan `q` with a routine of this name, be it for another pair
    obtain ⟨q, hq, m, hm, hhome, hname⟩ :=
      mem_provided.1 (hyielded.provided p hp r (mem_publicCalls hr))
    refine ⟨hjustified, ?_, fun ⟨q', hq', hprovides⟩ hbroken => ?_, fun hkept => ⟨q, hq, ?_⟩⟩
    · obtain ⟨u, hu, hns, hoffered⟩ := exists_unit_of_mapping hyielded.units hq hm
      exact ⟨u, hu, hns.trans hhome, hname ▸ hoffered⟩
    · obtain ⟨j, e, hemitted'⟩ := hyielded.emitted hq'
      have hkept := hprovides
      obtain ⟨m', hm', hname', hhome', -, -⟩ := hprovides
      obtain rfl := eq_of_provides hemitted' hanswers href hm' hname'
        ((home_of_mem_publicMappings hemitted' hm').symm.trans hhome')
      exact not_provides_of_broken hemitted' hanswers hbroken hkept
    · obtain ⟨j, e, hemitted'⟩ := hyielded.emitted hq
      obtain rfl := eq_of_provides hemitted' hanswers href hm hname hhome
      exact provides_of_answers hemitted' hanswers href hkept
  refine ⟨fun p hp r hr => (hlinks p hp r hr).2, fun henums p hp r hr => ?_⟩
  obtain ⟨⟨-, horigin⟩, hoffered, hprovided⟩ := hlinks p hp r hr
  refine ⟨hoffered, hprovided.2 ?_⟩
  rintro ⟨hnone, hinterface⟩
  rcases horigin hnone with hobject | henum
  · obtain ⟨t, ht, hkind⟩ := hinterface
    simp [ht, hkind, TypeKind.isObject] at hobject
  · exact henums _ henum hinterface

/-- Orders with an address, and a directive for each of the two types. -/
def orders : TypeGraph :=
  let address (type : String) : Member :=
    { name := "address", type := .mk type .object [] none false, required := true }
  { types := [
      { name := "Order", module := "shop", kind := .cls, members := [address "shop.Address"]
        directives := [{ source := "shop.Order", target := "dto.Order" }] },
      { name := "Address", module := "shop", kind := .cls
        directives := [{ source := "shop.Address", target := "dto.Address" }] },
      { name := "Order", module := "dto", kind := .cls, members := [address "dto.Address"] },
      { name := "Address", module := "dto", kind := .cls }]
    nodup := by decide +kernel }

/-- The routine that maps the addresses of orders. -/
def mapAddress : RoutineRef :=
  ⟨"map_address_to_address", "shop.Address", "dto.Address", "dto", false⟩

theorem linked_orders : ∃ result, generate {} orders = .ok result ∧
    (∃ p ∈ result.plans, p.Reaches mapAddress) ∧ Linked result := by
  obtain ⟨result, h, hreaches⟩ : ∃ result, generate {} orders = .ok result ∧
      ∃ p ∈ result.plans, p.Reaches mapAddress :=
    Steps.exists_of_any (by decide +kernel)
  refine ⟨result, h, hreaches, (links h).2 ?_⟩
  rintro name - ⟨t, ht, hkind⟩
  have hnone : ∀ t ∈ orders.types, t.kind ≠ .interface := by decide +kernel
  exact hnone t (TypeGraph.get?_eq_some.1 ht).1 hkind

/-- Two types that refer to users as to an enum, and a two-way directive between users of which one
is an interface. -/
def users : TypeGraph :=
  let user (type : String) : Member :=
    { name := "user", type := .mk type .enum [] none false, required := true }
  { types := [
      { name := "User", module := "a", kind := .interface
        directives := [{ source := "a.User", target := "b.User", bidirectional := ⟨.bool true⟩ }] },
      { name := "Account", module := "a", kind := .cls, members := [user "a.User"] },
      { name := "User", module := "b", kind := .cls },
      { name := "Login", module := "b", kind := .cls, members := [user "b.User"]
        directives := [{ source := "b.Login", target := "a.Account" }] }]
    nodup := by decide +kernel }

/-- The routine that the index promises for the way back to an interface. -/
def mapUserBack : RoutineRef :=
  ⟨"map_user_to_user", "b.User", "a.User", "b", false⟩

/-- The routine of the declared direction goes by the name of the promised one. -/
theorem not_linked_users : ∃ result, generate {} users = .ok result ∧ ¬ Linked result := by
  obtain ⟨result, h, ⟨p, hp, hreaches⟩, hnot⟩ : ∃ result, generate {} users = .ok result ∧
      (∃ p ∈ result.plans, p.Reaches mapUserBack) ∧
        ¬ ∃ q ∈ result.plans, q.Provides mapUserBack :=
    Steps.exists_of_any (by decide +kernel)
  exact ⟨result, h, fun hlinked => hnot (hlinked p hp mapUserBack hreaches).2⟩

end Generation

end Mapsmith
