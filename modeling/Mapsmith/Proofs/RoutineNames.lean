import Mapsmith.Proofs.Units

/-!
# The names of a unit's routines

A unit defines its routines under distinct names, with one exception. Two routines of different
directives share a name only if both directives are reported, since the index counts the positions
that define it; variants are told apart by the word that their names begin with, and private
routines are kept once for every name. What nobody compares are the two directions of one
directive: their names agree where both types respell alike, and the unit then defines the name
twice (`Mapsmith.Generation.distinct_names`).
-/

namespace Mapsmith

/-- Does the way back of a plan go by the name of its declared direction? -/
def Plan.Doubled (p : Plan) : Prop :=
  ∃ m ∈ p.reverse?, m.routine.name = p.forward.routine.name

instance (p : Plan) : Decidable p.Doubled :=
  inferInstanceAs (Decidable (∃ m ∈ p.reverse?, _))

namespace Generation

open Planning Emission

variable {s : Setting} {i j : Nat} {d e : Directive} {plan : Plan} {plans : List Plan} {m : Mapping}
  {name : String}

/-! ### Public routines -/

section Public

variable {p : Planning} {source target : TypeDescriptor}

theorem nodup_variantNames : (variantNames d source target).Nodup := by
  have hne : RoutineName.update source.name target.name ≠
      RoutineName.projection source.name target.name := fun heq => by
    have hhead := RoutineName.head?_update source.name target.name
    rw [heq, RoutineName.head?_projection] at hhead
    cases hhead
  rw [variantNames]
  split
  · exact List.nodup_nil
  · split <;> split <;> simp [hne]

theorem head?_of_mem_variantNames (h : name ∈ variantNames d source target) :
    name.toList.head? = some 'u' ∨ name.toList.head? = some 'p' := by
  rw [variantNames] at h
  split at h
  · cases h
  rcases List.mem_append.1 h with h | h
  · split at h
    · rw [List.mem_singleton.1 h]
      exact .inl (RoutineName.head?_update ..)
    · cases h
  · split at h
    · rw [List.mem_singleton.1 h]
      exact .inr (RoutineName.head?_projection ..)
    · cases h

theorem forward_not_mem_variantNames {a b : String} :
    RoutineName.forward a b ∉ variantNames d source target := by
  intro h
  rcases head?_of_mem_variantNames h with hhead | hhead
  · rw [RoutineName.head?_forward] at hhead
    cases hhead
  · rw [RoutineName.head?_forward] at hhead
    cases hhead

/-- **The public routines of a plan have distinct names** exactly unless it is doubled. -/
theorem nodup_publicMappings (hplan : PlanOf p d source target plan) :
    (plan.publicMappings.flatMap (definedNames true)).Nodup ↔ ¬ plan.Doubled := by
  have hahead : plan.forward.routine.name ∉ variantNames d source target := by
    rw [hplan.ahead]
    exact forward_not_mem_variantNames
  rw [names_publicMappings hplan, List.nodup_cons]
  cases hback : plan.reverse? with
  | none =>
    have hsingle : ¬ plan.Doubled := by
      rintro ⟨m, hm, -⟩
      rw [hback] at hm
      cases hm
    simpa [hsingle, hahead] using nodup_variantNames
  | some back =>
    have hdoubled : plan.Doubled ↔ back.routine.name = plan.forward.routine.name := by
      simp [Plan.Doubled, hback]
    have hbehind : back.routine.name ∉ variantNames d source target := by
      rw [(hplan.back back hback).1]
      exact forward_not_mem_variantNames
    have hnodup : (variantNames d source target ++ [back.routine.name]).Nodup :=
      List.nodup_append.2 ⟨nodup_variantNames, List.nodup_singleton _, fun a ha b hb hab =>
        hbehind (List.mem_singleton.1 hb ▸ hab ▸ ha)⟩
    rw [hdoubled, Option.toList_some, List.map_singleton, List.mem_append, List.mem_singleton,
      and_iff_left hnodup, eq_comm]
    exact not_congr (or_iff_right hahead)

end Public

/-- The public routines of two plans have different names. -/
def Apart (p q : Plan) : Prop :=
  (p.publicMappings.flatMap (definedNames true)).Disjoint
    (q.publicMappings.flatMap (definedNames true))

/-- Emitted plans for directives at different positions are apart within a namespace. -/
theorem Emitted.apart {plan' : Plan} (h : Emitted s i d plan) (h' : Emitted s j e plan')
    (hij : i ≠ j) (hhome : plan.home = plan'.home) : Apart plan plan' := by
  intro name hname hname'
  obtain ⟨m, hm, hname⟩ := List.mem_flatMap.1 hname
  obtain ⟨m', hm', hname'⟩ := List.mem_flatMap.1 hname'
  have hd := h.mem_definitions hm hname
  have he := h'.mem_definitions hm' hname'
  rw [← hhome] at he
  exact hij (h.unique h'.getElem? hd he).symm

theorem pairwise_apart_of_placed {positions : List Nat} (hsorted : positions.Pairwise (· < ·))
    (h : List.Forall₂ (fun i plan => ∃ d, Emitted s i d plan) positions plans) :
    plans.Pairwise fun p q => p.home = q.home → Apart p q := by
  induction h with
  | nil => exact .nil
  | @cons i p positions plans hp hrest ih =>
    obtain ⟨hlt, hsorted⟩ := List.pairwise_cons.1 hsorted
    refine List.pairwise_cons.2 ⟨fun q hq hhome => ?_, ih hsorted⟩
    obtain ⟨d, hd⟩ := hp
    obtain ⟨j, hj, e, he⟩ := Steps.exists_of_mem_right hrest hq
    exact hd.apart he (Nat.ne_of_lt (hlt j hj)) hhome

/-- The plans of a namespace are apart, whatever their order. -/
theorem Yielded.pairwise_apart {config : Config} {g : TypeGraph} {result : PassResult}
    (h : Yielded config g result) {ns : String} :
    (sortPlans (plansOf result.plans ns)).Pairwise Apart := by
  have hsymm : ∀ {p q : Plan}, Apart p q → Apart q p := List.disjoint_symm
  obtain ⟨positions, hsorted, hforall⟩ := h.placed
  refine ((Text.sortByKey_perm _ _).pairwise_iff hsymm).2 ?_
  rw [plansOf, List.pairwise_filter]
  refine (pairwise_apart_of_placed hsorted hforall).imp fun hpq hp hq => hpq ?_
  exact (beq_iff_eq.1 hp).trans (beq_iff_eq.1 hq).symm

/-! ### Private routines -/

theorem helperMappings_perm :
    (helperMappings plans).Perm
      (Text.addFirsts (fun m : Mapping => m.routine.name) [] (plans.flatMap (·.helpers))) :=
  Text.sortByKey_perm ..

theorem nodup_helperMappings : ((helperMappings plans).map (·.routine.name)).Nodup :=
  (helperMappings_perm.map _).nodup_iff.2 (Text.nodup_addFirsts List.nodup_nil)

theorem mem_of_mem_helperMappings (h : m ∈ helperMappings plans) : ∃ p ∈ plans, m ∈ p.helpers := by
  rcases Text.mem_of_mem_addFirsts (helperMappings_perm.mem_iff.1 h) with h | h
  · cases h
  · exact List.mem_flatMap.1 h

theorem head?_of_privateName {p : Planning} {strategy : NamingStrategy} {request : Matching.Request}
    (h : p.privateName? strategy request = some name) : name.toList.head? = some '_' := by
  unfold privateName? at h
  split at h
  · split at h
    · cases h
      simpa using RoutineName.head?_helper _ _ ""
    · split at h
      · cases h
      · cases h
        exact RoutineName.head?_helper ..
  · cases h

theorem definedNames_helpers (ms : List Mapping) :
    ms.flatMap (definedNames false) = ms.map (·.routine.name) := by
  induction ms with
  | nil => rfl
  | cons m ms ih =>
    rw [List.flatMap_cons, ih, List.map_cons]
    cases m <;> rfl

theorem head?_of_mem_helpers {p : Planning} {source target : TypeDescriptor}
    (hplan : PlanOf p d source target plan) (hm : m ∈ plan.helpers) :
    m.routine.name.toList.head? = some '_' := by
  by_cases hkind : source.kind = .enum
  · obtain ⟨forward, reverse, rfl⟩ := hplan.enum hkind
    cases hm
  · obtain ⟨request, name, -, hname, hserves⟩ := (hplan.object hkind).helpers.made m hm
    rw [hserves.routine_eq, privateRef]
    exact head?_of_privateName hname

theorem head?_of_mem_publicMappings {p : Planning} {source target : TypeDescriptor}
    (hplan : PlanOf p d source target plan)
    (hname : name ∈ plan.publicMappings.flatMap (definedNames true)) :
    ∃ c ∈ ['m', 'u', 'p'], name.toList.head? = some c := by
  rw [names_publicMappings hplan, List.mem_cons, List.mem_append, List.mem_map] at hname
  rcases hname with rfl | hvariant | ⟨back, hback, rfl⟩
  · rw [hplan.ahead]
    exact ⟨'m', by decide, RoutineName.head?_forward ..⟩
  · rcases head?_of_mem_variantNames hvariant with hhead | hhead
    · exact ⟨'u', by decide, hhead⟩
    · exact ⟨'p', by decide, hhead⟩
  · rw [(hplan.back back (Option.mem_toList.1 hback)).1]
    exact ⟨'m', by decide, RoutineName.head?_forward ..⟩

/-! ### The names of a unit -/

theorem unitNames_eq : unitNames plans =
    publicNames plans ++ (helperMappings (sortPlans plans)).map (·.routine.name) := by
  rw [unitNames, unitMappings, publicNames, List.flatMap_append, List.flatMap_assoc,
    List.flatMap_map, ← definedNames_helpers]
  simp only [List.flatMap_map]

variable {config : Config} {g : TypeGraph} {result : PassResult} {ns : String}

theorem nodup_publicNames (h : Yielded config g result) :
    (publicNames (plansOf result.plans ns)).Nodup ↔
      ∀ p ∈ plansOf result.plans ns, ¬ p.Doubled := by
  rw [publicNames, List.nodup_flatMap]
  refine (and_iff_left h.pairwise_apart).trans ?_
  simp only [sortPlans, Text.mem_sortByKey]
  refine forall₂_congr fun p hp => ?_
  obtain ⟨i, d, hemitted⟩ := h.emitted (mem_plansOf.1 hp).1
  obtain ⟨source, target, hplan⟩ := hemitted.planOf
  exact nodup_publicMappings hplan

theorem nodup_unitNames (h : Yielded config g result) :
    (unitNames (plansOf result.plans ns)).Nodup ↔
      ∀ p ∈ plansOf result.plans ns, ¬ p.Doubled := by
  have hmem : ∀ p ∈ sortPlans (plansOf result.plans ns), p ∈ result.plans := fun p hp =>
    (mem_plansOf.1 (Text.mem_sortByKey.1 hp)).1
  rw [unitNames_eq, List.nodup_append', and_iff_left, nodup_publicNames h]
  -- a public name begins with a letter, a private one does not
  refine ⟨nodup_helperMappings, fun name hpublic hprivate => ?_⟩
  obtain ⟨p, hp, hname⟩ := List.mem_flatMap.1 hpublic
  obtain ⟨m, hm, rfl⟩ := List.mem_map.1 hprivate
  obtain ⟨q, hq, hm⟩ := mem_of_mem_helperMappings hm
  obtain ⟨i, d, hp⟩ := h.emitted (hmem p hp)
  obtain ⟨j, e, hq⟩ := h.emitted (hmem q hq)
  obtain ⟨_, _, hp⟩ := hp.planOf
  obtain ⟨_, _, hq⟩ := hq.planOf
  obtain ⟨c, hc, hhead⟩ := head?_of_mem_publicMappings hp hname
  rw [head?_of_mem_helpers hq hm] at hhead
  cases hhead
  exact absurd hc (by decide)

/-! ### Clashes -/

/-- What is found with a directive in conflict is an error. -/
theorem anyError_of_conflict {entry : Entry} (hentry : s.entry i d = .ok entry)
    (hconflict : s.index.conflict i ≠ none) : Diagnostic.anyError entry.diagnostics = true := by
  unfold Setting.entry at hentry
  split at hentry
  next plan hplan =>
    cases hentry
    by_contra hfree
    rw [Bool.not_eq_true, Validation.anyError_validate] at hfree
    exact hconflict (Validation.conflict_eq_none_of_check hfree)
  · split at hentry
    · cases hentry
      rfl
    · cases hentry

/-- **Directives at two positions that share a definition are reported**, and none of them has a
plan in the result. -/
theorem reported_of_shared (h : Yielded config g result)
    (hd : (settingOf config g).index.directives[i]? = some d)
    (he : (settingOf config g).index.directives[j]? = some e) (hij : i ≠ j)
    {key : String × String} (hkd : key ∈ (settingOf config g).index.definitions d)
    (hke : key ∈ (settingOf config g).index.definitions e) :
    (∃ entry, (settingOf config g).entry i d = .ok entry ∧
      Diagnostic.anyError entry.diagnostics = true ∧ entry.diagnostics ⊆ result.diagnostics) ∧
        ∀ p ∈ result.plans, p.directive ≠ d := by
  constructor
  · obtain ⟨entry, hentry, hreported⟩ := h.reported i d hd
    refine ⟨entry, hentry, anyError_of_conflict hentry fun hfree => hij ?_, hreported⟩
    exact (DirectiveIndex.eq_of_mem_definitions hd he hfree hkd hke).symm
  · rintro p hp rfl
    obtain ⟨k, d, hemitted⟩ := h.emitted hp
    obtain ⟨source, target, hplan⟩ := hemitted.planOf
    rw [hplan.directive_eq] at hd hkd
    have hi := hemitted.unique hd hkd hkd
    have hj := hemitted.unique he hkd hke
    exact hij (hi.trans hj.symm)

/-- **The routines of a unit have distinct names**, all of them and the public ones, exactly unless
the way back of one of its plans goes by the name of the declared direction. Directives at two
positions that would define one name in one namespace are reported with an error each, and have no
plan. -/
theorem distinct_names (h : generate config g = .ok result) :
    (∀ u ∈ result.units, ∃ routines, UnitOf config u.ns (plansOf result.plans u.ns) u routines ∧
      ((routines.map (·.name)).Nodup ↔ ∀ p ∈ plansOf result.plans u.ns, ¬ p.Doubled) ∧
      (u.routines.Nodup ↔ ∀ p ∈ plansOf result.plans u.ns, ¬ p.Doubled)) ∧
    ∀ i j d e key, (settingOf config g).index.directives[i]? = some d →
      (settingOf config g).index.directives[j]? = some e → i ≠ j →
      key ∈ (settingOf config g).index.definitions d →
      key ∈ (settingOf config g).index.definitions e →
      (∃ entry, (settingOf config g).entry i d = .ok entry ∧
        Diagnostic.anyError entry.diagnostics = true ∧ entry.diagnostics ⊆ result.diagnostics) ∧
          ∀ p ∈ result.plans, p.directive ≠ d := by
  have hyielded := yielded_of_generate h
  refine ⟨fun u hu => ?_, fun i j d e key hd he hij hkd hke =>
    reported_of_shared hyielded hd he hij hkd hke⟩
  obtain ⟨routines, hunit⟩ := unitOf_of_mem hyielded.units hu
  refine ⟨routines, hunit, ?_, ?_⟩
  · rw [hunit.names]
    exact nodup_unitNames hyielded
  · rw [hunit.offered]
    exact nodup_publicNames hyielded

/-- Orders that are mapped there and back, with both variants. -/
def orderForms : TypeGraph :=
  { types := [
      { name := "Order", module := "shop", kind := .cls
        directives := [{ source := "shop.Order", target := "dto.OrderDto"
                         bidirectional := ⟨.bool true⟩, projection := ⟨.bool true⟩
                         update := ⟨.bool true⟩ }] },
      { name := "OrderDto", module := "dto", kind := .cls }]
    nodup := by decide +kernel }

theorem distinct_names_orderForms : ∃ result, generate {} orderForms = .ok result ∧
    ∃ u ∈ result.units, u.routines.length = 4 ∧ u.routines.Nodup := by
  obtain ⟨result, h, ⟨u, hu, hlength⟩, hsingle⟩ : ∃ result, generate {} orderForms = .ok result ∧
      (∃ u ∈ result.units, u.routines.length = 4) ∧ ∀ p ∈ result.plans, ¬ p.Doubled :=
    Steps.exists_of_any (by decide +kernel)
  obtain ⟨routines, -, -, hpublic⟩ := (distinct_names h).1 u hu
  exact ⟨result, h, u, hu, hlength, hpublic.2 fun p hp => hsingle p (mem_plansOf.1 hp).1⟩

/-- Users that are mapped there and back under one simple name. -/
def namesakes : TypeGraph :=
  { types := [
      { name := "User", module := "crm", kind := .cls
        directives := [{ source := "crm.User", target := "shop.User"
                         bidirectional := ⟨.bool true⟩ }] },
      { name := "User", module := "shop", kind := .cls }]
    nodup := by decide +kernel }

/-- Both directions are defined under one name, and nothing is reported. -/
theorem not_distinct_names_namesakes : ∃ result, generate {} namesakes = .ok result ∧
    result.diagnostics = [] ∧ ∃ u ∈ result.units, ¬ u.routines.Nodup :=
  Steps.exists_of_any (by decide +kernel)

end Generation

end Mapsmith
