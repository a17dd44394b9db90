import Mapsmith.Proofs.Pass
import Mapsmith.Proofs.Validation

/-!
# The plans of a pass

The plans of a result are those of directives at different positions, planned and without errors,
in the order of the directives; what was found with every other directive is reported. Withholding
ends when no plan is stranded: every public routine that a plan of the result calls is provided by a
plan of the result. There is one unit for every namespace that some plan maps into.
-/

namespace Mapsmith.Generation

open Emission

/-! ### Withholding -/

section Withholding

variable {kept valid : List ValidPlan} {ds : List Diagnostic} {steps : Nat}

theorem sublist_of_withholdWithin (h : withholdWithin steps valid = (kept, ds)) :
    kept.Sublist valid := by
  induction steps generalizing valid kept ds with
  | zero =>
    cases h
    exact .refl _
  | succ steps ih =>
    unfold withholdWithin at h
    split at h
    · cases h
      exact .refl _
    next i v name _ =>
      cases h
      exact (ih rfl).trans (List.eraseIdx_sublist _ _)

theorem mem_of_firstStranded {i : Nat} {v : ValidPlan} {name : String}
    (h : firstStranded valid = some (i, v, name)) : valid[i]? = some v := by
  obtain ⟨⟨w, j⟩, hmem, hfound⟩ := List.exists_of_findSome?_eq_some h
  obtain ⟨_, -, heq⟩ := Option.map_eq_some_iff.1 hfound
  cases heq
  exact List.mem_zipIdx_iff_getElem?.1 hmem

theorem firstStranded_eq_none :
    firstStranded valid = none ↔ ∀ v ∈ valid, missingRoutines (valid.map (·.plan)) v.plan = [] := by
  unfold firstStranded
  simp only [List.findSome?_eq_none_iff, Option.map_eq_none_iff, List.head?_eq_none_iff, Prod.forall,
    List.mem_zipIdx_iff_getElem?]
  constructor
  · intro h v hv
    obtain ⟨i, hi⟩ := List.mem_iff_getElem?.1 hv
    exact h v i hi
  · intro h v i hi
    exact h v (List.mem_iff_getElem?.2 ⟨i, hi⟩)

/-- With a step for every plan, withholding ends when no plan is stranded. -/
theorem firstStranded_of_withholdWithin (hsteps : valid.length ≤ steps)
    (h : withholdWithin steps valid = (kept, ds)) : firstStranded kept = none := by
  induction steps generalizing valid kept ds with
  | zero =>
    cases h
    rw [List.length_eq_zero_iff.1 (Nat.le_zero.1 hsteps)]
    rfl
  | succ steps ih =>
    unfold withholdWithin at h
    split at h
    next hnone =>
      cases h
      exact hnone
    next i v name hsome =>
      -- one plan less for one step less
      cases h
      have hi : i < valid.length :=
        (List.getElem?_eq_some_iff.1 (mem_of_firstStranded hsome)).1
      refine ih ?_ rfl
      rw [List.length_eraseIdx_of_lt hi]
      omega

/-- **No plan that is kept lacks a routine.** -/
theorem provided_of_withhold (h : withhold valid = (kept, ds)) {v : ValidPlan} (hv : v ∈ kept)
    {r : RoutineRef} (hr : r ∈ publicCalls v.plan) :
    (r.home, r.name) ∈ provided (kept.map (·.plan)) := by
  have hmissing := firstStranded_eq_none.1 (firstStranded_of_withholdWithin (Nat.le_refl _) h) v hv
  unfold missingRoutines at hmissing
  rw [Text.sort_eq_nil, List.map_eq_nil_iff, List.filter_eq_nil_iff] at hmissing
  have hdefined := hmissing r hr
  simp only [Bool.not_eq_true, Bool.not_eq_false', List.any_eq_true, Bool.and_eq_true,
    decide_eq_true_eq, Prod.exists] at hdefined
  obtain ⟨home, name, hmem, rfl, rfl⟩ := hdefined
  exact hmem

theorem mem_provided {plans : List Plan} {home name : String} :
    (home, name) ∈ provided plans ↔
      ∃ p ∈ plans, ∃ m ∈ p.publicMappings, p.home = home ∧ m.routine.name = name := by
  simp only [provided, List.mem_flatMap, List.mem_map, Prod.mk.injEq]

end Withholding

/-! ### Plans without errors -/

/-- **A plan without errors** of a directive, under the conflict that is held against it. -/
structure Passed (s : Setting) (conflict : Option String) (d : Directive) (plan : Plan) : Prop where
  mem : d ∈ s.index.directives
  planned : s.planning.plan d = .ok plan
  free : Validation.anyError (Validation.check s.index conflict plan) = false

/-- **A plan without errors** of the directive at a position. -/
structure Emitted (s : Setting) (position : Nat) (d : Directive) (plan : Plan) : Prop where
  getElem? : s.index.directives[position]? = some d
  planned : s.planning.plan d = .ok plan
  free : Validation.anyError (Validation.check s.index (s.index.conflict position) plan) = false

section Entries

variable {s : Setting} {position : Nat} {d : Directive} {ds : List Directive} {entry : Entry}
  {entries : List (Directive × Entry)} {plan : Plan}

theorem Emitted.mem (h : Emitted s position d plan) : d ∈ s.index.directives :=
  List.mem_iff_getElem?.2 ⟨position, h.getElem?⟩

theorem Passed.planOf {conflict : Option String} (h : Passed s conflict d plan) :
    ∃ source target, Planning.PlanOf s.planning d source target plan :=
  Planning.plan_eq_ok h.mem h.planned

theorem Emitted.passed (h : Emitted s position d plan) :
    Passed s (s.index.conflict position) d plan :=
  ⟨h.mem, h.planned, h.free⟩

/-- An entry without errors holds a plan without errors. -/
theorem emitted_of_entry (hd : s.index.directives[position]? = some d)
    (hentry : s.entry position d = .ok entry) (hfree : Diagnostic.anyError entry.diagnostics = false)
    (hplan : entry.plan = some plan) : Emitted s position d plan := by
  unfold Setting.entry at hentry
  split at hentry
  next plan' hplanned =>
    cases hentry
    cases hplan
    exact ⟨hd, hplanned, Validation.anyError_validate ▸ hfree⟩
  · split at hentry
    · cases hentry
      cases hplan
    · cases hentry

theorem entriesFrom_cons {rest : List (Directive × Entry)} :
    s.entriesFrom position (d :: ds) = .ok rest ↔ ∃ entry entries, s.entry position d = .ok entry ∧
      s.entriesFrom (position + 1) ds = .ok entries ∧ rest = (d, entry) :: entries := by
  simp only [Setting.entriesFrom]
  rw [Steps.bind_eq_ok]
  constructor
  · rintro ⟨entry, hentry, h⟩
    obtain ⟨entries, hentries, h⟩ := Steps.bind_eq_ok.1 h
    exact ⟨entry, entries, hentry, hentries, (Steps.pure_eq_ok.1 h).symm⟩
  · rintro ⟨entry, entries, hentry, hentries, rfl⟩
    exact ⟨entry, hentry, Steps.bind_eq_ok.2 ⟨entries, hentries, rfl⟩⟩

/-- The entry of the directive at a position. -/
theorem getElem?_entriesFrom (h : s.entriesFrom position ds = .ok entries) {i : Nat}
    (hd : ds[i]? = some d) :
    ∃ entry, s.entry (position + i) d = .ok entry ∧ entries[i]? = some (d, entry) := by
  induction ds generalizing position entries i with
  | nil => simp at hd
  | cons e ds ih =>
    obtain ⟨entry, rest, hentry, hrest, rfl⟩ := entriesFrom_cons.1 h
    cases i with
    | zero =>
      cases hd
      exact ⟨entry, hentry, rfl⟩
    | succ i =>
      obtain ⟨entry', hentry', hget⟩ := ih hrest hd
      rw [Nat.add_assoc, Nat.add_comm 1 i] at hentry'
      exact ⟨entry', hentry', hget⟩

/-- Do plans without errors stand for directives at growing positions, from some position on? -/
def InOrder (s : Setting) (position : Nat) (vs : List ValidPlan) : Prop :=
  ∃ positions : List Nat, positions.Pairwise (· < ·) ∧ (∀ i ∈ positions, position ≤ i) ∧
    List.Forall₂ (fun i v => Emitted s i v.directive v.plan) positions vs

theorem InOrder.skip {vs : List ValidPlan} (h : InOrder s (position + 1) vs) :
    InOrder s position vs := by
  obtain ⟨positions, hsorted, hle, hforall⟩ := h
  exact ⟨positions, hsorted, fun i hi => Nat.le_of_succ_le (hle i hi), hforall⟩

theorem InOrder.cons {vs : List ValidPlan} (hplan : Emitted s position d plan)
    (h : InOrder s (position + 1) vs) : InOrder s position (⟨d, plan⟩ :: vs) := by
  obtain ⟨positions, hsorted, hle, hforall⟩ := h
  refine ⟨position :: positions, List.pairwise_cons.2 ⟨hle, hsorted⟩, ?_, .cons hplan hforall⟩
  rw [List.forall_mem_cons]
  exact ⟨Nat.le_refl _, fun i hi => Nat.le_of_succ_le (hle i hi)⟩

/-- The plans without errors stand for directives at growing positions. -/
theorem inOrder_validPlans (hds : s.Placed position ds)
    (h : s.entriesFrom position ds = .ok entries) : InOrder s position (validPlans entries) := by
  induction ds generalizing position entries with
  | nil =>
    cases h
    exact ⟨[], .nil, nofun, .nil⟩
  | cons d ds ih =>
    obtain ⟨entry, rest, hentry, hrest, rfl⟩ := entriesFrom_cons.1 h
    have hlater : InOrder s (position + 1) (validPlans rest) := ih hds.tail hrest
    -- an entry counts if it has no errors and holds a plan
    cases herror : Diagnostic.anyError entry.diagnostics with
    | true =>
      have hvalid : validPlans ((d, entry) :: rest) = validPlans rest := by
        simp [validPlans, herror]
      exact hvalid ▸ hlater.skip
    | false =>
      cases hplan : entry.plan with
      | none =>
        have hvalid : validPlans ((d, entry) :: rest) = validPlans rest := by
          simp [validPlans, herror, hplan]
        exact hvalid ▸ hlater.skip
      | some plan =>
        have hvalid : validPlans ((d, entry) :: rest) = ⟨d, plan⟩ :: validPlans rest := by
          simp [validPlans, herror, hplan]
        exact hvalid ▸ .cons (emitted_of_entry hds.head hentry herror hplan) hlater

/-- A sublist is placed at a sublist of the positions. -/
theorem forall₂_of_sublist {α β : Type} {R : α → β → Prop} {xs : List α} {ys ys' : List β}
    (h : List.Forall₂ R xs ys) (hsub : ys'.Sublist ys) :
    ∃ xs', xs'.Sublist xs ∧ List.Forall₂ R xs' ys' := by
  induction hsub generalizing xs with
  | slnil =>
    cases h
    exact ⟨[], .slnil, .nil⟩
  | cons y _ ih =>
    cases h with
    | cons _ h =>
      obtain ⟨xs', hxs', hR⟩ := ih h
      exact ⟨xs', hxs'.cons _, hR⟩
  | cons_cons y _ ih =>
    cases h with
    | cons hy h =>
      obtain ⟨xs', hxs', hR⟩ := ih h
      exact ⟨_ :: xs', hxs'.cons_cons _, .cons hy hR⟩

end Entries

/-! ### Results -/

/-- **What a pass yields.** -/
structure Yielded (config : Config) (g : TypeGraph) (r : PassResult) : Prop where
  /-- The plans are those of directives at growing positions. -/
  placed : ∃ positions : List Nat, positions.Pairwise (· < ·) ∧
    List.Forall₂ (fun i plan => ∃ d, Emitted (settingOf config g) i d plan) positions r.plans
  /-- No plan lacks a routine. -/
  provided : ∀ plan ∈ r.plans, ∀ ref ∈ publicCalls plan, (ref.home, ref.name) ∈ provided r.plans
  /-- The units are generated from the plans. -/
  units : generateUnits config (some g) r.plans = .ok r.units
  /-- What was found with a directive is reported. -/
  reported : ∀ i d, (settingOf config g).index.directives[i]? = some d →
    ∃ entry, (settingOf config g).entry i d = .ok entry ∧ entry.diagnostics ⊆ r.diagnostics

theorem yielded_of_generate {config : Config} {g : TypeGraph} {r : PassResult}
    (h : generate config g = .ok r) : Yielded config g r := by
  rw [generate_eq_uncached] at h
  obtain ⟨entries, hentries, h⟩ := Steps.bind_eq_ok.1 h
  have hplain : (settingOf config g).entriesFrom 0 (settingOf config g).index.directives =
      .ok entries := Steps.mapError_eq_ok.1 hentries
  obtain ⟨kept, withheld, hwithhold, hplans, hunits, hdiagnostics⟩ := finish_eq_ok h
  refine ⟨?_, fun plan hplan ref href => ?_, hunits, fun i d hd => ?_⟩
  · obtain ⟨positions, hsorted, -, hforall⟩ := inOrder_validPlans Setting.placed_directives hplain
    obtain ⟨positions', hsub, hforall'⟩ :=
      forall₂_of_sublist hforall (sublist_of_withholdWithin hwithhold)
    refine ⟨positions', hsorted.sublist hsub, ?_⟩
    rw [hplans, List.forall₂_map_right_iff]
    exact hforall'.imp fun i v hv => ⟨v.directive, hv⟩
  · rw [hplans] at hplan ⊢
    obtain ⟨v, hv, rfl⟩ := List.mem_map.1 hplan
    exact provided_of_withhold hwithhold hv href
  · obtain ⟨entry, hentry, hget⟩ := getElem?_entriesFrom hplain hd
    rw [Nat.zero_add] at hentry
    refine ⟨entry, hentry, fun diagnostic hdiagnostic => ?_⟩
    rw [hdiagnostics, Diagnostic.sort, Text.mem_sortBy]
    refine List.mem_append_left _ (List.mem_append_right _ ?_)
    exact List.mem_flatMap.2 ⟨_, List.mem_iff_getElem?.2 ⟨i, hget⟩, hdiagnostic⟩

namespace Yielded

variable {config : Config} {g : TypeGraph} {r : PassResult} (h : Yielded config g r)
include h

theorem emitted {plan : Plan} (hplan : plan ∈ r.plans) :
    ∃ i d, Emitted (settingOf config g) i d plan := by
  obtain ⟨positions, -, hforall⟩ := h.placed
  obtain ⟨i, -, d, hd⟩ := Steps.exists_of_mem_right hforall hplan
  exact ⟨i, d, hd⟩

end Yielded

end Mapsmith.Generation
