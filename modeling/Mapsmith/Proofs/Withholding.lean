import Mapsmith.Proofs.Links

/-!
# What withholding keeps

Withholding takes away one plan at a time, the first that refers to a routine which no plan that is
left defines, and then starts over. In the end it makes no difference which of them goes first. Plans
that define among themselves whatever they refer to are never touched, however they hang together, and
at last only such plans are left: what is kept is the largest family of this kind
(`Mapsmith.Generation.keeps_withhold`). Every plan that is gone is reported once, with a routine that it
refers to and that nobody is left to define.
-/

namespace Mapsmith.Generation

/-! ### Rounds -/

/-- Does a plan define a routine under its name and in its namespace? -/
def Defines (p : Plan) (r : RoutineRef) : Prop :=
  ∃ m ∈ p.publicMappings, p.home = r.home ∧ m.routine.name = r.name

/-- **The rounds of withholding**, with no bound on their number: the first plan that lacks a routine is
taken away and reported, until there is none. -/
inductive Withholds : List ValidPlan → List ValidPlan → List Diagnostic → Prop
  /-- No plan lacks a routine. -/
  | done {kept} (h : firstStranded kept = none) : Withholds kept kept []
  /-- The first plan that lacks a routine goes. -/
  | round {cur kept ds i v name} (h : firstStranded cur = some (i, v, name))
      (hrest : Withholds (cur.eraseIdx i) kept ds) : Withholds cur kept (stranded v name :: ds)

section Rounds

variable {valid cur kept vs : List ValidPlan} {ds : List Diagnostic} {steps i : Nat} {v : ValidPlan}
  {name : String}

/-- The rounds come to an end within a round for every plan. -/
theorem withholds_withholdWithin (hsteps : cur.length ≤ steps) :
    Withholds cur (withholdWithin steps cur).1 (withholdWithin steps cur).2 := by
  induction steps generalizing cur with
  | zero =>
    rw [List.length_eq_zero_iff.1 (Nat.le_zero.1 hsteps)]
    exact .done rfl
  | succ steps ih =>
    unfold withholdWithin
    split
    next hnone => exact .done hnone
    next i v name hfirst =>
      have hi : i < cur.length := (List.getElem?_eq_some_iff.1 (mem_of_firstStranded hfirst)).1
      refine .round hfirst (ih ?_)
      rw [List.length_eraseIdx_of_lt hi]
      omega

theorem exists_of_mem_missingRoutines {plans : List Plan} {p : Plan} (h : name ∈ missingRoutines plans p) :
    ∃ r, p.References r ∧ r.name = name ∧ ∀ q ∈ plans, ¬ Defines q r := by
  unfold missingRoutines at h
  obtain ⟨r, hr, hname⟩ := List.mem_map.1 (Text.mem_sort.1 h)
  obtain ⟨hr, hnone⟩ := List.mem_filter.1 hr
  refine ⟨r, mem_publicCalls_iff.1 hr, hname, fun q hq hdefines => ?_⟩
  have hmem : (r.home, r.name) ∈ provided plans := mem_provided.2 ⟨q, hq, hdefines⟩
  simp only [Bool.not_eq_true', List.any_eq_false] at hnone
  exact hnone _ hmem (by simp)

/-- The plan that goes next refers to a routine that none of the plans defines. -/
theorem exists_of_firstStranded (h : firstStranded cur = some (i, v, name)) :
    ∃ r, v.plan.References r ∧ r.name = name ∧ ∀ w ∈ cur, ¬ Defines w.plan r := by
  obtain ⟨⟨w, j⟩, -, hfound⟩ := List.exists_of_findSome?_eq_some h
  obtain ⟨name', hhead, heq⟩ := Option.map_eq_some_iff.1 hfound
  cases heq
  obtain ⟨r, hr, hname, hnone⟩ := exists_of_mem_missingRoutines (List.mem_of_head? hhead)
  exact ⟨r, hr, hname, fun w hw => hnone w.plan (List.mem_map_of_mem hw)⟩

/-! ### What is kept -/

/-- Do plans define among themselves every public routine that they refer to? -/
def SelfContained (vs : List ValidPlan) : Prop :=
  ∀ v ∈ vs, ∀ r, v.plan.References r → ∃ w ∈ vs, Defines w.plan r

/-- A sublist keeps its place when an element is taken out that it does not have. -/
theorem sublist_eraseIdx {α : Type} {xs ys : List α} {x : α} (h : xs.Sublist ys)
    (hi : ys[i]? = some x) (hx : x ∉ xs) : xs.Sublist (ys.eraseIdx i) := by
  induction h generalizing i with
  | slnil => cases hi
  | cons y hsub ih =>
    cases i with
    | zero => exact hsub
    | succ i => exact (ih hi hx).cons y
  | cons_cons y hsub ih =>
    cases i with
    | zero =>
      cases hi
      exact absurd List.mem_cons_self hx
    | succ i => exact (ih hi fun hmem => hx (List.mem_cons_of_mem _ hmem)).cons_cons y

/-- Plans that define what they refer to are not touched by a round. -/
theorem SelfContained.sublist_eraseIdx (hvs : SelfContained vs) (hsub : vs.Sublist cur)
    (h : firstStranded cur = some (i, v, name)) : vs.Sublist (cur.eraseIdx i) := by
  refine Generation.sublist_eraseIdx hsub (mem_of_firstStranded h) fun hv => ?_
  obtain ⟨r, hr, -, hnone⟩ := exists_of_firstStranded h
  obtain ⟨w, hw, hdefines⟩ := hvs v hv r hr
  exact hnone w (hsub.subset hw) hdefines

theorem SelfContained.sublist_of_withholds (hvs : SelfContained vs) (h : Withholds cur kept ds)
    (hsub : vs.Sublist cur) : vs.Sublist kept := by
  induction h with
  | done => exact hsub
  | round hfirst _ ih => exact ih (hvs.sublist_eraseIdx hsub hfirst)

theorem selfContained_of_withhold (h : withhold valid = (kept, ds)) : SelfContained kept := by
  intro v hv r hr
  obtain ⟨p, hp, hdefines⟩ := mem_provided.1 (provided_of_withhold h hv (mem_publicCalls_iff.2 hr))
  obtain ⟨w, hw, rfl⟩ := List.mem_map.1 hp
  exact ⟨w, hw, hdefines⟩

/-- **The largest family among plans that defines what it refers to**, in the order of the plans. -/
structure Largest (valid kept : List ValidPlan) : Prop where
  sublist : kept.Sublist valid
  selfContained : SelfContained kept
  largest : ∀ vs : List ValidPlan, vs.Sublist valid → SelfContained vs → vs.Sublist kept

theorem largest_of_withhold (h : withhold valid = (kept, ds)) : Largest valid kept := by
  have hrounds : Withholds valid kept ds := by
    have hends : Withholds valid (withhold valid).1 (withhold valid).2 :=
      withholds_withholdWithin (Nat.le_refl _)
    rwa [h] at hends
  exact ⟨sublist_of_withholdWithin h, selfContained_of_withhold h,
    fun vs hsub hvs => hvs.sublist_of_withholds hrounds hsub⟩

/-! ### What is reported -/

/-- Is this the report on a plan that is withheld? It names a routine that the plan refers to and that
none of the plans defines which are kept. -/
def ReportOn (kept : List ValidPlan) (v : ValidPlan) (x : Diagnostic) : Prop :=
  x.problem.id = "MAP099" ∧ ∃ r, v.plan.References r ∧ (∀ w ∈ kept, ¬ Defines w.plan r) ∧
    x = stranded v r.name

/-- Every round takes away one plan and reports it. -/
theorem exists_reportOn (h : Withholds cur kept ds) :
    ∃ gone : List ValidPlan, (kept ++ gone).Perm cur ∧ List.Forall₂ (ReportOn kept) gone ds := by
  have hsub : kept.Sublist cur ∧
      ∃ gone : List ValidPlan, (kept ++ gone).Perm cur ∧ List.Forall₂ (ReportOn kept) gone ds := by
    induction h with
    | done => exact ⟨.refl _, [], by simp, .nil⟩
    | @round cur kept ds i v name hfirst _ ih =>
      obtain ⟨hsub, gone, hperm, hreports⟩ := ih
      have hsub' : kept.Sublist cur := hsub.trans (List.eraseIdx_sublist _ _)
      refine ⟨hsub', v :: gone, ?_, .cons ?_ hreports⟩
      · obtain ⟨hi, rfl⟩ := List.getElem?_eq_some_iff.1 (mem_of_firstStranded hfirst)
        exact List.perm_middle.trans ((hperm.cons _).trans (List.getElem_cons_eraseIdx_perm hi))
      · obtain ⟨r, hr, rfl, hnone⟩ := exists_of_firstStranded hfirst
        exact ⟨rfl, r, hr, fun w hw => hnone w (hsub'.subset hw), rfl⟩
  exact hsub.2

/-- **Withholding keeps exactly what can be kept.** Its rounds come to an end, and the plans that are left
are, in their order, the largest family that defines every public routine it refers to. Each plan that
is gone is reported once, with a routine that it refers to. -/
theorem keeps_withhold (valid : List ValidPlan) :
    ∃ kept ds, withhold valid = (kept, ds) ∧ Withholds valid kept ds ∧ Largest valid kept ∧
      ∃ gone : List ValidPlan, (kept ++ gone).Perm valid ∧ List.Forall₂ (ReportOn kept) gone ds := by
  have hrounds : Withholds valid (withhold valid).1 (withhold valid).2 :=
    withholds_withholdWithin (Nat.le_refl _)
  exact ⟨_, _, rfl, hrounds, largest_of_withhold rfl, exists_reportOn hrounds⟩

end Rounds

/-! ### Stranded plans -/

section Stranding

variable {valid kept : List ValidPlan} {ds : List Diagnostic} {v : ValidPlan}

/-- **Is a plan stranded** among others: does it call a routine that none of them defines but stranded
ones? -/
inductive Stranded (valid : List ValidPlan) : ValidPlan → Prop
  /-- It calls this routine. -/
  | mk {v : ValidPlan} (r : RoutineRef) (hr : r ∈ publicCalls v.plan)
    (h : ∀ w ∈ valid, Defines w.plan r → Stranded valid w) : Stranded valid v

/-- A stranded plan is in no family that defines what it refers to. -/
theorem SelfContained.not_mem_of_stranded {vs : List ValidPlan} (hvs : SelfContained vs)
    (hsub : vs ⊆ valid) (h : Stranded valid v) : v ∉ vs := by
  induction h with
  | mk r hr _ ih =>
    intro hv
    obtain ⟨w, hw, hdefines⟩ := hvs _ hv r (mem_publicCalls_iff.1 hr)
    exact ih w (hsub hw) hdefines hw

open scoped Classical in
/-- The plans that are not stranded define what they refer to. -/
theorem selfContained_filter : SelfContained (valid.filter fun v => ¬ Stranded valid v) := by
  intro v hv r hr
  obtain ⟨hv, hnot⟩ := List.mem_filter.1 hv
  by_contra hnone
  refine of_decide_eq_true hnot (.mk r (mem_publicCalls_iff.2 hr) fun w hw hdefines => ?_)
  by_contra hw'
  exact hnone ⟨w, List.mem_filter.2 ⟨hw, decide_eq_true hw'⟩, hdefines⟩

open scoped Classical in
/-- **Withholding keeps exactly the plans that are not stranded.** -/
theorem mem_withhold_iff (h : withhold valid = (kept, ds)) (hv : v ∈ valid) :
    v ∈ kept ↔ ¬ Stranded valid v := by
  obtain ⟨hsub, hkept, hlargest⟩ := largest_of_withhold h
  constructor
  · exact fun hmem hstranded => hkept.not_mem_of_stranded hsub.subset hstranded hmem
  · intro hnot
    have hfilter := hlargest _ List.filter_sublist selfContained_filter
    exact hfilter.subset (List.mem_filter.2 ⟨hv, decide_eq_true hnot⟩)

end Stranding

end Mapsmith.Generation
