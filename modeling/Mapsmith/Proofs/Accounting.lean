import Mapsmith.Proofs.Vetted

/-!
# No directive is lost

Every directive recorded on a type of the graph is accounted for by a pass. A directive drops out if
its target stands for nothing, if its planning fails, if its plan has errors, or if its plan is
withheld for want of a routine; a cached entry tells the same as a new one. Each of these leaves an
error among the reports about the directive, and those stand where it is declared or at its type. So
the plans of a result are those of the recorded directives without an error, in the order in which
they are recorded, and the diagnostics of a result are the reports about the recorded directives and
those about derived pairs, nothing more (`Mapsmith.Generation.accounted`).
-/

namespace Mapsmith.Generation

open Directive.Resolution

variable {config : Config} {g : TypeGraph} {cache : Cache} {r : PassResult} {t : TypeDescriptor}
  {d : Directive}

/-! ### Directives as they are recorded -/

/-- The directives recorded on the types of a graph, each beside its type: the types in order of
qualified names, the directives of a type in order of declaration. -/
def recorded (g : TypeGraph) : List (TypeDescriptor × Directive) :=
  g.descriptors.flatMap fun t => t.directives.map (t, ·)

/-- What resolving a recorded directive yields. -/
def resolution (g : TypeGraph) (record : TypeDescriptor × Directive) : Result :=
  resolveOne g record.1 (record.1.derived.filterMap (resolvePair g record.1)) record.2

/-- A recorded directive with its names resolved, if its target stands for a type. -/
def resolved? (g : TypeGraph) (record : TypeDescriptor × Directive) : Option Directive :=
  (resolution g record).directives.head?

/-- The reports about the derived pairs of the types that directives are recorded on. -/
def pairReports (g : TypeGraph) : List Diagnostic :=
  g.descriptors.flatMap fun t =>
    if t.directives.isEmpty then [] else t.derived.flatMap (pairDiagnostics g t)

theorem mem_descriptors : t ∈ g.descriptors ↔ t ∈ g.types := by
  unfold TypeGraph.descriptors TypeGraph.typeNames
  rw [TypeGraph.mem_filterMap_get?, Text.mem_sort, and_iff_left_iff_imp]
  exact fun ht => List.mem_map_of_mem ht

theorem mem_recorded : (t, d) ∈ recorded g ↔ t ∈ g.types ∧ d ∈ t.directives := by
  simp only [recorded, List.mem_flatMap, mem_descriptors, List.mem_map, Prod.mk.injEq]
  constructor
  · rintro ⟨u, hu, e, he, rfl, rfl⟩
    exact ⟨hu, he⟩
  · rintro ⟨ht, hd⟩
    exact ⟨t, ht, d, hd, rfl, rfl⟩

theorem foldl_append {α : Type} (f : α → Result) (xs : List α) (start : Result) :
    xs.foldl (fun result x => result.append (f x)) start =
      ⟨start.directives ++ xs.flatMap fun x => (f x).directives,
        start.diagnostics ++ xs.flatMap fun x => (f x).diagnostics⟩ := by
  induction xs generalizing start with
  | nil => simp
  | cons x xs ih =>
    rw [List.foldl_cons, ih]
    simp only [Result.append, List.flatMap_cons, List.append_assoc]

theorem toList_resolved? (record : TypeDescriptor × Directive) :
    (resolved? g record).toList = (resolution g record).directives := by
  unfold resolved? resolution resolveOne
  split <;> rfl

/-- Resolving the directives of a type goes from one to the next. -/
theorem ofType_eq (g : TypeGraph) (t : TypeDescriptor) :
    ofType g t =
      ⟨(t.directives.map (t, ·)).filterMap (resolved? g),
        (if t.directives.isEmpty then [] else t.derived.flatMap (pairDiagnostics g t)) ++
          (t.directives.map (t, ·)).flatMap fun record => (resolution g record).diagnostics⟩ := by
  unfold ofType
  split
  next hempty =>
    rw [List.isEmpty_iff.1 hempty]
    rfl
  next =>
    have hdirectives : (t.directives.map (t, ·)).filterMap (resolved? g) =
        t.directives.flatMap fun d => (resolution g (t, d)).directives := by
      rw [List.filterMap_eq_flatMap_toList, List.flatMap_map]
      simp only [toList_resolved?]
    rw [foldl_append, hdirectives, List.flatMap_map]
    rfl

/-- The directives of a pass are the recorded ones, as far as they can be resolved. -/
theorem directives_ofGraph : (ofGraph g).directives = (recorded g).filterMap (resolved? g) := by
  unfold ofGraph recorded
  rw [foldl_append, List.filterMap_flatMap]
  simp only [ofType_eq, List.nil_append]

theorem diagnostics_ofGraph : (ofGraph g).diagnostics.Perm
    (pairReports g ++ (recorded g).flatMap fun record => (resolution g record).diagnostics) := by
  unfold ofGraph recorded pairReports
  rw [foldl_append, List.flatMap_assoc]
  simp only [ofType_eq, List.nil_append]
  exact (List.flatMap_append_perm ..).symm

/-! ### Accounts -/

/-- What comes of a directive in a pass: the reports about it, and its plan, if there is one. -/
structure Account where
  /-- The reports. -/
  reports : List Diagnostic
  /-- The plan. -/
  plan : Option Plan

/-- Is this the account of a plan without errors: kept, or withheld for want of a routine? -/
def Account.OfValid (v : ValidPlan) (a : Account) : Prop :=
  a = ⟨[], some v.plan⟩ ∨ ∃ name, a = ⟨[stranded v name], none⟩

/-- What stands beside a list without one of its elements stands beside the whole list, with what
stands beside that element put in. -/
theorem exists_forall₂_of_eraseIdx {α β : Type} {R : α → β → Prop} {xs : List α} {ys : List β}
    {i : Nat} {x : α} {y : β} (hx : xs[i]? = some x) (h : List.Forall₂ R (xs.eraseIdx i) ys)
    (hy : R x y) : ∃ before after, ys = before ++ after ∧ List.Forall₂ R xs (before ++ y :: after) := by
  induction xs generalizing i ys with
  | nil => simp at hx
  | cons w ws ih =>
    cases i with
    | zero =>
      cases hx
      exact ⟨[], ys, rfl, .cons hy h⟩
    | succ i =>
      rw [List.eraseIdx_cons_succ, List.forall₂_cons_left_iff] at h
      obtain ⟨z, zs, hz, hzs, rfl⟩ := h
      obtain ⟨before, after, rfl, hforall⟩ := ih hx hzs
      exact ⟨z :: before, after, rfl, .cons hz hforall⟩

/-- Plans that are all kept. -/
theorem exists_accounts_kept (valid : List ValidPlan) :
    ∃ accounts : List Account, List.Forall₂ Account.OfValid valid accounts ∧
      valid.map (·.plan) = accounts.filterMap (·.plan) ∧
        [].Perm (accounts.flatMap (·.reports)) := by
  refine ⟨valid.map fun v => ⟨[], some v.plan⟩, ?_, ?_, ?_⟩
  · rw [List.forall₂_map_right_iff, List.forall₂_same]
    exact fun v _ => .inl rfl
  · rw [List.filterMap_map]
    exact (congrFun List.filterMap_eq_map valid).symm
  · simp

/-- **Withholding keeps or reports every plan.** -/
theorem exists_accounts_withholdWithin {steps : Nat} {valid kept : List ValidPlan}
    {ds : List Diagnostic} (h : withholdWithin steps valid = (kept, ds)) :
    ∃ accounts : List Account, List.Forall₂ Account.OfValid valid accounts ∧
      kept.map (·.plan) = accounts.filterMap (·.plan) ∧ ds.Perm (accounts.flatMap (·.reports)) := by
  induction steps generalizing valid kept ds with
  | zero =>
    cases h
    exact exists_accounts_kept valid
  | succ steps ih =>
    unfold withholdWithin at h
    split at h
    · cases h
      exact exists_accounts_kept valid
    next i v name hstranded =>
      -- the stranded plan is reported here and takes no part in the later steps
      cases h
      obtain ⟨accounts, hforall, hkept, hreports⟩ := ih rfl
      obtain ⟨before, after, rfl, hall⟩ := exists_forall₂_of_eraseIdx
        (mem_of_firstStranded hstranded) hforall (.inr ⟨name, rfl⟩)
      refine ⟨_, hall, ?_, ?_⟩
      · rw [hkept, List.filterMap_append, List.filterMap_append, List.filterMap_cons_none rfl]
      · rw [List.flatMap_append, List.flatMap_cons]
        rw [List.flatMap_append] at hreports
        exact (hreports.cons _).trans List.perm_middle.symm

/-- Accounts of what some elements of a list stand for, as accounts of all its elements: each with
reports of its own before the others, and the elements that stand for nothing without a plan. -/
theorem exists_accounts_filterMap {α β : Type} {R : β → Account → Prop} (f : α → Option β)
    (own : α → List Diagnostic) {xs : List α} {accounts : List Account}
    (h : List.Forall₂ R (xs.filterMap f) accounts) :
    ∃ all : List Account,
      List.Forall₂ (fun x a => (f x = none ∧ a = ⟨own x, none⟩) ∨
        ∃ y b, f x = some y ∧ R y b ∧ a = ⟨own x ++ b.reports, b.plan⟩) xs all ∧
      accounts.filterMap (·.plan) = all.filterMap (·.plan) ∧
      (xs.flatMap own ++ accounts.flatMap (·.reports)).Perm (all.flatMap (·.reports)) := by
  induction xs generalizing accounts with
  | nil =>
    cases h
    exact ⟨[], .nil, rfl, .refl _⟩
  | cons x xs ih =>
    cases hx : f x with
    | none =>
      rw [List.filterMap_cons_none hx] at h
      obtain ⟨all, hall, hplans, hreports⟩ := ih h
      refine ⟨⟨own x, none⟩ :: all, .cons (.inl ⟨hx, rfl⟩) hall, hplans, ?_⟩
      rw [List.flatMap_cons, List.flatMap_cons, List.append_assoc]
      exact hreports.append_left _
    | some y =>
      rw [List.filterMap_cons_some hx, List.forall₂_cons_left_iff] at h
      obtain ⟨b, rest, hb, hrest, rfl⟩ := h
      obtain ⟨all, hall, hplans, hreports⟩ := ih hrest
      refine ⟨⟨own x ++ b.reports, b.plan⟩ :: all, .cons (.inr ⟨y, b, hx, hb, rfl⟩) hall, ?_, ?_⟩
      · rw [List.filterMap_cons, List.filterMap_cons, hplans]
      · rw [List.flatMap_cons, List.flatMap_cons, List.flatMap_cons, List.append_assoc,
          List.append_assoc]
        refine List.Perm.append_left _ (List.Perm.trans ?_ (hreports.append_left _))
        exact List.perm_append_comm_assoc _ _ _

/-! ### Entries -/

/-- The plan of an entry without errors. -/
def validPlan? (p : Directive × Entry) : Option ValidPlan :=
  if Diagnostic.anyError p.2.diagnostics then none else p.2.plan.map fun plan => ⟨p.1, plan⟩

/-- Is this the account of a directive under the entry that it is handed? -/
def Account.OfEntry (p : Directive × Entry) (a : Account) : Prop :=
  (validPlan? p = none ∧ a = ⟨p.2.diagnostics, none⟩) ∨
    ∃ (v : ValidPlan) (b : Account), validPlan? p = some v ∧ b.OfValid v ∧
      a = ⟨p.2.diagnostics ++ b.reports, b.plan⟩

/-- Does an account settle a directive of a pass? Its reports point where the directive stands, and
it has a plan, one that is accepted, exactly if no report is an error. -/
structure Account.Settled (s : Setting) (d : Directive) (a : Account) : Prop where
  located : ∀ location, d.location = some location → ∀ x ∈ a.reports, x.location = location
  planned : a.plan.isSome = true ↔ Diagnostic.anyError a.reports = false
  accepted : ∀ plan ∈ a.plan, Accepted s d plan

section Entries

variable {s : Setting} {location : Location} {conflict : Option String} {entry : Entry}

/-- What is found with a directive is reported where it stands. -/
theorem location_of_entryUnder (hd : d ∈ s.index.directives) (hlocation : d.location = some location)
    (hentry : s.entryUnder conflict d = .ok entry) :
    ∀ x ∈ entry.diagnostics, x.location = location := by
  intro x hx
  unfold Setting.entryUnder at hentry
  split at hentry
  next plan hplan =>
    cases hentry
    obtain ⟨source, target, hof⟩ := Planning.plan_eq_ok hd hplan
    obtain ⟨q, -, rfl⟩ := List.mem_map.1 hx
    simp only [Plan.location, hof.directive_eq, hlocation, Option.getD_some]
  next =>
    split at hentry
    · cases hentry
      simp only [List.mem_singleton] at hx
      simp only [hx, Setting.planFailed, hlocation, Option.getD_some]
    · cases hentry

theorem settled_of_entry (hd : d ∈ s.index.directives) (htold : Told s d conflict)
    (hentry : s.entryUnder conflict d = .ok entry) {a : Account}
    (ha : Account.OfEntry (d, entry) a) : a.Settled s d := by
  have hlocated : ∀ location, d.location = some location →
      ∀ x ∈ entry.diagnostics, x.location = location :=
    fun location hlocation => location_of_entryUnder hd hlocation hentry
  rcases ha with ⟨hnone, rfl⟩ | ⟨v, b, hv, hb, rfl⟩
  · -- an entry without a plan tells why
    have herror : Diagnostic.anyError entry.diagnostics = true := by
      by_contra hfree
      obtain ⟨plan, hplan, -⟩ :=
        accepted_of_entryUnder hd htold hentry (Bool.eq_false_iff.2 hfree)
      simp [validPlan?, Bool.eq_false_iff.2 hfree, hplan] at hnone
    exact ⟨hlocated, by simp [herror], fun _ hplan => absurd hplan (Option.not_mem_none _)⟩
  · unfold validPlan? at hv
    split at hv
    · cases hv
    next hfree =>
      obtain ⟨plan, hplan, rfl⟩ := Option.map_eq_some_iff.1 hv
      have hfree := Bool.eq_false_iff.2 hfree
      obtain ⟨plan', hplan', haccepted⟩ := accepted_of_entryUnder hd htold hentry hfree
      obtain rfl : plan = plan' := Option.some.inj (hplan.symm.trans hplan')
      rcases hb with rfl | ⟨name, rfl⟩
      · refine ⟨?_, ?_, ?_⟩
        · rw [List.append_nil]
          exact hlocated
        · simp [hfree]
        · rintro plan' ⟨⟩
          exact haccepted
      · refine ⟨?_, ?_, fun _ hplan => absurd hplan (Option.not_mem_none _)⟩
        · intro location hlocation x hx
          rcases List.mem_append.1 hx with hx | hx
          · exact hlocated location hlocation x hx
          · rw [List.mem_singleton.1 hx]
            simp only [stranded, Setting.planFailed, hlocation, Option.getD_some]
        · simp [Diagnostic.anyError, stranded, Setting.planFailed, Diagnostic.isError,
            Problem.severity]

end Entries

/-! ### Records -/

/-- A plan of a directive's own: from the type that it is recorded on to the type that its target
stands for. -/
structure OwnPlan (g : TypeGraph) (t : TypeDescriptor) (d : Directive) (plan : Plan) : Prop where
  source_eq : plan.source = t
  resolve_eq : g.resolve d.target (some t.module) = some plan.target.qualifiedName

/-- Does a diagnostic stand where a directive does, or at the type that it is recorded on? -/
def Located (t : TypeDescriptor) (d : Directive) (x : Diagnostic) : Prop :=
  d.location = some x.location ∨ x.location = t.anchor

/-- **Does an account tell what comes of a recorded directive?** The reports stand where the directive
does or at its type, and it has a plan, one of its own, exactly if no report is an error. -/
structure Account.Tells (g : TypeGraph) (t : TypeDescriptor) (d : Directive) (a : Account) : Prop where
  located : ∀ x ∈ a.reports, Located t d x
  planned : a.plan.isSome = true ↔ Diagnostic.anyError a.reports = false
  own : ∀ plan ∈ a.plan, OwnPlan g t d plan

theorem located_of_eq {x : Diagnostic} (h : x.location = d.location.getD t.anchor) : Located t d x := by
  cases hd : d.location with
  | none => exact .inr (by rw [h, hd, Option.getD_none])
  | some location => exact .inl (by rw [h, hd, Option.getD_some])

/-- A recorded directive is resolved, or reported. -/
theorem resolution_cases (g : TypeGraph) (t : TypeDescriptor) (d : Directive) :
    (resolved? g (t, d) = none ∧ (resolution g (t, d)).diagnostics = [unresolved t d.target]) ∨
      ∃ target derived, g.resolve d.target (some t.module) = some target ∧
        resolved? g (t, d) = some { d with
          source := t.qualifiedName, target, derived, location := some (d.location.getD t.anchor) } ∧
        (resolution g (t, d)).diagnostics = [] := by
  unfold resolved? resolution resolveOne
  split
  next target htarget => exact .inr ⟨target, _, htarget, rfl, rfl⟩
  next => exact .inl ⟨rfl, rfl⟩

/-! ### Passes -/

/-- The entries that a pass is handed stand beside its directives. -/
theorem Handed.forall₂ {s : Setting} {entries : List (Directive × Entry)} (h : Handed s entries) :
    List.Forall₂ (fun d p => d ∈ s.index.directives ∧ ∃ conflict, Told s d conflict ∧ p.1 = d ∧
      s.entryUnder conflict d = .ok p.2) s.index.directives entries := by
  rw [List.forall₂_iff_get]
  refine ⟨h.length_eq.symm, fun i hi hi' => ⟨List.getElem_mem hi, ?_⟩⟩
  obtain ⟨conflict, entry, htold, hentry, hget⟩ := h.entry_eq i _ (List.getElem?_eq_getElem hi)
  have hp : entries.get ⟨i, hi'⟩ = (s.index.directives[i], entry) :=
    Option.some.inj ((List.getElem?_eq_getElem hi').symm.trans hget)
  rw [hp]
  exact ⟨conflict, htold, rfl, hentry⟩

theorem forall₂_comp {α β γ : Type} {R : α → β → Prop} {S : β → γ → Prop} {xs : List α}
    {ys : List β} {zs : List γ} (h : List.Forall₂ R xs ys) (h' : List.Forall₂ S ys zs) :
    List.Forall₂ (fun x z => ∃ y, R x y ∧ S y z) xs zs := by
  induction h generalizing zs with
  | nil =>
    cases h'
    exact .nil
  | cons hxy _ ih =>
    cases h' with
    | cons hyz hrest => exact .cons ⟨_, hxy, hyz⟩ (ih hrest)

/-- **A pass accounts for its directives.** -/
theorem exists_accounts_of_finish {entries : List (Directive × Entry)}
    (hhanded : Handed (settingOf config g) entries) (h : finish config g entries = .ok r) :
    ∃ accounts : List Account,
      List.Forall₂ (fun d a => a.Settled (settingOf config g) d)
        (settingOf config g).index.directives accounts ∧
      r.plans = accounts.filterMap (·.plan) ∧
      r.diagnostics.Perm ((ofGraph g).diagnostics ++ accounts.flatMap (·.reports)) := by
  obtain ⟨kept, withheld, hwithhold, hplans, -, hdiagnostics⟩ := finish_eq_ok h
  obtain ⟨fates, hfates, hkept, hwithheld⟩ := exists_accounts_withholdWithin hwithhold
  have hvalid : validPlans entries = entries.filterMap validPlan? := rfl
  rw [hvalid] at hfates
  obtain ⟨accounts, haccounts, hfilter, hreports⟩ :=
    exists_accounts_filterMap validPlan? (fun p => p.2.diagnostics) hfates
  refine ⟨accounts, ?_, ?_, ?_⟩
  · refine (forall₂_comp hhanded.forall₂ haccounts).imp ?_
    rintro d a ⟨⟨_, entry⟩, ⟨hd, conflict, htold, rfl, hentry⟩, ha⟩
    exact settled_of_entry hd htold hentry ha
  · rw [hplans, hkept, hfilter]
  · have hsort := Text.sortBy_perm Diagnostic.le ((ofGraph g).diagnostics ++
      entries.flatMap (·.2.diagnostics) ++ withheld)
    rw [hdiagnostics, Diagnostic.sort]
    refine hsort.trans ?_
    rw [List.append_assoc]
    exact ((hwithheld.append_left _).trans hreports).append_left _

/-- An account of a directive that is settled tells what comes of the record behind it. -/
theorem Account.Settled.tells {a : Account} {target : String} {derived : List DerivedPair}
    (ht : t ∈ g.types) (htarget : g.resolve d.target (some t.module) = some target)
    (h : a.Settled (settingOf config g) { d with
      source := t.qualifiedName, target, derived, location := some (d.location.getD t.anchor) }) :
    a.Tells g t d := by
  refine ⟨fun x hx => located_of_eq (h.located _ rfl x hx), h.planned, fun plan hplan => ?_⟩
  obtain ⟨source, target', hof⟩ := (h.accepted plan hplan).planOf
  have hsource : source = t :=
    Option.some.inj (hof.hs.symm.trans (TypeGraph.get?_eq_some.2 ⟨ht, rfl⟩))
  refine ⟨hof.source_eq.trans hsource, ?_⟩
  rw [htarget, hof.target_eq]
  exact congrArg some (TypeGraph.qualifiedName_of_get? hof.ht).symm

/-- The account of a directive whose target stands for nothing. -/
theorem tells_unresolved : Account.Tells g t d ⟨[unresolved t d.target], none⟩ := by
  refine ⟨fun x hx => ?_, ?_, fun _ hplan => absurd hplan (Option.not_mem_none _)⟩
  · rw [List.mem_singleton.1 hx]
    exact .inr rfl
  · simp [Diagnostic.anyError, unresolved, Diagnostic.isError, Problem.severity]

/-! ### Plans of one record -/

theorem Accepted.pair_eq {s : Setting} {plan : Plan} (h : Accepted s d plan) :
    plan.directive.pair = (plan.source.qualifiedName, plan.target.qualifiedName) := by
  obtain ⟨source, target, hof⟩ := h.planOf
  rw [hof.directive_eq, hof.source_eq, hof.target_eq, TypeGraph.qualifiedName_of_get? hof.hs,
    TypeGraph.qualifiedName_of_get? hof.ht]
  rfl

/-- The plans in accounts of directives are those of some of them, in order. -/
theorem directives_sublist {s : Setting} {ds : List Directive} {accounts : List Account}
    (h : List.Forall₂ (fun d a => a.Settled s d) ds accounts) :
    ((accounts.filterMap (·.plan)).map (·.directive)).Sublist ds := by
  induction h with
  | nil => exact .slnil
  | @cons d a ds accounts hd _ ih =>
    cases hplan : a.plan with
    | none =>
      rw [List.filterMap_cons_none hplan]
      exact ih.cons d
    | some plan =>
      obtain ⟨source, target, hof⟩ := (hd.accepted plan hplan).planOf
      rw [List.filterMap_cons_some hplan, List.map_cons, hof.directive_eq]
      exact ih.cons_cons d

theorem exists_accepted {s : Setting} {ds : List Directive} {accounts : List Account}
    (h : List.Forall₂ (fun d a => a.Settled s d) ds accounts) {plan : Plan}
    (hplan : plan ∈ accounts.filterMap (·.plan)) : ∃ d, Accepted s d plan := by
  obtain ⟨a, ha, hsome⟩ := List.mem_filterMap.1 hplan
  obtain ⟨d, -, hsettled⟩ := Steps.exists_of_mem_right h ha
  exact ⟨d, hsettled.accepted plan hsome⟩

/-- The plans of a result are accepted. -/
theorem accepted_of_mem (hcache : Used cache) (h : (runPass config g cache).1 = .ok r) {plan : Plan}
    (hplan : plan ∈ r.plans) : Accepted (settingOf config g) plan.directive plan := by
  obtain ⟨entries, hhanded, hfinish⟩ := exists_handed hcache h
  obtain ⟨accounts, hsettled, hplans, -⟩ := exists_accounts_of_finish hhanded hfinish
  obtain ⟨d, haccepted⟩ := exists_accepted hsettled (hplans ▸ hplan)
  obtain ⟨source, target, hof⟩ := haccepted.planOf
  rwa [hof.directive_eq]

/-- The units of a result are generated from its plans. -/
theorem units_eq (hcache : Used cache) (h : (runPass config g cache).1 = .ok r) :
    Emission.generateUnits config (some g) r.plans = .ok r.units := by
  obtain ⟨entries, -, hfinish⟩ := exists_handed hcache h
  obtain ⟨-, -, -, -, hunits, -⟩ := finish_eq_ok hfinish
  exact hunits

/-- **A directive of a pass is recorded on its source**; its target is what the recorded one stands for,
and it carries the derived pairs of the type, as far as their names stand for types. -/
theorem exists_record (hd : d ∈ (settingOf config g).index.directives) :
    ∃ t ∈ g.types, ∃ e ∈ t.directives, d.source = t.qualifiedName ∧
      g.resolve e.target (some t.module) = some d.target ∧
      d.derived = t.derived.filterMap (resolvePair g t) ∧
      d.location = some (e.location.getD t.anchor) := by
  have hdirectives : (settingOf config g).index.directives = (recorded g).filterMap (resolved? g) :=
    directives_ofGraph
  rw [hdirectives] at hd
  obtain ⟨⟨t, e⟩, hrecord, hresolved⟩ := List.mem_filterMap.1 hd
  obtain ⟨ht, he⟩ := mem_recorded.1 hrecord
  refine ⟨t, ht, e, he, ?_⟩
  unfold resolved? resolution resolveOne at hresolved
  split at hresolved
  next target htarget =>
    cases hresolved
    exact ⟨rfl, htarget, rfl, rfl⟩
  next => cases hresolved

theorem isSome_location (hd : d ∈ (settingOf config g).index.directives) :
    d.location.isSome = true := by
  obtain ⟨t, -, e, -, -, -, -, hlocation⟩ := exists_record hd
  rw [hlocation]
  rfl

/-- The types of a directive of a pass are types of the graph. -/
theorem has_of_mem_directives (hd : d ∈ (settingOf config g).index.directives) :
    g.has d.source = true ∧ g.has d.target = true := by
  obtain ⟨t, ht, e, -, hsource, htarget, -⟩ := exists_record hd
  exact ⟨TypeGraph.has_iff_mem.2 (hsource ▸ List.mem_map_of_mem ht), TypeGraph.has_of_resolve htarget⟩

/-- A directive without a plan in a result has an error there, where it stands. -/
theorem exists_error_of_absent (hcache : Used cache) (h : (runPass config g cache).1 = .ok r)
    (hd : d ∈ (settingOf config g).index.directives) (habsent : ∀ p ∈ r.plans, p.directive ≠ d) :
    ∃ x ∈ r.diagnostics, x.isError = true ∧ d.location = some x.location := by
  obtain ⟨entries, hhanded, hfinish⟩ := exists_handed hcache h
  obtain ⟨accounts, hsettled, hplans, hdiagnostics⟩ := exists_accounts_of_finish hhanded hfinish
  obtain ⟨a, ha, haccount⟩ := Steps.exists_of_mem_left hsettled hd
  have hnone : a.plan = none := by
    refine Option.eq_none_iff_forall_ne_some.2 fun plan hplan => ?_
    obtain ⟨source, target, hof⟩ := (haccount.accepted plan hplan).planOf
    exact habsent plan (hplans ▸ List.mem_filterMap.2 ⟨a, ha, hplan⟩) hof.directive_eq
  have herror : Diagnostic.anyError a.reports = true := by
    by_contra hfree
    have hsome := haccount.planned.2 (Bool.eq_false_iff.2 hfree)
    rw [hnone] at hsome
    cases hsome
  obtain ⟨x, hx, hxerror⟩ := List.any_eq_true.1 herror
  obtain ⟨location, hlocation⟩ := Option.isSome_iff_exists.1 (isSome_location hd)
  refine ⟨x, hdiagnostics.mem_iff.2 ?_, hxerror, ?_⟩
  · exact List.mem_append_right _ (List.mem_flatMap.2 ⟨a, ha, hx⟩)
  · rw [hlocation, haccount.located location hlocation x hx]

/-- **A record has one plan at most.** Two would be those of directives for one pair, and then
neither was accepted. -/
theorem eq_of_ownPlan {s : Setting} {accounts : List Account}
    (h : List.Forall₂ (fun d a => a.Settled s d) s.index.directives accounts) {i j : Nat}
    {plan plan' : Plan} (hi : (accounts.filterMap (·.plan))[i]? = some plan)
    (hj : (accounts.filterMap (·.plan))[j]? = some plan') (hplan : OwnPlan g t d plan)
    (hplan' : OwnPlan g t d plan') : i = j := by
  by_contra hij
  obtain ⟨e, he⟩ := exists_accepted h (List.mem_of_getElem? hi)
  obtain ⟨e', he'⟩ := exists_accepted h (List.mem_of_getElem? hj)
  have htarget : plan.target.qualifiedName = plan'.target.qualifiedName :=
    Option.some.inj (hplan.resolve_eq.symm.trans hplan'.resolve_eq)
  have hpair : plan'.directive.pair = plan.directive.pair := by
    rw [he'.pair_eq, he.pair_eq, hplan.source_eq, hplan'.source_eq, htarget]
  have htwice : 1 < ((accounts.filterMap (·.plan)).map (·.directive)).countP
      (·.pair == plan.directive.pair) := by
    refine DirectiveIndex.one_lt_countP (x := plan.directive) (y := plan'.directive) hij ?_ ?_ ?_ ?_
    · rw [List.getElem?_map, hi, Option.map_some]
    · rw [List.getElem?_map, hj, Option.map_some]
    · exact beq_self_eq_true _
    · rw [hpair]
      exact beq_self_eq_true _
  obtain ⟨source, target, hof⟩ := he.planOf
  have honce := he.countP_le
  rw [← hof.directive_eq] at honce
  exact absurd ((directives_sublist h).countP_le.trans honce) (not_le.2 htwice)

/-- **No directive is lost.** Every directive that is recorded on a type of the graph has exactly one
plan of its own in a result, or an error stands in the result where the directive does or at its
type. More than that, the result is made of accounts of the recorded directives in order: its plans
are theirs, and its diagnostics are their reports and those about derived pairs; and a directive has
its plan exactly if no report about it is an error. -/
theorem accounted (hcache : Used cache) (h : (runPass config g cache).1 = .ok r) :
    (∀ t ∈ g.types, ∀ d ∈ t.directives,
      (∃! i : Nat, ∃ plan, r.plans[i]? = some plan ∧ OwnPlan g t d plan) ∨
        ∃ x ∈ r.diagnostics, x.isError = true ∧ Located t d x) ∧
    ∃ accounts : List Account,
      List.Forall₂ (fun record a => a.Tells g record.1 record.2) (recorded g) accounts ∧
      r.plans = accounts.filterMap (·.plan) ∧
      r.diagnostics.Perm (pairReports g ++ accounts.flatMap (·.reports)) := by
  obtain ⟨entries, hhanded, hfinish⟩ := exists_handed hcache h
  obtain ⟨settled, hsettled, hplans, hdiagnostics⟩ := exists_accounts_of_finish hhanded hfinish
  have hdirectives : (settingOf config g).index.directives = (recorded g).filterMap (resolved? g) :=
    directives_ofGraph
  have hresolved := hsettled
  rw [hdirectives] at hresolved
  obtain ⟨accounts, haccounts, hfilter, hreports⟩ := exists_accounts_filterMap (resolved? g)
    (fun record => (resolution g record).diagnostics) hresolved
  have htells : List.Forall₂ (fun record a => a.Tells g record.1 record.2) (recorded g) accounts := by
    have hmem : ∀ record ∈ recorded g, record.1 ∈ g.types := fun _ hrecord => (mem_recorded.1 hrecord).1
    refine ((List.forall₂_and_left _ _).2 ⟨hmem, haccounts⟩).imp ?_
    rintro ⟨t, d⟩ a ⟨ht, ⟨hnone, rfl⟩ | ⟨e, b, hsome, hb, rfl⟩⟩
    · rcases resolution_cases g t d with ⟨-, hunresolved⟩ | ⟨_, _, -, hresolved, -⟩
      · rw [hunresolved]
        exact tells_unresolved
      · rw [hnone] at hresolved
        cases hresolved
    · rcases resolution_cases g t d with ⟨hnone, -⟩ | ⟨target, derived, htarget, hresolved, hsilent⟩
      · rw [hnone] at hsome
        cases hsome
      · obtain rfl := Option.some.inj (hsome.symm.trans hresolved)
        rw [hsilent, List.nil_append]
        exact hb.tells ht htarget
  have hperm : r.diagnostics.Perm (pairReports g ++ accounts.flatMap (·.reports)) := by
    refine hdiagnostics.trans ((diagnostics_ofGraph.append_right _).trans ?_)
    rw [List.append_assoc]
    exact hreports.append_left _
  refine ⟨fun t ht d hd => ?_, accounts, htells, hplans.trans hfilter, hperm⟩
  obtain ⟨a, ha, htell⟩ := Steps.exists_of_mem_left htells (mem_recorded.2 ⟨ht, hd⟩)
  cases hfree : Diagnostic.anyError a.reports with
  | true =>
    obtain ⟨x, hx, herror⟩ := List.any_eq_true.1 hfree
    refine .inr ⟨x, hperm.mem_iff.2 ?_, herror, htell.located x hx⟩
    exact List.mem_append_right _ (List.mem_flatMap.2 ⟨a, ha, hx⟩)
  | false =>
    obtain ⟨plan, hplan⟩ := Option.isSome_iff_exists.1 (htell.planned.2 hfree)
    have hmem : plan ∈ r.plans := by
      rw [hplans, hfilter]
      exact List.mem_filterMap.2 ⟨a, ha, hplan⟩
    obtain ⟨i, hi⟩ := List.mem_iff_getElem?.1 hmem
    refine .inl ⟨i, ⟨plan, hi, htell.own plan hplan⟩, ?_⟩
    rintro j ⟨plan', hj, hown⟩
    rw [hplans] at hi hj
    exact eq_of_ownPlan hsettled hj hi hown (htell.own plan hplan)

/-- Notes that can be mapped, tags whose target stands for nothing, addresses without a required
member, and orders that need the mapping of addresses. -/
def letters : TypeGraph :=
  let address (type : String) : Member := { name := "address", type := .mk type .object [] none false }
  { types := [
      { name := "Note", module := "shop", kind := .cls
        directives := [{ source := "shop.Note", target := "dto.Note" }] },
      { name := "Tag", module := "shop", kind := .cls
        directives := [{ source := "shop.Tag", target := "dto.Tag", location := some (.ofSymbol "tags") }] },
      { name := "Address", module := "shop", kind := .cls
        directives := [{ source := "shop.Address", target := "dto.Address" }] },
      { name := "Order", module := "shop", kind := .cls, members := [address "shop.Address"]
        directives := [{ source := "shop.Order", target := "dto.Order" }] },
      { name := "Note", module := "dto", kind := .cls },
      { name := "Address", module := "dto", kind := .cls
        members := [{ name := "city", type := .mk "str" .scalar [] none false, required := true }] },
      { name := "Order", module := "dto", kind := .cls, members := [address "dto.Address"] }]
    nodup := by decide +kernel }

/-- A cache after a pass over the letters. -/
def cacheOfLetters : Cache :=
  (runPass {} letters { capacity := 4 }).2.cache

theorem accounted_letters : ∃ r, (runPass {} letters cacheOfLetters).1 = .ok r ∧
    r.plans.length = 1 ∧ r.diagnostics.length = 3 ∧ ∃ accounts : List Account,
      List.Forall₂ (fun record a => a.Tells letters record.1 record.2) (recorded letters) accounts ∧
      r.plans = accounts.filterMap (·.plan) ∧
      r.diagnostics.Perm (pairReports letters ++ accounts.flatMap (·.reports)) := by
  obtain ⟨r, h, hplans, hdiagnostics⟩ : ∃ r, (runPass {} letters cacheOfLetters).1 = .ok r ∧
      r.plans.length = 1 ∧ r.diagnostics.length = 3 :=
    Steps.exists_of_any (by decide +kernel)
  have hused : Used cacheOfLetters := .pass (.new 4) {} letters
  exact ⟨r, h, hplans, hdiagnostics, (accounted hused h).2⟩

end Mapsmith.Generation
