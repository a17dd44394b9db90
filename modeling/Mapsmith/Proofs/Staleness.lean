import Mapsmith.Proofs.Clashes
import Mapsmith.Proofs.Emitted
import Mapsmith.Proofs.Locality
import Mathlib.Data.Set.Finite.Lemmas

/-!
# What a stale entry shows

An entry of the cache that planning would not yield any more differs from the one that it would in
the report of a conflict. One report gone or come might be made up for by that of another directive,
since results list what was found without telling for which directive. That does not happen
(`Mapsmith.Generation.Handed.eq`): of all reports that are gone, take one over the least definition.
The directive that reports it instead shares that definition, so on its own it would report one over
a smaller definition, and that report is gone, too.
-/

namespace Mapsmith.Generation

open DirectiveIndex Planning

/-! ### Counting -/

section Counting

variable {α : Type} [DecidableEq α] {xs ys : List (List α)} {l l' : List α} {x : α} {i : Nat}

theorem count_flatten_le (h : List.Forall₂ (fun m m' => m'.count x ≤ m.count x) xs ys) :
    ys.flatten.count x ≤ xs.flatten.count x := by
  induction h with
  | nil => exact Nat.le_refl _
  | cons hle _ ih =>
    rw [List.flatten_cons, List.flatten_cons, List.count_append, List.count_append]
    exact Nat.add_le_add hle ih

theorem count_flatten_lt (h : List.Forall₂ (fun m m' => m'.count x ≤ m.count x) xs ys)
    (hl : xs[i]? = some l) (hl' : ys[i]? = some l') (hlt : l'.count x < l.count x) :
    ys.flatten.count x < xs.flatten.count x := by
  induction h generalizing i with
  | nil => simp at hl
  | cons hle hrest ih =>
    rw [List.flatten_cons, List.flatten_cons, List.count_append, List.count_append]
    cases i with
    | zero =>
      cases hl
      cases hl'
      exact Nat.add_lt_add_of_lt_of_le hlt (count_flatten_le hrest)
    | succ i => exact Nat.add_lt_add_of_le_of_lt hle (ih hl hl')

/-- What one place has lost, another one has gained, where all have as much of it together as
before, and none has it twice. -/
theorem exists_gained (hlen : xs.length = ys.length) (hcount : xs.flatten.count x = ys.flatten.count x)
    (hle : ∀ m ∈ ys, m.count x ≤ 1) (hl : xs[i]? = some l) (hl' : ys[i]? = some l') (hx : x ∈ l)
    (hx' : x ∉ l') :
    ∃ (j : Nat) (m m' : List α), xs[j]? = some m ∧ ys[j]? = some m' ∧ x ∉ m ∧ x ∈ m' := by
  by_contra hnone
  have hforall : List.Forall₂ (fun m m' => m'.count x ≤ m.count x) xs ys := by
    rw [List.forall₂_iff_get]
    refine ⟨hlen, fun j hj hj' => ?_⟩
    by_cases hmem : x ∈ ys.get ⟨j, hj'⟩
    · have hkept : x ∈ xs.get ⟨j, hj⟩ := by
        by_contra hlost
        exact hnone ⟨j, _, _, List.getElem?_eq_getElem hj, List.getElem?_eq_getElem hj', hlost, hmem⟩
      exact (hle _ (List.get_mem ..)).trans (List.count_pos_iff.2 hkept)
    · rw [List.count_eq_zero.2 hmem]
      exact Nat.zero_le _
  have hlt : l'.count x < l.count x := by
    rw [List.count_eq_zero.2 hx']
    exact List.count_pos_iff.2 hx
  exact absurd hcount (Nat.ne_of_gt (count_flatten_lt hforall hl hl' hlt))

end Counting

/-! ### Reports of conflicts -/

/-- The report of a conflict, with a plan. -/
def reportOf (plan : Plan) (detail : String) : Diagnostic :=
  ⟨.duplicateDirective plan.source.name plan.target.name detail, plan.location⟩

/-- Does a diagnostic report a conflict? -/
def IsReport (x : Diagnostic) : Prop :=
  ∃ source target detail, x.problem = .duplicateDirective source target detail

theorem isReport_reportOf (plan : Plan) (detail : String) : IsReport (reportOf plan detail) :=
  ⟨_, _, _, rfl⟩

theorem reportOf_injective (plan : Plan) : Function.Injective (reportOf plan) := by
  intro detail detail' heq
  simp only [reportOf, Diagnostic.mk.injEq, Problem.duplicateDirective.injEq, true_and,
    and_true] at heq
  exact heq

section Reports

variable {s : Setting} {index : DirectiveIndex} {plan : Plan} {conflict : Option String}
  {d : Directive} {entry : Entry} {x : Diagnostic}

theorem not_isReport_of_none (h : x ∈ Validation.validate index plan none) : ¬ IsReport x := by
  rintro ⟨source, target, detail, hx⟩
  obtain ⟨q, hq, rfl⟩ := List.mem_map.1 h
  exact Validation.noConflict_check q hq source target detail hx

theorem validate_of_facesConflict (h : plan.FacesConflict) (detail : String) :
    Validation.validate index plan (some detail) = [reportOf plan detail] := by
  rw [Validation.validate, Validation.check_of_facesConflict h]
  rfl

/-- A check reports the conflict it is told of, if it comes to it. -/
theorem mem_validate_iff (hx : IsReport x) : x ∈ Validation.validate index plan conflict ↔
    plan.FacesConflict ∧ ∃ detail ∈ conflict, x = reportOf plan detail := by
  by_cases hfaces : plan.FacesConflict
  · cases conflict with
    | none => exact iff_of_false (fun h => not_isReport_of_none h hx) (by simp)
    | some detail => simp [validate_of_facesConflict hfaces, hfaces]
  · have hcheck : Validation.check index conflict plan = Validation.check index none plan :=
      Validation.check_of_not_facesConflict hfaces
    rw [Validation.validate, hcheck]
    exact iff_of_false (fun h => not_isReport_of_none h hx) fun h => hfaces h.1

theorem mem_diagnostics_iff (h : s.entryUnder conflict d = .ok entry) (hx : IsReport x) :
    x ∈ entry.diagnostics ↔ ∃ plan, s.planning.plan d = .ok plan ∧ plan.FacesConflict ∧
      ∃ detail ∈ conflict, x = reportOf plan detail := by
  unfold Setting.entryUnder at h
  split at h
  next plan hplan =>
    cases h
    simp only [hplan, Except.ok.injEq, exists_eq_left', mem_validate_iff hx]
  next e herror =>
    simp only [herror, reduceCtorEq, false_and, exists_false, iff_false]
    split at h
    · cases h
      obtain ⟨source, target, detail, hproblem⟩ := hx
      rintro hmem
      rw [List.mem_singleton.1 hmem] at hproblem
      cases hproblem
    · cases h

theorem reportOf_mem_iff {detail : String} (h : s.entryUnder conflict d = .ok entry)
    (hplan : s.planning.plan d = .ok plan) (hfaces : plan.FacesConflict) :
    reportOf plan detail ∈ entry.diagnostics ↔ detail ∈ conflict := by
  rw [mem_diagnostics_iff h (isReport_reportOf plan detail)]
  simp only [hplan, Except.ok.injEq, exists_eq_left', hfaces, true_and]
  constructor
  · rintro ⟨detail', hdetail', heq⟩
    rwa [reportOf_injective plan heq]
  · exact fun hdetail => ⟨detail, hdetail, rfl⟩

/-- A conflict is reported once. -/
theorem count_diagnostics_le (h : s.entryUnder conflict d = .ok entry) (hx : IsReport x) :
    entry.diagnostics.count x ≤ 1 := by
  by_cases hmem : x ∈ entry.diagnostics
  · obtain ⟨plan, hplan, hfaces, detail, rfl, -⟩ := (mem_diagnostics_iff h hx).1 hmem
    unfold Setting.entryUnder at h
    rw [hplan] at h
    cases h
    rw [validate_of_facesConflict hfaces]
    exact List.count_le_length
  · rw [List.count_eq_zero.2 hmem]
    exact Nat.zero_le 1

end Reports

/-! ### Conflicts under one key -/

/-- Is this a conflict of a directive, in a setting where it has the same key? -/
def Told (s : Setting) (d : Directive) (conflict : Option String) : Prop :=
  ∃ (s' : Setting) (j : Nat), s'.index.directives[j]? = some d ∧ s.key d = s'.key d ∧ conflict = s'.index.conflict j

section Told

variable {s : Setting} {i : Nat} {d : Directive} {conflict : Option String} {detail : String}

/-- A conflict that a directive is told of is its own, unless both are about routines. -/
theorem Told.eq_or (h : Told s d conflict) (hd : s.index.directives[i]? = some d) :
    s.index.conflict i = conflict ∨
      s.index.conflict i = (s.index.firstShared i d).map clashText ∧
        ∀ detail ∈ conflict, ∃ key ∈ s.index.definitions d, detail = clashText key := by
  obtain ⟨s', j, hd', hkey, rfl⟩ := h
  have halike := alike_of_key hkey
  have hdirectives : s.index.directives = s'.index.directives := halike.directives
  rcases conflict_eq_or hdirectives hd hd' with heq | ⟨hown, htold⟩
  · exact .inl heq
  · refine .inr ⟨hown, fun detail hdetail => ?_⟩
    rw [htold, Option.mem_def, Option.map_eq_some_iff] at hdetail
    obtain ⟨key, hkey, rfl⟩ := hdetail
    have hdefinitions : s.index.definitions d = s'.index.definitions d :=
      definitions_congr (halike.get?_eq (.inl source_mem_typeNames))
        (halike.get?_eq (.inl target_mem_typeNames))
    exact ⟨key, hdefinitions ▸ mem_definitions_of_firstShared hkey, rfl⟩

/-- What a faithful cache hands out is the entry of the directive under a conflict it is told of. -/
theorem told_of_yields {settings : Setting → Prop} {entry : Entry}
    (hd : d ∈ s.index.directives) (h : Yields settings (s.key d) entry) :
    ∃ conflict, Told s d conflict ∧ s.entryUnder conflict d = .ok entry := by
  obtain ⟨s', j, d', -, hd', hkey, hentry⟩ := h
  obtain rfl : d' = d := congrArg PlanKey.directive hkey
  refine ⟨s'.index.conflict j, ⟨s', j, hd', hkey.symm, rfl⟩, ?_⟩
  rw [Setting.entryUnder_congr hd hkey.symm]
  exact hentry

end Told

/-! ### Entries that are handed out -/

/-- Entries for all directives of a setting, each under a conflict that its directive is told of. -/
structure Handed (s : Setting) (entries : List (Directive × Entry)) : Prop where
  length_eq : entries.length = s.index.directives.length
  entry_eq : ∀ (i : Nat) d, s.index.directives[i]? = some d →
    ∃ conflict entry, Told s d conflict ∧ s.entryUnder conflict d = .ok entry ∧
      entries[i]? = some (d, entry)

/-- Does the entry at a position hold a diagnostic? -/
def Reports (entries : List (Directive × Entry)) (i : Nat) (x : Diagnostic) : Prop :=
  ∃ p, entries[i]? = some p ∧ x ∈ p.2.diagnostics

/-- Do two lists of entries hold a diagnostic equally often? -/
def AsOften (as bs : List (Directive × Entry)) (x : Diagnostic) : Prop :=
  (as.flatMap (·.2.diagnostics)).count x = (bs.flatMap (·.2.diagnostics)).count x

section Handed

variable {s : Setting} {as bs entries : List (Directive × Entry)} {i j : Nat} {x : Diagnostic}
  {d : Directive}

theorem Handed.exists_directive (h : Handed s entries) {p : Directive × Entry}
    (hp : entries[i]? = some p) : ∃ d, s.index.directives[i]? = some d := by
  have hlt : i < s.index.directives.length := h.length_eq ▸ (List.getElem?_eq_some_iff.1 hp).1
  exact ⟨_, List.getElem?_eq_getElem hlt⟩

theorem Handed.count_le (h : Handed s entries) (hx : IsReport x) :
    ∀ p ∈ entries, p.2.diagnostics.count x ≤ 1 := by
  intro p hp
  obtain ⟨i, hi⟩ := List.mem_iff_getElem?.1 hp
  obtain ⟨d, hd⟩ := h.exists_directive hi
  obtain ⟨conflict, entry, -, hentry, hget⟩ := h.entry_eq i d hd
  rw [hi] at hget
  cases hget
  exact count_diagnostics_le hentry hx

/-- What is reported at a position is the conflict that its directive is told of. -/
theorem Handed.reports_iff (h : Handed s entries) (hd : s.index.directives[i]? = some d) :
    ∃ conflict, Told s d conflict ∧ ∀ x, IsReport x → (Reports entries i x ↔
      ∃ plan, s.planning.plan d = .ok plan ∧ plan.FacesConflict ∧
        ∃ detail ∈ conflict, x = reportOf plan detail) := by
  obtain ⟨conflict, entry, htold, hentry, hget⟩ := h.entry_eq i d hd
  refine ⟨conflict, htold, fun x hx => ?_⟩
  rw [← mem_diagnostics_iff hentry hx]
  simp only [Reports, hget, Option.some.injEq, exists_eq_left']

/-- A report that is gone at one position has come at another one. -/
theorem Handed.exists_come (ha : Handed s as) (hb : Handed s bs) (hx : IsReport x)
    (hoften : AsOften as bs x) (hthere : Reports as i x) (hgone : ¬ Reports bs i x) :
    ∃ j, Reports bs j x ∧ ¬ Reports as j x := by
  obtain ⟨p, hp, hmem⟩ := hthere
  obtain ⟨d, hd⟩ := ha.exists_directive hp
  obtain ⟨-, entry, -, -, hget⟩ := hb.entry_eq i d hd
  have hlen : (as.map (·.2.diagnostics)).length = (bs.map (·.2.diagnostics)).length := by
    rw [List.length_map, List.length_map, ha.length_eq, hb.length_eq]
  have hle : ∀ m ∈ bs.map (·.2.diagnostics), m.count x ≤ 1 :=
    List.forall_mem_map.2 (hb.count_le hx)
  have hi : (as.map (·.2.diagnostics))[i]? = some p.2.diagnostics := by
    rw [List.getElem?_map, hp, Option.map_some]
  have hi' : (bs.map (·.2.diagnostics))[i]? = some entry.diagnostics := by
    rw [List.getElem?_map, hget, Option.map_some]
  rw [AsOften, List.flatMap_def, List.flatMap_def] at hoften
  obtain ⟨j, m, m', hm, hm', hnot, hcome⟩ :=
    exists_gained hlen hoften hle hi hi' hmem fun hmem => hgone ⟨_, hget, hmem⟩
  rw [List.getElem?_map, Option.map_eq_some_iff] at hm hm'
  obtain ⟨q, hq, rfl⟩ := hm
  obtain ⟨q', hq', rfl⟩ := hm'
  refine ⟨j, ⟨q', hq', hcome⟩, ?_⟩
  rintro ⟨q'', hq'', hmem⟩
  rw [hq] at hq''
  cases hq''
  exact hnot hmem

/-! ### The entries of a run -/

theorem length_entriesFrom {position : Nat} {ds : List Directive}
    (h : s.entriesFrom position ds = .ok entries) : entries.length = ds.length := by
  induction ds generalizing position entries with
  | nil =>
    cases h
    rfl
  | cons d ds ih =>
    obtain ⟨entry, rest, -, hrest, rfl⟩ := entriesFrom_cons.1 h
    rw [List.length_cons, List.length_cons, ih hrest]

/-- The entries that planning yields are under the conflicts of the setting itself. -/
theorem handed_of_entriesFrom (h : s.entriesFrom 0 s.index.directives = .ok entries) :
    Handed s entries := by
  refine ⟨length_entriesFrom h, fun i d hd => ?_⟩
  obtain ⟨entry, hentry, hget⟩ := getElem?_entriesFrom h hd
  rw [Nat.zero_add] at hentry
  exact ⟨s.index.conflict i, entry, ⟨s, i, hd, rfl, rfl⟩, hentry, hget⟩

theorem getElem?_entriesIn {settings : Setting → Prop} (hs : settings s) {position : Nat}
    {ds : List Directive} (hds : s.Placed position ds) {cache : Cache}
    (hcache : Faithful settings cache) (h : (s.entriesIn position ds cache).1 = .ok entries) :
    entries.length = ds.length ∧ ∀ (i : Nat) d, ds[i]? = some d →
      ∃ entry, entries[i]? = some (d, entry) ∧ Yields settings (s.key d) entry := by
  induction ds generalizing position cache entries with
  | nil =>
    cases h
    exact ⟨rfl, fun i d hd => by simp at hd⟩
  | cons d ds ih =>
    obtain ⟨entry, rest, hentry, hrest, rfl⟩ := entriesIn_cons.1 h
    obtain ⟨hcache', hyields⟩ := faithful_entryIn hs hds.head hcache
    obtain ⟨hlen, hget⟩ := ih hds.tail hcache' hrest
    refine ⟨by rw [List.length_cons, List.length_cons, hlen], fun i e hi => ?_⟩
    cases i with
    | zero =>
      cases hi
      exact ⟨entry, rfl, hyields entry hentry⟩
    | succ i => exact hget i e hi

/-- What a pass is handed from a faithful cache. -/
theorem handed_of_entriesIn {settings : Setting → Prop} (hs : settings s) {cache : Cache}
    (hcache : Faithful settings cache)
    (h : (s.entriesIn 0 s.index.directives cache).1 = .ok entries) : Handed s entries := by
  obtain ⟨hlen, hget⟩ := getElem?_entriesIn hs Setting.placed_directives hcache h
  refine ⟨hlen, fun i d hd => ?_⟩
  obtain ⟨entry, hentry, hyields⟩ := hget i d hd
  obtain ⟨conflict, htold, hunder⟩ := told_of_yields (List.mem_of_getElem? hd) hyields
  exact ⟨conflict, entry, htold, hunder, hentry⟩

/-! ### No report is made up for -/

variable {own handed : List (Directive × Entry)} {plan : Plan} {key : String × String}

theorem simpleNames_of_plan (hd : d ∈ s.index.directives) (hplan : s.planning.plan d = .ok plan) :
    s.index.simpleName d.source = plan.source.name ∧
      s.index.simpleName d.target = plan.target.name := by
  obtain ⟨source, target, hof⟩ := plan_eq_ok hd hplan
  rw [hof.source_eq, hof.target_eq]
  exact ⟨simpleName_of_get? hof.hs, simpleName_of_get? hof.ht⟩

theorem reports_own_iff (hown : s.entriesFrom 0 s.index.directives = .ok own)
    (hd : s.index.directives[i]? = some d) (hx : IsReport x) :
    Reports own i x ↔ ∃ plan, s.planning.plan d = .ok plan ∧ plan.FacesConflict ∧
      ∃ detail ∈ s.index.conflict i, x = reportOf plan detail := by
  obtain ⟨entry, hentry, hget⟩ := getElem?_entriesFrom hown hd
  rw [Nat.zero_add] at hentry
  rw [← mem_diagnostics_iff hentry hx]
  simp only [Reports, hget, Option.some.injEq, exists_eq_left']

/-- Is a report over a definition gone at a position, the least one that its directive shares? -/
def Gone (s : Setting) (own handed : List (Directive × Entry)) (i : Nat)
    (key : String × String) : Prop :=
  ∃ d plan, s.index.directives[i]? = some d ∧ s.planning.plan d = .ok plan ∧
    s.index.firstShared i d = some key ∧ Reports own i (reportOf plan (clashText key)) ∧
      ¬ Reports handed i (reportOf plan (clashText key))

/-- A report that is gone is over a definition. -/
theorem exists_gone (hown : s.entriesFrom 0 s.index.directives = .ok own)
    (hhanded : Handed s handed) (hx : IsReport x) (hthere : Reports own i x)
    (hgone : ¬ Reports handed i x) : ∃ key, Gone s own handed i key := by
  obtain ⟨d, hd⟩ := (handed_of_entriesFrom hown).exists_directive hthere.choose_spec.1
  obtain ⟨plan, hplan, hfaces, detail, hdetail, rfl⟩ := (reports_own_iff hown hd hx).1 hthere
  obtain ⟨conflict, htold, hiff⟩ := hhanded.reports_iff hd
  rcases htold.eq_or hd with heq | ⟨hroutine, -⟩
  · exact absurd ((hiff _ hx).2 ⟨plan, hplan, hfaces, detail, heq ▸ hdetail, rfl⟩) hgone
  · rw [hroutine, Option.mem_def, Option.map_eq_some_iff] at hdetail
    obtain ⟨key, hkey, rfl⟩ := hdetail
    exact ⟨key, d, plan, hd, hplan, hkey, hthere, hgone⟩

/-- **Where a report has come**, one over a smaller definition is gone. -/
theorem Gone.descend (hown : s.entriesFrom 0 s.index.directives = .ok own)
    (hhanded : Handed s handed) (hd : s.index.directives[i]? = some d)
    (hplan : s.planning.plan d = .ok plan) (hkey : key ∈ s.index.definitions d)
    (hthere : Reports own i (reportOf plan (clashText key)))
    (hcome : Reports handed j (reportOf plan (clashText key)))
    (hnot : ¬ Reports own j (reportOf plan (clashText key))) :
    ∃ key', Gone s own handed j key' ∧ toLex key' < toLex key := by
  have hx := isReport_reportOf plan (clashText key)
  obtain ⟨e, he⟩ := hhanded.exists_directive hcome.choose_spec.1
  obtain ⟨conflict, htold, hiff⟩ := hhanded.reports_iff he
  obtain ⟨plan', hplan', hfaces, detail, hdetail, hreport⟩ := (hiff _ hx).1 hcome
  rcases htold.eq_or he with heq | ⟨hroutine, hover⟩
  · exact absurd ((reports_own_iff hown he hx).2
      ⟨plan', hplan', hfaces, detail, heq ▸ hdetail, hreport⟩) hnot
  obtain ⟨key', hkey', rfl⟩ := hover detail hdetail
  -- both directives map types of the same names, so the report is over one definition of both
  have hnames := simpleNames_of_plan (List.mem_of_getElem? hd) hplan
  have hnames' := simpleNames_of_plan (List.mem_of_getElem? he) hplan'
  have hparts := congrArg Diagnostic.problem hreport
  simp only [reportOf, Problem.duplicateDirective.injEq] at hparts
  obtain ⟨hsource, htarget, htext⟩ := hparts
  obtain rfl : key = key' := eq_of_clashText (by rw [hnames.1, hnames'.1, hsource])
    (by rw [hnames.2, hnames'.2, htarget]) hkey hkey' htext
  have hij : i ≠ j := by
    rintro rfl
    exact hnot hthere
  obtain ⟨least, hleast, hle⟩ := firstShared_le hd hij hkey' hkey
  have hown' : Reports own j (reportOf plan' (clashText least)) := by
    refine (reports_own_iff hown he (isReport_reportOf _ _)).2 ⟨plan', hplan', hfaces, _, ?_, rfl⟩
    rw [hroutine, hleast]
    rfl
  refine ⟨least, ⟨e, plan', he, hplan', hleast, hown', fun hhanded' => hnot ?_⟩, ?_⟩
  · obtain ⟨plan'', hplan'', -, detail, hdetail', hreport'⟩ :=
      (hiff _ (isReport_reportOf _ _)).1 hhanded'
    obtain rfl : plan' = plan'' := Except.ok.inj (hplan'.symm.trans hplan'')
    obtain rfl : clashText key = detail := Option.some.inj (hdetail.symm.trans hdetail')
    rw [hreport, ← hreport']
    exact hown'
  · refine lt_of_le_of_ne hle fun heq => hnot ?_
    rw [hreport, ← toLex_inj.1 heq]
    exact hown'

section Equal

variable (hown : s.entriesFrom 0 s.index.directives = .ok own) (hhanded : Handed s handed)
  (hoften : ∀ x, IsReport x → AsOften own handed x)
include hown hhanded hoften

/-- No report is gone: of those that are, there would be one over a least definition. -/
theorem not_gone : ¬ Gone s own handed i key := by
  intro hgone
  let keys : Set (String × String) := {key | ∃ i, Gone s own handed i key}
  have hfinite : keys.Finite := by
    refine (List.finite_toSet (s.index.directives.flatMap s.index.definitions)).subset ?_
    rintro key ⟨i, d, plan, hd, -, hkey, -⟩
    exact List.mem_flatMap.2 ⟨d, List.mem_of_getElem? hd, mem_definitions_of_firstShared hkey⟩
  obtain ⟨least, ⟨k, d, plan, hd, hplan, hkey, hthere, hmissing⟩, hleast⟩ :=
    Set.exists_min_image keys toLex hfinite ⟨key, i, hgone⟩
  have hx := isReport_reportOf plan (clashText least)
  obtain ⟨j, hcome, hnot⟩ :=
    (handed_of_entriesFrom hown).exists_come hhanded hx (hoften _ hx) hthere hmissing
  obtain ⟨smaller, hsmaller, hlt⟩ := Gone.descend hown hhanded hd hplan
    (mem_definitions_of_firstShared hkey) hthere hcome hnot
  exact absurd (hleast smaller ⟨j, hsmaller⟩) (not_le_of_gt hlt)

theorem reports_iff (hx : IsReport x) : Reports own i x ↔ Reports handed i x := by
  have hstays : ∀ i, Reports own i x → Reports handed i x := by
    intro i hthere
    by_contra hmissing
    obtain ⟨key, hgone⟩ := exists_gone hown hhanded hx hthere hmissing
    exact not_gone hown hhanded hoften hgone
  refine ⟨hstays i, fun hthere => ?_⟩
  by_contra hmissing
  obtain ⟨j, hcome, hnot⟩ :=
    hhanded.exists_come (handed_of_entriesFrom hown) hx (hoften x hx).symm hthere hmissing
  exact hnot (hstays j hcome)

/-- **Stale entries show**: entries that are handed out are those that planning yields, if both
report every conflict equally often. -/
theorem eq_of_asOften : own = handed := by
  refine List.ext_getElem? fun i => ?_
  cases hd : s.index.directives[i]? with
  | none =>
    have hlen := List.getElem?_eq_none_iff.1 hd
    rw [List.getElem?_eq_none ((length_entriesFrom hown).trans_le hlen),
      List.getElem?_eq_none (hhanded.length_eq.trans_le hlen)]
  | some d =>
    obtain ⟨entry, hentry, hget⟩ := getElem?_entriesFrom hown hd
    obtain ⟨conflict, entry', -, hentry', hget'⟩ := hhanded.entry_eq i d hd
    rw [Nat.zero_add] at hentry
    have hreports : ∀ x, IsReport x → (x ∈ entry.diagnostics ↔ x ∈ entry'.diagnostics) := by
      intro x hx
      have hiff : Reports own i x ↔ Reports handed i x := reports_iff hown hhanded hoften hx
      simpa only [Reports, hget, hget', Option.some.injEq, exists_eq_left'] using hiff
    have hunder : s.entryUnder (s.index.conflict i) d = s.entryUnder conflict d := by
      refine Setting.entryUnder_eq_iff.2 (or_iff_not_imp_right.2 fun hmasks => ?_)
      simp only [Setting.Masks, not_forall, not_not] at hmasks
      obtain ⟨plan, hplan, hfaces⟩ := hmasks
      refine Option.ext fun detail => ?_
      rw [← Option.mem_def, ← Option.mem_def, ← reportOf_mem_iff hentry hplan hfaces,
        ← reportOf_mem_iff hentry' hplan hfaces]
      exact hreports _ (isReport_reportOf plan detail)
    have heq : entry = entry' := Except.ok.inj (hentry.symm.trans (hunder.trans hentry'))
    rw [hget, hget', heq]

end Equal

end Handed

/-! ### Results -/

section Results

variable {config : Config} {g : TypeGraph} {own handed : List (Directive × Entry)} {r : PassResult}
  {x : Diagnostic}

theorem not_isReport_of_withheld {steps : Nat} {valid : List ValidPlan}
    (h : x ∈ (withholdWithin steps valid).2) : ¬ IsReport x := by
  induction steps generalizing valid with
  | zero => cases h
  | succ steps ih =>
    unfold withholdWithin at h
    split at h
    · cases h
    next i v name _ =>
      rcases List.mem_cons.1 h with rfl | h
      · rintro ⟨source, target, detail, hproblem⟩
        cases hproblem
      · exact ih h

theorem count_of_finish (hx : IsReport x) (h : finish config g own = .ok r) :
    r.diagnostics.count x = (Directive.Resolution.ofGraph g).diagnostics.count x +
      (own.flatMap (·.2.diagnostics)).count x := by
  obtain ⟨kept, withheld, hwithhold, -, -, hdiagnostics⟩ := finish_eq_ok h
  have hnone : withheld.count x = 0 := by
    refine List.count_eq_zero.2 fun hmem => ?_
    have hwithheld : x ∈ (withhold (validPlans own)).2 := hwithhold ▸ hmem
    exact not_isReport_of_withheld hwithheld hx
  have hsort := Text.sortBy_perm Diagnostic.le ((Directive.Resolution.ofGraph g).diagnostics ++
    own.flatMap (·.2.diagnostics) ++ withheld)
  rw [hdiagnostics, Diagnostic.sort, hsort.count_eq, List.count_append, List.count_append, hnone,
    Nat.add_zero]

/-- **A result tells the entries that it is made of**, as far as they differ in what is stale. -/
theorem eq_of_finish (hown : (settingOf config g).entriesFrom 0
      (settingOf config g).index.directives = .ok own)
    (hhanded : Handed (settingOf config g) handed) (h : finish config g own = .ok r)
    (h' : finish config g handed = .ok r) : own = handed :=
  eq_of_asOften hown hhanded fun _ hx =>
    Nat.add_left_cancel ((count_of_finish hx h).symm.trans (count_of_finish hx h'))

end Results

end Mapsmith.Generation
