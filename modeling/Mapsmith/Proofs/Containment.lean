import Mapsmith.Proofs.Discovery
import Mapsmith.Proofs.Renderable
import Mapsmith.Proofs.Termination
import Mapsmith.Proofs.Withholding
import Mathlib.Logic.Relation

/-!
# Errors stay with their directives

What goes wrong with one directive is reported there, and the plans of all others are kept as long as
they do not call anything of it. Over types that are read from a program this holds of everything up
to the text of the units: planning only comes to errors that are reported
(`Mapsmith.Planning.exists_failure`), and withholding takes away exactly the plans that are stranded
(`Mapsmith.Generation.Stranded`), which call a routine that nobody defines, or only other stranded
plans. From there every plan that is withheld leads to a directive without a valid plan, or to a
promise that nobody keeps. Rendering is different: the name of one enum value that is no identifier
ends the whole pass (`Mapsmith.Generation.contained`).

Planning looks up types by names, compares the types of members, and asks the index for routines, and
any of this could fail. Over a graph whose types are complete and that knows whatever its members name,
none of it does, at whatever depth of members and collections
(`Mapsmith.Planning.exists_plan_or_repeats`): the plan of a directive whose own types are known comes
to an end, and every conversion in it makes values of the type that it is for, unless a derived pair of
the directive starts from its source. The graph of a program is of this kind as long as its classes keep
their names while it is read (`Mapsmith.Planning.progress`). A class that is renamed meanwhile is
described under its new name, but still known by the old one where it is a member, and planning that
member ends with the error that there is no such type.
-/

namespace Mapsmith

open Matching

theorem Program.complete_of_isRead {g : TypeGraph} (h : Program.IsRead g) : g.Complete :=
  fun _ ht => (Program.orderly_of_isRead h ht).complete

namespace Planning

variable {p : Planning} {d : Directive} {e : PlanningError}

/-- Complete types can be compared, so no collection is found to miss its element type. -/
theorem foreign_missingElement {g : TypeGraph} (hg : g.Complete) : Foreign g .missingElement := by
  refine foreign_of_failure rfl fun s hs a ha t ht b hb h => ?_
  obtain ⟨need, hneed, -⟩ := exists_sound (g := g) (hg s hs a ha) (hg t ht b hb)
  rw [hneed] at h
  cases h

/-- **An error of planning can be reported** if the types of members are complete. -/
theorem exists_failure (hg : p.graph.Complete) (h : p.plan d = .error e) :
    ∃ failure, e.failure? = some failure := by
  cases e with
  | typeNotFound name => exact ⟨_, rfl⟩
  | repeatedBase directive => exact ⟨_, rfl⟩
  | missingElement => exact absurd h (plan_ne (foreign_missingElement hg) rfl d)
  | tooDeep => exact absurd h (plan_ne_tooDeep d)

end Planning

namespace Generation

open Emission Planning Program

/-! ### Entries -/

section Entries

variable {s : Setting} {d : Directive} {e : PlanningError} {conflict : Option String}

/-- A directive that cannot be planned has an entry without a plan, which says why. -/
theorem entryUnder_of_error {location : Location} {failure : Failure}
    (h : s.planning.plan d = .error e) (hfailure : e.failure? = some failure)
    (hlocation : d.location = some location) :
    s.entryUnder conflict d = .ok ⟨none, [Setting.planFailed d location failure.message]⟩ := by
  simp only [Setting.entryUnder, h, hfailure, hlocation, Option.getD_some]

theorem exists_entry (hg : s.planning.graph.Complete) (position : Nat) (d : Directive) :
    ∃ entry, s.entry position d = .ok entry := by
  rw [Setting.entry_eq]
  unfold Setting.entryUnder
  cases h : s.planning.plan d with
  | ok plan => exact ⟨_, rfl⟩
  | error e =>
    obtain ⟨failure, hfailure⟩ := exists_failure hg h
    simp only [hfailure]
    exact ⟨_, rfl⟩

/-- A pass is handed an entry for every directive. -/
theorem exists_entriesIn (hg : s.planning.graph.Complete) (position : Nat) (ds : List Directive)
    (cache : Cache) : ∃ entries, (s.entriesIn position ds cache).1 = .ok entries := by
  induction ds generalizing position cache with
  | nil => exact ⟨[], rfl⟩
  | cons d ds ih =>
    have hfound : ∃ entry cache', s.entryIn position d cache = (.ok entry, cache') := by
      rcases s.entryIn_cases position d cache with
        ⟨entry, -, hin⟩ | ⟨-, ⟨e, herror, -⟩ | ⟨entry, -, hin⟩⟩
      · exact ⟨_, _, hin⟩
      · obtain ⟨entry, hentry⟩ := exists_entry hg position d
        rw [hentry] at herror
        cases herror
      · exact ⟨_, _, hin⟩
    obtain ⟨entry, cache', hin⟩ := hfound
    obtain ⟨rest, hrest⟩ := ih (position + 1) cache'
    rw [Setting.entriesIn_of_ok hin, hrest]
    exact ⟨_, rfl⟩

end Entries

/-! ### What a stranded plan relies on -/

section Relying

variable {s : Setting} {d e : Directive} {plan : Plan} {r : RoutineRef} {conflict : Option String}
  {valid : List ValidPlan} {v : ValidPlan}

/-- Does the plan of a directive call a routine that the index has from another directive? -/
def Relies (s : Setting) (d e : Directive) : Prop :=
  ∃ plan r, s.planning.plan d = .ok plan ∧ plan.Reaches r ∧ s.index.Answers r.source r.target e

/-- Does the plan of a directive call a routine that is promised in vain? -/
def Misled (s : Setting) (d : Directive) : Prop :=
  ∃ plan r, s.planning.plan d = .ok plan ∧ plan.Reaches r ∧ Broken s r

/-- A plan without errors reaches what it refers to. -/
theorem Passed.reaches (h : Passed s conflict d plan) (hr : r ∈ publicCalls plan) :
    plan.Reaches r := by
  obtain ⟨source, target, hplan⟩ := h.planOf
  obtain ⟨m, hm, hcalls⟩ := mem_publicCalls_iff.1 hr
  rcases hcalls with ⟨hpublic, hcall⟩ | ⟨entry, hentry, rfl⟩
  · exact ⟨hpublic, m, hm, .inl hcall⟩
  · obtain ⟨-, -, entries, hentries, hmem⟩ := dispatch_of_parts hplan hm hentry
    have hroutine := (routineFor_of_dispatch hentries hmem).1
    exact ⟨DirectiveIndex.helper_of_routineFor hroutine, m, hm, .inr ⟨entry, hentry, rfl⟩⟩

/-- A plan without errors defines what it provides. -/
theorem Passed.defines (h : Passed s conflict d plan) (hprovides : plan.Provides r) :
    Defines plan r := by
  obtain ⟨m, hm, hname, hhome, -, -⟩ := hprovides
  exact ⟨m, hm, (h.routine_home_eq hm).symm.trans hhome, hname⟩

/-- **A stranded plan relies on a directive without a valid plan, or on a promise made in vain.** -/
theorem exists_relies_of_stranded
    (hvalid : ∀ w ∈ valid, ∃ conflict, Passed s conflict w.directive w.plan)
    (h : Stranded valid v) (hv : v ∈ valid) :
    ∃ e, Relation.ReflTransGen (Relies s) v.directive e ∧
      ((∀ w ∈ valid, w.directive ≠ e) ∨ Misled s e) := by
  induction h with
  | @mk v r hr _ ih =>
    obtain ⟨conflict, hpassed⟩ := hvalid v hv
    have hreaches := hpassed.reaches hr
    obtain ⟨hroutine, -⟩ := hpassed.justified hreaches
    obtain ⟨e, hanswers, href⟩ := DirectiveIndex.routineFor_eq_some.1 hroutine
    have hrelies : Relies s v.directive e := ⟨v.plan, r, hpassed.planned, hreaches, hanswers⟩
    by_cases hbroken : Broken s r
    · exact ⟨v.directive, .refl, .inr ⟨v.plan, r, hpassed.planned, hreaches, hbroken⟩⟩
    by_cases hnone : ∀ w ∈ valid, w.directive ≠ e
    · exact ⟨e, .single hrelies, .inl hnone⟩
    -- the directive behind the routine has a valid plan, which provides it and so is stranded
    · push Not at hnone
      obtain ⟨w, hw, rfl⟩ := hnone
      obtain ⟨conflict', hpassed'⟩ := hvalid w hw
      have hdefines := hpassed'.defines (hpassed'.provides hanswers href hbroken)
      obtain ⟨e, hpath, hend⟩ := ih w hw hdefines hw
      exact ⟨e, .head hrelies hpath, hend⟩

end Relying

/-! ### Passes -/

variable {config : Config} {g : TypeGraph} {cache : Cache} {r : PassResult}

/-- **What is kept of the plans without errors.** A plan goes only if it is stranded, and then it relies,
however far, on a directive without a valid plan or on a promise made in vain. -/
structure Spared (s : Setting) (valid kept : List ValidPlan) : Prop where
  sublist : kept.Sublist valid
  mem_iff : ∀ v ∈ valid, v ∈ kept ↔ ¬ Stranded valid v
  relies : ∀ v ∈ valid, v ∉ kept → ∃ e, Relation.ReflTransGen (Relies s) v.directive e ∧
    ((∀ w ∈ valid, w.directive ≠ e) ∨ Misled s e)

/-- **Is what goes wrong with single directives contained** in the result of a pass? The plans that are
kept are there with the text they come to, every error of planning is reported with its directive, and so is every directive that
has no plan. -/
structure Contained (s : Setting) (kept : List ValidPlan) (r : PassResult) : Prop where
  plans : r.plans = kept.map (·.plan)
  units : generateUnits s.config (some s.index.graph) r.plans = .ok r.units
  failed : ∀ d ∈ s.index.directives, ∀ e, s.planning.plan d = .error e →
    ∃ failure location, e.failure? = some failure ∧ d.location = some location ∧
      Setting.planFailed d location failure.message ∈ r.diagnostics
  told : ∀ d ∈ s.index.directives, (∀ p ∈ r.plans, p.directive ≠ d) →
    ∃ x ∈ r.diagnostics, x.isError = true ∧ d.location = some x.location

/-- The plans without errors among entries that are handed out. -/
theorem accepted_of_mem_validPlans {s : Setting} {entries : List (Directive × Entry)}
    (h : Handed s entries) {v : ValidPlan} (hv : v ∈ validPlans entries) :
    Accepted s v.directive v.plan := by
  obtain ⟨⟨d, entry⟩, hmem, hvalid⟩ := List.mem_filterMap.1 hv
  obtain ⟨d', -, hd, conflict, htold, rfl, hentry⟩ := Steps.exists_of_mem_right h.forall₂ hmem
  simp only at hvalid
  split at hvalid
  · cases hvalid
  next hfree =>
    obtain ⟨plan, hplan, haccepted⟩ :=
      accepted_of_entryUnder hd htold hentry (Bool.eq_false_iff.2 hfree)
    rw [hplan] at hvalid
    cases hvalid
    exact haccepted

theorem spared_of_withhold {s : Setting} {entries : List (Directive × Entry)} {kept : List ValidPlan}
    {ds : List Diagnostic} (hhanded : Handed s entries)
    (h : withhold (validPlans entries) = (kept, ds)) : Spared s (validPlans entries) kept := by
  have hpassed : ∀ w ∈ validPlans entries, ∃ conflict, Passed s conflict w.directive w.plan :=
    fun w hw => ⟨none, (accepted_of_mem_validPlans hhanded hw).passed⟩
  refine ⟨sublist_of_withholdWithin h, fun v hv => mem_withhold_iff h hv, fun v hv hgone => ?_⟩
  have hstranded : Stranded (validPlans entries) v :=
    not_not.1 fun hnot => hgone ((mem_withhold_iff h hv).2 hnot)
  exact exists_relies_of_stranded hpassed hstranded hv

theorem contained_of_finish {entries : List (Directive × Entry)} {kept : List ValidPlan}
    {ds : List Diagnostic} (hg : (settingOf config g).planning.graph.Complete) (hcache : Used cache)
    (hhanded : Handed (settingOf config g) entries)
    (hwithhold : withhold (validPlans entries) = (kept, ds))
    (hrun : (runPass config g cache).1 = .ok r) (h : finish config g entries = .ok r) :
    Contained (settingOf config g) kept r := by
  obtain ⟨kept', ds', hwithhold', hplans, hunits, hdiagnostics⟩ := finish_eq_ok h
  rw [hwithhold] at hwithhold'
  cases hwithhold'
  refine ⟨hplans, hunits, fun d hd e he => ?_, fun d hd => exists_error_of_absent hcache hrun hd⟩
  obtain ⟨failure, hfailure⟩ := exists_failure hg he
  obtain ⟨location, hlocation⟩ := Option.isSome_iff_exists.1 (isSome_location hd)
  obtain ⟨i, hi⟩ := List.mem_iff_getElem?.1 hd
  obtain ⟨conflict, entry, -, hentry, hget⟩ := hhanded.entry_eq i d hi
  rw [entryUnder_of_error he hfailure hlocation] at hentry
  cases hentry
  refine ⟨failure, location, hfailure, hlocation, ?_⟩
  rw [hdiagnostics, Diagnostic.sort, Text.mem_sortBy]
  refine List.mem_append_left _ (List.mem_append_right _ (List.mem_flatMap.2 ?_))
  exact ⟨_, List.mem_of_getElem? hget, List.mem_singleton_self _⟩

/-- **Errors are contained, but for the names of enum values.** A pass over types that are read from a
program withholds the stranded ones among its plans without errors, and no others. Then it reports
whatever goes wrong with single directives and generates the rest, or it ends without a result: for
the name of an enum value that is no identifier, exactly if a unit of the rest refers to one. -/
theorem contained (hg : IsRead g) (hcache : Used cache) :
    ∃ entries kept, Handed (settingOf config g) entries ∧
      Spared (settingOf config g) (validPlans entries) kept ∧
      (((∃ r, (runPass config g cache).1 = .ok r ∧ Contained (settingOf config g) kept r) ∧
          ∀ name, ¬ Misnamed (kept.map (·.plan)) name) ∨
        ∃ name, (runPass config g cache).1 = .error (.emission (.badEnumValue name)) ∧
          Misnamed (kept.map (·.plan)) name) := by
  have hcomplete := complete_of_isRead hg
  obtain ⟨entries, hentries⟩ := exists_entriesIn (s := settingOf config g) hcomplete 0
    (settingOf config g).index.directives cache
  have hhanded := handed_of_entriesIn trivial hcache.faithful hentries
  have hrun : (runPass config g cache).1 = finish config g entries := by
    rw [(runPass_eq config g cache).1, hentries]
    rfl
  rcases hwithhold : withhold (validPlans entries) with ⟨kept, ds⟩
  have hspared := spared_of_withhold hhanded hwithhold
  have hrenderable : ∀ p ∈ kept.map (·.plan), p.Renderable g := by
    intro p hp
    obtain ⟨v, hv, rfl⟩ := List.mem_map.1 hp
    have haccepted := accepted_of_mem_validPlans hhanded (hspared.sublist.subset hv)
    exact haccepted.passed.renderable hcomplete
  refine ⟨entries, kept, hhanded, hspared, ?_⟩
  rcases generateUnits_cases config hrenderable with ⟨⟨units, hunits⟩, hnamed⟩ | ⟨name, hunits, hmisnamed⟩
  · have hfinish : ∃ r, finish config g entries = .ok r := by
      unfold finish
      simp only [hwithhold, hunits]
      exact ⟨_, rfl⟩
    obtain ⟨r, hfinish⟩ := hfinish
    have hresult := hrun.trans hfinish
    exact .inl ⟨⟨r, hresult,
      contained_of_finish hcomplete hcache hhanded hwithhold hresult hfinish⟩, hnamed⟩
  · refine .inr ⟨name, ?_, hmisnamed⟩
    rw [hrun]
    unfold finish
    simp only [hwithhold, hunits]

/-- A post office with parcels, letters and the states of both. The state goes by a given name; letters
are declared to be derived from themselves, which cannot be planned. -/
def post (state : String) : Memory :=
  let record (module path : String) (index : Nat) : ClassObject :=
    { module, path, line := [.program index, .library (.builtin "object")], isProtocol := some false
      dataclass := some { fields := [], frozen := false, nodup := List.nodup_nil } }
  let choice (module path : String) (index : Nat) : ClassObject :=
    { module, path, line := [.program index, .library (.builtin "object")], isProtocol := some false
      metaclass := .enum, values := [(state, .constant (.int 1))] }
  let mapped (c : ClassObject) (target : String) (derived : List DerivedPair) : ClassObject :=
    { c with declared := { directives := [{ source := c.qualifiedName, target }], derived } }
  let named (index : Nat) : List (String × Object) :=
    [("Parcel", .cls (.program index)), ("Letter", .cls (.program (index + 1))),
      ("State", .cls (.program (index + 2)))]
  { classes := [
      mapped (record "post" "Parcel" 0) "dto.Parcel" [],
      mapped (record "post" "Letter" 1) "dto.Letter" [⟨"post.Letter", "dto.Letter"⟩],
      mapped (choice "post" "State" 2) "dto.State" [],
      record "dto" "Parcel" 3, record "dto" "Letter" 4, choice "dto" "State" 5]
    modules := [{ name := "post", names := named 0 }, { name := "dto", names := named 3 }]
    registry := [("post", 0), ("dto", 1)]
    typeVariables := [] }

/-- All classes of a post office. -/
def posted : List Object :=
  (List.range 6).map fun i => .cls (.program i)

theorem contained_post : ∃ g r kept, IsRead g ∧ (runPass {} g { capacity := 0 }).1 = .ok r ∧
    r.plans.map (·.directive.source) = ["post.Parcel", "post.State"] ∧
    r.diagnostics.map (·.problem.id) = ["MAP099"] ∧ Contained (settingOf {} g) kept r := by
  obtain ⟨g, hg, hpass⟩ :
      ∃ g, (Read.graphOf posted { memory := post "SENT" }).1 = .ok g ∧
        ((runPass {} g { capacity := 0 }).1.toOption.any fun r =>
          decide (r.plans.map (·.directive.source) = ["post.Parcel", "post.State"] ∧
            r.diagnostics.map (·.problem.id) = ["MAP099"])) = true :=
    Steps.exists_of_any (by decide +kernel)
  obtain ⟨r, hr, hplans, hids⟩ := Steps.exists_of_any hpass
  have hread : IsRead g := ⟨_, _, rfl, hg⟩
  obtain ⟨entries, kept, -, -, hend⟩ := @contained {} g _ hread (.new 0)
  rcases hend with ⟨⟨r', hr', hcontained⟩, -⟩ | ⟨name, herror, -⟩
  · rw [hr] at hr'
    cases hr'
    exact ⟨g, r, kept, hread, hr, hplans, hids, hcontained⟩
  · rw [hr] at herror
    cases herror

/-- One state whose name is no identifier takes the plans of all others with it. -/
theorem not_contained_post : ∃ g, IsRead g ∧
    generate {} g = .error (.emission (.badEnumValue "in transit")) ∧
    ∃ d ∈ (settingOf {} g).index.directives, d.source = "post.Parcel" ∧
      ∃ entry, (settingOf {} g).entryUnder none d = .ok entry ∧
        entry.diagnostics = [] ∧ entry.plan.map publicCalls = some [] := by
  obtain ⟨g, hg, herror, d, hd, hsource, hentry⟩ :
      ∃ g, (Read.graphOf posted { memory := post "in transit" }).1 = .ok g ∧
        generate {} g = .error (.emission (.badEnumValue "in transit")) ∧
        ∃ d ∈ (settingOf {} g).index.directives, d.source = "post.Parcel" ∧
          ((settingOf {} g).entryUnder none d).toOption.any (fun entry =>
            decide (entry.diagnostics = [] ∧ entry.plan.map publicCalls = some [])) = true :=
    Steps.exists_of_any (by decide +kernel)
  exact ⟨g, ⟨_, _, rfl, hg⟩, herror, d, hd, hsource, Steps.exists_of_any hentry⟩

end Generation

/-! ### Planning gets somewhere -/

open Program

/-- Does a graph know the enums and objects that its members name? -/
def TypeGraph.KnowsNamed (g : TypeGraph) : Prop :=
  ∀ t ∈ g.types, ∀ m ∈ t.members, ∀ q : TypeRef, q.Part m.type →
    q.kind = .enum ∨ q.kind = .object → g.has q.name = true

/-- **Can every conversion of a plan be rendered?** In every part of the plan, each correspondence makes
values of the type of its target member, at every depth of collections. -/
def Plan.Makes (plan : Plan) : Prop :=
  ∀ o : ObjectMapping, .object o ∈ plan.parts → ∀ c ∈ o.mappings ++ o.projection,
    c.conversion.Makes c.targetType

namespace Planning

variable {p : Planning} {d : Directive} {plan : Plan} {e : PlanningError} {g : TypeGraph}

/-- Every error is foreign to planning over such a graph. -/
theorem foreign_of_knowsNamed (hg : g.Complete) (hknows : g.KnowsNamed) : Foreign g e := by
  refine ⟨fun s hs a ha t ht b hb h => ?_, fun t ht m hm q hq hkind => .inl (hknows t ht m hm q hq hkind)⟩
  obtain ⟨need, hneed, -⟩ := exists_sound (g := g) (hg s hs a ha) (hg t ht b hb)
  rw [hneed] at h
  cases h

theorem makes_of_plan (hg : p.graph.Complete) (hd : d ∈ p.index.directives) (h : p.plan d = .ok plan) :
    plan.Makes := by
  intro o ho c hc
  obtain ⟨source, target, hplan⟩ := plan_eq_ok hd h
  have hplanned := hplan.isPlanned ho
  have hmem : c ∈ o.mappings := (List.mem_append.1 hc).elim id fun hc => hplanned.projection hc
  exact hplanned.makes hg hmem

/-- **Planning comes to a plan, or finds a derived pair that starts from the base.** -/
theorem exists_plan_or_repeats (hg : p.graph.Complete) (hknows : p.graph.KnowsNamed)
    (hd : d ∈ p.index.directives) (hs : p.graph.has d.source = true) (ht : p.graph.has d.target = true) :
    (∃ plan, p.plan d = .ok plan ∧ plan.Makes) ∨
      p.plan d = .error (.repeatedBase d.describe) ∧ ∃ pair ∈ d.derived, pair.source = d.source := by
  cases h : p.plan d with
  | ok plan => exact .inl ⟨plan, rfl, makes_of_plan hg hd h⟩
  | error e =>
    obtain ⟨rfl, hpair⟩ := repeats_of_plan (foreign_of_knowsNamed hg hknows) (.inl hs) (.inl ht) h
    exact .inr ⟨rfl, hpair⟩

/-! ### Graphs that are read -/

theorem isRead_of_graph {memory : Memory} {choice : Read.Choice} {read : Reader}
    (h : choice.graph { memory } = (.ok g, read)) : IsRead g := by
  obtain ⟨chosen, r, hchosen, hgraph⟩ := Read.bind_eq_ok h
  obtain ⟨-, hdescribed⟩ := Read.like_objects hchosen
  exact ⟨chosen, r, by rw [Reader.types, hdescribed]; rfl, congrArg Prod.fst hgraph⟩

/-- **Planning makes progress.** For every directive of a program whose classes keep their names while
it is read, planning returns a plan whose conversions can all be rendered, or it fails because a derived
pair of the directive starts from its source. -/
theorem progress {memory : Memory} {choice : Read.Choice} {read : Reader} (config : Config)
    (h : choice.graph { memory } = (.ok g, read)) (hkept : Read.NamesKept (Read.met read)) :
    ∀ d ∈ (Generation.settingOf config g).index.directives,
      (∃ plan, (Generation.settingOf config g).planning.plan d = .ok plan ∧ plan.Makes) ∨
        (Generation.settingOf config g).planning.plan d = .error (.repeatedBase d.describe) ∧
          ∃ pair ∈ d.derived, pair.source = d.source := by
  intro d hd
  obtain ⟨hs, ht⟩ := Generation.has_of_mem_directives hd
  exact exists_plan_or_repeats (complete_of_isRead (isRead_of_graph h))
    (fun t ht m hm q hq hkind => Read.has_of_part h hkept ht hm hq hkind) hd hs ht

/-! ### Orders and boxes -/

/-- A shop whose orders have a state and a list of lines, with counterparts of all three; only the orders
are declared to be mapped. Invoices are declared to be derived from themselves. -/
def ordering : Memory :=
  let record (module path : String) (index : Nat) (types : List (String × Object)) : ClassObject :=
    { module, path, line := [.program index, .library (.builtin "object")], isProtocol := some false
      annotations := types }
  let state (module : String) (index : Nat) : ClassObject :=
    { module, path := "State", line := [.program index, .library (.builtin "object")]
      isProtocol := some false, metaclass := .enum, values := [("OPEN", .constant (.int 1))] }
  let order (module : String) (first : Nat) : ClassObject :=
    record module "Order" first [("state", .cls (.program (first + 1))),
      ("lines", .formed (.subscripted (.library (.builtin "list"))) [.cls (.program (first + 2))])]
  let line (module : String) (index : Nat) (text : LibraryClass) : ClassObject :=
    record module "Line" index [("article", .cls (.library text))]
  { classes := [
      { order "shop" 0 with
        declared := { directives := [{ source := "shop.Order", target := "dto.Order" }] } },
      state "shop" 1, line "shop" 2 .text, order "dto" 3, state "dto" 4, line "dto" 5 .text,
      { record "shop" "Invoice" 6 [] with
        declared :=
          { directives := [{ source := "shop.Invoice", target := "dto.Order" }]
            derived := [⟨"shop.Invoice", "dto.Order"⟩] } }]
    modules := [{ name := "shop" }, { name := "dto" }]
    registry := [("shop", 0), ("dto", 1)]
    typeVariables := [] }

/-- The orders and invoices of a shop. -/
def ordered : Read.Choice :=
  .classes [.cls (.program 0), .cls (.program 3), .cls (.program 6)]

/-- How the orders of a shop are converted. -/
def orderConversions : List Conversion :=
  [.enum ⟨"_map_state_to_state", "shop.State", "dto.State", "dto", true⟩ false,
    .collection (.nested ⟨"_map_line_to_line", "shop.Line", "dto.Line", "dto", true⟩ false)
      (some .list) false]

/-- Orders are planned with a list of lines; invoices are not planned. -/
theorem progress_ordering : ∃ g read, ordered.graph { memory := ordering } = (.ok g, read) ∧
    Read.NamesKept (Read.met read) ∧
    ∃ order ∈ (Generation.settingOf {} g).index.directives,
      ∃ invoice ∈ (Generation.settingOf {} g).index.directives,
        (∃ plan, (Generation.settingOf {} g).planning.plan order = .ok plan ∧
          plan.forward.correspondences.map (·.conversion) = orderConversions ∧ plan.Makes) ∧
        (Generation.settingOf {} g).planning.plan invoice = .error (.repeatedBase invoice.describe) := by
  obtain ⟨g, hg, hkept, order, horder, invoice, hinvoice, hplan, hnone⟩ :
      ∃ g, (ordered.graph { memory := ordering }).1 = .ok g ∧
        Read.NamesKept (Read.met (ordered.graph { memory := ordering }).2) ∧
        ∃ order ∈ (Generation.settingOf {} g).index.directives,
          ∃ invoice ∈ (Generation.settingOf {} g).index.directives,
            ((Generation.settingOf {} g).planning.plan order).toOption.any (fun plan => decide
              (plan.forward.correspondences.map (·.conversion) = orderConversions)) = true ∧
            ((Generation.settingOf {} g).planning.plan invoice).toOption.isNone = true :=
    Steps.exists_of_any (by decide +kernel)
  have hread := Read.eq_of_fst hg
  refine ⟨g, _, hread, hkept, order, horder, invoice, hinvoice, ?_, ?_⟩
  · obtain ⟨plan, hplan, hconversions⟩ := Steps.exists_of_any hplan
    rcases progress {} hread hkept order horder with ⟨plan', hplan', hmakes⟩ | ⟨herror, -⟩
    · rw [hplan] at hplan'
      cases hplan'
      exact ⟨plan, hplan, hconversions, hmakes⟩
    · rw [hplan] at herror
      cases herror
  · rcases progress {} hread hkept invoice hinvoice with ⟨plan, hplan, -⟩ | ⟨herror, -⟩
    · rw [hplan] at hnone
      cases hnone
    · exact herror

/-- Boxes of an archive with labels, and their counterparts. The class of the archive's labels gets
another name when the type of their text is looked up. -/
def renamed : Memory :=
  let record (module path : String) (index : Nat) (member : String) (type : Object) : ClassObject :=
    { module, path, line := [.program index, .library (.builtin "object")], isProtocol := some false
      annotations := [(member, type)] }
  { classes := [
      record "dto" "Label" 0 "text" (.cls (.library .text)),
      record "dto" "Box" 1 "label" (.cls (.program 0)),
      record "archive" "Label" 2 "text" (.text "setattr(Label, '__qualname__', 'Tag') or str"),
      { record "archive" "Box" 3 "label" (.cls (.program 2)) with
        declared := { directives := [{ source := "archive.Box", target := "dto.Box" }] } }]
    modules := [{ name := "dto" }, { name := "archive", names := [("Label", .cls (.program 2))] }]
    registry := [("dto", 0), ("archive", 1)]
    typeVariables := [] }

/-- A box cannot be planned: its label is known by a name that no type has any more. -/
theorem not_progress_renamed : ∃ g read,
    (Read.Choice.classes [.cls (.program 3), .cls (.program 1)]).graph { memory := renamed } =
        (.ok g, read) ∧
      ∃ d ∈ (Generation.settingOf {} g).index.directives, d.derived = [] ∧
        (Generation.settingOf {} g).planning.plan d = .error (.typeNotFound "archive.Label") := by
  obtain ⟨g, hg, hplan⟩ :
      ∃ g, ((Read.Choice.classes [.cls (.program 3), .cls (.program 1)]).graph
          { memory := renamed }).1 = .ok g ∧
        ∃ d ∈ (Generation.settingOf {} g).index.directives, d.derived = [] ∧
          (Generation.settingOf {} g).planning.plan d = .error (.typeNotFound "archive.Label") :=
    Steps.exists_of_any (by decide +kernel)
  exact ⟨g, _, Read.eq_of_fst hg, hplan⟩

end Planning

end Mapsmith
