import Mapsmith.Proofs.Links
import Mapsmith.Proofs.Staleness

/-!
# Accepted plans

A pass may be handed the plans of earlier passes, over other types and under other settings, whatever
these left in the cache. An entry that it is handed is still what planning yields, under a conflict
that its directive had where it was planned. A conflict is an error, so the plans of a result were
planned where their directives had none.

Every correspondence stands for a member of the target that a mapping can fill, and says how that member
is written. An accepted plan promises more of each of its parts, be it the declared direction, the way
back or a private mapping: unless a factory builds the target, every member that its constructor insists
on has a correspondence; where all members are assigned, all can be; and the hooks are methods of the
source. The way back and private mappings are checked by fewer rules. They have no hooks, no factory and
no routine that updates, so these rules are enough.
-/

namespace Mapsmith

namespace Generation

/-! ### Passes over a used cache -/

variable {config : Config} {g : TypeGraph} {cache : Cache} {r : PassResult}

/-- A cache as it is used: a new one, what a pass leaves of one, or a cleared one. -/
inductive Used : Cache → Prop
  /-- A new cache. -/
  | new (capacity : Nat) : Used { capacity := capacity }
  /-- What a pass leaves. -/
  | pass {cache : Cache} (h : Used cache) (config : Config) (g : TypeGraph) :
    Used (runPass config g cache).2.cache
  /-- A cleared cache. -/
  | clear {cache : Cache} (h : Used cache) : Used cache.clear

/-- What stands in a used cache was planned by some pass. -/
theorem Used.faithful (h : Used cache) : Faithful (fun _ => True) cache := by
  induction h with
  | new capacity => exact faithful_empty capacity
  | pass _ config g ih =>
    rw [(runPass_eq config g _).2]
    exact faithful_entriesIn trivial Setting.placed_directives ih
  | clear => exact fun _ he => absurd he List.not_mem_nil

/-- **What a pass makes its result of**: entries for all its directives, each under a conflict that
its directive is told of. -/
theorem exists_handed (hcache : Used cache) (h : (runPass config g cache).1 = .ok r) :
    ∃ entries, Handed (settingOf config g) entries ∧ finish config g entries = .ok r := by
  rw [(runPass_eq config g cache).1] at h
  obtain ⟨entries, hentries, hfinish⟩ := Steps.bind_eq_ok.1 h
  have hin := Steps.mapError_eq_ok.1 hentries
  exact ⟨entries, handed_of_entriesIn trivial hcache.faithful hin, hfinish⟩

/-! ### Plans that are accepted -/

/-- **A plan that a pass accepts**: planned for one of its directives, and without errors where that
directive is in no conflict. -/
structure Accepted (s : Setting) (d : Directive) (plan : Plan) : Prop where
  mem : d ∈ s.index.directives
  planned : s.planning.plan d = .ok plan
  told : Told s d none
  free : Validation.anyError (Validation.check s.index none plan) = false

section Accepted

variable {s : Setting} {d e : Directive} {plan : Plan} {conflict : Option String} {entry : Entry}

/-- An entry without errors holds a plan that is accepted. -/
theorem accepted_of_entryUnder (hd : d ∈ s.index.directives) (htold : Told s d conflict)
    (hentry : s.entryUnder conflict d = .ok entry)
    (hfree : Diagnostic.anyError entry.diagnostics = false) :
    ∃ plan, entry.plan = some plan ∧ Accepted s d plan := by
  unfold Setting.entryUnder at hentry
  split at hentry
  next plan hplanned =>
    cases hentry
    rw [Validation.anyError_validate] at hfree
    obtain rfl := Validation.conflict_eq_none_of_check hfree
    exact ⟨plan, rfl, hd, hplanned, htold, hfree⟩
  next =>
    split at hentry
    · cases hentry
      cases hfree
    · cases hentry

theorem Accepted.passed (h : Accepted s d plan) : Passed s none d plan :=
  ⟨h.mem, h.planned, h.free⟩

theorem Accepted.planOf (h : Accepted s d plan) :
    ∃ source target, Planning.PlanOf s.planning d source target plan :=
  h.passed.planOf

/-- A directive whose plan is accepted is the only one for its pair. -/
theorem Accepted.countP_le (h : Accepted s d plan) :
    s.index.directives.countP (·.pair == d.pair) ≤ 1 := by
  obtain ⟨s', j, hd, hkey, hfree⟩ := h.told
  have hdirectives : s.index.directives = s'.index.directives := (alike_of_key hkey).directives
  have hclash := ((DirectiveIndex.conflict_eq_none hd).1 hfree.symm).1
  rw [hdirectives]
  by_contra hcount
  simp only [DirectiveIndex.samePairClash] at hclash
  rw [if_pos (not_le.1 hcount)] at hclash
  cases hclash

end Accepted

end Generation

/-! ### Correspondences -/

/-- Does a correspondence say of a member how it is written? -/
structure PropertyMapping.Writes (c : PropertyMapping) (t : Member) : Prop where
  member : c.targetMember = t.name
  keyword : c.targetKeyword = t.keyword
  init : c.viaConstructor = t.init
  settable : c.targetSettable = t.settable
  writable : t.writable = true

/-- Does a mapping fill members of its target only, as they are written? -/
def ObjectMapping.Fills (m : ObjectMapping) : Prop :=
  ∀ c ∈ m.mappings, ∃ t ∈ m.target.members, c.Writes t

namespace Planning

open Matching

variable {p : Planning} {home : String} {inverse : Bool} {d : Directive} {routine : RoutineRef}
  {source target : TypeDescriptor}

/-- Matching only fills members of the target. -/
theorem fills_mappingWith : (p.mappingWith home inverse d routine source target).Fills := by
  intro c hc
  rw [target_mappingWith]
  obtain ⟨-, t, b, hout, rfl, -⟩ := mem_mappings_mappingWith.1 hc
  obtain ⟨hmem, hfilled⟩ := List.mem_filter.1 (mem_targetMembers hout)
  exact ⟨t, hmem, rfl, rfl, rfl, rfl, (Bool.and_eq_true_iff.1 hfilled).1⟩

end Planning

namespace Validation

variable {m : ObjectMapping}

/-! ### Rules about members -/

/-- Does a mapping have a correspondence for everything that the target's constructor insists on? -/
def Complete (m : ObjectMapping) : Prop :=
  ∀ t ∈ m.target.members, t.init = true → t.required = true → ∃ c ∈ m.mappings, c.targetMember = t.name

theorem complete_of_requiredMembersMapped (h : anyError (requiredMembersMapped m) = false)
    (hfactory : m.directive.factory = none) : Complete m :=
  (reports_requiredMembersMapped.anyError_eq_false_iff.1 h).resolve_left (by simp [hfactory])

/-! ### Vetted mappings -/

/-- **A mapping between object types that can be rendered**: what its routines build, assign and call
is there for them. -/
structure Vetted (m : ObjectMapping) : Prop where
  fills : m.Fills
  complete : m.directive.factory = none → Complete m
  settable : m.directive.factory.isSome = true ∨ m.updateRoutine.isSome = true →
    ∀ c ∈ m.mappings, c.targetSettable = true
  callable : ∀ role hook, (role, hook) ∈ hookRoles m.directive → hook ∈ m.source.callables
  projected : ∀ c ∈ m.projection, c ∈ m.mappings

/-- A mapping that a directive asks for is vetted by all rules together. -/
theorem vetted_of_rules {index : DirectiveIndex} {conflict : Option String}
    (h : anyError (run m (rules index conflict)) = false) (hfills : m.Fills)
    (hupdate : m.updateRoutine.isSome = true → m.directive.update.isOn = true)
    (hprojected : ∀ c ∈ m.projection, c ∈ m.mappings) : Vetted m := by
  rw [anyError_run] at h
  have hrequired := h requiredMembersMapped (by simp [rules])
  have hassignable := h membersAssignable (by simp [rules])
  have hhooks := h hooksExist (by simp [rules])
  refine ⟨hfills, complete_of_requiredMembersMapped hrequired, fun hassigned => ?_,
    fun role hook hmem => ?_, hprojected⟩
  · refine reports_membersAssignable.anyError_eq_false_iff.1 hassignable ?_
    exact hassigned.symm.imp_left hupdate
  · exact reports_hooksExist.anyError_eq_false_iff.1 hhooks hook (exists_mem_hookRoles.1 ⟨role, hmem⟩)

/-- Has a directive no hooks and no factory? -/
def Hookless (d : Directive) : Prop :=
  hookRoles d = []

/-- A mapping without hooks that has no routine to update is vetted by the rule about required
members alone. -/
theorem vetted_of_hookless (h : anyError (requiredMembersMapped m) = false) (hfills : m.Fills)
    (hhookless : Hookless m.directive) (hupdate : m.updateRoutine = none)
    (hprojection : m.projection = []) : Vetted m := by
  have hfactory : m.directive.factory = none := by
    by_contra hsome
    obtain ⟨factory, hsome⟩ := Option.ne_none_iff_exists'.1 hsome
    have hmem : ("factory", factory) ∈ hookRoles m.directive := by simp [hookRoles, hsome]
    rw [hhookless] at hmem
    cases hmem
  refine ⟨hfills, complete_of_requiredMembersMapped h, ?_, fun role hook hmem => ?_, ?_⟩
  · simp [hfactory, hupdate]
  · rw [hhookless] at hmem
    cases hmem
  · rw [hprojection]
    exact fun c hc => absurd hc List.not_mem_nil

end Validation

/-! ### The parts of an accepted plan -/

namespace Generation

open Planning Validation

variable {s : Setting} {d : Directive} {plan : Plan}

theorem checkHelpers_free {helpers : List Mapping} (h : anyError (checkHelpers helpers) = false) :
    ∀ m ∈ helpers, anyError (checkHelper m) = false := by
  induction helpers with
  | nil => exact fun m hm => absurd hm List.not_mem_nil
  | cons m ms ih =>
    rw [List.forall_mem_cons]
    obtain ⟨hm, hms⟩ := anyError_andThen.1 h
    exact ⟨hm, ih hms⟩

/-- A private mapping between object types is vetted if its check finds no error. -/
theorem vetted_of_serves {owner : Owner} {strategy : NamingStrategy} {request : Matching.Request}
    {ref : RoutineRef} {m : ObjectMapping} (h : Serves s.planning owner strategy request ref (.object m))
    (hfree : anyError (checkHelper (.object m)) = false) :
    Vetted m ∧ m.target ∈ s.index.graph.types := by
  cases h with
  | nested hs ht =>
    have hrequired := anyError_run.1 hfree requiredMembersMapped (by simp [structuralRules])
    refine ⟨vetted_of_hookless hrequired fills_mappingWith ?_ updateRoutine_mappingWith
      projection_mappingWith, ?_⟩
    · rw [directive_mappingWith]
      rfl
    · rw [target_mappingWith]
      exact (TypeGraph.get?_eq_some.1 ht).1

theorem vetted_forward {source target : TypeDescriptor} {entries : List DispatchEntry}
    (ht : s.index.graph.get? d.target = some target)
    (hfree : anyError (run (s.planning.forwardMapping d source target entries)
      (rules s.index none)) = false) :
    Vetted (s.planning.forwardMapping d source target entries) ∧
      (s.planning.forwardMapping d source target entries).target ∈ s.index.graph.types := by
  refine ⟨vetted_of_rules hfree fills_mappingWith (fun hupdate => ?_) fun c hc => ?_, ?_⟩
  · have hdirective : (s.planning.forwardMapping d source target entries).directive = d :=
      directive_mappingWith
    rw [hdirective]
    by_contra hoff
    rw [forwardMapping] at hupdate
    simp only [if_neg hoff, Option.isSome_none, Bool.false_eq_true] at hupdate
  · simp only [forwardMapping] at hc
    split at hc
    · exact (List.mem_filter.1 hc).1
    · cases hc
  · have htarget : (s.planning.forwardMapping d source target entries).target = target :=
      target_mappingWith
    rw [htarget]
    exact (TypeGraph.get?_eq_some.1 ht).1

theorem vetted_reverse {source target : TypeDescriptor} {m : ObjectMapping}
    (hs : s.index.graph.get? d.source = some source)
    (hm : s.planning.reverseMapping? d source target = some m)
    (hfree : anyError (requiredMembersMapped m) = false) :
    Vetted m ∧ m.target ∈ s.index.graph.types := by
  unfold reverseMapping? at hm
  split at hm
  · cases hm
    refine ⟨vetted_of_hookless hfree fills_mappingWith ?_ updateRoutine_mappingWith
      projection_mappingWith, ?_⟩
    · rw [directive_mappingWith]
      rfl
    · rw [target_mappingWith]
      exact (TypeGraph.get?_eq_some.1 hs).1
  · cases hm

/-- **Every part of an accepted plan between object types is vetted**, and its target is a type of the
graph. -/
theorem Accepted.vetted (h : Accepted s d plan) {m : ObjectMapping} (hm : .object m ∈ plan.parts) :
    Vetted m ∧ m.target ∈ s.index.graph.types := by
  obtain ⟨source, target, hplan⟩ := h.planOf
  by_cases hkind : source.kind = .enum
  · obtain ⟨forward, reverse, rfl⟩ := hplan.enum hkind
    cases reverse <;> simp [Plan.parts, Plan.publicMappings, Plan.forward, Plan.reverse?, Plan.helpers] at hm
  · obtain ⟨⟨entries, helpers, -, rfl⟩, hhelpers⟩ := hplan.object hkind
    obtain ⟨hforward, hrest⟩ := anyError_andThen.1 h.free
    obtain ⟨hreverse, hprivate⟩ := anyError_andThen.1 hrest
    rcases mem_parts_object hm with hm | ⟨o, ho, hm⟩ | hm
    · cases hm
      exact vetted_forward hplan.ht hforward
    · cases hm
      have hrequired : anyError (requiredMembersMapped m) = false := by
        rw [ho, Option.toList_some, List.flatMap_singleton, anyError_run] at hreverse
        exact hreverse requiredMembersMapped (by simp [structuralRules])
      exact vetted_reverse hplan.hs ho hrequired
    · obtain ⟨request, name, -, -, hserves⟩ := hhelpers.made _ hm
      exact vetted_of_serves hserves (checkHelpers_free hprivate _ hm)

end Generation

end Mapsmith
