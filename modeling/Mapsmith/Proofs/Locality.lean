import Mapsmith.Proofs.Pass
import Mapsmith.Proofs.Validation
import Mathlib.Data.List.ProdSigma

/-!
# What a plan depends on

A plan depends on the types of the graph through the closure of its directive alone. Planning looks
up the types that the directive names and those that members of types on the way refer to, and the
closure holds all of them, so graphs with one closure answer every look-up alike. The sizes of the
graphs do not matter either: the levels that planning may go down are enough in both, since the
pairs of types that are being planned are distinct (`Mapsmith.Planning.objectMapping_congr`).

So an entry may be taken for what planning yields as long as its key is the same: the directive, its
closure, all directives and the settings. All that planning looks up is in the key, and so is all
that validation looks up but one thing. The conflict of a directive is computed from the types of
every directive of the pass, which the closure of one directive need not hold. So the entries under
one key agree exactly where the conflicts do, or where no check comes to them
(`Mapsmith.Generation.coherent_iff`).
-/

namespace Mapsmith

open Matching

/-- Matching two types runs alike over graphs that agree on what is read, with suppliers that do the
same for the requests that are made. -/
theorem Matching.matchMembers_congr {g g' : TypeGraph} {σ : Type} {supply supply' : Supplier σ}
    {o : Options} {source target : TypeDescriptor}
    (houtcomes : outcomes g o source target = outcomes g' o source target)
    (hneed : ∀ m b, (m, Outcome.bound b) ∈ outcomes g o source target →
      needOf g b.read.type m.type = needOf g' b.read.type m.type)
    (hsupply : ∀ request ∈ requests g (outcomes g o source target),
      supply request = supply' request) :
    matchMembers g supply o source target = matchMembers g' supply' o source target := by
  unfold matchMembers
  rw [← houtcomes, settleAll_congr hneed hsupply]

namespace Planning

/-- Two plannings that agree in everything but the types that cannot be reached from some names. -/
structure Alike (p p' : Planning) (names : List String) : Prop where
  directives : p.index.directives = p'.index.directives
  groups : p.groups = p'.groups
  closure : p.graph.closure names = p'.graph.closure names

variable {p p' : Planning} {names : List String} {d : Directive} {n s t : String}

namespace Alike

variable (h : Alike p p' names)
include h

/-! ### Look-ups -/

theorem get?_eq (hn : p.graph.Mentions names n) : p.graph.get? n = p'.graph.get? n :=
  TypeGraph.get?_eq_of_closure_eq h.closure hn

theorem getType_eq (hn : p.graph.Mentions names n) : p.getType n = p'.getType n := by
  rw [getType, getType, h.get?_eq hn]

theorem routineFor_eq (hs : p.graph.Mentions names s) (ht : p.graph.Mentions names t) :
    p.index.routineFor s t = p'.index.routineFor s t :=
  DirectiveIndex.routineFor_congr h.directives (h.get?_eq hs) (h.get?_eq ht)

theorem enumMapping_eq {routine : RoutineRef} (hs : p.graph.Mentions names d.source)
    (ht : p.graph.Mentions names d.target) :
    p.enumMapping d routine = p'.enumMapping d routine := by
  unfold enumMapping
  rw [h.getType_eq hs, h.getType_eq ht, h.groups]

theorem supplyEnum_eq {owner : Owner} (hs : p.graph.Mentions names s)
    (ht : p.graph.Mentions names t) : p.supplyEnum owner s t = p'.supplyEnum owner s t := by
  unfold supplyEnum
  rw [h.routineFor_eq hs ht, h.getType_eq hs, h.getType_eq ht]
  have hmapping : ∀ ref, p.enumMapping { source := s, target := t, location := owner.location } ref =
      p'.enumMapping { source := s, target := t, location := owner.location } ref :=
    fun ref => h.enumMapping_eq hs ht
  simp only [hmapping]

/-! ### Matching -/

section Matched

variable {source target : TypeDescriptor} (hs : p.graph.get? s = some source)
  (ht : p.graph.get? t = some target) (hsm : p.graph.Mentions names s)
  (htm : p.graph.Mentions names t) {o : Options}
include hs hsm

omit h in
/-- The names in the type that a member is read from are mentioned. -/
theorem mentions_read {m : Member} {b : Binding}
    (hb : (m, Outcome.bound b) ∈ outcomes p.graph o source target) {k : String}
    (hk : k ∈ b.read.type.names) : p.graph.Mentions names k := by
  rcases read_of_mem_outcomes hb with hread | ⟨outer, houter, inner, hinner, hread⟩
  · exact TypeGraph.mentions_member hsm hs hread hk
  · have hmention := TypeGraph.mentions_member hsm hs houter outer.type.name_mem_names
    exact TypeGraph.mentions_member hmention hinner hread hk

theorem outcomes_eq : outcomes p.graph o source target = outcomes p'.graph o source target :=
  outcomes_congr fun m hm =>
    h.get?_eq (TypeGraph.mentions_member hsm hs hm m.type.name_mem_names)

include ht htm

omit h in
/-- The pair of a request is mentioned. -/
theorem mentions_request {request : Request}
    (hrequest : request ∈ requests p.graph (outcomes p.graph o source target)) :
    p.graph.Mentions names request.source ∧ p.graph.Mentions names request.target := by
  obtain ⟨⟨m, out⟩, hout, hasked⟩ := List.mem_filterMap.1 hrequest
  cases out with
  | ignored | ambiguous | unmatched => cases hasked
  | bound b =>
    simp only [Outcome.request?] at hasked
    split at hasked
    next need hneed =>
      obtain ⟨hwithin, -⟩ := needOf_request hneed hasked
      exact ⟨mentions_read hs hsm hout hwithin.source_mem,
        TypeGraph.mentions_member htm ht (mem_of_mem_outcomes hout) hwithin.target_mem⟩
    · cases hasked

theorem matchMembers_eq {supply supply' : Supplier HelperTable}
    (hsupply : ∀ request ∈ requests p.graph (outcomes p.graph o source target),
      supply request = supply' request) :
    matchMembers p.graph supply o source target =
      matchMembers p'.graph supply' o source target := by
  refine matchMembers_congr (h.outcomes_eq hs hsm) (fun m b hb => ?_) hsupply
  refine needOf_congr (fun k hk _ => isSubclass_congr ?_) fun k hk => ?_
  · exact h.get?_eq (mentions_read hs hsm hb hk)
  · rw [h.get?_eq (TypeGraph.mentions_member htm ht (mem_of_mem_outcomes hb) hk)]

end Matched

end Alike

/-! ### Levels -/

/-- The pairs that are being planned: distinct pairs of types of the graph, with enough levels left
for the pairs that are not. -/
structure Underway (g : TypeGraph) (levels : Nat) (path : List (String × String)) : Prop where
  nodup : path.Nodup
  has : ∀ q ∈ path, g.has q.1 = true ∧ g.has q.2 = true
  enough : g.size * g.size < levels + path.length

theorem underway_start (g : TypeGraph) : Underway g (g.size * g.size + 1) [] :=
  ⟨List.nodup_nil, nofun, Nat.lt_succ_self _⟩

/-- There are no more pairs than the square of the number of types, so there is a level left. -/
theorem Underway.pos {g : TypeGraph} {levels : Nat} {path : List (String × String)}
    (h : Underway g levels path) : 0 < levels := by
  have hsub : path ⊆ (g.types.map (·.qualifiedName)) ×ˢ (g.types.map (·.qualifiedName)) := by
    intro q hq
    obtain ⟨hfst, hsnd⟩ := h.has q hq
    exact List.mem_product.2 ⟨TypeGraph.has_iff_mem.1 hfst, TypeGraph.has_iff_mem.1 hsnd⟩
  have hle := (h.nodup.subperm hsub).length_le
  rw [List.length_product, List.length_map] at hle
  have hsize : g.size = g.types.length := rfl
  have henough := h.enough
  rw [hsize] at henough
  omega

theorem Underway.step {g : TypeGraph} {levels : Nat} {path : List (String × String)}
    (h : Underway g (levels + 1) path) (hnot : (s, t) ∉ path) (hs : g.has s = true)
    (ht : g.has t = true) : Underway g levels ((s, t) :: path) := by
  refine ⟨List.nodup_cons.2 ⟨hnot, h.nodup⟩, ?_, ?_⟩
  · rw [List.forall_mem_cons]
    exact ⟨⟨hs, ht⟩, h.has⟩
  · have henough := h.enough
    rw [List.length_cons]
    omega

/-- **Planning a mapping depends on the reachable types alone**, and on the levels only in that they
are enough. -/
theorem objectMapping_congr (h : Alike p p' names) {owner : Owner} {levels levels' : Nat}
    {path : List (String × String)} {inverse : Bool} {routine : RoutineRef}
    (hpath : Underway p.graph levels path) (hpath' : Underway p'.graph levels' path)
    (hnot : d.pair ∉ path) (hs : p.graph.Mentions names d.source)
    (ht : p.graph.Mentions names d.target) :
    p.objectMapping owner levels path inverse d routine =
      p'.objectMapping owner levels' path inverse d routine := by
  -- on the levels left in the one graph; both sides keep enough of them, so none runs out first
  induction levels generalizing levels' path inverse d routine with
  | zero => exact absurd hpath.pos (Nat.lt_irrefl 0)
  | succ levels ih =>
    cases levels' with
    | zero => exact absurd hpath'.pos (Nat.lt_irrefl 0)
    | succ levels' =>
      rw [objectMapping_succ, objectMapping_succ, ← h.getType_eq hs, ← h.getType_eq ht]
      cases hsource : p.getType d.source with
      | error e => rw [Steps.lift_error_bind, Steps.lift_error_bind]
      | ok source =>
      rw [Steps.lift_ok_bind, Steps.lift_ok_bind]
      cases htarget : p.getType d.target with
      | error e => rw [Steps.lift_error_bind, Steps.lift_error_bind]
      | ok target =>
      rw [Steps.lift_ok_bind, Steps.lift_ok_bind]
      rw [getType_eq_ok] at hsource htarget
      have hnext : Underway p.graph levels (d.pair :: path) :=
        hpath.step hnot (TypeGraph.has_iff.2 ⟨_, hsource⟩) (TypeGraph.has_iff.2 ⟨_, htarget⟩)
      have hnext' : Underway p'.graph levels' (d.pair :: path) :=
        hpath'.step hnot (TypeGraph.has_iff.2 ⟨_, h.get?_eq hs ▸ hsource⟩)
          (TypeGraph.has_iff.2 ⟨_, h.get?_eq ht ▸ htarget⟩)
      split
      · rfl
      have hsupply : ∀ request ∈ requests p.graph (outcomes p.graph (options inverse d) source target),
          p.supplier owner levels (d.pair :: path) d.strategy request =
            p'.supplier owner levels' (d.pair :: path) d.strategy request := by
        intro request hrequest
        obtain ⟨hrs, hrt⟩ := Alike.mentions_request hsource htarget hs ht hrequest
        cases request with
        | enum s t => exact h.supplyEnum_eq hrs hrt
        | nested s t =>
          have hinner : (s, t) ∉ d.pair :: path → ∀ ref,
              p.objectMapping owner levels (d.pair :: path) false
                { source := s, target := t, strategy := d.strategy, location := owner.location } ref =
              p'.objectMapping owner levels' (d.pair :: path) false
                { source := s, target := t, strategy := d.strategy, location := owner.location } ref :=
            fun hfresh ref => ih hnext hnext' hfresh hrs hrt
          simp only [Request.source, Request.target] at hrs hrt
          simp only [supplier, List.contains_eq_mem]
          rw [← h.routineFor_eq hrs hrt, ← h.getType_eq hrs, ← h.getType_eq hrt]
          -- a pair under way is not planned again, so the hypothesis is only asked for fresh pairs
          by_cases hfresh : (s, t) ∈ d.pair :: path
          · simp only [hfresh, decide_true, Bool.true_or, if_true]
          · simp only [hinner hfresh]
      rw [h.matchMembers_eq hsource htarget hs ht hsupply]

/-! ### Plans -/

theorem dispatch_congr (h : Alike p p' names) {pairs : List DerivedPair}
    (hpairs : ∀ pair ∈ pairs, pair.source ∈ names ∧ pair.target ∈ names) :
    p.dispatch d pairs = p'.dispatch d pairs := by
  induction pairs with
  | nil => rfl
  | cons pair pairs ih =>
    obtain ⟨⟨hs, ht⟩, hrest⟩ := List.forall_mem_cons.1 hpairs
    unfold dispatch
    rw [h.routineFor_eq (.inl hs) (.inl ht), ih hrest]

section Directive

variable (h : Alike p p' d.typeNames)
include h

omit h in
theorem source_mem_typeNames : d.source ∈ d.typeNames :=
  List.mem_cons_self

omit h in
theorem target_mem_typeNames : d.target ∈ d.typeNames :=
  List.mem_cons_of_mem _ List.mem_cons_self

omit h in
theorem derived_mem_typeNames : ∀ pair ∈ d.derived,
    pair.source ∈ d.typeNames ∧ pair.target ∈ d.typeNames := by
  intro pair hpair
  simp only [Directive.typeNames, List.mem_cons, List.mem_flatMap]
  exact ⟨.inr (.inr ⟨pair, hpair, .inl rfl⟩), .inr (.inr ⟨pair, hpair, .inr (.inl rfl)⟩)⟩

theorem objectMappings_congr {source target : TypeDescriptor} :
    p.objectMappings d source target = p'.objectMappings d source target := by
  have hs : p.graph.Mentions d.typeNames d.source := .inl source_mem_typeNames
  have ht : p.graph.Mentions d.typeNames d.target := .inl target_mem_typeNames
  have hahead : ∀ owner routine, p.objectMapping owner p.depth [] false d routine =
      p'.objectMapping owner p'.depth [] false d routine := fun owner routine =>
    objectMapping_congr h (underway_start _) (underway_start _) List.not_mem_nil hs ht
  have hback : ∀ owner routine, p.objectMapping owner p.depth [] true d.reversed routine =
      p'.objectMapping owner p'.depth [] true d.reversed routine := fun owner routine =>
    objectMapping_congr h (underway_start _) (underway_start _) List.not_mem_nil ht hs
  unfold objectMappings
  simp only [hahead, hback]

/-- **The plan of a directive depends on its closure alone.** -/
theorem plan_congr : p.plan d = p'.plan d := by
  have hs : p.graph.Mentions d.typeNames d.source := .inl source_mem_typeNames
  have ht : p.graph.Mentions d.typeNames d.target := .inl target_mem_typeNames
  have henum : ∀ source target, p.enumPlan d source target = p'.enumPlan d source target := by
    intro source target
    have hahead : ∀ routine, p.enumMapping d routine = p'.enumMapping d routine :=
      fun routine => h.enumMapping_eq hs ht
    have hback : ∀ routine, p.enumMapping d.reversed routine = p'.enumMapping d.reversed routine :=
      fun routine => h.enumMapping_eq ht hs
    unfold enumPlan
    simp only [hahead, hback]
  have hobject : ∀ source target, p.objectPlan d source target = p'.objectPlan d source target := by
    intro source target
    unfold objectPlan
    rw [objectMappings_congr h, dispatch_congr h derived_mem_typeNames]
  unfold plan
  simp only [h.getType_eq hs, h.getType_eq ht, henum, hobject]

end Directive

end Planning

namespace Generation

open Planning

variable {s s' : Setting} {d d' : Directive} {conflict conflict' : Option String} {i j : Nat}

/-! ### Keys -/

/-- **Two keys are equal** exactly if directives, closures, all directives and settings are. -/
theorem key_eq_iff : s.key d = s'.key d' ↔ d = d' ∧
    s.index.graph.closure d.typeNames = s'.index.graph.closure d'.typeNames ∧
      s.index.directives = s'.index.directives ∧ s.config = s'.config := by
  simp only [Setting.key, PlanKey.mk.injEq]

/-- Settings in which a directive has one key are alike to its planning. -/
theorem alike_of_key (h : s.key d = s'.key d) : Alike s.planning s'.planning d.typeNames := by
  obtain ⟨-, hclosure, hdirectives, hconfig⟩ := key_eq_iff.1 h
  exact ⟨hdirectives, congrArg Config.equivalenceGroups hconfig, hclosure⟩

/-! ### Entries -/

namespace Setting

/-- The entry of a directive that is told of a conflict. -/
def entryUnder (s : Setting) (conflict : Option String) (d : Directive) : Except PlanningError Entry :=
  match s.planning.plan d with
  | .ok plan => .ok ⟨some plan, Validation.validate s.index plan conflict⟩
  | .error e =>
    match e.failure? with
    | some failure =>
      let anchor := ((s.index.graph.get? d.source).map (·.anchor)).getD (.ofSymbol d.source)
      .ok ⟨none, [planFailed d (d.location.getD anchor) failure.message]⟩
    | none => .error e

theorem entry_eq (s : Setting) (position : Nat) (d : Directive) :
    s.entry position d = s.entryUnder (s.index.conflict position) d := rfl

/-- Does a conflict not show in what planning a directive yields? -/
def Masks (s : Setting) (d : Directive) : Prop :=
  ∀ plan, s.planning.plan d = .ok plan → ¬ plan.FacesConflict

/-- **Under one key and one conflict there is one entry.** -/
theorem entryUnder_congr (hd : d ∈ s.index.directives) (h : s.key d = s'.key d) :
    s.entryUnder conflict d = s'.entryUnder conflict d := by
  have halike := alike_of_key h
  have hsource : s.index.graph.get? d.source = s'.index.graph.get? d.source :=
    halike.get?_eq (.inl source_mem_typeNames)
  unfold entryUnder
  rw [← plan_congr halike, hsource]
  cases hplan : s.planning.plan d with
  | error e => rfl
  | ok plan =>
    obtain ⟨source, target, hof⟩ := plan_eq_ok hd hplan
    have hcheck : Validation.check s.index conflict plan = Validation.check s'.index conflict plan := by
      refine Validation.check_congr halike.directives fun pair hpair => ?_
      rw [hof.directive_eq] at hpair
      obtain ⟨hs, ht⟩ := derived_mem_typeNames pair hpair
      exact ⟨halike.get?_eq (.inl hs), halike.get?_eq (.inl ht)⟩
    simp only [Validation.validate, hcheck]

/-- Entries under two conflicts agree exactly if the conflicts do, or do not show. -/
theorem entryUnder_eq_iff :
    s.entryUnder conflict d = s.entryUnder conflict' d ↔ conflict = conflict' ∨ s.Masks d := by
  unfold entryUnder Masks
  cases hplan : s.planning.plan d with
  | error e => exact iff_of_true rfl (.inr fun _ h => by cases h)
  | ok plan =>
    have hinjective : Function.Injective fun q => (⟨q, plan.location⟩ : Diagnostic) :=
      fun _ _ h => congrArg Diagnostic.problem h
    simp only [Except.ok.injEq, forall_eq', Entry.mk.injEq, true_and, Validation.validate,
      List.map_inj_right hinjective]
    exact Validation.check_eq_iff

end Setting

/-! ### Steady conflicts -/

/-- **The conflicts of settings are steady** if a directive that has one key in two places has one
conflict there, or none that shows. -/
def Steady (settings : Setting → Prop) : Prop :=
  ∀ s s', settings s → settings s' → ∀ i j d, s.index.directives[i]? = some d →
    s'.index.directives[j]? = some d → s.key d = s'.key d →
      s.index.conflict i = s'.index.conflict j ∨ s.Masks d

variable {settings : Setting → Prop}

/-- **One key stands for one entry** exactly if the conflicts are steady: nothing else that planning
and validation read escapes the key. -/
theorem coherent_iff : Coherent settings ↔ Steady settings := by
  constructor
  · intro h s s' hs hs' i j d hd hd' hkey
    have hentry := h s s' hs hs' i j d d hd hd' hkey
    rw [Setting.entry_eq, Setting.entry_eq,
      ← Setting.entryUnder_congr (List.mem_of_getElem? hd) hkey] at hentry
    exact Setting.entryUnder_eq_iff.1 hentry
  · intro h s s' hs hs' i j d d' hd hd' hkey
    obtain rfl : d = d' := congrArg PlanKey.directive hkey
    rw [Setting.entry_eq, Setting.entry_eq,
      ← Setting.entryUnder_congr (List.mem_of_getElem? hd) hkey]
    exact Setting.entryUnder_eq_iff.2 (h s s' hs hs' i j d hd hd' hkey)

/-- Where no directive is in conflict, the conflicts are steady. -/
theorem steady_of_conflict_eq_none
    (h : ∀ s, settings s → ∀ i d, s.index.directives[i]? = some d → s.index.conflict i = none) :
    Steady settings := fun s s' hs hs' i j d hd hd' _ =>
  .inl ((h s hs i d hd).trans (h s' hs' j d hd').symm)

end Generation

end Mapsmith
