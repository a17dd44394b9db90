import Mapsmith.Proofs.Links
import Mapsmith.Proofs.Locality

/-!
# Planning ends

Types may refer to each other in cycles, and planning follows them from members to the types of
members. It ends because it never plans a pair of types inside its own planning: the pairs under way
are distinct, so there is always a level left for one more (`Mapsmith.Planning.Underway`), and the
error of having none is never met, nor is any other error that neither comparing types nor looking them
up comes to (`Mapsmith.Planning.Foreign`). Neither would more levels change anything. A pair that is
under way, or whose private mapping is there already, is called before it is known what comes of it; in
the plan that is returned at last, every private routine that is called has its mapping.
-/

namespace Mapsmith

open Matching

/-! ### Steps that do not run into an error -/

namespace Steps

variable {ε σ α β : Type} {e : ε}

/-- Do some steps never end with an error, whatever the state? -/
def Avoids (e : ε) (x : StateT σ (Except ε) α) : Prop :=
  ∀ s, x.run s ≠ .error e

theorem bind_ne_error {x : Except ε α} {f : α → Except ε β} (hx : x ≠ .error e)
    (hf : ∀ a, x = .ok a → f a ≠ .error e) : x >>= f ≠ .error e := by
  cases x with
  | error e' => exact fun h => hx (by cases h; rfl)
  | ok a => exact hf a rfl

theorem Avoids.bind {x : StateT σ (Except ε) α} {f : α → StateT σ (Except ε) β} (hx : Avoids e x)
    (hf : ∀ a, Avoids e (f a)) : Avoids e (x >>= f) := fun s => by
  rw [StateT.run_bind]
  exact bind_ne_error (hx s) fun a _ => hf a.1 a.2

theorem avoids_pure (a : α) : Avoids e (pure a : StateT σ (Except ε) α) :=
  nofun

theorem avoids_get : Avoids e (get : StateT σ (Except ε) σ) :=
  nofun

theorem avoids_modify (f : σ → σ) : Avoids e (modify f : StateT σ (Except ε) PUnit) :=
  nofun

theorem avoids_lift_bind {x : Except ε α} {f : α → StateT σ (Except ε) β} (hx : x ≠ .error e)
    (hf : ∀ a, x = .ok a → Avoids e (f a)) :
    Avoids e ((liftM x : StateT σ (Except ε) α) >>= f) := by
  cases x with
  | error e' =>
    rw [lift_error_bind]
    exact fun s hs => hx (by cases hs; rfl)
  | ok a =>
    rw [lift_ok_bind]
    exact hf a rfl

end Steps

/-! ### Matching -/

namespace Matching

open Steps

variable {g : TypeGraph} {σ : Type} {supply : Supplier σ}

mutual

/-- Comparing two types fails for an element type that is missing only. -/
theorem needOf_eq_error {e : PlanningError} : ∀ {source target : TypeRef},
    needOf g source target = .error e → e = .missingElement
  | .mk name kind args container nullable, target, h => by
    unfold needOf at h
    split at h
    · cases h
    split at h
    · split at h
      · cases h
      split at h <;> cases h
    · cases h
    · rcases bind_eq_error h with h | ⟨_, -, h⟩
      · exact elementNeed_eq_error h
      · cases h
    · split at h <;> cases h
    · cases h

theorem elementNeed_eq_error {e : PlanningError} : ∀ {sources targets : List TypeRef},
    elementNeed g sources targets = .error e → e = .missingElement
  | source :: _, target :: _, h => by
    unfold elementNeed at h
    exact needOf_eq_error h
  | [], _, h => by
    simpa [elementNeed, eq_comm] using h
  | _ :: _, [], h => by
    simpa [elementNeed, eq_comm] using h

end

/-- Matching runs into an error only where it compares the types of two members that feed each other,
or where whoever supplies the routines does. -/
theorem avoids_settleAll {e : PlanningError} {os : List (Member × Outcome)}
    (hsupply : ∀ request ∈ requests g os, Avoids e (supply request))
    (hneed : ∀ m b, (m, Outcome.bound b) ∈ os → needOf g b.read.type m.type ≠ .error e) :
    Avoids e (settleAll g supply os) := by
  have hsettle : ∀ m o, (m, o) ∈ os → Avoids e (settle g supply m o) := by
    intro m o hmem
    cases o with
    | ignored | ambiguous | unmatched => exact avoids_pure _
    | bound b =>
      have hclassify : Avoids e (classify g supply b.read.type m.type) := by
        refine avoids_lift_bind (hneed m b hmem) fun need hneed => ?_
        split
        next request hrequest =>
          refine (hsupply request (List.mem_filterMap.2 ⟨_, hmem, ?_⟩)).bind fun r => avoids_pure _
          simp only [Outcome.request?, hneed, hrequest]
        · exact avoids_pure _
      exact hclassify.bind fun c => avoids_pure _
  clear hneed hsupply
  induction os with
  | nil => exact avoids_pure _
  | cons mo os ih =>
    have hrest := ih fun m o hmem => hsettle m o (List.mem_cons_of_mem _ hmem)
    exact (hsettle mo.1 mo.2 List.mem_cons_self).bind fun f => hrest.bind fun fs => avoids_pure _

end Matching

/-! ### Levels -/

/-- Has a plan a private mapping for every private routine that a part of it calls, at any depth of
collections? -/
def Plan.SelfContained (plan : Plan) : Prop :=
  ∀ m ∈ plan.parts, ∀ c ∈ m.correspondences, ∀ r, c.conversion.Calls r → r.helper = true →
    ∃ h ∈ plan.helpers, h.routine.name = r.name

namespace Planning

open Steps

variable {p : Planning} {owner : Owner} {levels : Nat} {path : List (String × String)}
  {inverse : Bool} {d : Directive} {routine : RoutineRef} {e : PlanningError}

/-- Does looking up a type not end with an error, be it that there is one or that the error is another? -/
def Spares (g : TypeGraph) (e : PlanningError) (name : String) : Prop :=
  g.has name = true ∨ e ≠ .typeNotFound name

/-- **Is an error foreign to planning over a graph**: does neither comparing the types of members come to
it, nor looking up the enums and objects that these name? -/
structure Foreign (g : TypeGraph) (e : PlanningError) : Prop where
  compared : ∀ s ∈ g.types, ∀ a ∈ s.members, ∀ t ∈ g.types, ∀ b ∈ t.members,
    needOf g a.type b.type ≠ .error e
  named : ∀ t ∈ g.types, ∀ m ∈ t.members, ∀ q : TypeRef, q.Part m.type →
    q.kind = .enum ∨ q.kind = .object → Spares g e q.name

/-- An error that is no fault of a directive is foreign if types can be compared without it. -/
theorem foreign_of_failure {g : TypeGraph} (he : e.failure? = none)
    (hcompared : ∀ s ∈ g.types, ∀ a ∈ s.members, ∀ t ∈ g.types, ∀ b ∈ t.members,
      needOf g a.type b.type ≠ .error e) : Foreign g e :=
  ⟨hcompared, fun _ _ _ _ _ _ _ => .inr fun h => by rw [h] at he; cases he⟩

theorem foreign_tooDeep (g : TypeGraph) : Foreign g .tooDeep :=
  foreign_of_failure rfl fun _ _ _ _ _ _ _ _ h => by cases needOf_eq_error h

section Foreign

variable (he : Foreign p.graph e) {o : Options} {source target : TypeDescriptor}
  (hs : source ∈ p.graph.types) (ht : target ∈ p.graph.types)
include he hs ht

/-- Members that feed each other are members of types of the graph. -/
theorem Foreign.needOf_ne {m : Member} {b : Binding}
    (hb : (m, Outcome.bound b) ∈ outcomes p.graph o source target) :
    needOf p.graph b.read.type m.type ≠ .error e := by
  have hm : m ∈ target.members := mem_of_mem_outcomes hb
  rcases read_of_mem_outcomes hb with hread | ⟨outer, -, inner, hinner, hread⟩
  · exact he.compared source hs b.read hread target ht m hm
  · exact he.compared inner (TypeGraph.get?_eq_some.1 hinner).1 b.read hread target ht m hm

/-- The types of a request are named by such members. -/
theorem Foreign.spares_of_mem_requests {request : Request}
    (h : request ∈ requests p.graph (outcomes p.graph o source target)) :
    Spares p.graph e request.source ∧ Spares p.graph e request.target := by
  obtain ⟨⟨m, out⟩, hout, hrequest⟩ := List.mem_filterMap.1 h
  cases out with
  | ignored | ambiguous | unmatched => cases hrequest
  | bound b =>
    simp only [Outcome.request?] at hrequest
    split at hrequest
    next need hneed =>
      obtain ⟨⟨⟨q, hq, hkind, hname⟩, q', hq', hkind', hname'⟩, -⟩ := needOf_request hneed hrequest
      have hrefers : request.kind = .enum ∨ request.kind = .object := by
        cases request with
        | nested => exact .inr rfl
        | enum => exact .inl rfl
      have htarget := he.named target ht m (mem_of_mem_outcomes hout) q' hq' (hkind' ▸ hrefers)
      rw [← hname, ← hname']
      refine ⟨?_, htarget⟩
      rcases read_of_mem_outcomes hout with hread | ⟨outer, -, inner, hinner, hread⟩
      · exact he.named source hs b.read hread q hq (hkind ▸ hrefers)
      · exact he.named inner (TypeGraph.get?_eq_some.1 hinner).1 b.read hread q hq (hkind ▸ hrefers)
    · cases hrequest

end Foreign

theorem getType_ne {name : String} (h : Spares p.graph e name) : p.getType name ≠ .error e := by
  unfold getType
  split
  · nofun
  next hnone =>
    rintro ⟨⟩
    refine h.elim (fun hhas => ?_) fun hne => hne rfl
    obtain ⟨t, ht⟩ := TypeGraph.has_iff.1 hhas
    rw [hnone] at ht
    cases ht

theorem enumMapping_ne (hs : Spares p.graph e d.source) (ht : Spares p.graph e d.target) :
    p.enumMapping d routine ≠ .error e :=
  bind_ne_error (getType_ne hs) fun _ _ => bind_ne_error (getType_ne ht) nofun

theorem avoids_supplyEnum {s t : String} (hs : Spares p.graph e s) (ht : Spares p.graph e t) :
    Avoids e (p.supplyEnum owner s t) := by
  unfold supplyEnum
  split
  · exact avoids_pure _
  refine avoids_lift_bind (getType_ne hs) fun source _ => ?_
  refine avoids_lift_bind (getType_ne ht) fun target _ => avoids_get.bind fun table => ?_
  split
  · exact avoids_pure _
  · exact avoids_lift_bind (enumMapping_ne hs ht) fun m _ =>
      (avoids_modify _).bind fun _ => avoids_pure _

/-- **Planning a mapping does not run into a foreign error**, as long as the pairs that are being
planned are distinct: so it does not run out of levels. -/
theorem avoids_objectMapping (he : Foreign p.graph e) (hs : Spares p.graph e d.source)
    (ht : Spares p.graph e d.target) (hpath : Underway p.graph levels path) (hnot : d.pair ∉ path) :
    Avoids e (p.objectMapping owner levels path inverse d routine) := by
  -- on the levels left; a pair that is not under way yet takes one of them
  induction levels generalizing path inverse d routine with
  | zero => exact absurd hpath.pos (Nat.lt_irrefl 0)
  | succ levels ih =>
    rw [objectMapping_succ]
    refine avoids_lift_bind (getType_ne hs) fun source hsource => ?_
    refine avoids_lift_bind (getType_ne ht) fun target htarget => ?_
    rw [getType_eq_ok] at hsource htarget
    split
    · exact avoids_pure _
    have hnext : Underway p.graph levels (d.pair :: path) :=
      hpath.step hnot (TypeGraph.has_iff.2 ⟨_, hsource⟩) (TypeGraph.has_iff.2 ⟨_, htarget⟩)
    have hsource : source ∈ p.graph.types := (TypeGraph.get?_eq_some.1 hsource).1
    have htarget : target ∈ p.graph.types := (TypeGraph.get?_eq_some.1 htarget).1
    have hsupply : ∀ request ∈ requests p.graph (outcomes p.graph (options inverse d) source target),
        Avoids e (p.supplier owner levels (d.pair :: path) d.strategy request) := by
      intro request hrequest
      obtain ⟨hs, ht⟩ := he.spares_of_mem_requests hsource htarget hrequest
      cases request with
      | nested s t =>
        unfold supplier
        simp only
        split
        · exact avoids_pure _
        refine avoids_lift_bind (getType_ne hs) fun src _ => ?_
        refine avoids_lift_bind (getType_ne ht) fun tgt _ => ?_
        split
        · exact avoids_pure _
        refine avoids_get.bind fun table => ?_
        split
        · exact avoids_pure _
        next hfresh =>
          have hnot : (s, t) ∉ d.pair :: path := fun hmem => hfresh (by simp [hmem])
          have hinner : ∀ ref, Avoids e (p.objectMapping owner levels (d.pair :: path) false
              { source := s, target := t, strategy := d.strategy, location := owner.location } ref) :=
            fun ref => ih hs ht hnext hnot
          exact (hinner _).bind fun m => (avoids_modify _).bind fun _ => avoids_pure _
      | enum s t => exact avoids_supplyEnum hs ht
    unfold matchMembers
    refine Avoids.bind ?_ fun r => avoids_pure _
    refine (avoids_settleAll hsupply ?_).bind fun fs => avoids_pure _
    exact fun m b hb => he.needOf_ne hsource htarget hb

/-- Levels that are enough make no difference. -/
theorem objectMapping_eq_of_le (hle : p.depth ≤ levels) :
    p.objectMapping owner levels [] inverse d routine =
      p.objectMapping owner p.depth [] inverse d routine := by
  have halike : Alike p p [d.source, d.target] := ⟨rfl, rfl, rfl⟩
  have hunderway : Underway p.graph levels [] := ⟨List.nodup_nil, nofun, hle⟩
  exact objectMapping_congr halike hunderway (underway_start _) List.not_mem_nil
    (.inl List.mem_cons_self) (.inl (List.mem_cons_of_mem _ List.mem_cons_self))

/-! ### Plans -/

/-- The dispatch fails only for a derived pair that starts from the base. -/
theorem dispatch_eq_error {pairs : List DerivedPair} (h : p.dispatch d pairs = .error e) :
    e = .repeatedBase d.describe ∧ ∃ pair ∈ pairs, pair.source = d.source := by
  induction pairs with
  | nil => cases h
  | cons pair pairs ih =>
    unfold dispatch at h
    split at h
    next hsource =>
      cases h
      exact ⟨rfl, pair, List.mem_cons_self, hsource⟩
    rcases bind_eq_error h with h | ⟨entries, -, h⟩
    · obtain ⟨rfl, pair', hmem, hsource⟩ := ih h
      exact ⟨rfl, pair', List.mem_cons_of_mem _ hmem, hsource⟩
    · split at h <;> cases h

section Plans

variable (he : Foreign p.graph e) (hs : Spares p.graph e d.source) (ht : Spares p.graph e d.target)
include he hs ht

theorem objectPlan_ne (hdispatch : p.dispatch d d.derived ≠ .error e) (source target : TypeDescriptor) :
    p.objectPlan d source target ≠ .error e := by
  have hmappings : Avoids e (p.objectMappings d source target) := by
    unfold objectMappings
    refine (avoids_objectMapping he hs ht (underway_start _) List.not_mem_nil).bind fun forward => ?_
    split
    · refine (avoids_objectMapping he ?_ ?_ (underway_start _) List.not_mem_nil).bind fun reverse =>
        avoids_pure _
      · exact ht
      · exact hs
    · exact avoids_pure _
  unfold objectPlan
  exact bind_ne_error (hmappings []) fun _ _ => bind_ne_error hdispatch nofun

omit he in
theorem enumPlan_ne (source target : TypeDescriptor) : p.enumPlan d source target ≠ .error e := by
  unfold enumPlan
  refine bind_ne_error (enumMapping_ne hs ht) fun forward _ => ?_
  split
  · refine bind_ne_error (enumMapping_ne ?_ ?_) fun reverse _ => nofun
    · exact ht
    · exact hs
  · nofun

/-- **A foreign error of planning a directive comes from its dispatch.** -/
theorem dispatch_of_plan (h : p.plan d = .error e) : p.dispatch d d.derived = .error e := by
  by_contra hdispatch
  refine bind_ne_error (getType_ne hs) (fun source _ => ?_) h
  refine bind_ne_error (getType_ne ht) fun target _ => ?_
  split
  · exact enumPlan_ne hs ht source target
  · exact objectPlan_ne he hs ht hdispatch source target

/-- **Planning a directive does not run into a foreign error**, but for a derived pair that starts from
the base. -/
theorem repeats_of_plan (h : p.plan d = .error e) :
    e = .repeatedBase d.describe ∧ ∃ pair ∈ d.derived, pair.source = d.source :=
  dispatch_eq_error (dispatch_of_plan he hs ht h)

end Plans

/-- **Planning a directive does not run into an error that is foreign and no fault of it.** -/
theorem plan_ne (he : Foreign p.graph e) (hfailure : e.failure? = none) (d : Directive) :
    p.plan d ≠ .error e := by
  intro h
  have hspares : ∀ name, Spares p.graph e name := fun name => .inr fun heq => by
    rw [heq] at hfailure
    cases hfailure
  obtain ⟨rfl, -⟩ := repeats_of_plan he (hspares _) (hspares _) h
  cases hfailure

/-- **Planning a directive does not run out of levels.** -/
theorem plan_ne_tooDeep (d : Directive) : p.plan d ≠ .error .tooDeep :=
  plan_ne (foreign_tooDeep _) rfl d

theorem selfContained {plan : Plan} (hd : d ∈ p.index.directives) (h : p.plan d = .ok plan) :
    plan.SelfContained := by
  obtain ⟨source, target, hplan⟩ := plan_eq_ok hd h
  intro m hm c hc r hcalls hhelper
  have hr : r ∈ m.calls := Mapping.mem_calls.2 ⟨c, hc, hcalls⟩
  by_cases hkind : source.kind = .enum
  · obtain ⟨forward, reverse, rfl⟩ := hplan.enum hkind
    rw [(Generation.mem_parts_enum hm).1] at hr
    cases hr
  · exact (hplan.object hkind).helpers.there m hm r hr hhelper

/-- **Planning is safe on cycles.** It ends however the types of the graph refer to each other:
it does not run out of levels, and a mapping is planned alike with any more of them. The plan of a
directive of the index has a private mapping for every private routine that it calls. -/
theorem cycle_safe (p : Planning) (d : Directive) :
    (∀ owner levels inverse e routine, p.depth ≤ levels →
      p.objectMapping owner levels [] inverse e routine =
        p.objectMapping owner p.depth [] inverse e routine) ∧
    p.plan d ≠ .error .tooDeep ∧
    (d ∈ p.index.directives → ∀ plan, p.plan d = .ok plan → plan.SelfContained) :=
  ⟨fun _ _ _ _ _ hle => objectMapping_eq_of_le hle, plan_ne_tooDeep d,
    fun hd _ h => selfContained hd h⟩

/-- People with friends and employers, companies with a boss and a staff, and counterparts of both;
only the companies are declared to be mapped. -/
def people : Planning :=
  let object (type : String) : TypeRef := .mk type .object [] none false
  let staff (type : String) : TypeRef := .mk "list" .collection [object type] (some .list) false
  let person (home : String) : TypeDescriptor :=
    { name := "Person", module := home, kind := .cls
      members := [
        { name := "friend", type := object (home ++ ".Person") },
        { name := "employer", type := object (home ++ ".Company") }] }
  let company (home : String) : TypeDescriptor :=
    { name := "Company", module := home, kind := .cls
      members := [
        { name := "boss", type := object (home ++ ".Person") },
        { name := "staff", type := staff (home ++ ".Person") }] }
  { index :=
      { directives := [{ source := "app.Company", target := "dto.Company" }]
        graph :=
          { types := [person "app", company "app", person "dto", company "dto"]
            nodup := by decide +kernel } }
    groups := [] }

theorem cycle_safe_people : ∃ d ∈ people.index.directives, ∃ plan, people.plan d = .ok plan ∧
    (∃ h ∈ plan.helpers, h.routine ∈ h.calls ∧ h.routine.helper = true) ∧ plan.SelfContained ∧
    ∀ owner, people.objectMapping owner 100 [] false d default =
      people.objectMapping owner people.depth [] false d default := by
  obtain ⟨plan, hplan, hcalls⟩ :
      ∃ plan, people.plan { source := "app.Company", target := "dto.Company" } = .ok plan ∧
        ∃ h ∈ plan.helpers, h.routine ∈ h.calls ∧ h.routine.helper = true :=
    Steps.exists_of_any (by decide +kernel)
  obtain ⟨hlevels, -, hself⟩ :=
    cycle_safe people { source := "app.Company", target := "dto.Company" }
  have hd : { source := "app.Company", target := "dto.Company" } ∈ people.index.directives :=
    List.mem_cons_self
  exact ⟨_, hd, plan, hplan, hcalls, hself hd plan hplan,
    fun owner => hlevels owner 100 false _ default (by decide +kernel)⟩

end Planning

end Mapsmith
