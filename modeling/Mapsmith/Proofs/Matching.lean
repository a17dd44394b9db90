import Mapsmith.Matching
import Mapsmith.Proofs.Graph
import Mapsmith.Proofs.Steps

/-!
# Matching with settled answers

Matching asks for routines one by one, and whoever supplies them may keep a state. As long as the
answer to a request does not depend on that state, neither does what matching finds: it is the list
of findings under that answer (`Mapsmith.Matching.settleAll_run`), and the state has met exactly the
requests that the outcomes call for. What a request names stands in the types of the members that
are compared, and what matching finds depends on the graph through those names alone.
-/

namespace Mapsmith

/-! ### Parts of a type reference -/

/-- A reference inside another one: the whole of it, or inside one of its arguments. -/
inductive TypeRef.Part (r : TypeRef) : TypeRef → Prop
  /-- The whole reference. -/
  | whole : Part r r
  /-- Inside an argument. -/
  | inside {name kind args container nullable a} (ha : a ∈ args) (h : Part r a) :
    Part r (.mk name kind args container nullable)

theorem TypeRef.mem_namesAll {n : String} {args : List TypeRef} :
    n ∈ TypeRef.namesAll args ↔ ∃ a ∈ args, n ∈ a.names := by
  induction args with
  | nil => simp [namesAll]
  | cons a args ih => simp [namesAll, ih]

theorem TypeRef.name_mem_names (r : TypeRef) : r.name ∈ r.names := by
  cases r
  exact List.mem_cons_self

theorem TypeRef.Part.name_mem {r t : TypeRef} (h : r.Part t) : r.name ∈ t.names := by
  induction h with
  | whole => exact r.name_mem_names
  | inside ha _ ih => exact List.mem_cons_of_mem _ (TypeRef.mem_namesAll.2 ⟨_, ha, ih⟩)

/-- The routines that a conversion calls at any depth, each with the kind of conversion it is called
for. -/
def Conversion.uses : Conversion → List (ConversionKind × RoutineRef)
  | mk kind routine none _ _ => routine.toList.map (kind, ·)
  | mk kind routine (some e) _ _ => routine.toList.map (kind, ·) ++ uses e

theorem Conversion.map_uses (c : Conversion) : c.uses.map (·.2) = c.routines := by
  induction c using Conversion.uses.induct with
  | case1 kind routine container nullable => cases routine <;> rfl
  | case2 kind routine e container nullable ih =>
    rw [uses, routines, List.map_append, ih, List.map_map]
    cases routine <;> rfl

theorem Conversion.mem_routines {c : Conversion} {r : RoutineRef} :
    r ∈ c.routines ↔ ∃ kind, (kind, r) ∈ c.uses := by
  rw [← map_uses, List.mem_map]
  exact ⟨fun ⟨⟨kind, _⟩, h, heq⟩ => ⟨kind, heq ▸ h⟩, fun ⟨kind, h⟩ => ⟨_, h, rfl⟩⟩

namespace Matching

/-! ### What a request names -/

/-- The type that the routine of a request maps from. -/
def Request.source : Request → String
  | nested s _ | enum s _ => s

/-- The type that the routine of a request maps to. -/
def Request.target : Request → String
  | nested _ t | enum _ t => t

/-- The kind of the references that a request comes from. -/
def Request.kind : Request → RefKind
  | nested .. => .object
  | enum .. => .enum

/-- The kind of conversion that the routine of a request is called for. -/
def Request.conversionKind : Request → ConversionKind
  | nested .. => .nested
  | enum .. => .enum

/-- A request is known by its pair of types and its kind of conversion. -/
theorem Request.eq_of_conversionKind {a b : Request} (hs : a.source = b.source)
    (ht : a.target = b.target) (hkind : a.conversionKind = b.conversionKind) : a = b := by
  cases a <;> cases b <;> cases hkind <;> cases hs <;> cases ht <;> rfl

variable {g g' : TypeGraph} {σ : Type}

/-- Does a request stand for references inside two types: of its kind, and under its names? -/
def Request.Within (request : Request) (source target : TypeRef) : Prop :=
  (∃ r : TypeRef, r.Part source ∧ r.kind = request.kind ∧ r.name = request.source) ∧
    ∃ r : TypeRef, r.Part target ∧ r.kind = request.kind ∧ r.name = request.target

theorem Request.Within.whole {request : Request} {source target : TypeRef}
    (hs : source.kind = request.kind) (ht : target.kind = request.kind)
    (hsn : source.name = request.source) (htn : target.name = request.target) :
    request.Within source target :=
  ⟨⟨source, .whole, hs, hsn⟩, target, .whole, ht, htn⟩

theorem Request.Within.inside {request : Request} {a b : TypeRef} {n k as c u target}
    (h : request.Within a b) (ha : a ∈ as) (hb : b ∈ TypeRef.args target) :
    request.Within (.mk n k as c u) target := by
  obtain ⟨⟨r, hr, hrest⟩, q, hq, hqrest⟩ := h
  cases target
  exact ⟨⟨r, .inside ha hr, hrest⟩, q, .inside hb hq, hqrest⟩

theorem Request.Within.source_mem {request : Request} {source target : TypeRef}
    (h : request.Within source target) : request.source ∈ source.names := by
  obtain ⟨⟨r, hr, -, hname⟩, -⟩ := h
  exact hname ▸ hr.name_mem

theorem Request.Within.target_mem {request : Request} {source target : TypeRef}
    (h : request.Within source target) : request.target ∈ target.names := by
  obtain ⟨-, r, hr, -, hname⟩ := h
  exact hname ▸ hr.name_mem

/-- A nested request is only made for a target that can be built. -/
def Request.Buildable (g : TypeGraph) : Request → Prop
  | .nested _ t => (g.get? t).any (·.kind.isObject) = true
  | .enum .. => True

mutual

/-- The request of a need stands for references inside the two types. -/
theorem needOf_request : ∀ {source target : TypeRef} {need : Need} {request : Request},
    needOf g source target = .ok need → need.request? = some request →
      request.Within source target ∧ request.Buildable g
  | .mk name kind args container nullable, target, need, request, hneed, hrequest => by
    unfold needOf at hneed
    split at hneed
    · -- one type on both sides is copied
      cases hneed
      cases hrequest
    split at hneed
    next htarget _ =>
      -- two objects: a subclass is copied, and a type that cannot be built is left unmatched
      split at hneed
      · cases hneed
        cases hrequest
      split at hneed
      next hbuildable =>
        cases hneed
        cases hrequest
        exact ⟨.whole rfl htarget rfl rfl, hbuildable⟩
      · cases hneed
        cases hrequest
    next htarget _ =>
      cases hneed
      cases hrequest
      exact ⟨.whole rfl htarget rfl rfl, trivial⟩
    next =>
      -- two collections ask for what their elements do
      obtain ⟨element, helement, hpure⟩ := Steps.bind_eq_ok.1 hneed
      cases hpure
      obtain ⟨a, ha, b, hb, hwithin, hbuildable⟩ := elementNeed_request helement hrequest
      exact ⟨hwithin.inside ha hb, hbuildable⟩
    next =>
      split at hneed
      · cases hneed
        cases hrequest
      · cases hneed
        cases hrequest
    next =>
      cases hneed
      cases hrequest

theorem elementNeed_request : ∀ {sources targets : List TypeRef} {need : Need} {request : Request},
    elementNeed g sources targets = .ok need → need.request? = some request →
      ∃ a ∈ sources, ∃ b ∈ targets, request.Within a b ∧ request.Buildable g
  | source :: _, target :: _, need, request, hneed, hrequest => by
    unfold elementNeed at hneed
    exact ⟨source, List.mem_cons_self, target, List.mem_cons_self, needOf_request hneed hrequest⟩
  | [], _, _, _, hneed, _ => by
    simp [elementNeed] at hneed
  | _ :: _, [], _, _, hneed, _ => by
    simp [elementNeed] at hneed

end

/-! ### Findings under settled answers -/

section Settled

variable {supply : Supplier σ} {answer : Request → Option RoutineRef} {os : List (Member × Outcome)}

/-- The conversion between two types when requests are answered once and for all. -/
def conversionWith (g : TypeGraph) (answer : Request → Option RoutineRef) (source target : TypeRef) :
    Conversion :=
  match needOf g source target with
  | .ok need => need.settle (need.request?.bind answer)
  | .error _ => .unconvertible

/-- What is found for a target member when requests are answered once and for all. -/
def findingWith (g : TypeGraph) (answer : Request → Option RoutineRef) (target : Member) :
    Outcome → Finding
  | .ignored => .ignored
  | .ambiguous sources => .ambiguous sources
  | .unmatched => .unmatched
  | .bound b => .bound (b.toMapping target (conversionWith g answer b.read.type target.type))

/-- The request that the outcome for a target member calls for. -/
def Outcome.request? (g : TypeGraph) (target : Member) : Outcome → Option Request
  | .bound b => match needOf g b.read.type target.type with
    | .ok need => need.request?
    | .error _ => none
  | _ => none

/-- The requests that outcomes call for, in order. -/
def requests (g : TypeGraph) (os : List (Member × Outcome)) : List Request :=
  os.filterMap fun (m, o) => o.request? g m

theorem classify_run {source target : TypeRef} {s s' : σ} {c : Conversion} :
    (classify g supply source target).run s = .ok (c, s') ↔
      ∃ need, needOf g source target = .ok need ∧
        match need.request? with
        | some request => ∃ r, (supply request).run s = .ok (r, s') ∧ c = need.settle r
        | none => c = need.settle none ∧ s = s' := by
  unfold classify
  rw [Steps.run_bind_eq_ok]
  constructor
  · rintro ⟨need, t, hlift, hrest⟩
    obtain ⟨hneed, rfl⟩ := Steps.run_lift_eq_ok.1 hlift
    refine ⟨need, hneed, ?_⟩
    cases hrequest : need.request? with
    | none =>
      rw [hrequest] at hrest
      obtain ⟨rfl, rfl⟩ := Steps.run_pure_eq_ok.1 hrest
      exact ⟨rfl, rfl⟩
    | some request =>
      rw [hrequest] at hrest
      obtain ⟨r, t, hr, hpure⟩ := Steps.run_bind_eq_ok.1 hrest
      obtain ⟨rfl, rfl⟩ := Steps.run_pure_eq_ok.1 hpure
      exact ⟨r, hr, rfl⟩
  · rintro ⟨need, hneed, hrest⟩
    refine ⟨need, s, Steps.run_lift_eq_ok.2 ⟨hneed, rfl⟩, ?_⟩
    cases hrequest : need.request? with
    | none =>
      rw [hrequest] at hrest
      obtain ⟨rfl, rfl⟩ := hrest
      exact Steps.run_pure_eq_ok.2 ⟨rfl, rfl⟩
    | some request =>
      rw [hrequest] at hrest
      obtain ⟨r, hr, rfl⟩ := hrest
      exact Steps.run_bind_eq_ok.2 ⟨r, s', hr, Steps.run_pure_eq_ok.2 ⟨rfl, rfl⟩⟩

/-- An order in which a supplier's state grows, with what it has done for a request staying done. -/
structure Growth (Grown : σ → σ → Prop) (Done : Request → σ → Prop) : Prop where
  refl : ∀ s, Grown s s
  trans : ∀ {s t u}, Grown s t → Grown t u → Grown s u
  keeps : ∀ {request s t}, Grown s t → Done request s → Done request t

/-- How a supplier with settled answers moves its state for a request: it keeps an invariant, the
state grows, and the request gets done. -/
def Supplies (supply : Supplier σ) (answer : Request → Option RoutineRef) (Inv : σ → Prop)
    (Grown : σ → σ → Prop) (Done : Request → σ → Prop) (request : Request) : Prop :=
  ∀ {s r s'}, Inv s → (supply request).run s = .ok (r, s') →
    r = answer request ∧ Inv s' ∧ Grown s s' ∧ Done request s'

variable {Inv : σ → Prop} {Grown : σ → σ → Prop} {Done : Request → σ → Prop}

theorem settle_run {m : Member} {o : Outcome} {s s' : σ} {f : Finding} (hgrowth : Growth Grown Done)
    (hsupply : ∀ request, o.request? g m = some request →
      Supplies supply answer Inv Grown Done request)
    (hs : Inv s) (hrun : (settle g supply m o).run s = .ok (f, s')) :
    f = findingWith g answer m o ∧ Inv s' ∧ Grown s s' ∧
      ∀ request, o.request? g m = some request → Done request s' := by
  cases o with
  | ignored | ambiguous | unmatched =>
    obtain ⟨rfl, rfl⟩ := Steps.run_pure_eq_ok.1 hrun
    exact ⟨rfl, hs, hgrowth.refl s, nofun⟩
  | bound b =>
    obtain ⟨c, t, hc, hpure⟩ := Steps.run_bind_eq_ok.1 hrun
    obtain ⟨rfl, rfl⟩ := Steps.run_pure_eq_ok.1 hpure
    obtain ⟨need, hneed, hrest⟩ := classify_run.1 hc
    have hasked : Outcome.request? g m (.bound b) = need.request? := by
      simp only [Outcome.request?, hneed]
    have hconversion : conversionWith g answer b.read.type m.type =
        need.settle (need.request?.bind answer) := by
      simp only [conversionWith, hneed]
    rw [hasked] at hsupply ⊢
    rw [findingWith, hconversion]
    cases hrequest : need.request? with
    | none =>
      rw [hrequest] at hrest
      obtain ⟨rfl, rfl⟩ := hrest
      exact ⟨rfl, hs, hgrowth.refl s, nofun⟩
    | some request =>
      rw [hrequest] at hrest
      obtain ⟨r, hr, rfl⟩ := hrest
      obtain ⟨rfl, hinv, hgrown, hdone⟩ := hsupply request hrequest hs hr
      refine ⟨rfl, hinv, hgrown, fun _ h => ?_⟩
      cases h
      exact hdone

/-- **Matching with settled answers**: a run finds what the answers alone determine, keeps the
supplier's invariant, and gets every request done that the outcomes call for. -/
theorem settleAll_run {s s' : σ} {fs : List (Member × Finding)} (hgrowth : Growth Grown Done)
    (hsupply : ∀ request ∈ requests g os, Supplies supply answer Inv Grown Done request) (hs : Inv s)
    (hrun : (settleAll g supply os).run s = .ok (fs, s')) :
    fs = os.map (fun (m, o) => (m, findingWith g answer m o)) ∧ Inv s' ∧ Grown s s' ∧
      ∀ request ∈ requests g os, Done request s' := by
  -- what the first member gets done stays done while the others are settled
  induction os generalizing s fs with
  | nil =>
    obtain ⟨rfl, rfl⟩ := Steps.run_pure_eq_ok.1 hrun
    exact ⟨rfl, hs, hgrowth.refl s, nofun⟩
  | cons mo os ih =>
    obtain ⟨m, o⟩ := mo
    obtain ⟨f, t, hf, hrest⟩ := Steps.run_bind_eq_ok.1 hrun
    obtain ⟨fs', t', hfs, hpure⟩ := Steps.run_bind_eq_ok.1 hrest
    obtain ⟨rfl, rfl⟩ := Steps.run_pure_eq_ok.1 hpure
    have hmem : ∀ request, request ∈ requests g ((m, o) :: os) ↔
        o.request? g m = some request ∨ request ∈ requests g os := fun request => by
      simp only [requests, List.mem_filterMap, List.mem_cons, or_and_right, exists_or,
        exists_eq_left]
    obtain ⟨rfl, ht, hgrown, hdone⟩ :=
      settle_run hgrowth (fun request h => hsupply request ((hmem request).2 (.inl h))) hs hf
    obtain ⟨rfl, hs', hgrown', hdone'⟩ :=
      ih (fun request h => hsupply request ((hmem request).2 (.inr h))) ht hfs
    refine ⟨rfl, hs', hgrowth.trans hgrown hgrown', fun request h => ?_⟩
    rcases (hmem request).1 h with h | h
    · exact hgrowth.keeps hgrown' (hdone request h)
    · exact hdone' request h

/-- What matching finds when requests are answered once and for all. -/
def resultWith (g : TypeGraph) (answer : Request → Option RoutineRef) (o : Options)
    (source target : TypeDescriptor) : MatchResult :=
  assemble o source target
    ((outcomes g o source target).map fun (m, out) => (m, findingWith g answer m out))

theorem matchMembers_run {o : Options} {source target : TypeDescriptor} {s s' : σ} {r : MatchResult}
    (hgrowth : Growth Grown Done)
    (hsupply : ∀ request ∈ requests g (outcomes g o source target),
      Supplies supply answer Inv Grown Done request) (hs : Inv s)
    (hrun : (matchMembers g supply o source target).run s = .ok (r, s')) :
    r = resultWith g answer o source target ∧ Inv s' ∧ Grown s s' ∧
      ∀ request ∈ requests g (outcomes g o source target), Done request s' := by
  obtain ⟨fs, t, hfs, hpure⟩ := Steps.run_bind_eq_ok.1 hrun
  obtain ⟨rfl, rfl⟩ := Steps.run_pure_eq_ok.1 hpure
  obtain ⟨rfl, hrest⟩ := settleAll_run hgrowth hsupply hs hfs
  exact ⟨rfl, hrest⟩

/-! ### The routines that are called -/

theorem uses_settle_none (need : Need) : (need.settle none).uses = [] := by
  induction need with
  | direct | unconvertible | builtin | routine => rfl
  | collection element container nullable ih =>
    unfold Need.settle
    simp only
    split
    · rfl
    · exact ih

/-- A need that is given its routine is met, and uses that routine alone. -/
theorem settle_some {need : Need} {request : Request} {r : RoutineRef}
    (h : need.request? = some request) :
    (need.settle (some r)).kind ≠ .unconvertible ∧
      (need.settle (some r)).uses = [(request.conversionKind, r)] := by
  induction need with
  | direct | unconvertible | builtin => cases h
  | routine other nullable =>
    cases h
    cases request with
    | nested | enum => exact ⟨nofun, rfl⟩
  | collection element container nullable ih =>
    obtain ⟨hkind, huses⟩ := ih h
    unfold Need.settle
    simp only [if_neg hkind]
    exact ⟨nofun, huses⟩

/-- A conversion uses the routine that its request is answered with, if it uses any. -/
theorem mem_uses_conversionWith {source target : TypeRef} {kind : ConversionKind} {r : RoutineRef} :
    (kind, r) ∈ (conversionWith g answer source target).uses ↔
      ∃ need request, needOf g source target = .ok need ∧ need.request? = some request ∧
        answer request = some r ∧ request.conversionKind = kind := by
  unfold conversionWith
  cases hneed : needOf g source target with
  | error e => exact ⟨nofun, fun ⟨_, _, h, _⟩ => by cases h⟩
  | ok need =>
    simp only [Except.ok.injEq]
    cases hrequest : need.request? with
    | none =>
      rw [Option.bind_none, uses_settle_none]
      exact ⟨nofun, fun ⟨_, _, h, hr, _⟩ => by rw [← h, hrequest] at hr; cases hr⟩
    | some request =>
      rw [Option.bind_some]
      cases hanswer : answer request with
      | none =>
        rw [uses_settle_none]
        refine ⟨nofun, fun ⟨_, _, h, hr, ha, _⟩ => ?_⟩
        rw [← h, hrequest] at hr
        cases hr
        rw [hanswer] at ha
        cases ha
      | some q =>
        rw [(settle_some hrequest).2, List.mem_singleton, Prod.mk.injEq]
        constructor
        · rintro ⟨rfl, rfl⟩
          exact ⟨need, request, rfl, hrequest, hanswer, rfl⟩
        · rintro ⟨_, _, h, hr, ha, rfl⟩
          rw [← h, hrequest] at hr
          cases hr
          rw [hanswer] at ha
          exact ⟨rfl, (Option.some.inj ha).symm⟩

/-- The mappings that matching finds under settled answers. -/
theorem mem_mappings_resultWith {o : Options} {source target : TypeDescriptor}
    {m : PropertyMapping} :
    m ∈ (resultWith g answer o source target).mappings ↔
      ∃ member b, (member, Outcome.bound b) ∈ outcomes g o source target ∧
        m = b.toMapping member (conversionWith g answer b.read.type member.type) ∧
        m.conversion.kind ≠ .unconvertible := by
  simp only [resultWith, assemble, List.mem_filterMap, List.mem_map, Prod.exists]
  constructor
  · rintro ⟨member, f, ⟨member', out, hout, hf⟩, hm⟩
    cases hf
    cases out with
    | ignored | ambiguous | unmatched => cases hm
    | bound b =>
      simp only [findingWith, Finding.mapping?] at hm
      split at hm
      · cases hm
      next hkind =>
        cases hm
        exact ⟨member, b, hout, rfl, hkind⟩
  · rintro ⟨member, b, hout, rfl, hkind⟩
    refine ⟨member, _, ⟨member, .bound b, hout, rfl⟩, ?_⟩
    simp only [findingWith, Finding.mapping?]
    exact if_neg hkind

/-- **The routines that matching uses** are the answers to the requests that it makes, each for the
kind of its request. -/
theorem mem_uses_resultWith {o : Options} {source target : TypeDescriptor} {kind : ConversionKind}
    {r : RoutineRef} :
    (kind, r) ∈ (resultWith g answer o source target).mappings.flatMap (·.conversion.uses) ↔
      ∃ request ∈ requests g (outcomes g o source target),
        answer request = some r ∧ request.conversionKind = kind := by
  simp only [List.mem_flatMap, mem_mappings_resultWith, requests, List.mem_filterMap, Prod.exists]
  constructor
  · rintro ⟨_, ⟨member, b, hout, rfl, -⟩, hr⟩
    obtain ⟨need, request, hneed, hrequest, hanswer⟩ := mem_uses_conversionWith.1 hr
    refine ⟨request, ⟨member, _, hout, ?_⟩, hanswer⟩
    simp only [Outcome.request?, hneed, hrequest]
  · rintro ⟨request, ⟨member, out, hout, hrequest⟩, hanswer, hkind⟩
    cases out with
    | ignored | ambiguous | unmatched => cases hrequest
    | bound b =>
      simp only [Outcome.request?] at hrequest
      split at hrequest
      next need hneed =>
        refine ⟨_, ⟨member, b, hout, rfl, ?_⟩,
          mem_uses_conversionWith.2 ⟨need, request, hneed, hrequest, hanswer, hkind⟩⟩
        simp only [Binding.toMapping, conversionWith, hneed, hrequest, Option.bind_some, hanswer]
        exact (settle_some hrequest).1
      · cases hrequest

end Settled

/-! ### Direct routines -/

section Direct

variable {o : Options} {source target : TypeDescriptor} {t : Member}

/-- The direct routine of a pair of types in the graph. -/
def directAnswer (g : TypeGraph) (request : Request) : Option RoutineRef :=
  match g.get? request.source, g.get? request.target with
  | some s, some t =>
    some ⟨RoutineName.forward s.name t.name, request.source, request.target, t.module, false⟩
  | _, _ => none

theorem directSupplier_run {request : Request} :
    (directSupplier g request).run () = .ok (directAnswer g request, ()) := by
  cases request with
  | nested s t | enum s t =>
    simp only [directSupplier, directAnswer, Request.source, Request.target]
    cases g.get? s with
    | none => rfl
    | some source => cases g.get? t <;> rfl

theorem classify_direct {a b : TypeRef} {c : Conversion} {u : Unit} :
    (classify g (directSupplier g) a b).run () = .ok (c, u) ↔
      (∃ need, needOf g a b = .ok need) ∧ c = conversionWith g (directAnswer g) a b := by
  rw [classify_run, ← exists_and_right]
  refine exists_congr fun need => and_congr_right fun hneed => ?_
  simp only [conversionWith, hneed]
  cases need.request? with
  | none => exact and_iff_left trivial
  | some request =>
    simp only [directSupplier_run, Except.ok.injEq, Prod.mk.injEq, Option.bind_some]
    constructor
    · rintro ⟨_, ⟨rfl, -⟩, rfl⟩
      rfl
    · rintro rfl
      exact ⟨_, ⟨rfl, trivial⟩, rfl⟩

theorem settle_direct {out : Outcome} {f : Finding} {u : Unit} :
    (settle g (directSupplier g) t out).run () = .ok (f, u) ↔
      (∀ b, out = .bound b → ∃ need, needOf g b.read.type t.type = .ok need) ∧
        f = findingWith g (directAnswer g) t out := by
  cases out with
  | ignored | ambiguous | unmatched =>
    refine Steps.run_pure_eq_ok.trans ⟨fun h => ⟨nofun, h.1.symm⟩, fun h => ⟨h.2.symm, rfl⟩⟩
  | bound b =>
    refine Steps.run_bind_eq_ok.trans ⟨?_, ?_⟩
    · rintro ⟨c, _, hc, hpure⟩
      obtain ⟨hneed, rfl⟩ := classify_direct.1 hc
      obtain ⟨rfl, -⟩ := Steps.run_pure_eq_ok.1 hpure
      refine ⟨fun b' hb' => ?_, rfl⟩
      cases hb'
      exact hneed
    · rintro ⟨hneed, rfl⟩
      exact ⟨_, (), classify_direct.2 ⟨hneed b rfl, rfl⟩, Steps.run_pure_eq_ok.2 ⟨rfl, rfl⟩⟩

theorem settleAll_direct {os : List (Member × Outcome)} {fs : List (Member × Finding)} {u : Unit} :
    (settleAll g (directSupplier g) os).run () = .ok (fs, u) ↔
      (∀ t b, (t, Outcome.bound b) ∈ os → ∃ need, needOf g b.read.type t.type = .ok need) ∧
        fs = os.map fun (t, out) => (t, findingWith g (directAnswer g) t out) := by
  induction os generalizing fs with
  | nil =>
    refine Steps.run_pure_eq_ok.trans ⟨fun h => ⟨fun _ _ hmem => ?_, h.1.symm⟩, fun h => ⟨h.2.symm, rfl⟩⟩
    cases hmem
  | cons e os ih =>
    obtain ⟨t, out⟩ := e
    refine Steps.run_bind_eq_ok.trans ⟨?_, ?_⟩
    · rintro ⟨f, _, hf, hrest⟩
      obtain ⟨fs', _, hfs, hpure⟩ := Steps.run_bind_eq_ok.1 hrest
      obtain ⟨hneed, rfl⟩ := settle_direct.1 hf
      obtain ⟨hneeds, rfl⟩ := ih.1 hfs
      obtain ⟨rfl, -⟩ := Steps.run_pure_eq_ok.1 hpure
      refine ⟨fun t' b hmem => ?_, rfl⟩
      rcases List.mem_cons.1 hmem with heq | hmem
      · cases heq
        exact hneed b rfl
      · exact hneeds t' b hmem
    · rintro ⟨hneeds, rfl⟩
      refine ⟨_, (), settle_direct.2 ⟨?_, rfl⟩, Steps.run_bind_eq_ok.2 ⟨_, (), ih.2 ⟨?_, rfl⟩, rfl⟩⟩
      · rintro b rfl
        exact hneeds t b List.mem_cons_self
      · exact fun t' b hmem => hneeds t' b (List.mem_cons_of_mem _ hmem)

/-- With direct routines matching gives a result exactly if the types of the members that feed each other
can be compared, and the result is then the one under these answers. -/
theorem matchMembers_direct {res : MatchResult} {u : Unit} :
    (matchMembers g (directSupplier g) o source target).run () = .ok (res, u) ↔
      (∀ t ∈ targetMembers o target, ∀ b, outcome g o source t = .bound b →
        ∃ need, needOf g b.read.type t.type = .ok need) ∧
        res = resultWith g (directAnswer g) o source target := by
  have hneeds : (∀ t b, (t, Outcome.bound b) ∈ outcomes g o source target →
      ∃ need, needOf g b.read.type t.type = .ok need) ↔
      ∀ t ∈ targetMembers o target, ∀ b, outcome g o source t = .bound b →
        ∃ need, needOf g b.read.type t.type = .ok need := by
    constructor
    · exact fun h t ht b hb => h t b (List.mem_map.2 ⟨t, ht, by rw [hb]⟩)
    · intro h t b hmem
      obtain ⟨t, ht, heq⟩ := List.mem_map.1 hmem
      obtain ⟨rfl, hb⟩ := Prod.mk.injEq .. ▸ heq
      exact h t ht b hb
  rw [← hneeds]
  refine Steps.run_bind_eq_ok.trans ⟨?_, ?_⟩
  · rintro ⟨fs, _, hfs, hpure⟩
    obtain ⟨hall, rfl⟩ := settleAll_direct.1 hfs
    obtain ⟨rfl, -⟩ := Steps.run_pure_eq_ok.1 hpure
    exact ⟨hall, rfl⟩
  · rintro ⟨hall, rfl⟩
    exact ⟨_, (), settleAll_direct.2 ⟨hall, rfl⟩, rfl⟩

end Direct

/-! ### What a search reads -/

/-- May a mapping read a member: is it readable and not left out, and does it take part as far as privacy
goes? -/
def Options.Reads (o : Options) (m : Member) : Prop :=
  m.readable = true ∧ m.ignored = false ∧ o.admits m = true

/-- Both the members with a declared target and those that are found by name may be read. -/
theorem reads_of_mem_filter {o : Options} {source : TypeDescriptor} {test : Member → Bool} {m : Member}
    (h : m ∈ (sourceMembers o source).filter fun m => test m && !m.ignored) :
    m ∈ source.members ∧ o.Reads m := by
  obtain ⟨hsource, htest⟩ := List.mem_filter.1 h
  obtain ⟨hmem, hread⟩ := List.mem_filter.1 hsource
  obtain ⟨hreadable, hadmits⟩ := Bool.and_eq_true_iff.1 hread
  obtain ⟨-, hignored⟩ := Bool.and_eq_true_iff.1 htest
  exact ⟨hmem, hreadable, by simpa using hignored, hadmits⟩

theorem reads_of_mem_hits {o : Options} {source : TypeDescriptor} {target m : Member}
    (h : m ∈ (hits o source target).1) : m ∈ source.members ∧ o.Reads m := by
  -- all three searches only filter the members that may be read
  unfold hits at h
  split at h
  next hdeclared =>
    rw [← hdeclared] at h
    exact reads_of_mem_filter (List.mem_filter.1 h).1
  split at h
  next hinverse =>
    rw [← hinverse, inverseHits] at h
    split at h
    · exact reads_of_mem_filter (List.mem_filter.1 h).1
    · cases h
  · exact reads_of_mem_filter (List.mem_filter.1 h).1

theorem reads_of_mem_innerMembers {o : Options} {outer m : Member} (h : m ∈ innerMembers g o outer) :
    ∃ t, g.get? outer.type.name = some t ∧ m ∈ t.members ∧ o.Reads m := by
  unfold innerMembers at h
  split at h
  · split at h
    next t ht =>
      split at h
      · obtain ⟨hmem, hread⟩ := List.mem_filter.1 h
        simp only [Bool.and_eq_true, Bool.not_eq_true'] at hread
        exact ⟨t, ht, hmem, hread.1.1, hread.1.2, hread.2⟩
      · cases h
    · cases h
  · cases h

/-- **What a search finds** in a source type: a member that may be read, or one inside the type of such a
member. -/
inductive Found (g : TypeGraph) (o : Options) (source : TypeDescriptor) : Binding → Prop
  /-- A member of the source. -/
  | own {m kind} (hm : m ∈ source.members) (h : o.Reads m) : Found g o source ⟨m, kind, [], false⟩
  /-- A member inside another one. -/
  | inner {outer nested m} (houter : outer ∈ source.members) (h : o.Reads outer)
      (hnested : g.get? outer.type.name = some nested) (hm : m ∈ nested.members) (hinner : o.Reads m) :
    Found g o source ⟨m, .flattened, [outer.name, m.name], outer.type.nullable⟩

theorem found_of_outcome {o : Options} {source : TypeDescriptor} {target : Member} {b : Binding}
    (h : outcome g o source target = .bound b) : target.ignored = false ∧ Found g o source b := by
  unfold outcome at h
  split at h
  · cases h
  next hignored =>
  refine ⟨Bool.eq_false_iff.2 hignored, ?_⟩
  split at h
  next s kind hhits =>
    cases h
    have hmem : s ∈ (hits o source target).1 := by
      rw [hhits]
      exact List.mem_cons_self
    obtain ⟨hs, hreads⟩ := reads_of_mem_hits hmem
    exact .own hs hreads
  · cases h
  · split at h
    · split at h
      next b' hflat =>
        cases h
        obtain ⟨outer, houter, hinner⟩ := List.exists_of_findSome?_eq_some hflat
        obtain ⟨inner, hfound, rfl⟩ := Option.map_eq_some_iff.1 hinner
        obtain ⟨houter, hreads⟩ := reads_of_mem_filter houter
        obtain ⟨nested, hnested, hm, hinner⟩ :=
          reads_of_mem_innerMembers (List.mem_of_find?_eq_some hfound)
        exact .inner houter hreads hnested hm hinner
      · cases h
    · cases h

theorem found_of_mem_outcomes {o : Options} {source target : TypeDescriptor} {member : Member}
    {b : Binding} (h : (member, Outcome.bound b) ∈ outcomes g o source target) :
    member.ignored = false ∧ Found g o source b := by
  obtain ⟨m, -, heq⟩ := List.mem_map.1 h
  obtain ⟨rfl, hout⟩ := Prod.mk.injEq .. ▸ heq
  exact found_of_outcome hout

/-- The member that a search finds belongs to the source, or to the type of one of its members. -/
theorem read_of_mem_outcomes {o : Options} {source target : TypeDescriptor} {member : Member}
    {b : Binding} (h : (member, Outcome.bound b) ∈ outcomes g o source target) :
    b.read ∈ source.members ∨
      ∃ outer ∈ source.members, ∃ t, g.get? outer.type.name = some t ∧ b.read ∈ t.members := by
  cases (found_of_mem_outcomes h).2 with
  | own hm _ => exact .inl hm
  | inner houter _ hnested hm _ => exact .inr ⟨_, houter, _, hnested, hm⟩

theorem mem_targetMembers {o : Options} {source target : TypeDescriptor} {member : Member}
    {out : Outcome} (h : (member, out) ∈ outcomes g o source target) :
    member ∈ targetMembers o target := by
  obtain ⟨m, hm, heq⟩ := List.mem_map.1 h
  obtain ⟨rfl, -⟩ := Prod.mk.injEq .. ▸ heq
  exact hm

theorem mem_of_mem_outcomes {o : Options} {source target : TypeDescriptor} {member : Member}
    {out : Outcome} (h : (member, out) ∈ outcomes g o source target) : member ∈ target.members :=
  (List.mem_filter.1 (mem_targetMembers h)).1

/-! ### Graphs that agree on what is read -/

section Agreement

theorem isSubclass_congr {derived base : String} (h : g.get? derived = g'.get? derived) :
    g.isSubclass derived base = g'.isSubclass derived base := by
  rw [TypeGraph.isSubclass, TypeGraph.isSubclass, h]

mutual

/-- What two types need depends on the graph through the ancestors of the types that the one names, and
through which of those that the other names can be built. -/
theorem needOf_congr : ∀ {source target : TypeRef},
    (∀ n ∈ source.names, ∀ base, g.isSubclass n base = g'.isSubclass n base) →
      (∀ n ∈ target.names, (g.get? n).any (·.kind.isObject) = (g'.get? n).any (·.kind.isObject)) →
      needOf g source target = needOf g' source target
  | .mk name kind args container nullable, target, hs, ht => by
    have hsub : g.isSubclass name target.name = g'.isSubclass name target.name :=
      hs name (TypeRef.name_mem_names (.mk name kind args container nullable)) _
    have helements : elementNeed g args target.args = elementNeed g' args target.args := by
      refine elementNeed_congr (fun a ha n hn => hs n ?_) fun b hb n hn => ht n ?_
      · exact List.mem_cons_of_mem _ (TypeRef.mem_namesAll.2 ⟨a, ha, hn⟩)
      · cases target
        exact List.mem_cons_of_mem _ (TypeRef.mem_namesAll.2 ⟨b, hb, hn⟩)
    unfold needOf
    simp only [hsub, ht target.name target.name_mem_names, helements]

theorem elementNeed_congr : ∀ {sources targets : List TypeRef},
    (∀ a ∈ sources, ∀ n ∈ a.names, ∀ base, g.isSubclass n base = g'.isSubclass n base) →
      (∀ b ∈ targets, ∀ n ∈ b.names,
        (g.get? n).any (·.kind.isObject) = (g'.get? n).any (·.kind.isObject)) →
      elementNeed g sources targets = elementNeed g' sources targets
  | source :: _, target :: _, hs, ht => by
    unfold elementNeed
    exact needOf_congr (hs source List.mem_cons_self) (ht target List.mem_cons_self)
  | [], _, _, _ => by
    unfold elementNeed
    rfl
  | _ :: _, [], _, _ => by
    unfold elementNeed
    rfl

end

theorem findSome?_congr {α β : Type} {f f' : α → Option β} {xs : List α}
    (h : ∀ x ∈ xs, f x = f' x) : xs.findSome? f = xs.findSome? f' := by
  induction xs with
  | nil => rfl
  | cons x xs ih =>
    rw [List.findSome?_cons, List.findSome?_cons, h x List.mem_cons_self,
      ih fun y hy => h y (List.mem_cons_of_mem _ hy)]

theorem outcomes_congr {o : Options} {source target : TypeDescriptor}
    (h : ∀ m ∈ source.members, g.get? m.type.name = g'.get? m.type.name) :
    outcomes g o source target = outcomes g' o source target := by
  -- the graph is only asked for the types of source members, to look inside them
  have hflat : ∀ member, flattenedBinding g o source member = flattenedBinding g' o source member := by
    intro member
    unfold flattenedBinding
    refine findSome?_congr fun outer houter => ?_
    have hmem : outer ∈ source.members := (List.mem_filter.1 (List.mem_filter.1 houter).1).1
    rw [innerMembers, innerMembers, h outer hmem]
  unfold outcomes outcome
  simp only [hflat]

variable {supply supply' : Supplier σ} {os : List (Member × Outcome)}

theorem classify_congr {source target : TypeRef}
    (hneed : needOf g source target = needOf g' source target)
    (hsupply : ∀ need request, needOf g source target = .ok need → need.request? = some request →
      supply request = supply' request) :
    classify g supply source target = classify g' supply' source target := by
  unfold classify
  rw [← hneed]
  cases hn : needOf g source target with
  | error e => rw [Steps.lift_error_bind, Steps.lift_error_bind]
  | ok need =>
    rw [Steps.lift_ok_bind, Steps.lift_ok_bind]
    cases hrequest : need.request? with
    | none => rfl
    | some request =>
      simp only
      rw [hsupply need request hn hrequest]

/-- Matching runs alike over graphs in which the compared types need the same, with suppliers that
do the same for the requests that are made. -/
theorem settleAll_congr
    (hneed : ∀ m b, (m, Outcome.bound b) ∈ os →
      needOf g b.read.type m.type = needOf g' b.read.type m.type)
    (hsupply : ∀ request ∈ requests g os, supply request = supply' request) :
    settleAll g supply os = settleAll g' supply' os := by
  induction os with
  | nil => rfl
  | cons mo os ih =>
    obtain ⟨m, o⟩ := mo
    have hsettle : settle g supply m o = settle g' supply' m o := by
      cases o with
      | ignored | ambiguous | unmatched => rfl
      | bound b =>
        simp only [settle]
        rw [classify_congr (hneed m b List.mem_cons_self) fun need request hn hrequest =>
          hsupply request (List.mem_filterMap.2 ⟨_, List.mem_cons_self, ?_⟩)]
        simp only [Outcome.request?, hn, hrequest]
    unfold settleAll
    rw [hsettle, ih (fun m b h => hneed m b (List.mem_cons_of_mem _ h)) fun request h =>
      hsupply request ?_]
    obtain ⟨mo, hmo, hrequest⟩ := List.mem_filterMap.1 h
    exact List.mem_filterMap.2 ⟨mo, List.mem_cons_of_mem _ hmo, hrequest⟩

end Agreement

end Matching

end Mapsmith
