import Mapsmith.Proofs.PublicRoutines
import Mapsmith.Proofs.References

/-!
# Where a dispatch hands values on to

The routine of a plan with derived pairs begins with a dispatch. Its branches are tried in order,
and a branch takes the values of its class and of every heir of it. So a value of a derived class is
handed on by the first branch whose class is that one or an ancestor of it. Branches stand in order
of declaration: one is passed over where its class, or an ancestor of it, was declared before. Each
branch takes the values of its own class exactly if that never happens
(`Mapsmith.Generation.routed_iff`).
-/

namespace Mapsmith

theorem TypeGraph.isSubclass_self {g : TypeGraph} {cls : String} : g.isSubclass cls cls = true := by
  rw [isSubclass, beq_self_eq_true, Bool.true_or]

namespace Emission

variable {config : Config} {ns : String} {plans : List Plan} {p : Plan} {u : GeneratedUnit}
  {all : List Routine} {g : TypeGraph} {site : Site} {m : ObjectMapping} {cls : String} {i : Nat}
  {entry : DispatchEntry}

/-! ### Running a dispatch -/

/-- The branch that takes a value of a class, by its place, and what it calls. Branches are tried in
order; each takes the values of its class and of the heirs of it. -/
def firstTaking (g : TypeGraph) (cls : String) : List (String × Callee) → Option (Nat × Callee)
  | [] => none
  | (branch, callee) :: rest =>
    if g.isSubclass cls branch then some (0, callee)
    else (firstTaking g cls rest).map fun (i, callee) => (i + 1, callee)

/-- Where the statements of a routine hand a value of a class on to, if they do so before anything
else is done with it. -/
def handedTo (g : TypeGraph) (cls : String) : List Statement → Option (Nat × Callee)
  | .docstring _ :: rest => handedTo g cls rest
  | .dispatch branches :: _ => firstTaking g cls branches
  | _ => none

/-- The branches that dispatch entries are written as. -/
def branches (site : Site) (entries : List DispatchEntry) : List (String × Callee) :=
  entries.map fun entry => (entry.source, site.callee entry.routine)

/-- The routine of a mapping that dispatches begins with its branches. -/
theorem handedTo_forward {isPublic : Bool} {r : Routine} (h : site.forward isPublic m = .ok r)
    (hdispatch : m.dispatch ≠ []) :
    handedTo g cls r.body = firstTaking g cls (branches site m.dispatch) := by
  have hsome : m.dispatch.isEmpty = false := List.isEmpty_eq_false_iff.2 hdispatch
  have hbody : ∃ doc rest, r.body = doc ++ site.dispatch m ++ rest ∧
      (doc = [] ∨ ∃ text, doc = [.docstring text]) := by
    unfold Site.forward at h
    simp only at h
    split at h
    all_goals
      obtain ⟨rest, -, h⟩ := Steps.bind_eq_ok.1 h
      cases h
      refine ⟨_, rest, rfl, ?_⟩
      cases isPublic with
      | false => exact .inl rfl
      | true => exact .inr ⟨_, rfl⟩
  obtain ⟨doc, rest, hbody, hdoc⟩ := hbody
  rw [hbody, Site.dispatch, hsome]
  rcases hdoc with rfl | ⟨text, rfl⟩
  · rfl
  · rfl

/-- **A dispatch hands a value on by the first branch that takes it.** -/
theorem firstTaking_eq_some {entries : List DispatchEntry} {callee : Callee} :
    firstTaking g cls (branches site entries) = some (i, callee) ↔
      ∃ entry, entries[i]? = some entry ∧ site.callee entry.routine = callee ∧
        g.isSubclass cls entry.source = true ∧
        ∀ j < i, ∀ earlier, entries[j]? = some earlier → g.isSubclass cls earlier.source = false := by
  induction entries generalizing i with
  | nil => simp [branches, firstTaking]
  | cons first rest ih =>
    rw [branches, List.map_cons, firstTaking, ← branches]
    split
    next htakes =>
      -- the first branch takes the value, so no later one is the first to do so
      cases i with
      | zero => simp [htakes]
      | succ i =>
        simp only [Option.some.injEq, Prod.mk.injEq, Nat.right_eq_add, Nat.add_eq_zero_iff, one_ne_zero,
          and_false, false_and, false_iff, not_exists, not_and]
        rintro entry - - - hnone
        have hnot := hnone 0 (Nat.succ_pos i) first rfl
        rw [htakes] at hnot
        cases hnot
    next hpasses =>
      cases i with
      | zero => simp [hpasses]
      | succ i =>
        have hshift : ((firstTaking g cls (branches site rest)).map fun (i, callee) =>
              (i + 1, callee)) =
            some (i + 1, callee) ↔ firstTaking g cls (branches site rest) = some (i, callee) := by
          simp [Option.map_eq_some_iff, Prod.ext_iff]
        rw [hshift, ih]
        refine exists_congr fun entry => and_congr_right fun _ => and_congr_right fun _ =>
          and_congr_right fun _ => ⟨fun hnone j hj earlier hearlier => ?_,
            fun hnone j hj earlier hearlier => ?_⟩
        · cases j with
          | zero =>
            cases hearlier
            exact Bool.eq_false_iff.2 hpasses
          | succ j => exact hnone j (Nat.lt_of_succ_lt_succ hj) earlier hearlier
        · exact hnone (j + 1) (Nat.succ_lt_succ hj) earlier hearlier

/-! ### Routines in their units -/

/-- Does a routine stand in the text of a unit? -/
def Holds (u : GeneratedUnit) (r : Routine) : Prop :=
  ∃ above before after names,
    u.source = above ++ Layout.render ((before ++ r :: after).flatMap (·.layout names))

/-- The routine of the declared direction of a plan stands in the unit of the plan. -/
theorem exists_holds_forward (h : UnitOf config ns plans u all) {forward : ObjectMapping}
    {reverse : Option ObjectMapping} {helpers : List Mapping}
    (hp : .object forward reverse helpers ∈ plans) :
    ∃ r, Site.forward ⟨config, ns⟩ true forward = .ok r ∧ Holds u r := by
  obtain ⟨routines, hroutines, -, hinfix, -⟩ := exists_publicRoutines h hp
  obtain ⟨rss, hrss, hflatten⟩ := Steps.bind_eq_ok.1 hroutines
  obtain ⟨rs, hrs, hobject⟩ := Steps.exists_of_mem_left (Steps.mapM_eq_ok.1 hrss) List.mem_cons_self
  obtain ⟨r, hforward, hobject⟩ := Steps.bind_eq_ok.1 hobject
  obtain ⟨updates, -, hobject⟩ := Steps.bind_eq_ok.1 hobject
  have hmem : r ∈ all := by
    refine hinfix.subset ?_
    rw [← Steps.pure_eq_ok.1 hflatten, List.mem_flatten]
    refine ⟨rs, hrs, ?_⟩
    rw [← Steps.pure_eq_ok.1 hobject]
    exact List.mem_append_left _ List.mem_cons_self
  obtain ⟨above, names, hsource⟩ := h.written
  obtain ⟨before, after, rfl⟩ := List.append_of_mem hmem
  exact ⟨r, hforward, above, before, after, names, hsource⟩

end Emission

namespace Generation

open Emission

variable {config : Config} {g : TypeGraph} {cache : Cache} {r : PassResult} {forward : ObjectMapping}
  {reverse : Option ObjectMapping} {helpers : List Mapping} {cls : String} {i : Nat}
  {entry : DispatchEntry}

/-! ### Where values go -/

/-- Does the routine of a mapping, as it stands in a unit of a result, hand a value of a class on by
the branch at a place, to the routine of an entry? -/
def HandsOn (config : Config) (g : TypeGraph) (r : PassResult) (m : ObjectMapping) (cls : String)
    (i : Nat) (entry : DispatchEntry) : Prop :=
  ∃ u ∈ r.units, u.ns = m.routine.home ∧ ∃ routine, Site.forward ⟨config, u.ns⟩ true m = .ok routine ∧
    Holds u routine ∧ handedTo g cls routine.body = some (i, Site.callee ⟨config, u.ns⟩ entry.routine)

/-- Does no branch before a place take the values of a class? -/
def PassedOver (g : TypeGraph) (m : ObjectMapping) (cls : String) (i : Nat) : Prop :=
  ∀ j < i, ∀ earlier, m.dispatch[j]? = some earlier → g.isSubclass cls earlier.source = false

theorem handsOn_of_passedOver (hcache : Used cache) (h : (runPass config g cache).1 = .ok r)
    (hplan : .object forward reverse helpers ∈ r.plans) (hentry : forward.dispatch[i]? = some entry)
    (htakes : g.isSubclass cls entry.source = true) (hpassed : PassedOver g forward cls i) :
    HandsOn config g r forward cls i entry := by
  obtain ⟨u, hu, hns⟩ := exists_unit (units_eq hcache h) hplan
  obtain ⟨all, hunit⟩ := unitOf_of_mem (units_eq hcache h) hu
  obtain ⟨routine, hforward, hholds⟩ := exists_holds_forward hunit (mem_plansOf.2 ⟨hplan, hns.symm⟩)
  have hdispatch : forward.dispatch ≠ [] := List.ne_nil_of_mem (List.mem_of_getElem? hentry)
  refine ⟨u, hu, hns, routine, hforward, hholds, ?_⟩
  rw [handedTo_forward hforward hdispatch]
  exact firstTaking_eq_some.2 ⟨entry, hentry, rfl, htakes, hpassed⟩

theorem passedOver_of_handsOn (hdispatch : forward.dispatch ≠ [])
    (h : HandsOn config g r forward cls i entry) : PassedOver g forward cls i := by
  obtain ⟨u, -, -, routine, hforward, -, hhanded⟩ := h
  rw [handedTo_forward hforward hdispatch] at hhanded
  obtain ⟨-, -, -, -, hpassed⟩ := firstTaking_eq_some.1 hhanded
  exact hpassed

/-- A value of the class of a branch is taken, by that branch or by an earlier one. -/
theorem exists_taking (g : TypeGraph) (hentry : forward.dispatch[i]? = some entry) :
    ∃ j ≤ i, ∃ first, forward.dispatch[j]? = some first ∧
      g.isSubclass entry.source first.source = true ∧ PassedOver g forward entry.source j := by
  have hex : ∃ j : Nat, ∃ first, forward.dispatch[j]? = some first ∧
      g.isSubclass entry.source first.source = true := ⟨i, entry, hentry, TypeGraph.isSubclass_self⟩
  classical
  obtain ⟨first, hfirst, htakes⟩ := Nat.find_spec hex
  have hle : Nat.find hex ≤ i := Nat.find_min' hex ⟨entry, hentry, TypeGraph.isSubclass_self⟩
  refine ⟨Nat.find hex, hle, first, hfirst, htakes, ?_⟩
  intro j hj earlier hearlier
  have hnot := Nat.find_min hex hj
  simpa using fun h => hnot ⟨earlier, hearlier, h⟩

/-- **Is every branch reachable and right?** A value of the class of a branch is handed on by that
very branch, to the routine that the directive declared for its pair defines. -/
def Routed (config : Config) (g : TypeGraph) (r : PassResult) : Prop :=
  ∀ forward reverse helpers, .object forward reverse helpers ∈ r.plans →
    ∀ (i : Nat) entry, forward.dispatch[i]? = some entry →
      CallsDirect (settingOf config g).index entry ∧ HandsOn config g r forward entry.source i entry

/-- **Where a dispatch hands values on to.** Every branch calls the routine that belongs to its
pair, and a value of its class is handed on by the first branch whose class is that one or an
ancestor of it. So all branches are reachable and right exactly if none stands behind one for its
own class or an ancestor of it. -/
theorem routed_iff (hcache : Used cache) (h : (runPass config g cache).1 = .ok r) :
    (∀ forward reverse helpers, .object forward reverse helpers ∈ r.plans →
      ∀ (i : Nat) entry, forward.dispatch[i]? = some entry →
        CallsDirect (settingOf config g).index entry ∧
          ∃ j ≤ i, ∃ first, forward.dispatch[j]? = some first ∧
            g.isSubclass entry.source first.source = true ∧ PassedOver g forward entry.source j ∧
            HandsOn config g r forward entry.source j first) ∧
    (Routed config g r ↔
      ∀ forward reverse helpers, .object forward reverse helpers ∈ r.plans →
        forward.dispatch.Pairwise fun earlier later =>
          g.isSubclass later.source earlier.source = false) := by
  have hdirect : ∀ forward reverse helpers, .object forward reverse helpers ∈ r.plans →
      ∀ (i : Nat) entry, forward.dispatch[i]? = some entry →
        CallsDirect (settingOf config g).index entry := by
    intro forward reverse helpers hplan i entry hentry
    obtain ⟨pair, -, hbranch⟩ :=
      Steps.exists_of_mem_right (branches_of_mem hcache h hplan) (List.mem_of_getElem? hentry)
    exact hbranch.direct
  refine ⟨fun forward reverse helpers hplan i entry hentry =>
      ⟨hdirect forward reverse helpers hplan i entry hentry, ?_⟩,
    fun hrouted forward reverse helpers hplan => ?_,
    fun hapart forward reverse helpers hplan i entry hentry =>
      ⟨hdirect forward reverse helpers hplan i entry hentry, ?_⟩⟩
  · obtain ⟨j, hj, first, hfirst, htakes, hpassed⟩ := exists_taking g hentry
    exact ⟨j, hj, first, hfirst, htakes, hpassed,
      handsOn_of_passedOver hcache h hplan hfirst htakes hpassed⟩
  · rw [List.pairwise_iff_getElem]
    intro i j hi hj hij
    have hentry := List.getElem?_eq_getElem hj
    have hpassed := passedOver_of_handsOn (List.ne_nil_of_mem (List.getElem_mem hj))
      (hrouted forward reverse helpers hplan j _ hentry).2
    exact hpassed i hij _ (List.getElem?_eq_getElem hi)
  · refine handsOn_of_passedOver hcache h hplan hentry TypeGraph.isSubclass_self ?_
    intro j hj earlier hearlier
    obtain ⟨hi, rfl⟩ := List.getElem?_eq_some_iff.1 hentry
    obtain ⟨hjlt, rfl⟩ := List.getElem?_eq_some_iff.1 hearlier
    exact List.pairwise_iff_getElem.1 (hapart forward reverse helpers hplan) j i hjlt hi hj

/-- Animals that are mapped by their kinds: dogs, and puppies, which are dogs. -/
def kennel (dogsFirst : Bool) : TypeGraph :=
  let mapped (name : String) (ancestors : List String) : TypeDescriptor :=
    { name, module := "shop", kind := .cls, ancestors
      directives := [{ source := "shop." ++ name, target := "dto." ++ name }] }
  let target (name : String) (ancestors : List String) : TypeDescriptor :=
    { name, module := "dto", kind := .cls, ancestors }
  let dogs : DerivedPair := ⟨"Dog", "dto.Dog"⟩
  let puppies : DerivedPair := ⟨"Puppy", "dto.Puppy"⟩
  { types := [
      { mapped "Animal" [] with derived := if dogsFirst then [dogs, puppies] else [puppies, dogs] },
      mapped "Dog" ["shop.Animal"], mapped "Puppy" ["shop.Dog", "shop.Animal"],
      target "Animal" [], target "Dog" ["dto.Animal"], target "Puppy" ["dto.Animal"]]
    nodup := by cases dogsFirst <;> decide +kernel }

/-- With puppies before dogs, either are handed on to their own routine. -/
theorem routed_kennel : Used { capacity := 4 } ∧
    ∃ r, (runPass {} (kennel false) { capacity := 4 }).1 = .ok r ∧
      (r.plans.map fun p => p.forward.dispatch.length) = [2, 0, 0] ∧ Routed {} (kennel false) r := by
  obtain ⟨r, h, hdispatch, hapart⟩ :
      ∃ r, (runPass {} (kennel false) { capacity := 4 }).1 = .ok r ∧
        (r.plans.map fun p => p.forward.dispatch.length) = [2, 0, 0] ∧
        ∀ plan ∈ r.plans, plan.forward.dispatch.Pairwise fun earlier later =>
          (kennel false).isSubclass later.source earlier.source = false :=
    Steps.exists_of_any (by decide +kernel)
  exact ⟨.new 4, r, h, hdispatch, (routed_iff (.new 4) h).2.2 fun _ _ _ hplan => hapart _ hplan⟩

/-- With dogs before puppies, puppies are handed on to the routine for dogs; nothing is reported. -/
theorem not_routed_kennel : ∃ r, generate {} (kennel true) = .ok r ∧ r.diagnostics = [] ∧
    ¬ Routed {} (kennel true) r := by
  obtain ⟨r, h, hsilent, plan, hplan, earlier, hearlier, later, hlater, hsubclass⟩ :
      ∃ r, generate {} (kennel true) = .ok r ∧ r.diagnostics = [] ∧ ∃ plan ∈ r.plans,
        ∃ earlier ∈ plan.forward.dispatch[0]?, ∃ later ∈ plan.forward.dispatch[1]?,
          (kennel true).isSubclass later.source earlier.source = true :=
    Steps.exists_of_any (by decide +kernel)
  refine ⟨r, h, hsilent, fun hrouted => ?_⟩
  cases plan with
  | enum forward reverse => simp [Plan.forward, Mapping.dispatch] at hearlier
  | object forward reverse helpers =>
    have hpassed := passedOver_of_handsOn (List.ne_nil_of_mem (List.mem_of_getElem? hearlier))
      (hrouted forward reverse helpers hplan 1 later hlater).2
    have hnot := hpassed 0 Nat.one_pos earlier hearlier
    rw [hsubclass] at hnot
    cases hnot

end Generation

end Mapsmith
