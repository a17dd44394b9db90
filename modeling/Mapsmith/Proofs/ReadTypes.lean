import Mapsmith.Program.Reading
import Mapsmith.Proofs.Descriptions
import Mathlib.Logic.Relation

/-!
# Types that are read from programs

Reading finds the chosen classes and then takes steps, each of which describes the next class that
is found and finds those that it brings in, until none is left (`Mapsmith.Program.Read.Course`).
Every type of the graph is described in one of these steps, so what holds of descriptions holds of
all types that are read.
-/

namespace Mapsmith

namespace Program

/-! ### Reading -/

namespace Read

variable {α β : Type} {r r' s : Reader} {c : ClassId} {d : Description} {chosen : List Object}
  {g : TypeGraph}

/-- Parts of reading that succeed together succeed one after the other. -/
theorem bind_eq_ok {x : Read α} {f : α → Read β} {b : β} (h : (x >>= f) r = (.ok b, r')) :
    ∃ a s, x r = (.ok a, s) ∧ f a s = (.ok b, r') := by
  obtain ⟨a, ha, hrun⟩ := run_bind_eq_ok (congrArg Prod.fst h)
  exact ⟨a, (x r).2, Prod.ext ha rfl, hrun.symm.trans h⟩

theorem bind_of_ok {x : Read α} {f : α → Read β} {a : α} (h : x r = (.ok a, s)) :
    (x >>= f) r = f a s := by
  have hrun := run_bind x f r
  simp only [ExceptT.run, StateT.run] at hrun
  rw [hrun, h]

theorem keeps_eq {I : Reader → Prop} {P : α → Prop} {x : Read α} (hx : Keeps I P x) (hr : I r) {a : α}
    (h : x r = (.ok a, s)) : P a ∧ I s := by
  obtain ⟨hP, hI⟩ := hx r hr a (congrArg Prod.fst h)
  have hs : (x r).2 = s := congrArg Prod.snd h
  exact ⟨hP, hs ▸ hI⟩

/-- Does a reader have found and described what another one has? -/
def Like (r s : Reader) : Prop :=
  s.found = r.found ∧ s.described = r.described

theorem like_run {P : α → Prop} {x : Run α} (h : Gives P x) : Keeps (Like r) P (Read.run x) :=
  fun s hs a ha => ⟨(h s.memory trivial a ha).1, hs⟩

theorem like_tell (event : Event) : Keeps (Like r) (fun _ => True) (tell event) :=
  keeps_modify fun _ hs => hs

/-- What is looked up of a class has one type for every name. -/
theorem like_lookUp (c : ClassId) : Keeps (Like r)
    (fun found => ∀ p ∈ found, (p.2.map (·.1)).Nodup) (lookUp c) := by
  have hhints : Keeps (Like r) (fun hints => (hints.map (·.1)).Nodup) (hintsOf c) := by
    unfold hintsOf
    refine (like_run (gives_classHintsOrRaw _ _)).bind fun found hfound => ?_
    obtain ⟨hints, detail⟩ := found
    simp only
    split
    · exact keeps_get.bind fun _ _ => (like_tell _).bind fun _ _ => keeps_pure hfound
    · exact keeps_pure hfound
  unfold lookUp
  refine keeps_get.bind fun s _ => (like_tell _).bind fun _ _ => ?_
  split
  · exact keeps_pure nofun
  · refine (like_run (keeps_true _)).bind fun kind _ => hhints.bind fun hints hnodup => keeps_pure ?_
    rintro p ⟨⟩
    exact hnodup

/-- **Does the program hold `m` when reading, which has come to a class, reads its members?** -/
def LookedUp (r : Reader) (c : ClassId) (m : Memory) : Prop :=
  ∃ found s, lookUp c r = (.ok found, s) ∧ s.memory = m

/-- A class is described as the program holds it when its members are read. -/
theorem describe_eq_ok (h : describe c r = (.ok d, r')) :
    Like r r' ∧ ∃ m, LookedUp r c m ∧ Describing.Described m c d := by
  obtain ⟨found, s, hfound, hd⟩ := bind_eq_ok h
  obtain ⟨hnodup, hlike⟩ := keeps_eq (like_lookUp c) ⟨rfl, rfl⟩ hfound
  have hdescribed : Like r r' ∧ Describing.Described s.memory c d := by
    cases found with
    | none => exact (keeps_eq (like_run (Describing.described_describeEnum s.memory)) hlike hd).symm
    | some p =>
      have hobject : run (Describing.describeObject s.packages c p.1 p.2) s = (.ok d, r') := hd
      exact ⟨(keeps_eq (like_run (keeps_true _)) hlike hobject).2,
        Describing.described_describeObject (hnodup p rfl) p.1 s.memory d (congrArg Prod.fst hobject)⟩
  exact ⟨hdescribed.1, s.memory, ⟨found, s, hfound, rfl⟩, hdescribed.2⟩

/-- **A step of reading**: the next class that is found and not described yet is described. -/
def Step (r r' : Reader) : Prop :=
  ∃ c, r.found[r.described.length]? = some c ∧ visit c.id r = (.ok (), r')

/-- What a step does. -/
structure StepOf (r : Reader) (c : ClassRef) (m : Memory) (d : Description) (r' : Reader) : Prop where
  next : r.found[r.described.length]? = some c
  lookedUp : LookedUp r c.id m
  described : Describing.Described m c.id d
  described_eq : r'.described = r.described ++ [d]
  found_eq : r'.found = withFound r.found d.mentions

theorem Step.exists (h : Step r r') : ∃ c m d, StepOf r c m d r' := by
  obtain ⟨c, hc, hvisit⟩ := h
  obtain ⟨d, s, hd, hmodify⟩ := bind_eq_ok hvisit
  obtain ⟨⟨hfound, hdescribed⟩, m, hm, hof⟩ := describe_eq_ok hd
  cases hmodify
  exact ⟨c, m, d, hc, hm, hof, by rw [← hdescribed], by rw [← hfound]⟩

/-- Describing all classes ends where no class is left, or visits the next one and goes on. -/
theorem describeWithin_cases {steps : Nat} {ts : List TypeDescriptor}
    (h : describeWithin (steps + 1) r = (.ok ts, r')) :
    (r.found[r.described.length]? = none ∧ ts = r.types ∧ r' = r) ∨
      ∃ c s, r.found[r.described.length]? = some c ∧ visit c.id r = (.ok (), s) ∧
        describeWithin steps s = (.ok ts, r') := by
  unfold describeWithin at h
  obtain ⟨s, t, hget, h⟩ := bind_eq_ok h
  cases hget
  cases hc : r.found[r.described.length]? with
  | none =>
    rw [hc] at h
    cases h
    exact .inl ⟨rfl, rfl, rfl⟩
  | some c =>
    rw [hc] at h
    obtain ⟨_, s, hvisit, h⟩ := bind_eq_ok h
    exact .inr ⟨c, s, rfl, hvisit, h⟩

/-- Describing all classes takes steps until no class is left. -/
theorem steps_of_describeWithin {steps : Nat} {ts : List TypeDescriptor}
    (h : describeWithin steps r = (.ok ts, r')) :
    Relation.ReflTransGen Step r r' ∧ r'.found.length ≤ r'.described.length ∧ ts = r'.types := by
  induction steps generalizing r with
  | zero => cases h
  | succ steps ih =>
    rcases describeWithin_cases h with ⟨hnone, rfl, rfl⟩ | ⟨c, s, hc, hvisit, h⟩
    · exact ⟨.refl, List.getElem?_eq_none_iff.1 hnone, rfl⟩
    · obtain ⟨hsteps, hrest⟩ := ih h
      exact ⟨.head ⟨c, hc, hvisit⟩ hsteps, hrest⟩

/-! ### Choosing -/

/-- The classes among objects, as the program holds them. -/
def rootsOf (m : Memory) (chosen : List Object) : List ClassRef :=
  chosen.filterMap fun
    | .cls c => some (m.ref c)
    | _ => none

/-- Can an object be chosen: is it a class in a module? -/
def Choosable (m : Memory) (o : Object) : Prop :=
  ∃ c, o = .cls c ∧ (m.ref c).module ≠ ""

/-- The packages that chosen classes ship in. -/
def packagesOfRoots (m : Memory) (chosen : List Object) : List String :=
  (rootsOf m chosen).map fun c => firstPart c.module

/-- A reader that has found chosen classes. -/
def choosing (r : Reader) (chosen : List Object) : Reader :=
  { r with
    packages := r.packages ++ packagesOfRoots r.memory chosen
    found := withFound r.found (rootsOf r.memory chosen) }

/-- Choosing finds the chosen class, and does nothing else to what is read. -/
theorem choose_eq_ok {o : Object} :
    choose o r = (.ok (), r') ↔ Choosable r.memory o ∧ choosing r [o] = r' := by
  constructor
  · intro h
    obtain ⟨s, t, hget, h⟩ := bind_eq_ok h
    cases hget
    split at h
    next _ c _ =>
      simp only at h
      split at h
      · obtain ⟨_, _, hthrow, -⟩ := bind_eq_ok h
        cases hthrow
      next hmodule =>
        cases h
        exact ⟨⟨c, rfl, hmodule⟩, rfl⟩
    · cases h
  · rintro ⟨⟨c, rfl, hmodule⟩, rfl⟩
    unfold choose
    refine bind_of_ok (a := r) (s := r) rfl |>.trans ?_
    simp only [hmodule, if_false]
    rfl

theorem forM_choose_eq_ok : chosen.forM choose r = (.ok (), r') ↔
    (∀ o ∈ chosen, Choosable r.memory o) ∧ choosing r chosen = r' := by
  induction chosen generalizing r with
  | nil =>
    have hnil : choosing r [] = r := by simp [choosing, packagesOfRoots, rootsOf, withFound]
    rw [hnil]
    exact ⟨fun h => ⟨fun _ ho => absurd ho List.not_mem_nil, congrArg Prod.snd h⟩,
      fun h => h.2 ▸ rfl⟩
  | cons o chosen ih =>
    have hcons : choosing (choosing r [o]) chosen = choosing r (o :: chosen) := by
      simp only [choosing, packagesOfRoots, List.append_assoc, ← List.map_append, withFound,
        ← List.foldl_append, rootsOf, ← List.filterMap_append, List.singleton_append]
    rw [List.forall_mem_cons, ← hcons]
    constructor
    · intro h
      obtain ⟨_, s, ho, h⟩ := bind_eq_ok h
      obtain ⟨hchoosable, rfl⟩ := choose_eq_ok.1 ho
      obtain ⟨hall, hs⟩ := ih.1 h
      exact ⟨⟨hchoosable, hall⟩, hs⟩
    · rintro ⟨⟨hchoosable, hall⟩, hs⟩
      exact (bind_of_ok (choose_eq_ok.2 ⟨hchoosable, rfl⟩)).trans (ih.2 ⟨hall, hs⟩)

theorem types_of_ofTypes {types : List TypeDescriptor} {g : TypeGraph}
    (h : TypeGraph.ofTypes types = .ok g) : g.types = types := by
  unfold TypeGraph.ofTypes at h
  split at h
  · cases h
  · cases h
    rfl

/-- **The course of reading**: the chosen classes are found, then steps are taken until none is
left, and the types of the graph are those that are described. -/
structure Course (chosen : List Object) (r start r' : Reader) (g : TypeGraph) : Prop where
  chosen_eq : chosen.forM choose r = (.ok (), start)
  found_eq : start.found = withFound r.found (rootsOf r.memory chosen)
  described_eq : start.described = r.described
  steps : Relation.ReflTransGen Step start r'
  complete : r'.found.length ≤ r'.described.length
  types_eq : g.types = r'.types

theorem exists_course (h : graphOf chosen r = (.ok g, r')) : ∃ start, Course chosen r start r' g := by
  obtain ⟨_, start, hchosen, h⟩ := bind_eq_ok h
  obtain ⟨-, rfl⟩ := forM_choose_eq_ok.1 hchosen
  obtain ⟨ts, s, hts, h⟩ := bind_eq_ok h
  obtain ⟨hsteps, hcomplete, rfl⟩ := steps_of_describeWithin hts
  cases hg : TypeGraph.ofTypes s.types with
  | ok g =>
    rw [hg] at h
    cases h
    exact ⟨_, hchosen, rfl, rfl, hsteps, hcomplete, types_of_ofTypes hg⟩
  | error e =>
    rw [hg] at h
    cases h

/-- Every class that is described after the start is described in a step. -/
theorem exists_stepOf (h : Relation.ReflTransGen Step r r') (hd : d ∈ r'.described) :
    d ∈ r.described ∨ ∃ s m, Relation.ReflTransGen Step r s ∧ LookedUp s d.id m ∧
      Describing.Described m d.id d := by
  induction h with
  | refl => exact .inl hd
  | tail hsteps hstep ih =>
    obtain ⟨c, m, d', hof⟩ := hstep.exists
    rw [hof.described_eq] at hd
    rcases List.mem_append.1 hd with hd | hd
    · exact ih hd
    · rw [List.mem_singleton.1 hd]
      have hid := hof.described.id_eq
      exact .inr ⟨_, m, hsteps, hid.symm ▸ hof.lookedUp, hid.symm ▸ hof.described⟩

end Read

/-! ### Graphs -/

/-- Is a graph read from a program: one of chosen classes, whatever the program holds and has told? -/
def IsRead (g : TypeGraph) : Prop :=
  ∃ (chosen : List Object) (r : Reader), r.types = [] ∧ (Read.graphOf chosen r).1 = .ok g

/-- The graph of the classes that modules declare is one of chosen classes. -/
theorem isRead_ofModules {names : List String} {memory : Memory} {g : TypeGraph}
    (h : (Read.ofModules names { memory }).1 = .ok g) : IsRead g := by
  obtain ⟨chosen, -, hrun⟩ := run_bind_eq_ok h
  exact ⟨chosen.flatten, _, rfl, (congrArg Prod.fst hrun).symm.trans h⟩

/-- **In a graph that is read from a program, members are in order.** -/
theorem orderly_of_isRead {g : TypeGraph} (h : IsRead g) {t : TypeDescriptor} (ht : t ∈ g.types) :
    Orderly t.members := by
  obtain ⟨chosen, r, hr, hg⟩ := h
  obtain ⟨start, hcourse⟩ := Read.exists_course (Prod.ext hg rfl)
  rw [hcourse.types_eq] at ht
  obtain ⟨d, hd, rfl⟩ := List.mem_map.1 ht
  rcases Read.exists_stepOf hcourse.steps hd with hd | ⟨_, _, -, -, hdescribed⟩
  · rw [hcourse.described_eq, List.map_eq_nil_iff.1 hr] at hd
    cases hd
  · exact hdescribed.orderly

end Program

end Mapsmith
