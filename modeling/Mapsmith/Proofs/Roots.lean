import Mapsmith.Proofs.Discovery
import Mapsmith.Proofs.Order

/-!
# The order in which classes are chosen

Reading a program visits the classes that it finds, one after the other, and choosing them in another
order makes it visit them in another order. What it tells of a class depends on what the program holds
then, and on which packages are of interest, not on what has been read before
(`Mapsmith.Program.Read.agrees_describe`). So if two readings concur, which is to say that whatever both
of them visit under one name is told of alike, then each stays among the names of the other; a name is
found once, so both come to an end, with the same types (`Mapsmith.Program.Read.types_perm_of_concur`).
Without that proviso the order can show: of two classes of one name, the first that is found is described.
-/

namespace Mapsmith.Program

/-! ### Packages of interest -/

section Packages

variable {packages packages' : List String} {m : Memory} (h : ∀ p, p ∈ packages ↔ p ∈ packages')
include h

theorem Memory.isWanted_congr : m.isWanted packages = m.isWanted packages' := by
  funext c
  simp only [isWanted, h]

/-- What mapping makes of a type depends on which packages are of interest, in whatever order. -/
theorem Surroundings.shape_congr :
    (Surroundings.mk m packages).shape = (Surroundings.mk m packages').shape := by
  -- whether a class belongs into the graph is the only thing that is asked of packages
  have hclass : (mk m packages).classShape = (mk m packages').classShape := by
    funext c args
    simp only [classShape, Memory.isWanted_congr h]
  have hplain : (mk m packages).plainShape = (mk m packages').plainShape := by
    funext shapes c
    simp only [plainShape, hclass]
  have hformed : (mk m packages).formedShape = (mk m packages').formedShape := by
    funext shapes o f args
    rw [formedShape, formedShape, hclass]
    rfl
  have hunion : (mk m packages).unionShape = (mk m packages').unionShape := rfl
  have hwithin : ∀ levels, (mk m packages).shapeWithin levels = (mk m packages').shapeWithin levels := by
    intro levels
    induction levels with
    | zero => rfl
    | succ levels ih =>
      funext o
      unfold shapeWithin
      rw [ih, hplain, hformed, hunion]
      rfl
  funext o
  rw [shape, shape, hwithin]

namespace Describing

theorem member_congr : member packages = member packages' := by
  funext c name type elsewhere metadata access
  unfold member
  simp only [Surroundings.shape_congr h]

theorem dataMembers_congr : dataMembers packages = dataMembers packages' := by
  have hmember := member_congr h
  have hdataclass : dataclassMembers packages = dataclassMembers packages' := by
    funext c hints shape
    rw [dataclassMembers, dataclassMembers, hmember]
  have hmodel : modelMembers packages = modelMembers packages' := by
    funext c hints shape
    rw [modelMembers, modelMembers, hmember]
  have htuple : tupleMembers packages = tupleMembers packages' := by
    funext c hints
    unfold tupleMembers tupleMember
    rw [hmember]
  have hplain : plainMembers packages = plainMembers packages' := by
    funext c hints
    unfold plainMembers
    rw [hmember]
  funext c hints
  unfold dataMembers
  rw [hdataclass, hmodel, htuple, hplain]

/-- **The description of a class**, too, depends on which packages are of interest, in whatever order. -/
theorem describeObject_congr : describeObject packages = describeObject packages' := by
  have hproperty : propertyMembers packages = propertyMembers packages' := by
    funext c
    rw [propertyMembers, propertyMembers, member_congr h]
  funext c kind hints
  rw [describeObject, describeObject, dataMembers_congr h, hproperty]

end Describing

end Packages

namespace Read

variable {α β : Type} {packages : List String} {r r' s s' : Reader} {c : ClassRef} {d : Description}

/-! ### Readers that see the same -/

/-- Do two readers hold one memory, and take the same packages to be of interest? -/
structure Same (packages : List String) (r r' : Reader) : Prop where
  memory_eq : r.memory = r'.memory
  left : ∀ p, p ∈ r.packages ↔ p ∈ packages
  right : ∀ p, p ∈ r'.packages ↔ p ∈ packages

/-- Do two parts of reading come to the same, whatever has been found and described before? -/
def Agrees (packages : List String) (x y : Read α) : Prop :=
  ∀ r r', Same packages r r' → (x r).1 = (y r').1 ∧ Same packages (x r).2 (y r').2

theorem agrees_pure (a : α) : Agrees packages (pure a) (pure a) :=
  fun _ _ h => ⟨rfl, h⟩

theorem agrees_tell (event : Event) : Agrees packages (tell event) (tell event) :=
  fun _ _ h => ⟨rfl, h.memory_eq, h.left, h.right⟩

theorem agrees_run (x : Run α) : Agrees packages (run x) (run x) := by
  intro r r' h
  unfold run
  rw [h.memory_eq]
  exact ⟨rfl, rfl, h.left, h.right⟩

theorem Agrees.bind {x y : Read α} {f g : α → Read β} (h : Agrees packages x y)
    (h' : ∀ a, Agrees packages (f a) (g a)) : Agrees packages (x >>= f) (y >>= g) := by
  intro r r' hsame
  obtain ⟨hresult, hleft⟩ := h r r' hsame
  have hxf := run_bind x f r
  have hyg := run_bind y g r'
  simp only [ExceptT.run, StateT.run] at hxf hyg
  rw [hxf, hyg]
  -- the first parts fail with the same fault, or hand the same value on
  rcases hx : x r with ⟨e | a, s⟩ <;> rcases hy : y r' with ⟨e' | a', s'⟩ <;> rw [hx, hy] at hresult hleft
  · cases hresult
    exact ⟨rfl, hleft⟩
  · cases hresult
  · cases hresult
  · cases hresult
    exact h' a s s' hleft

theorem agrees_get_bind {f : Reader → Read β}
    (h : ∀ s s', Same packages s s' → Agrees packages (f s) (f s')) :
    Agrees packages (get >>= f) (get >>= f) :=
  fun r r' hsame => h r r' hsame r r' hsame

/-- **How a class is described** depends on the memory and on the packages of interest alone. -/
theorem agrees_describe (c : ClassId) : Agrees packages (describe c) (describe c) := by
  have hhints : Agrees packages (hintsOf c) (hintsOf c) := by
    unfold hintsOf
    refine (agrees_run _).bind fun (hints, detail) => ?_
    cases detail with
    | none => exact agrees_pure hints
    | some detail =>
      refine agrees_get_bind fun s s' h => ?_
      rw [h.memory_eq]
      exact (agrees_tell _).bind fun _ => agrees_pure hints
  have hlookUp : Agrees packages (lookUp c) (lookUp c) := by
    unfold lookUp
    refine agrees_get_bind fun s s' h => ?_
    rw [h.memory_eq]
    refine (agrees_tell _).bind fun _ => ?_
    split
    · exact agrees_pure none
    · exact (agrees_run _).bind fun kind => hhints.bind fun hints => agrees_pure _
  unfold describe
  refine hlookUp.bind fun found => ?_
  -- an enum is described without regard to packages
  cases found with
  | none => exact agrees_run _
  | some found =>
    refine agrees_get_bind fun s s' h => ?_
    rw [Describing.describeObject_congr fun p => (h.left p).trans (h.right p).symm]
    exact agrees_run _

/-! ### Visits -/

/-- What is told of a class that a program holds: its type and the names of the classes that it brings
in, if it can be described. -/
def told (packages : List String) (m : Memory) (c : ClassId) : Option (TypeDescriptor × List String) :=
  (describe c { memory := m, packages }).1.toOption.map fun d => (d.type, d.mentions.map (·.name))

/-- What a visit of a class comes to. -/
structure VisitOf (packages : List String) (r : Reader) (c : ClassRef) (d : Description) (r' : Reader) :
    Prop where
  told_eq : told packages r.memory c.id = some (d.type, d.mentions.map (·.name))
  described_eq : r'.described = r.described ++ [d]
  found_eq : r'.found = withFound r.found d.mentions
  packages_iff : ∀ p, p ∈ r'.packages ↔ p ∈ packages

theorem visitOf (hpackages : ∀ p, p ∈ r.packages ↔ p ∈ packages) (h : visit c.id r = (.ok (), r')) :
    ∃ d, VisitOf packages r c d r' := by
  obtain ⟨d, s, hd, hmodify⟩ := bind_eq_ok h
  obtain ⟨⟨hfound, hdescribed⟩, -⟩ := describe_eq_ok hd
  obtain ⟨hresult, hsame⟩ := agrees_describe c.id r { memory := r.memory, packages }
    ⟨rfl, hpackages, fun _ => Iff.rfl⟩
  rw [hd] at hresult hsame
  cases hmodify
  refine ⟨d, ?_, by rw [← hdescribed], by rw [← hfound], hsame.left⟩
  rw [told, ← hresult]
  rfl

/-- A class that something is told of can be visited. -/
theorem exists_visit (hpackages : ∀ p, p ∈ r.packages ↔ p ∈ packages)
    (h : (told packages r.memory c.id).isSome = true) : ∃ r', visit c.id r = (.ok (), r') := by
  obtain ⟨hresult, -⟩ := agrees_describe c.id r { memory := r.memory, packages }
    ⟨rfl, hpackages, fun _ => Iff.rfl⟩
  rw [told, ← hresult, Option.isSome_map] at h
  rcases hd : describe c.id r with ⟨e | d, s⟩
  · rw [hd] at h
    cases h
  · exact ⟨_, bind_of_ok hd⟩

section VisitOf

variable (h : VisitOf packages r c d r')
include h

theorem VisitOf.length_described : r'.described.length = r.described.length + 1 := by
  rw [h.described_eq, List.length_append, List.length_singleton]

theorem VisitOf.prefix_found : r.found <+: r'.found :=
  h.found_eq ▸ prefix_withFound

theorem VisitOf.names_subset {names : List String} (hfound : r.found.map (·.name) ⊆ names)
    (hmentions : d.mentions.map (·.name) ⊆ names) : r'.found.map (·.name) ⊆ names := by
  intro n hn
  rw [h.found_eq] at hn
  obtain ⟨a, ha, rfl⟩ := List.mem_map.1 hn
  rcases mem_of_mem_withFound ha with ha | ha
  · exact hfound (List.mem_map_of_mem ha)
  · exact hmentions (List.mem_map_of_mem ha)

variable (hnext : r.found[r.described.length]? = some c)
include hnext

/-- A visit of the next class adds it to the classes that are described. -/
theorem VisitOf.take_found :
    r'.found.take r'.described.length = r.found.take r.described.length ++ [c] := by
  have hlt := (List.getElem?_eq_some_iff.1 hnext).1
  obtain ⟨rest, hrest⟩ := h.prefix_found
  rw [h.length_described, ← hrest, List.take_append_of_le_length hlt, List.take_add_one, hnext,
    Option.toList_some]

theorem VisitOf.length_le : r'.described.length ≤ r'.found.length := by
  have hlt := (List.getElem?_eq_some_iff.1 hnext).1
  have hle := h.prefix_found.length_le
  rw [h.length_described]
  omega

end VisitOf

/-- The classes that reading visits in so many steps, each with the reader that comes to it. -/
def visited : Nat → Reader → List (ClassRef × Reader)
  | 0, _ => []
  | steps + 1, r =>
    match r.found[r.described.length]? with
    | none => []
    | some c => (c, r) :: match visit c.id r with
      | (.ok (), r') => visited steps r'
      | (.error _, _) => []

/-- Does a description tell what is told of a class when it is visited? -/
def Tells (packages : List String) (p : ClassRef × Reader) (d : Description) : Prop :=
  told packages p.2.memory p.1.id = some (d.type, d.mentions.map (·.name))

variable {steps : Nat} {ts : List TypeDescriptor} {found more : List ClassRef} {names : List String}

theorem visited_of_none (h : r.found[r.described.length]? = none) : visited (steps + 1) r = [] := by
  rw [visited, h]

theorem visited_of_visit (h : r.found[r.described.length]? = some c)
    (hvisit : visit c.id r = (.ok (), r')) : visited (steps + 1) r = (c, r) :: visited steps r' := by
  rw [visited, h]
  simp only [hvisit]

/-- Describing all classes goes on after a visit of the next one. -/
theorem describeWithin_of_visit (h : r.found[r.described.length]? = some c)
    (hvisit : visit c.id r = (.ok (), r')) :
    describeWithin (steps + 1) r = describeWithin steps r' := by
  conv_lhs => unfold describeWithin
  show (match r.found[r.described.length]? with
    | none => pure r.types
    | some c => visit c.id >>= fun _ => describeWithin steps : Read _) r = _
  rw [h]
  exact bind_of_ok hvisit

theorem describeWithin_of_none (h : r.found[r.described.length]? = none) :
    describeWithin (steps + 1) r = (.ok r.types, r) := by
  unfold describeWithin
  show (match r.found[r.described.length]? with | none => pure r.types | some c => _ : Read _) r = _
  rw [h]
  rfl

/-- A name is found once. -/
theorem nodup_withFound (h : (found.map (·.name)).Nodup) :
    ((withFound found more).map (·.name)).Nodup := by
  have hfirsts : withFound found more = Text.addFirsts (·.name) found more := rfl
  rw [hfirsts]
  exact Text.nodup_addFirsts h

/-! ### Reading to the end -/

/-- **Reading that comes to an end** has visited the classes that are found, one after the other, and
has described what is told of them. -/
theorem tells_visited (hpackages : ∀ p, p ∈ r.packages ↔ p ∈ packages)
    (hlen : r.described.length ≤ r.found.length) (h : describeWithin steps r = (.ok ts, r')) :
    ∃ ds, r'.described = r.described ++ ds ∧
      r'.found = r.found.take r.described.length ++ (visited steps r).map (·.1) ∧
      (visited steps r).length < steps ∧ List.Forall₂ (Tells packages) (visited steps r) ds := by
  induction steps generalizing r with
  | zero => cases h
  | succ steps ih =>
    rcases describeWithin_cases h with ⟨hnext, -, rfl⟩ | ⟨c, s, hnext, hvisit, h⟩
    · rw [visited_of_none hnext]
      refine ⟨[], (List.append_nil _).symm, ?_, Nat.succ_pos _, .nil⟩
      rw [List.take_of_length_le (List.getElem?_eq_none_iff.1 hnext), List.map_nil, List.append_nil]
    · obtain ⟨d, hd⟩ := visitOf hpackages hvisit
      obtain ⟨ds, hdescribed, hfound, hless, hds⟩ := ih hd.packages_iff (hd.length_le hnext) h
      rw [visited_of_visit hnext hvisit]
      refine ⟨d :: ds, ?_, ?_, Nat.succ_lt_succ hless, .cons hd.told_eq hds⟩
      · rw [hdescribed, hd.described_eq, List.append_assoc, List.singleton_append]
      · rw [hfound, hd.take_found hnext, List.map_cons, List.append_assoc, List.singleton_append]

/-- **Reading that stays among so many names comes to an end**: it finds a name once. -/
theorem exists_describeWithin (hpackages : ∀ p, p ∈ r.packages ↔ p ∈ packages)
    (hnodup : (r.found.map (·.name)).Nodup) (hfound : r.found.map (·.name) ⊆ names)
    (hlen : r.described.length ≤ r.found.length) (hsteps : names.length < steps + r.described.length)
    (hstays : ∀ p ∈ visited steps r, p.1.name ∈ names →
      ∃ t more, told packages p.2.memory p.1.id = some (t, more) ∧ more ⊆ names) :
    ∃ ts r', describeWithin steps r = (.ok ts, r') ∧ r'.found.map (·.name) ⊆ names := by
  induction steps generalizing r with
  | zero =>
    -- no step is left, but more classes are described than there are names
    have hle := (hnodup.subperm hfound).length_le
    rw [List.length_map] at hle
    omega
  | succ steps ih =>
    cases hnext : r.found[r.described.length]? with
    | none => exact ⟨_, _, describeWithin_of_none hnext, hfound⟩
    | some c =>
      have hself : (c, r) ∈ visited (steps + 1) r := by
        rw [visited, hnext]
        exact List.mem_cons_self
      -- the next class has one of the names, so it can be visited, and it brings in no other names
      have hname : c.name ∈ names := hfound (List.mem_map_of_mem (List.mem_of_getElem? hnext))
      obtain ⟨t, more, htold, hmore⟩ := hstays _ hself hname
      obtain ⟨s, hvisit⟩ := exists_visit hpackages (Option.isSome_iff_exists.2 ⟨_, htold⟩)
      obtain ⟨d, hd⟩ := visitOf hpackages hvisit
      have hmentions : d.mentions.map (·.name) ⊆ names := by
        have htold' := hd.told_eq
        rw [htold] at htold'
        cases htold'
        exact hmore
      rw [visited_of_visit hnext hvisit] at hstays
      rw [describeWithin_of_visit hnext hvisit]
      refine ih hd.packages_iff (hd.found_eq ▸ nodup_withFound hnodup)
        (hd.names_subset hfound hmentions) (hd.length_le hnext) ?_
        fun p hp => hstays p (List.mem_cons_of_mem _ hp)
      rw [hd.length_described]
      omega

theorem nodup_of_steps (h : Relation.ReflTransGen Step r r') (hnodup : (r.found.map (·.name)).Nodup) :
    (r'.found.map (·.name)).Nodup := by
  induction h with
  | refl => exact hnodup
  | tail _ hstep ih =>
    obtain ⟨_, _, _, hof⟩ := hstep.exists
    exact hof.found_eq ▸ nodup_withFound ih

/-! ### Two readings -/

/-- Does a reader begin: has it found some classes and described none? -/
structure Begins (packages : List String) (roots : List ClassRef) (start : Reader) : Prop where
  packages_iff : ∀ p, p ∈ start.packages ↔ p ∈ packages
  found_eq : start.found = withFound [] roots
  described_eq : start.described = []

/-- What a reading of some classes has come to in the end. -/
structure Completed (packages : List String) (roots : List ClassRef) (start r : Reader) : Prop where
  explored : Explored roots r.found r.described
  nodup : (r.found.map (·.name)).Nodup
  visited_eq : (visited maxClasses start).map (·.1) = r.found
  length_lt : r.found.length < maxClasses
  tells : List.Forall₂ (Tells packages) (visited maxClasses start) r.described

variable {start start' : Reader} {roots roots' : List ClassRef} {n : String}

theorem completed (hbegins : Begins packages roots start)
    (h : describeWithin maxClasses start = (.ok ts, r)) :
    Completed packages roots start r ∧ ts = r.types := by
  obtain ⟨hpackages, hstart, hnone⟩ := hbegins
  obtain ⟨hsteps, -, htypes⟩ := steps_of_describeWithin h
  obtain ⟨ds, hds, hfound, hlt, htells⟩ :=
    tells_visited hpackages (by rw [hnone]; exact Nat.zero_le _) h
  rw [hnone, List.nil_append] at hds
  rw [hnone, List.length_nil, List.take_zero, List.nil_append] at hfound
  refine ⟨⟨?_, ?_, hfound.symm, ?_, hds ▸ htells⟩, htypes⟩
  · exact Explored.steps hsteps (by rw [hstart, hnone]; exact explored_start)
  · exact nodup_of_steps hsteps (hstart ▸ nodup_withFound List.nodup_nil)
  · rw [hfound, List.length_map]
    exact hlt

/-- What is told of a class that is found is what is described. -/
theorem Completed.exists_tells (h : Completed packages roots start r)
    (hn : n ∈ r.found.map (·.name)) :
    ∃ p ∈ visited maxClasses start, p.1.name = n ∧ ∃ d ∈ r.described, Tells packages p d := by
  rw [← h.visited_eq, List.map_map] at hn
  obtain ⟨p, hp, rfl⟩ := List.mem_map.1 hn
  exact ⟨p, hp, rfl, Steps.exists_of_mem_left h.tells hp⟩

theorem Completed.length_types (h : Completed packages roots start r) :
    r.types.length = (r.found.map (·.name)).length := by
  rw [Reader.types, List.length_map, ← h.tells.length_eq, List.length_map, ← h.visited_eq,
    List.length_map]

/-- Is whatever two readings visit under one name told of alike? -/
def Concur (packages : List String) (ps qs : List (ClassRef × Reader)) : Prop :=
  ∀ p ∈ ps, ∀ q ∈ qs, p.1.name = q.1.name →
    told packages p.2.memory p.1.id = told packages q.2.memory q.1.id

instance (packages : List String) (ps qs : List (ClassRef × Reader)) :
    Decidable (Concur packages ps qs) :=
  inferInstanceAs (Decidable (∀ p ∈ ps, _))

theorem Concur.symm {ps qs : List (ClassRef × Reader)} (h : Concur packages ps qs) :
    Concur packages qs ps :=
  fun q hq p hp hname => (h p hp q hq hname.symm).symm

section Concur

variable (h : Completed packages roots start r)
  (hconcur : Concur packages (visited maxClasses start) (visited maxClasses start'))
include h hconcur

/-- **A reading that concurs with one that has come to an end** comes to an end itself, among the same
names. -/
theorem Completed.exists_end (hbegins : Begins packages roots' start') (hroots : roots' ⊆ roots) :
    ∃ ts r', describeWithin maxClasses start' = (.ok ts, r') ∧
      r'.found.map (·.name) ⊆ r.found.map (·.name) := by
  have hfind : ∀ {c : ClassRef}, (∃ c' ∈ r.found, c'.name = c.name) →
      c.name ∈ r.found.map (·.name) := fun ⟨c', hc', hname⟩ => hname ▸ List.mem_map_of_mem hc'
  refine exists_describeWithin hbegins.packages_iff ?_ ?_ ?_ ?_ ?_
  · exact hbegins.found_eq ▸ nodup_withFound List.nodup_nil
  · intro n hn
    obtain ⟨c, hc, rfl⟩ := List.mem_map.1 hn
    rw [hbegins.found_eq] at hc
    have hroot := (mem_of_mem_withFound hc).resolve_left List.not_mem_nil
    exact hfind (h.explored.rooted c (hroots hroot))
  · rw [hbegins.described_eq]
    exact Nat.zero_le _
  · rw [List.length_map]
    exact Nat.lt_of_lt_of_le h.length_lt (Nat.le_add_right _ _)
  · -- what is visited under a name that the other reading has found is told of as it was there
    intro q hq hn
    obtain ⟨p, hp, hname, d, hd, htells⟩ := h.exists_tells hn
    rw [Tells, hconcur p hp q hq hname] at htells
    refine ⟨_, _, htells, fun n hn => ?_⟩
    obtain ⟨c, hc, rfl⟩ := List.mem_map.1 hn
    exact hfind (h.explored.brought d hd c hc)

/-- **Readings that concur** among the same names describe the same types. -/
theorem Completed.types_perm (h' : Completed packages roots' start' r')
    (hnames : r.found.map (·.name) ⊆ r'.found.map (·.name))
    (hnames' : r'.found.map (·.name) ⊆ r.found.map (·.name)) (hnodup : r.types.Nodup) :
    r.types.Perm r'.types := by
  -- a type is told of under its name, and so it is where the other reading visits that name
  have hsubset : r.types ⊆ r'.types := by
    intro t ht
    obtain ⟨d, hd, rfl⟩ := List.mem_map.1 ht
    obtain ⟨p, hp, htells⟩ := Steps.exists_of_mem_right h.tells hd
    have hfound : p.1.name ∈ r.found.map (·.name) := by
      rw [← h.visited_eq]
      exact List.mem_map_of_mem (List.mem_map_of_mem hp)
    obtain ⟨q, hq, hname, e, he, htells'⟩ := h'.exists_tells (hnames hfound)
    have heq : some (d.type, d.mentions.map (·.name)) = some (e.type, e.mentions.map (·.name)) :=
      htells.symm.trans ((hconcur p hp q hq hname.symm).trans htells')
    have htype : d.type = e.type := congrArg Prod.fst (Option.some.inj heq)
    exact htype ▸ List.mem_map_of_mem he
  -- there are as many types as names, and both readings have found the same names once
  refine (hnodup.subperm hsubset).perm_of_length_le ?_
  rw [h.length_types, h'.length_types]
  exact (h'.nodup.subperm hnames').length_le

end Concur

/-! ### Roots in another order -/

variable {chosen chosen' : List Object} {memory : Memory} {g : TypeGraph}

/-- What the reading of a program from chosen classes visits. -/
def visits (memory : Memory) (chosen : List Object) : List (ClassRef × Reader) :=
  visited maxClasses (choosing { memory } chosen)

theorem begins_choosing (hperm : chosen.Perm chosen') :
    Begins (packagesOfRoots memory chosen) (rootsOf memory chosen') (choosing { memory } chosen') where
  packages_iff p := by
    have hpackages : (packagesOfRoots memory chosen').Perm (packagesOfRoots memory chosen) :=
      (hperm.symm.filterMap _).map _
    show p ∈ [] ++ packagesOfRoots memory chosen' ↔ _
    rw [List.nil_append, hpackages.mem_iff]
  found_eq := rfl
  described_eq := rfl

theorem graphOf_eq_ok (h : (graphOf chosen { memory }).1 = .ok g) :
    (∀ o ∈ chosen, Choosable memory o) ∧
      ∃ r, describeWithin maxClasses (choosing { memory } chosen) = (.ok g.types, r) := by
  obtain ⟨_, start, hchosen, h⟩ := bind_eq_ok (Prod.ext h rfl : graphOf chosen { memory } = (.ok g, _))
  obtain ⟨hchoosable, rfl⟩ := forM_choose_eq_ok.1 hchosen
  obtain ⟨ts, s, hts, h⟩ := bind_eq_ok h
  cases hg : TypeGraph.ofTypes ts with
  | error e =>
    rw [hg] at h
    cases h
  | ok g =>
    rw [hg] at h
    cases h
    exact ⟨hchoosable, _, types_of_ofTypes hg ▸ hts⟩

theorem exists_graphOf (hchoosable : ∀ o ∈ chosen, Choosable memory o)
    (h : describeWithin maxClasses (choosing { memory } chosen) = (.ok ts, r))
    (hnodup : (ts.map (·.qualifiedName)).Nodup) :
    ∃ g, (graphOf chosen { memory }).1 = .ok g ∧ g.types = ts := by
  obtain ⟨g, hg, htypes⟩ := TypeGraph.exists_ofTypes hnodup
  refine ⟨g, ?_, htypes⟩
  have hgraph : graph (choosing { memory } chosen) = (.ok g, r) := by
    unfold graph
    rw [bind_of_ok h, hg]
    rfl
  rw [graphOf, bind_of_ok (forM_choose_eq_ok.2 ⟨hchoosable, rfl⟩), hgraph]

/-- **The types of a program** do not depend on the order in which classes are chosen. -/
theorem types_perm_of_concur (hperm : chosen.Perm chosen') (h : (graphOf chosen { memory }).1 = .ok g)
    (hconcur : Concur (packagesOfRoots memory chosen) (visits memory chosen) (visits memory chosen')) :
    ∃ g', (graphOf chosen' { memory }).1 = .ok g' ∧ g'.types.Perm g.types := by
  obtain ⟨hchoosable, r, hr⟩ := graphOf_eq_ok h
  have hroots : (rootsOf memory chosen).Perm (rootsOf memory chosen') := hperm.filterMap _
  have hbegins : Begins _ _ (choosing { memory } chosen) := begins_choosing (.refl chosen)
  have hbegins' : Begins _ _ (choosing { memory } chosen') := begins_choosing hperm
  obtain ⟨hcompleted, htypes⟩ := completed hbegins hr
  obtain ⟨ts, r', hr', hnames'⟩ := hcompleted.exists_end hconcur hbegins' hroots.symm.subset
  obtain ⟨hcompleted', rfl⟩ := completed hbegins' hr'
  -- the second reading has come to an end, so the first one stays among its names in turn
  obtain ⟨_, s, hs, hnames⟩ := hcompleted'.exists_end hconcur.symm hbegins hroots.subset
  rw [hr] at hs
  cases hs
  have hnodup : g.types.Nodup := g.nodup.of_map
  have htypesPerm := hcompleted.types_perm hconcur hcompleted' hnames hnames' (htypes ▸ hnodup)
  rw [← htypes] at htypesPerm
  obtain ⟨g', hg', htypes'⟩ := exists_graphOf (fun o ho => hchoosable o (hperm.mem_iff.2 ho)) hr'
    ((htypesPerm.map _).nodup_iff.1 g.nodup)
  exact ⟨g', hg', htypes' ▸ htypesPerm.symm⟩

/-! ### A shop -/

/-- Readings concur if what is told of a class is a matter of its name. -/
theorem concur_of_account {ps qs : List (ClassRef × Reader)}
    (account : String → Option (TypeDescriptor × List String))
    (h : ∀ p ∈ ps ++ qs, told packages p.2.memory p.1.id = account p.1.name) :
    Concur packages ps qs := by
  intro p hp q hq hname
  rw [h p (List.mem_append_left _ hp), h q (List.mem_append_right _ hq), hname]

/-- A shop with classes of one member each, given the name and the type of the member. -/
def shop (classes : List (String × String × Object)) : Memory where
  classes := classes.zipIdx.map fun ((path, member, type), index) =>
    { module := "shop", path, line := [.program index, .library (.builtin "object")]
      isProtocol := some false
      annotations := [(member, type)]
      dataclass := some {
        fields := [(member, { type })], frozen := false, nodup := List.nodup_singleton _ } }
  modules := [{
    name := "shop"
    names := classes.zipIdx.map fun ((path, _), index) => (path, .cls (.program index)) }]
  registry := [("shop", 0)]
  typeVariables := []

/-- A shop with chairs and cars that have parts of wood. -/
def woodwork : Memory :=
  shop [("Wood", "tree", .cls (.library .text)), ("Part", "wood", .cls (.program 0)),
    ("Chair", "parts", .formed (.subscripted (.library (.builtin "list"))) [.cls (.program 1)]),
    ("Car", "part", .text "Part")]

/-- The description of a class of a shop. -/
def ware (path member : String) (type : TypeRef) : TypeDescriptor :=
  { name := path, module := "shop", kind := .cls, extensible := true
    members := [{
      name := member, type, initName := member, required := true, declaredIn := "shop." ++ path }]
    location := some (.ofSymbol path) }

/-- What is told of the classes of `Mapsmith.Program.Read.woodwork`. -/
def woodworkAccount : String → Option (TypeDescriptor × List String)
  | "shop.Wood" => some (ware "Wood" "tree" (.plain "str" .scalar), [])
  | "shop.Part" => some (ware "Part" "wood" (.plain "shop.Wood" .object), ["shop.Wood"])
  | "shop.Chair" =>
    some (ware "Chair" "parts" (.collectionOf .list (.plain "shop.Part" .object)), ["shop.Part"])
  | "shop.Car" => some (ware "Car" "part" (.plain "shop.Part" .object), ["shop.Part"])
  | _ => none

/-- An order and its form. -/
def orderAndForm : List TypeDescriptor :=
  [{ name := "Order", module := "shop", kind := .cls
     directives := [{ source := "shop.Order", target := "dto.Order" }] },
    { name := "Order", module := "dto", kind := .cls }]

/-- **What a pass makes of types, and which types a program has**, does not depend on the order in which
types or classes come: not at all for a pass over given types, and for types that are read from a program
as long as readings in both orders concur. -/
theorem indifferent_to_order :
    (∀ types types' : List TypeDescriptor, (types.map (·.qualifiedName)).Nodup → types.Perm types' →
      ∃ g g', TypeGraph.ofTypes types = .ok g ∧ TypeGraph.ofTypes types' = .ok g' ∧
        ∀ config, Generation.generate config g = Generation.generate config g') ∧
    ∀ (memory : Memory) (chosen chosen' : List Object) (g : TypeGraph), chosen.Perm chosen' →
      (graphOf chosen { memory }).1 = .ok g →
      Concur (packagesOfRoots memory chosen) (visits memory chosen) (visits memory chosen') →
      ∃ g', (graphOf chosen' { memory }).1 = .ok g' ∧ g'.types.Perm g.types := by
  constructor
  case left =>
    intro types types' hnodup hperm
    obtain ⟨g, hg, htypes⟩ := TypeGraph.exists_ofTypes hnodup
    obtain ⟨g', hg', htypes'⟩ := TypeGraph.exists_ofTypes ((hperm.map _).nodup_iff.1 hnodup)
    refine ⟨g, g', hg, hg', fun config => Generation.generate_congr ?_⟩
    rw [htypes, htypes']
    exact hperm
  case right =>
    intro memory chosen chosen' g hperm h hconcur
    exact types_perm_of_concur hperm h hconcur

theorem indifferent_to_order_woodwork :
    (∃ g g', TypeGraph.ofTypes orderAndForm = .ok g ∧
      TypeGraph.ofTypes orderAndForm.reverse = .ok g' ∧
      (Generation.generate {} g).toOption.any (·.units.length = 1) = true ∧
        ∀ config, Generation.generate config g = Generation.generate config g') ∧
    ∃ g g', (graphOf [.cls (.program 2), .cls (.program 3)] { memory := woodwork }).1 = .ok g ∧
      (graphOf [.cls (.program 3), .cls (.program 2)] { memory := woodwork }).1 = .ok g' ∧
      g.types.map (·.name) = ["Chair", "Car", "Part", "Wood"] ∧ g'.types.Perm g.types := by
  constructor
  case left =>
    obtain ⟨g, g', hg, hg', hsame⟩ := indifferent_to_order.1 orderAndForm orderAndForm.reverse
      (by decide) (List.reverse_perm _).symm
    obtain ⟨h, hh, hunits⟩ : ∃ h, TypeGraph.ofTypes orderAndForm = .ok h ∧
        (Generation.generate {} h).toOption.any (·.units.length = 1) = true :=
      Steps.exists_of_any (by decide +kernel)
    obtain rfl : h = g := Except.ok.inj (hh.symm.trans hg)
    exact ⟨h, g', hg, hg', hunits, hsame⟩
  case right =>
    obtain ⟨g, hg, hnames⟩ :
        ∃ g, (graphOf [.cls (.program 2), .cls (.program 3)] { memory := woodwork }).1 = .ok g ∧
          g.types.map (·.name) = ["Chair", "Car", "Part", "Wood"] :=
      Steps.exists_of_any (by decide +kernel)
    obtain ⟨g', hg', hperm⟩ := indifferent_to_order.2 woodwork
      [.cls (.program 2), .cls (.program 3)] [.cls (.program 3), .cls (.program 2)] g (.swap _ _ _) hg
      (concur_of_account woodworkAccount (by decide +kernel))
    exact ⟨g, g', hg, hg', hnames, hperm⟩

/-- A shop that sells chairs with parts of wood and cars with parts of steel, where both kinds of parts go
by one name. -/
def namesakes : Memory :=
  shop [("Steel", "grade", .cls (.library (.builtin "int"))),
    ("Wood", "tree", .cls (.library .text)), ("Part", "steel", .cls (.program 0)),
    ("Car", "part", .cls (.program 2)), ("Part", "wood", .cls (.program 1)),
    ("Chair", "part", .cls (.program 4))]

/-- Which parts of `Mapsmith.Program.Read.namesakes` are described depends on what is found first. Classes
with names of their own are not enough either: a label that renames itself as it is described is found
once more by whatever is described after it. -/
theorem not_indifferent_to_order :
    (∃ g g', (graphOf [.cls (.program 5), .cls (.program 3)] { memory := namesakes }).1 = .ok g ∧
      (graphOf [.cls (.program 3), .cls (.program 5)] { memory := namesakes }).1 = .ok g' ∧
      ¬ ∀ t, t ∈ g.types ↔ t ∈ g'.types) ∧
    (relabelled.classes.map (·.qualifiedName)).Nodup ∧
      ∃ g, (graphOf [.cls (.program 1), .cls (.program 0)] { memory := relabelled }).1 = .ok g ∧
        ∀ g', (graphOf [.cls (.program 0), .cls (.program 1)] { memory := relabelled }).1 ≠ .ok g' := by
  refine ⟨?_, by decide, ?_⟩
  case refine_1 =>
    obtain ⟨g, hg, hwood⟩ :
        ∃ g, (graphOf [.cls (.program 5), .cls (.program 3)] { memory := namesakes }).1 = .ok g ∧
          ∃ t ∈ g.types, t.name = "Wood" :=
      Steps.exists_of_any (by decide +kernel)
    obtain ⟨g', hg', hsteel⟩ :
        ∃ g, (graphOf [.cls (.program 3), .cls (.program 5)] { memory := namesakes }).1 = .ok g ∧
          ∀ t ∈ g.types, t.name ≠ "Wood" :=
      Steps.exists_of_any (by decide +kernel)
    refine ⟨g, g', hg, hg', fun hsame => ?_⟩
    obtain ⟨t, ht, hname⟩ := hwood
    exact hsteel t ((hsame t).1 ht) hname
  case refine_2 =>
    obtain ⟨g, hg, hnone⟩ :
        ∃ g, (graphOf [.cls (.program 1), .cls (.program 0)] { memory := relabelled }).1 = .ok g ∧
          (graphOf [.cls (.program 0), .cls (.program 1)] { memory := relabelled }).1.toOption.isNone =
            true :=
      Steps.exists_of_any (by decide +kernel)
    refine ⟨g, hg, fun g' hg' => ?_⟩
    rw [hg'] at hnone
    cases hnone

end Read

end Mapsmith.Program
