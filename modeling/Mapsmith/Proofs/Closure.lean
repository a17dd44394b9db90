import Mapsmith.Proofs.Order
import Mathlib.Logic.Relation

/-!
# The least closed set of types

The closure of some names holds what planning may look at, and it is the key under which a plan is kept, so
nothing may be missing from it. Here it is described without the search: a type leads to another one that its
members' types name at any depth, to its ancestors, and to what its directives and derived pairs stand for in
its module (`Mapsmith.TypeGraph.Leads`), and the closure holds the types that can be reached in any number of
such steps (`Mapsmith.TypeGraph.Reaches`).

The search goes in rounds, at most as many as there are types. That number cuts nothing off, since every
round but the last reaches another type: with any larger number it would end at the same place
(`Mapsmith.TypeGraph.spread_of_le`).
-/

namespace Mapsmith

/-! ### Parts of a type reference by name -/

section Names

variable {n : String}

mutual

/-- Every name in a reference is the name of a part of it. -/
theorem TypeRef.exists_part_of_mem_names : ∀ {t : TypeRef}, n ∈ t.names →
    ∃ r : TypeRef, r.Part t ∧ r.name = n
  | .mk _ _ _ _ _, h => by
    rcases List.mem_cons.1 h with rfl | h
    · exact ⟨_, .whole, rfl⟩
    · obtain ⟨a, ha, r, hr, hname⟩ := exists_part_of_mem_namesAll h
      exact ⟨r, .inside ha hr, hname⟩

theorem TypeRef.exists_part_of_mem_namesAll : ∀ {args : List TypeRef}, n ∈ namesAll args →
    ∃ a ∈ args, ∃ r : TypeRef, r.Part a ∧ r.name = n
  | a :: args, h => by
    rcases List.mem_append.1 h with h | h
    · obtain ⟨r, hr⟩ := exists_part_of_mem_names h
      exact ⟨a, List.mem_cons_self, r, hr⟩
    · obtain ⟨b, hb, hrest⟩ := exists_part_of_mem_namesAll h
      exact ⟨b, List.mem_cons_of_mem _ hb, hrest⟩

end

theorem TypeRef.mem_names_iff {t : TypeRef} : n ∈ t.names ↔ ∃ r : TypeRef, r.Part t ∧ r.name = n :=
  ⟨exists_part_of_mem_names, fun ⟨_, hr, hname⟩ => hname ▸ hr.name_mem⟩

end Names

namespace TypeGraph

/-! ### Steps -/

/-- What a name in a directive or a derived pair of a type stands for: a name is resolved in the module that
declares it. -/
def StandsFor (g : TypeGraph) (t : TypeDescriptor) (name : String) (u : TypeDescriptor) : Prop :=
  ∃ q, g.resolve name (some t.module) = some q ∧ g.get? q = some u

/-- **One step from a type to another type of the graph.** -/
inductive Leads (g : TypeGraph) (t : TypeDescriptor) : TypeDescriptor → Prop
  /-- The type of a member names it, itself or in an argument at any depth. -/
  | member {m : Member} {r : TypeRef} {u : TypeDescriptor} (hm : m ∈ t.members) (hr : r.Part m.type)
    (hu : g.get? r.name = some u) : Leads g t u
  /-- It is an ancestor. -/
  | ancestor {n : String} {u : TypeDescriptor} (hn : n ∈ t.ancestors) (hu : g.get? n = some u) : Leads g t u
  /-- It is the target of a directive. -/
  | directive {d : Directive} {u : TypeDescriptor} (hd : d ∈ t.directives)
    (hu : g.StandsFor t d.target u) : Leads g t u
  /-- It is the source of a derived pair. -/
  | derivedSource {p : DerivedPair} {u : TypeDescriptor} (hp : p ∈ t.derived)
    (hu : g.StandsFor t p.source u) : Leads g t u
  /-- It is the target of a derived pair. -/
  | derivedTarget {p : DerivedPair} {u : TypeDescriptor} (hp : p ∈ t.derived)
    (hu : g.StandsFor t p.target u) : Leads g t u

/-- **Can a type be reached from some names**: in any number of steps from a type of the graph that one of
them names? -/
def Reaches (g : TypeGraph) (names : List String) (u : TypeDescriptor) : Prop :=
  ∃ t ∈ g.types, t.qualifiedName ∈ names ∧ Relation.ReflTransGen g.Leads t u

variable {g : TypeGraph} {t u : TypeDescriptor} {n : String} {names names' : List String}

theorem Leads.mem (h : g.Leads t u) : u ∈ g.types := by
  cases h with
  | member _ _ hu | ancestor _ hu => exact (get?_eq_some.1 hu).1
  | directive _ hu | derivedSource _ hu | derivedTarget _ hu =>
    obtain ⟨q, -, hu⟩ := hu
    exact (get?_eq_some.1 hu).1

/-- What a name stands for, if for anything, is a type of the graph. -/
theorem mem_toList_resolve (hu : g.get? n = some u) {name : String} :
    n ∈ (g.resolve name (some t.module)).toList ↔ g.StandsFor t name u := by
  rw [Option.mem_toList, StandsFor]
  refine ⟨fun h => ⟨n, h, hu⟩, ?_⟩
  rintro ⟨q, hq, hget⟩
  have hname : q = n := (qualifiedName_of_get? hget).symm.trans (qualifiedName_of_get? hu)
  rwa [← hname]

/-- **The neighbours of a type** are the types that it leads to. -/
theorem mem_neighbours_iff (hu : g.get? n = some u) : n ∈ g.neighbours t ↔ g.Leads t u := by
  have hmember : n ∈ t.members.flatMap (·.type.names) ↔
      ∃ m ∈ t.members, ∃ r : TypeRef, r.Part m.type ∧ r.name = n := by
    simp only [List.mem_flatMap, TypeRef.mem_names_iff]
  have hresolved : ∀ name, n ∈ (g.resolve name (some t.module)).toList ↔ g.StandsFor t name u :=
    fun name => mem_toList_resolve hu
  have hsame : ∀ {q v}, g.get? q = some v → v = u → q = n := by
    rintro q v hv rfl
    exact (qualifiedName_of_get? hv).symm.trans (qualifiedName_of_get? hu)
  unfold neighbours
  simp only [List.mem_filter, List.mem_append, hmember, List.mem_flatMap, hresolved]
  constructor
  · rintro ⟨((⟨m, hm, r, hr, rfl⟩ | hn) | ⟨d, hd, hstands⟩) | ⟨p, hp, hstands | hstands⟩, -⟩
    · exact .member hm hr hu
    · exact .ancestor hn hu
    · exact .directive hd hstands
    · exact .derivedSource hp hstands
    · exact .derivedTarget hp hstands
  · refine fun h => ⟨?_, has_iff.2 ⟨u, hu⟩⟩
    cases h with
    | member hm hr hv => exact .inl (.inl (.inl ⟨_, hm, _, hr, hsame hv rfl⟩))
    | ancestor hn hv => exact .inl (.inl (.inr (hsame hv rfl ▸ hn)))
    | directive hd hstands => exact .inl (.inr ⟨_, hd, hstands⟩)
    | derivedSource hp hstands => exact .inr ⟨_, hp, .inl hstands⟩
    | derivedTarget hp hstands => exact .inr ⟨_, hp, .inr hstands⟩

theorem Reaches.mem (h : g.Reaches names u) : u ∈ g.types := by
  obtain ⟨t, ht, -, hsteps⟩ := h
  cases hsteps with
  | refl => exact ht
  | tail _ hlast => exact hlast.mem

theorem Reaches.step (h : g.Reaches names t) (hstep : g.Leads t u) : g.Reaches names u := by
  obtain ⟨s, hs, hname, hsteps⟩ := h
  exact ⟨s, hs, hname, hsteps.tail hstep⟩

theorem Reaches.mono (h : g.Reaches names u) (hsub : names ⊆ names') : g.Reaches names' u := by
  obtain ⟨t, ht, hname, hsteps⟩ := h
  exact ⟨t, ht, hsub hname, hsteps⟩

/-- Starting again from what is reached leads nowhere else. -/
theorem Reaches.of_reached {reached : List TypeDescriptor} (hreached : ∀ t ∈ reached, g.Reaches names t)
    (h : g.Reaches (reached.map (·.qualifiedName)) u) : g.Reaches names u := by
  obtain ⟨t, ht, hname, hsteps⟩ := h
  obtain ⟨t', ht', heq⟩ := List.mem_map.1 hname
  have hstart := hreached t' ht'
  obtain rfl : t' = t := List.inj_on_of_nodup_map g.nodup hstart.mem ht heq
  clear hname heq ht ht'
  -- on the steps taken after the start
  induction hsteps with
  | refl => exact hstart
  | tail _ hlast ih => exact ih.step hlast

/-! ### The search in rounds -/

variable {reached frontier : List String} {rounds : Nat}

/-- Whatever holds of the names reached and is kept by stepping holds of all that a search reaches. -/
theorem forall_mem_spread {P : String → Prop}
    (hstep : ∀ n t, P n → g.get? n = some t → ∀ m ∈ g.neighbours t, P m)
    (hreached : ∀ n ∈ reached, P n) (hfrontier : ∀ n ∈ frontier, P n) :
    ∀ n ∈ g.spread rounds reached frontier, P n := by
  induction rounds generalizing reached frontier with
  | zero => exact hreached
  | succ rounds ih =>
    unfold spread
    simp only
    split
    · exact hreached
    · have hnext : ∀ n ∈ Text.distinct
          (((frontier.filterMap g.get?).flatMap g.neighbours).filter (· ∉ reached)), P n := by
        intro n hn
        obtain ⟨⟨m, hm, t, ht, hnt⟩, -⟩ := mem_next_iff.1 hn
        exact hstep m t (hfrontier m hm) ht n hnt
      refine ih (fun n hn => ?_) hnext
      exact (List.mem_append.1 hn).elim (hreached n) (hnext n)

theorem nodup_spread (h : g.Searched reached frontier) : (g.spread rounds reached frontier).Nodup := by
  induction rounds generalizing reached frontier with
  | zero => exact h.nodup
  | succ rounds ih =>
    unfold spread
    simp only
    split
    · exact h.nodup
    · exact ih h.step

/-- A search that has reached every type has nothing left to do. -/
theorem spread_of_length_le (h : g.Searched reached frontier)
    (hlen : g.types.length ≤ reached.length) : g.spread rounds reached frontier = reached := by
  cases rounds with
  | zero => rfl
  | succ rounds =>
    have hnext : (Text.distinct
        (((frontier.filterMap g.get?).flatMap g.neighbours).filter (· ∉ reached))).isEmpty = true := by
      rw [List.isEmpty_iff, List.eq_nil_iff_forall_not_mem]
      intro n hn
      obtain ⟨⟨m, -, t, -, hnt⟩, hnot⟩ := mem_next_iff.1 hn
      exact hnot (h.all hlen (has_of_mem_neighbours hnt))
    unfold spread
    exact if_pos hnext

/-- **The rounds are enough**: where there are as many left as names to reach, more of them change
nothing. -/
theorem spread_of_le {more : Nat} (h : g.Searched reached frontier)
    (hrounds : g.types.length ≤ rounds + reached.length) (hmore : rounds ≤ more) :
    g.spread more reached frontier = g.spread rounds reached frontier := by
  induction rounds generalizing reached frontier more with
  | zero =>
    have hlen : g.types.length ≤ reached.length := by omega
    rw [spread_of_length_le h hlen, spread]
  | succ rounds ih =>
    obtain ⟨more, rfl⟩ : ∃ k, more = k + 1 := ⟨more - 1, by omega⟩
    unfold spread
    simp only
    split
    · rfl
    next hnonempty =>
      -- a round that goes on adds a name, which pays for it
      have hpos := List.length_pos_iff.2 (mt List.isEmpty_iff.2 hnonempty)
      exact ih h.step (by rw [List.length_append]; omega) (by omega)

/-! ### The closure -/

/-- **What is reached** is what can be reached in steps. -/
theorem mem_reachable_iff (hu : g.get? n = some u) : n ∈ g.reachable names ↔ g.Reaches names u := by
  obtain ⟨hmem, rfl⟩ := get?_eq_some.1 hu
  constructor
  · have hall : ∀ m ∈ g.reachable names, ∀ t, g.get? m = some t → g.Reaches names t := by
      have hstart : ∀ m ∈ Text.distinct (names.filter g.has), ∀ t, g.get? m = some t →
          g.Reaches names t := by
        intro m hm t ht
        obtain ⟨htypes, rfl⟩ := get?_eq_some.1 ht
        exact ⟨t, htypes, (List.mem_filter.1 (Text.mem_distinct.1 hm)).1, .refl⟩
      refine forall_mem_spread (fun m t hm ht k hk v hv => ?_) hstart hstart
      exact (hm t ht).step ((mem_neighbours_iff hv).1 hk)
    exact fun h => hall _ h u hu
  · rintro ⟨t, ht, hname, hsteps⟩
    clear hu hmem
    -- on the steps: the names reached are closed under stepping
    induction hsteps with
    | refl => exact mem_reachable_of_mem hname (has_iff_mem.2 (List.mem_map_of_mem ht))
    | tail hsteps hlast ih =>
      have hfrom : g.Reaches names _ := ⟨t, ht, hname, hsteps⟩
      have hneighbour := (mem_neighbours_iff (get?_eq_some.2 ⟨hlast.mem, rfl⟩)).2 hlast
      exact stepsInto_reachable _ ih _ (get?_eq_some.2 ⟨hfrom.mem, rfl⟩) hneighbour

theorem mem_closure_iff : t ∈ g.closure names ↔ g.Reaches names t := by
  rw [mem_closure]
  constructor
  · rintro ⟨ht, hreach⟩
    exact (mem_reachable_iff (get?_eq_some.2 ⟨ht, rfl⟩)).1 hreach
  · exact fun h => ⟨h.mem, (mem_reachable_iff (get?_eq_some.2 ⟨h.mem, rfl⟩)).2 h⟩

/-- The types of a closure go by the sorted names. -/
theorem names_closure : (g.closure names).map (·.qualifiedName) = Text.sort (g.reachable names) := by
  have hfound : ∀ n ∈ Text.sort (g.reachable names), (g.get? n).map (·.qualifiedName) = some n := by
    intro n hn
    have hhas : g.has n = true := by
      refine forall_mem_spread (P := fun n => g.has n = true) (fun _ _ _ _ m hm => has_of_mem_neighbours hm)
        ?_ ?_ n (Text.mem_sort.1 hn)
      all_goals exact fun m hm => (List.mem_filter.1 (Text.mem_distinct.1 hm)).2
    obtain ⟨t, ht⟩ := has_iff.1 hhas
    rw [ht, Option.map_some, qualifiedName_of_get? ht]
  rw [closure, List.map_filterMap, List.filterMap_congr hfound]
  simp

theorem sortedLT_closure : ((g.closure names).map (·.qualifiedName)).SortedLT := by
  rw [names_closure]
  refine (Text.sortedLE_sort _).sortedLT_of_nodup ((Text.sort_perm _).nodup_iff.2 ?_)
  exact nodup_spread searched_start

/-- A closure is known by the types in it. -/
theorem closure_ext (h : ∀ t, t ∈ g.closure names ↔ t ∈ g.closure names') :
    g.closure names = g.closure names' := by
  have hsorted : ∀ names, (g.closure names).Pairwise fun a b => a.qualifiedName < b.qualifiedName :=
    fun _ => List.pairwise_map.1 sortedLT_closure.pairwise
  have hasymm : ∀ a b : TypeDescriptor, a.qualifiedName < b.qualifiedName →
      b.qualifiedName < a.qualifiedName → a = b := fun a b hab hba => absurd hba hab.asymm
  have hnodup : ∀ names, (g.closure names).Nodup := fun names => sortedLT_closure.nodup.of_map
  exact ((List.perm_ext_iff_of_nodup (hnodup _) (hnodup _)).2 h).eq_of_pairwise
    (fun a b _ _ => hasymm a b) (hsorted _) (hsorted _)

/-- **The closure of some names is the least closed set of types.** The search ends, not only because its
rounds are counted; what it returns are the types that can be reached from the names in any number of steps,
in strict order of their qualified names, and nothing else. So more names give more types, order and
repetition of names do not matter, and a closure is its own closure. -/
theorem closure_least (g : TypeGraph) (names : List String) :
    (∀ rounds, g.types.length ≤ rounds →
      g.spread rounds (Text.distinct (names.filter g.has)) (Text.distinct (names.filter g.has)) =
        g.reachable names) ∧
    ((g.closure names).map (·.qualifiedName)).SortedLT ∧
    (∀ t, t ∈ g.closure names ↔ g.Reaches names t) ∧
    (∀ names', names ⊆ names' → g.closure names ⊆ g.closure names') ∧
    (∀ names', (∀ n, n ∈ names ↔ n ∈ names') → g.closure names = g.closure names') ∧
    g.closure ((g.closure names).map (·.qualifiedName)) = g.closure names := by
  have hmono : ∀ {names names'}, names ⊆ names' → g.closure names ⊆ g.closure names' :=
    fun hsub t ht => mem_closure_iff.2 ((mem_closure_iff.1 ht).mono hsub)
  refine ⟨fun rounds hrounds => ?_, sortedLT_closure, fun t => mem_closure_iff, fun _ => hmono, ?_, ?_⟩
  · exact spread_of_le searched_start (Nat.le_add_right _ _) hrounds
  · intro names' hsame
    have hforth : names ⊆ names' := fun n => (hsame n).1
    have hback : names' ⊆ names := fun n => (hsame n).2
    exact closure_ext fun t => ⟨fun ht => hmono hforth ht, fun ht => hmono hback ht⟩
  · refine closure_ext fun t => ⟨fun ht => ?_, fun ht => ?_⟩
    · exact mem_closure_iff.2 (.of_reached (fun u hu => mem_closure_iff.1 hu) (mem_closure_iff.1 ht))
    · exact mem_closure_iff.2 ⟨t, (mem_closure.1 ht).1, List.mem_map_of_mem ht, .refl⟩

end TypeGraph

end Mapsmith
