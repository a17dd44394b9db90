import Mapsmith.Proofs.Sorting
import Mapsmith.TypeGraph
import Mathlib.Data.List.Perm.Subperm

/-!
# Looking up and reaching types

A graph is a finite map from qualified names to types. The names reached from given ones are closed
under stepping to a neighbour: every round of the search but the last adds a name, so the rounds
that `Mapsmith.TypeGraph.reachable` allows are enough. Two graphs with one closure therefore agree
on every name that the closure mentions, whether it names a type or not
(`Mapsmith.TypeGraph.get?_eq_of_closure_eq`).
-/

namespace Mapsmith.TypeGraph

variable {g g' : TypeGraph} {t : TypeDescriptor} {n : String} {names : List String}

/-! ### Looking up -/

/-- Looking for an element under its key finds the element, if keys are distinct. -/
theorem find?_eq_some_of_nodup {α : Type} {xs : List α} {key : α → String} {x : α}
    (h : (xs.map key).Nodup) : xs.find? (key · == n) = some x ↔ x ∈ xs ∧ key x = n := by
  constructor
  · intro hfind
    exact ⟨List.mem_of_find?_eq_some hfind, by simpa using List.find?_some hfind⟩
  · rintro ⟨hx, rfl⟩
    obtain ⟨y, hy⟩ := Option.isSome_iff_exists.1
      (List.find?_isSome (p := fun y => key y == key x).2 ⟨x, hx, by simp⟩)
    have hkey : key y = key x := by simpa using List.find?_some hy
    rw [hy, List.inj_on_of_nodup_map h (List.mem_of_find?_eq_some hy) hx hkey]

theorem get?_eq_some : g.get? n = some t ↔ t ∈ g.types ∧ t.qualifiedName = n :=
  find?_eq_some_of_nodup g.nodup

theorem qualifiedName_of_get? (h : g.get? n = some t) : t.qualifiedName = n :=
  (get?_eq_some.1 h).2

theorem has_iff : g.has n = true ↔ ∃ t, g.get? n = some t :=
  Option.isSome_iff_exists

theorem has_iff_mem : g.has n = true ↔ n ∈ g.types.map (·.qualifiedName) := by
  simp only [has_iff, get?_eq_some, List.mem_map]

/-- What a name stands for is a type of the graph. -/
theorem has_of_resolve {relativeTo : Option String} {q : String} (h : g.resolve n relativeTo = some q) :
    g.has q = true := by
  unfold resolve at h
  split at h
  next hhas =>
    cases h
    exact hhas
  simp only at h
  split at h
  next hmodule =>
    cases h
    obtain ⟨m, -, hm⟩ := Option.bind_eq_some_iff.1 hmodule
    split at hm
    next hhas =>
      cases hm
      exact hhas
    · cases hm
  · split at h
    · cases h
    split at h
    next hsingle =>
      cases h
      obtain ⟨t, ht, hname⟩ := List.mem_map.1 (hsingle ▸ List.mem_singleton_self q)
      exact has_iff_mem.2 (List.mem_map.2 ⟨t, (List.mem_filter.1 ht).1, hname⟩)
    · cases h

theorem mem_filterMap_get? : t ∈ names.filterMap g.get? ↔ t ∈ g.types ∧ t.qualifiedName ∈ names := by
  rw [List.mem_filterMap]
  constructor
  · rintro ⟨n, hn, ht⟩
    obtain ⟨hmem, rfl⟩ := get?_eq_some.1 ht
    exact ⟨hmem, hn⟩
  · rintro ⟨hmem, hn⟩
    exact ⟨_, hn, get?_eq_some.2 ⟨hmem, rfl⟩⟩

/-! ### Reaching types -/

/-- Are all neighbours of the types under some names among other names? -/
def StepsInto (g : TypeGraph) (from' into : List String) : Prop :=
  ∀ n ∈ from', ∀ t, g.get? n = some t → g.neighbours t ⊆ into

theorem has_of_mem_neighbours (h : n ∈ g.neighbours t) : g.has n = true :=
  (List.mem_filter.1 h).2

theorem mem_next_iff {reached frontier : List String} :
    n ∈ Text.distinct (((frontier.filterMap g.get?).flatMap g.neighbours).filter (· ∉ reached)) ↔
      (∃ m ∈ frontier, ∃ t, g.get? m = some t ∧ n ∈ g.neighbours t) ∧ n ∉ reached := by
  simp only [Text.mem_distinct, List.mem_filter, List.mem_flatMap, List.mem_filterMap,
    decide_eq_true_eq]
  constructor
  · rintro ⟨⟨t, ⟨m, hm, ht⟩, hn⟩, hnot⟩
    exact ⟨⟨m, hm, t, ht, hn⟩, hnot⟩
  · rintro ⟨⟨m, hm, t, ht, hn⟩, hnot⟩
    exact ⟨⟨t, ⟨m, hm, ht⟩, hn⟩, hnot⟩

/-- Where a search stands: the reached names are distinct names of types, and whatever is not in the
frontier has its neighbours reached. -/
structure Searched (g : TypeGraph) (reached frontier : List String) : Prop where
  nodup : reached.Nodup
  has : ∀ n ∈ reached, g.has n = true
  done : ∀ n ∈ reached, n ∉ frontier → ∀ t, g.get? n = some t → g.neighbours t ⊆ reached

theorem Searched.length_le {reached frontier : List String} (h : g.Searched reached frontier) :
    reached.length ≤ g.types.length := by
  have hsub : reached ⊆ g.types.map (·.qualifiedName) := fun n hn => has_iff_mem.1 (h.has n hn)
  simpa using (h.nodup.subperm hsub).length_le

/-- A search that has reached as many names as there are types has reached them all. -/
theorem Searched.all {reached frontier : List String} (h : g.Searched reached frontier)
    (hlen : g.types.length ≤ reached.length) (hn : g.has n = true) : n ∈ reached := by
  have hsub : reached ⊆ g.types.map (·.qualifiedName) := fun n hn => has_iff_mem.1 (h.has n hn)
  have hperm : reached.Perm (g.types.map (·.qualifiedName)) :=
    (h.nodup.subperm hsub).perm_of_length_le (by simpa using hlen)
  exact hperm.mem_iff.2 (has_iff_mem.1 hn)

theorem Searched.step {reached frontier : List String} (h : g.Searched reached frontier) :
    let next := Text.distinct
      (((frontier.filterMap g.get?).flatMap g.neighbours).filter (· ∉ reached))
    g.Searched (reached ++ next) next := by
  intro next
  refine ⟨?_, ?_, ?_⟩
  · refine List.nodup_append.2 ⟨h.nodup, Text.nodup_distinct _, ?_⟩
    rintro a ha b hb rfl
    exact (mem_next_iff.1 hb).2 ha
  · intro n hn
    rcases List.mem_append.1 hn with hn | hn
    · exact h.has n hn
    · obtain ⟨⟨m, -, t, -, hnt⟩, -⟩ := mem_next_iff.1 hn
      exact has_of_mem_neighbours hnt
  · intro n hn hnot t ht m hm
    have hreached : n ∈ reached := (List.mem_append.1 hn).resolve_right hnot
    by_cases hfrontier : n ∈ frontier
    · by_cases hmr : m ∈ reached
      · exact List.mem_append_left _ hmr
      · exact List.mem_append_right _ (mem_next_iff.2 ⟨⟨n, hfrontier, t, ht, hm⟩, hmr⟩)
    · exact List.mem_append_left _ (h.done n hreached hfrontier t ht hm)

/-- With as many rounds left as there are names to reach, the search ends with names that are closed
under neighbours. -/
theorem stepsInto_spread {rounds : Nat} {reached frontier : List String}
    (h : g.Searched reached frontier) (hrounds : g.types.length ≤ rounds + reached.length) :
    reached ⊆ g.spread rounds reached frontier ∧
      g.StepsInto (g.spread rounds reached frontier) (g.spread rounds reached frontier) := by
  induction rounds generalizing reached frontier with
  | zero =>
    -- no round is left, so every type is reached already
    refine ⟨List.Subset.refl _, fun n _ t _ m hm => ?_⟩
    exact h.all (by omega) (has_of_mem_neighbours hm)
  | succ rounds ih =>
    unfold spread
    simp only
    split
    next hempty =>
      refine ⟨List.Subset.refl _, fun n hn t ht m hm => ?_⟩
      by_cases hfrontier : n ∈ frontier
      · by_contra hmr
        have hnext := mem_next_iff.2 ⟨⟨n, hfrontier, t, ht, hm⟩, hmr⟩
        rw [List.isEmpty_iff.1 hempty] at hnext
        cases hnext
      · exact h.done n hn hfrontier t ht hm
    next hnonempty =>
      -- a round that goes on adds a name, which pays for it
      have hpos := List.length_pos_iff.2 (mt List.isEmpty_iff.2 hnonempty)
      obtain ⟨hsub, hclosed⟩ := ih h.step (by rw [List.length_append]; omega)
      exact ⟨List.Subset.trans (List.subset_append_left _ _) hsub, hclosed⟩

theorem searched_start :
    let start := Text.distinct (names.filter g.has)
    g.Searched start start := by
  intro start
  refine ⟨Text.nodup_distinct _, fun n hn => ?_, fun n hn hnot => absurd hn hnot⟩
  exact (List.mem_filter.1 (Text.mem_distinct.1 hn)).2

theorem mem_reachable_of_mem (hn : n ∈ names) (hhas : g.has n = true) : n ∈ g.reachable names :=
  (stepsInto_spread searched_start (Nat.le_add_right _ _)).1
    (Text.mem_distinct.2 (List.mem_filter.2 ⟨hn, hhas⟩))

/-- **The reached names are closed under stepping to a neighbour.** -/
theorem stepsInto_reachable : g.StepsInto (g.reachable names) (g.reachable names) :=
  (stepsInto_spread searched_start (Nat.le_add_right _ _)).2

theorem mem_closure : t ∈ g.closure names ↔ t ∈ g.types ∧ t.qualifiedName ∈ g.reachable names := by
  unfold closure
  rw [mem_filterMap_get?, Text.mem_sort]

/-! ### Graphs with one closure -/

/-- Is a name mentioned by the closure of some names: one of them, or the name of a member's type? -/
def Mentions (g : TypeGraph) (names : List String) (n : String) : Prop :=
  n ∈ names ∨ ∃ t ∈ g.closure names, n ∈ t.members.flatMap (·.type.names)

theorem mem_reachable_of_mentions (h : g.Mentions names n) (hhas : g.has n = true) :
    n ∈ g.reachable names := by
  rcases h with hn | ⟨t, ht, hn⟩
  · exact mem_reachable_of_mem hn hhas
  · obtain ⟨hmem, hreach⟩ := mem_closure.1 ht
    refine stepsInto_reachable t.qualifiedName hreach t (get?_eq_some.2 ⟨hmem, rfl⟩) ?_
    refine List.mem_filter.2 ⟨?_, hhas⟩
    simp only [List.append_assoc]
    exact List.mem_append_left _ hn

/-- A type that the closure mentions is in it, and so are its members' types. -/
theorem mem_closure_of_mentions (h : g.Mentions names n) (ht : g.get? n = some t) :
    t ∈ g.closure names := by
  obtain ⟨hmem, rfl⟩ := get?_eq_some.1 ht
  exact mem_closure.2 ⟨hmem, mem_reachable_of_mentions h (has_iff.2 ⟨t, ht⟩)⟩

theorem mentions_member (h : g.Mentions names n) (ht : g.get? n = some t) {m : Member}
    (hm : m ∈ t.members) {k : String} (hk : k ∈ m.type.names) : g.Mentions names k :=
  .inr ⟨t, mem_closure_of_mentions h ht, List.mem_flatMap.2 ⟨m, hm, hk⟩⟩

theorem get?_of_closure_eq (h : g.closure names = g'.closure names) (hn : g.Mentions names n)
    (ht : g.get? n = some t) : g'.get? n = some t := by
  have hclosure : t ∈ g'.closure names := h ▸ mem_closure_of_mentions hn ht
  exact get?_eq_some.2 ⟨(mem_closure.1 hclosure).1, qualifiedName_of_get? ht⟩

theorem mentions_congr (h : g.closure names = g'.closure names) :
    g.Mentions names n ↔ g'.Mentions names n := by
  rw [Mentions, Mentions, h]

/-- **Graphs with one closure agree on every name it mentions**, also on those that name no type. -/
theorem get?_eq_of_closure_eq (h : g.closure names = g'.closure names) (hn : g.Mentions names n) :
    g.get? n = g'.get? n := by
  cases ht : g.get? n with
  | some t => exact (get?_of_closure_eq h hn ht).symm
  | none =>
    cases ht' : g'.get? n with
    | none => rfl
    | some t =>
      rw [get?_of_closure_eq h.symm ((mentions_congr h).1 hn) ht'] at ht
      cases ht

end Mapsmith.TypeGraph
