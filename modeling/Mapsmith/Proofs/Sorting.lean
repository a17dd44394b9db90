import Mapsmith.Text.Order
import Mathlib.Data.List.Nodup

/-!
# Sorted lists hold what was sorted

Sorting only reorders: a sorted list is a permutation of the list it comes from, so membership,
length and the absence of repetitions carry over. Two ways of dropping repetitions are in use, that
of texts and that of elements under a name; both keep one element for every name, the first.
-/

namespace Mapsmith.Text

variable {α : Type}

/-! ### Sorting reorders -/

theorem place_perm (le : α → α → Bool) (x : α) (ys : List α) : (place le x ys).Perm (x :: ys) := by
  induction ys with
  | nil => exact .refl _
  | cons y ys ih =>
    unfold place
    split
    · exact .refl _
    · exact (ih.cons y).trans (.swap x y ys)

theorem sortBy_perm (le : α → α → Bool) (xs : List α) : (sortBy le xs).Perm xs := by
  induction xs with
  | nil => exact .refl _
  | cons x xs ih => exact (place_perm le x _).trans (ih.cons x)

theorem sortByKey_perm (key : α → List String) (xs : List α) : (sortByKey key xs).Perm xs :=
  sortBy_perm _ xs

theorem sort_perm (xs : List String) : (sort xs).Perm xs :=
  sortBy_perm _ xs

@[simp] theorem mem_sortBy {le : α → α → Bool} {x : α} {xs : List α} :
    x ∈ sortBy le xs ↔ x ∈ xs :=
  (sortBy_perm le xs).mem_iff

@[simp] theorem mem_sortByKey {key : α → List String} {x : α} {xs : List α} :
    x ∈ sortByKey key xs ↔ x ∈ xs :=
  (sortByKey_perm key xs).mem_iff

@[simp] theorem mem_sort {x : String} {xs : List String} : x ∈ sort xs ↔ x ∈ xs :=
  (sort_perm xs).mem_iff

theorem sort_eq_nil {xs : List String} : sort xs = [] ↔ xs = [] := by
  rw [← List.length_eq_zero_iff, (sort_perm xs).length_eq, List.length_eq_zero_iff]

theorem sortByKey_eq_nil {key : α → List String} {xs : List α} : sortByKey key xs = [] ↔ xs = [] := by
  rw [← List.length_eq_zero_iff, (sortByKey_perm key xs).length_eq, List.length_eq_zero_iff]

/-! ### Sorting what is changed -/

theorem place_map {β : Type} {f : α → β} {le : α → α → Bool} {le' : β → β → Bool}
    (h : ∀ a b, le' (f a) (f b) = le a b) (x : α) (ys : List α) :
    place le' (f x) (ys.map f) = (place le x ys).map f := by
  induction ys with
  | nil => rfl
  | cons y ys ih =>
    simp only [List.map_cons, place, h]
    split
    · rfl
    · rw [ih, List.map_cons]

theorem sortBy_map {β : Type} {f : α → β} {le : α → α → Bool} {le' : β → β → Bool}
    (h : ∀ a b, le' (f a) (f b) = le a b) (xs : List α) :
    sortBy le' (xs.map f) = (sortBy le xs).map f := by
  induction xs with
  | nil => rfl
  | cons x xs ih => rw [List.map_cons, sortBy, ih, place_map h, sortBy]

/-- What is changed but for its key is sorted alike. -/
theorem sortByKey_map {β : Type} {f : α → β} {key : α → List String} {key' : β → List String}
    {xs : List α} (h : ∀ a, key' (f a) = key a) :
    sortByKey key' (xs.map f) = (sortByKey key xs).map f :=
  sortBy_map (fun a b => by rw [h, h]) xs

/-! ### The first under every name -/

section FirstOf

variable (name : α → String)

/-- The elements of a list added to some that are kept, the first of every name. -/
def addFirsts (kept xs : List α) : List α :=
  xs.foldl (fun seen x => if seen.any (name · == name x) then seen else seen ++ [x]) kept

variable {name} {kept xs : List α}

theorem addFirsts_cons (x : α) :
    addFirsts name kept (x :: xs) =
      addFirsts name (if kept.any (name · == name x) then kept else kept ++ [x]) xs := rfl

theorem any_name_eq {x : α} : kept.any (name · == name x) = true ↔ name x ∈ kept.map name := by
  simp only [List.any_eq_true, beq_iff_eq, List.mem_map]

theorem subset_addFirsts : kept ⊆ addFirsts name kept xs := by
  induction xs generalizing kept with
  | nil => exact List.Subset.refl _
  | cons x xs ih =>
    rw [addFirsts_cons]
    refine List.Subset.trans ?_ ih
    split
    · exact List.Subset.refl _
    · exact List.subset_append_left ..

theorem mem_of_mem_addFirsts {x : α} (h : x ∈ addFirsts name kept xs) : x ∈ kept ∨ x ∈ xs := by
  induction xs generalizing kept with
  | nil => exact .inl h
  | cons y xs ih =>
    rw [addFirsts_cons] at h
    rcases ih h with hk | hx
    · split at hk
      · exact .inl hk
      · rcases List.mem_append.1 hk with hk | hy
        · exact .inl hk
        · exact .inr (List.mem_cons.2 (.inl (List.mem_singleton.1 hy)))
    · exact .inr (List.mem_cons_of_mem _ hx)

theorem name_mem_addFirsts {x : α} (h : x ∈ xs) : name x ∈ (addFirsts name kept xs).map name := by
  induction xs generalizing kept with
  | nil => cases h
  | cons y xs ih =>
    rw [addFirsts_cons]
    rcases List.mem_cons.1 h with rfl | h
    · refine List.map_subset _ subset_addFirsts ?_
      split
      next hany => exact any_name_eq.1 hany
      · exact List.mem_map_of_mem (List.mem_append_right _ List.mem_cons_self)
    · exact ih h

/-- No two kept elements share a name. -/
theorem nodup_addFirsts (h : (kept.map name).Nodup) : ((addFirsts name kept xs).map name).Nodup := by
  induction xs generalizing kept with
  | nil => exact h
  | cons x xs ih =>
    rw [addFirsts_cons]
    refine ih ?_
    split
    · exact h
    next hany =>
      rw [any_name_eq] at hany
      rw [List.map_append, List.map_singleton]
      exact List.nodup_append.2 ⟨h, List.nodup_singleton _, fun a ha b hb hab =>
        hany (List.mem_singleton.1 hb ▸ hab ▸ ha)⟩

end FirstOf

/-! ### Texts without repetitions -/

theorem distinct_eq_addFirsts (xs : List String) : distinct xs = addFirsts id [] xs := by
  unfold distinct addFirsts
  congr 1
  funext seen x
  exact if_congr (by simp [List.any_eq_true]) rfl rfl

theorem nodup_distinct (xs : List String) : (distinct xs).Nodup := by
  have h : ((addFirsts id [] xs).map id).Nodup := nodup_addFirsts List.nodup_nil
  rwa [List.map_id, ← distinct_eq_addFirsts] at h

@[simp] theorem mem_distinct {x : String} {xs : List String} : x ∈ distinct xs ↔ x ∈ xs := by
  rw [distinct_eq_addFirsts]
  constructor
  · intro h
    rcases mem_of_mem_addFirsts h with h | h
    · cases h
    · exact h
  · intro h
    have hname : id x ∈ (addFirsts id [] xs).map id := name_mem_addFirsts h
    rwa [List.map_id] at hname

end Mapsmith.Text
