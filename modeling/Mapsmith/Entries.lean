/-!
# Ordered entries

Tables that keep the order in which their keys first appeared.
-/

namespace Mapsmith

/-- Entries with a key set: in its place if it is there, at the end otherwise. -/
def setEntry {α : Type} (key : String) (value : α) : List (String × α) → List (String × α)
  | [] => [(key, value)]
  | (k, v) :: rest =>
    if k = key then (key, value) :: rest else (k, v) :: setEntry key value rest

/-- Entries with others set one after the other. -/
def setEntries {α : Type} (entries changes : List (String × α)) : List (String × α) :=
  changes.foldl (fun entries (key, value) => setEntry key value entries) entries

theorem keys_setEntry {α : Type} (key : String) (value : α) (entries : List (String × α)) :
    (setEntry key value entries).map (·.1) =
      if key ∈ entries.map (·.1) then entries.map (·.1) else entries.map (·.1) ++ [key] := by
  induction entries with
  | nil => rfl
  | cons entry rest ih =>
    obtain ⟨k, v⟩ := entry
    simp only [setEntry]
    by_cases hk : k = key
    · simp [hk]
    · have hne : key ≠ k := fun h => hk h.symm
      rw [if_neg hk, List.map_cons, ih]
      by_cases hmem : key ∈ rest.map (·.1)
      · simp [hmem]
      · simp [hmem, hne]

/-- A key that is set stands in a table once. -/
theorem nodup_setEntry {α : Type} {key : String} {value : α} {entries : List (String × α)}
    (h : (entries.map (·.1)).Nodup) : ((setEntry key value entries).map (·.1)).Nodup := by
  rw [keys_setEntry]
  split
  · exact h
  next hnot =>
    refine List.nodup_append.2 ⟨h, List.nodup_cons.2 ⟨List.not_mem_nil, List.nodup_nil⟩, ?_⟩
    rintro a ha b hb rfl
    exact hnot (List.mem_singleton.1 hb ▸ ha)

/-- Entries that are set keep the keys of a table distinct. -/
theorem nodup_setEntries {α : Type} {entries changes : List (String × α)}
    (h : (entries.map (·.1)).Nodup) : ((setEntries entries changes).map (·.1)).Nodup := by
  induction changes generalizing entries with
  | nil => exact h
  | cons change changes ih => exact ih (nodup_setEntry h)

end Mapsmith
