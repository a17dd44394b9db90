import Mapsmith.Proofs.Matching

/-!
# One type up to missing values

Whether a value may be missing is no part of what type it has. Clearing the marks for that at every
depth of a reference gives a normal form, and two references are the same type exactly if their normal
forms are equal (`Mapsmith.TypeRef.sameType_iff_clear`); so being the same type is an equivalence, and
whatever reads a reference only up to being the same type can be asked about its normal form instead.
Classification reads its target that way, at every depth (`Mapsmith.Matching.needOf_clear`), and a source
of the target's type is copied without a routine being asked for (`Mapsmith.Matching.needOf_of_sameType`).
-/

namespace Mapsmith

namespace TypeRef

/-! ### The normal form -/

mutual

/-- **Two references are the same type exactly if they are equal with all marks cleared.** -/
theorem sameType_iff_clear : ∀ a b : TypeRef, a.sameType b = true ↔ a.clear = b.clear
  | .mk n k as c _, .mk n' k' as' c' _ => by
    simp only [sameType, clear, Bool.and_eq_true, beq_iff_eq, sameTypes_iff_clearAll as as', mk.injEq,
      and_true]
    tauto

theorem sameTypes_iff_clearAll : ∀ as bs : List TypeRef,
    sameTypes as bs = true ↔ clearAll as = clearAll bs
  | [], [] => by simp [sameTypes]
  | [], _ :: _ => by simp [sameTypes, clearAll]
  | _ :: _, [] => by simp [sameTypes, clearAll]
  | a :: as, b :: bs => by
    simp only [sameTypes, clearAll, Bool.and_eq_true, List.cons.injEq, sameType_iff_clear a b,
      sameTypes_iff_clearAll as bs]

end

mutual

@[simp] theorem clear_clear : ∀ a : TypeRef, a.clear.clear = a.clear
  | .mk _ _ as _ _ => by rw [clear, clear, clearAll_clearAll as]

@[simp] theorem clearAll_clearAll : ∀ as : List TypeRef, clearAll (clearAll as) = clearAll as
  | [] => rfl
  | a :: as => by rw [clearAll, clearAll, clear_clear a, clearAll_clearAll as]

end

theorem clearAll_eq_map (as : List TypeRef) : clearAll as = as.map clear := by
  induction as with
  | nil => rfl
  | cons a as ih => rw [clearAll, ih, List.map_cons]

@[simp] theorem clear_nonNull (a : TypeRef) : a.nonNull.clear = a.clear := by
  cases a
  rfl

@[simp] theorem name_clear (a : TypeRef) : a.clear.name = a.name := by
  cases a
  rfl

@[simp] theorem kind_clear (a : TypeRef) : a.clear.kind = a.kind := by
  cases a
  rfl

@[simp] theorem args_clear (a : TypeRef) : a.clear.args = clearAll a.args := by
  cases a
  rfl

@[simp] theorem container_clear (a : TypeRef) : a.clear.container = a.container := by
  cases a
  rfl

/-- Nothing in a reference with its marks cleared may be missing. -/
theorem nullable_of_part_clear {r a : TypeRef} (h : r.Part a.clear) : r.nullable = false := by
  generalize hb : a.clear = b at h
  induction h generalizing a with
  | whole =>
    cases a
    rw [← hb, clear]
    rfl
  | inside ha _ ih =>
    obtain ⟨_, _, as, _, _⟩ := a
    rw [clear, mk.injEq] at hb
    obtain ⟨-, -, rfl, -, -⟩ := hb
    rw [clearAll_eq_map] at ha
    obtain ⟨c, -, hc⟩ := List.mem_map.1 ha
    exact ih hc

/-! ### Being the same type -/

theorem sameType_comm (a b : TypeRef) : a.sameType b = b.sameType a := by
  rw [Bool.eq_iff_iff, sameType_iff_clear, sameType_iff_clear, eq_comm]

/-- Whether two references are the same type can be asked of all that have their normal forms. -/
theorem sameType_congr {a a' b b' : TypeRef} (ha : a.clear = a'.clear) (hb : b.clear = b'.clear) :
    a.sameType b = a'.sameType b' := by
  rw [Bool.eq_iff_iff, sameType_iff_clear, sameType_iff_clear, ha, hb]

end TypeRef

namespace Matching

variable {g : TypeGraph}

/-! ### Classification -/

mutual

/-- What a conversion takes does not depend on what may be missing of the target. -/
theorem needOf_clear : ∀ a b : TypeRef, needOf g a b.clear = needOf g a b
  | .mk n k as c u, b => by
    unfold needOf
    have hempty : (TypeRef.clearAll b.args).isEmpty = b.args.isEmpty := by
      rw [TypeRef.clearAll_eq_map, List.isEmpty_map]
    rw [TypeRef.sameType_congr rfl (TypeRef.clear_clear b), TypeRef.kind_clear, TypeRef.name_clear,
      TypeRef.args_clear, TypeRef.container_clear, hempty, elementNeed_clearAll as b.args]

theorem elementNeed_clearAll : ∀ as bs : List TypeRef,
    elementNeed g as (TypeRef.clearAll bs) = elementNeed g as bs
  | [], _ => by simp [elementNeed]
  | _ :: _, [] => rfl
  | a :: _, b :: bs => by rw [TypeRef.clearAll, elementNeed, elementNeed, needOf_clear a b]

end

theorem needOf_of_sameType {a b : TypeRef} (h : a.sameType b = true) : needOf g a b = .ok .direct := by
  cases a
  unfold needOf
  rw [if_pos h]

/-- **Types alone decide.** Two references are the same type exactly if they are equal once nothing in
them may be missing at any depth, so this is an equivalence that the marks of a reference have no part
in. In every graph, and whoever supplies routines, a value whose type is the same as the target's is
copied without a routine being asked for, and marks of the target at any depth change nothing. -/
theorem classifies_types_only :
    (∀ a b : TypeRef, a.sameType b = true ↔ a.clear = b.clear) ∧
    (∀ a r : TypeRef, r.Part a.clear → r.nullable = false) ∧
    Equivalence (fun a b : TypeRef => a.sameType b = true) ∧
    (∀ a b : TypeRef, a.nonNull.sameType b = a.sameType b ∧ a.sameType b.nonNull = a.sameType b) ∧
    ∀ (g : TypeGraph) (σ : Type) (supply : Supplier σ) (a b : TypeRef),
      (a.sameType b = true → classify g supply a b = pure .direct) ∧
      ∀ b' : TypeRef, b.clear = b'.clear → classify g supply a b = classify g supply a b' := by
  refine ⟨TypeRef.sameType_iff_clear, fun _ _ => TypeRef.nullable_of_part_clear, ⟨?refl, ?symm, ?trans⟩,
    ?nonNull, fun g σ supply a b => ⟨fun h => ?direct, fun b' h => ?marks⟩⟩
  case refl => exact fun a => (TypeRef.sameType_iff_clear a a).2 rfl
  case symm => exact fun {a b} h => TypeRef.sameType_comm a b ▸ h
  case trans =>
    intro a b c hab hbc
    rw [TypeRef.sameType_iff_clear] at hab hbc ⊢
    exact hab.trans hbc
  case nonNull =>
    exact fun a b => ⟨TypeRef.sameType_congr (TypeRef.clear_nonNull a) rfl,
      TypeRef.sameType_congr rfl (TypeRef.clear_nonNull b)⟩
  case direct =>
    rw [classify, needOf_of_sameType h]
    rfl
  case marks =>
    rw [classify, classify, ← needOf_clear a b, h, needOf_clear a b']

/-- A list of texts, all of which may be missing, as may the whole list. -/
def looseTexts : TypeRef :=
  (TypeRef.collectionOf .list (TypeRef.plain "str" .scalar).orMissing).orMissing

/-- No types at all. -/
def noTypes : TypeGraph := ⟨[], List.nodup_nil⟩

/-- Such a list is copied into one of which nothing may be missing, and a list of integers is converted
into either of the two in the same way. -/
theorem classifies_types_only_texts :
    looseTexts.sameType looseTexts.clear = true ∧ looseTexts ≠ looseTexts.clear ∧
    classify noTypes (directSupplier noTypes) looseTexts looseTexts.clear = pure .direct ∧
    classify noTypes (directSupplier noTypes) (.collectionOf .list (.plain "int" .scalar)) looseTexts =
      classify noTypes (directSupplier noTypes) (.collectionOf .list (.plain "int" .scalar))
        looseTexts.clear := by
  obtain ⟨hiff, -, -, -, hclassify⟩ := classifies_types_only
  have hclear : looseTexts.clear.clear = looseTexts.clear := by decide
  have hsame : looseTexts.sameType looseTexts.clear = true := (hiff _ _).2 hclear.symm
  exact ⟨hsame, by decide, (hclassify _ _ _ _ _).1 hsame, (hclassify _ _ _ _ _).2 _ hclear.symm⟩

end Matching

end Mapsmith
