import Mathlib.Data.List.Forall2

/-!
# Steps that can fail

What it means for a sequence of steps to succeed: every step of it does, and the later ones on what
the earlier ones give. Planning and generation are written with the monad of such steps, and the
lemmas below take their runs apart one step at a time.
-/

namespace Mapsmith.Steps

variable {ε σ α β : Type}

/-! ### Without a state -/

theorem bind_eq_ok {x : Except ε α} {f : α → Except ε β} {b : β} :
    x >>= f = .ok b ↔ ∃ a, x = .ok a ∧ f a = .ok b := by
  cases x with
  | error e => simp [bind, Except.bind]
  | ok a => simp [bind, Except.bind]

theorem pure_eq_ok {a b : α} : (pure a : Except ε α) = .ok b ↔ a = b := by
  simp [pure, Except.pure]

theorem map_eq_ok {f : α → β} {x : Except ε α} {b : β} :
    x.map f = .ok b ↔ ∃ a, x = .ok a ∧ f a = b := by
  cases x with
  | error e => simp [Except.map]
  | ok a => simp [Except.map]

theorem mapError_eq_ok {ε' : Type} {h : ε → ε'} {x : Except ε α} {a : α} :
    x.mapError h = .ok a ↔ x = .ok a := by
  cases x with
  | error e => exact ⟨nofun, nofun⟩
  | ok b => simp [Except.mapError]

theorem mapM_eq_ok {f : α → Except ε β} {xs : List α} {ys : List β} :
    xs.mapM f = .ok ys ↔ List.Forall₂ (fun x y => f x = .ok y) xs ys := by
  induction xs generalizing ys with
  | nil =>
    rw [List.mapM_nil, pure_eq_ok, List.forall₂_nil_left_iff, eq_comm]
  | cons x xs ih =>
    rw [List.mapM_cons, bind_eq_ok, List.forall₂_cons_left_iff]
    constructor
    · rintro ⟨y, hy, hrest⟩
      obtain ⟨zs, hzs, hpure⟩ := bind_eq_ok.1 hrest
      exact ⟨y, zs, hy, ih.1 hzs, (pure_eq_ok.1 hpure).symm⟩
    · rintro ⟨y, zs, hy, hzs, rfl⟩
      exact ⟨y, hy, bind_eq_ok.2 ⟨zs, ih.2 hzs, pure_eq_ok.2 rfl⟩⟩

/-- Steps that succeed one by one succeed together. -/
theorem exists_mapM_eq_ok {f : α → Except ε β} {xs : List α} (h : ∀ x ∈ xs, ∃ y, f x = .ok y) :
    ∃ ys, xs.mapM f = .ok ys := by
  induction xs with
  | nil => exact ⟨[], rfl⟩
  | cons x xs ih =>
    obtain ⟨⟨y, hy⟩, hrest⟩ := List.forall_mem_cons.1 h
    obtain ⟨ys, hys⟩ := ih hrest
    exact ⟨y :: ys, mapM_eq_ok.2 (.cons hy (mapM_eq_ok.1 hys))⟩

theorem bind_eq_error {x : Except ε α} {f : α → Except ε β} {e : ε} (h : x >>= f = .error e) :
    x = .error e ∨ ∃ a, x = .ok a ∧ f a = .error e := by
  cases x with
  | error e' =>
    cases h
    exact .inl rfl
  | ok a => exact .inr ⟨a, rfl, h⟩

/-- Steps over a list fail with what one of them fails with. -/
theorem mapM_eq_error {f : α → Except ε β} {xs : List α} {e : ε} (h : xs.mapM f = .error e) :
    ∃ x ∈ xs, f x = .error e := by
  induction xs with
  | nil => cases h
  | cons x xs ih =>
    rw [List.mapM_cons] at h
    rcases bind_eq_error h with h | ⟨y, -, h⟩
    · exact ⟨x, List.mem_cons_self, h⟩
    · rcases bind_eq_error h with h | ⟨ys, -, h⟩
      · obtain ⟨x', hx', h⟩ := ih h
        exact ⟨x', List.mem_cons_of_mem _ hx', h⟩
      · cases h

/-- Steps over a stretch of a list succeed with a stretch of what all of them give. -/
theorem exists_infix_of_mapM {f : α → Except ε β} {xs part : List α} {ys : List β}
    (h : xs.mapM f = .ok ys) (hpart : part <:+: xs) :
    ∃ zs, part.mapM f = .ok zs ∧ zs <:+: ys := by
  obtain ⟨before, after, rfl⟩ := hpart
  rw [List.mapM_append, List.mapM_append] at h
  obtain ⟨front, hfront, h⟩ := bind_eq_ok.1 h
  obtain ⟨back, -, h⟩ := bind_eq_ok.1 h
  obtain ⟨first, -, hfront⟩ := bind_eq_ok.1 hfront
  obtain ⟨zs, hzs, hfront⟩ := bind_eq_ok.1 hfront
  rw [← pure_eq_ok.1 h, ← pure_eq_ok.1 hfront]
  exact ⟨zs, hzs, List.infix_append first zs back⟩

theorem exists_of_mem_left {R : α → β → Prop} {xs : List α} {ys : List β}
    (h : List.Forall₂ R xs ys) {x : α} (hx : x ∈ xs) : ∃ y ∈ ys, R x y := by
  induction h with
  | nil => cases hx
  | cons hab _ ih =>
    rcases List.mem_cons.1 hx with rfl | hx
    · exact ⟨_, List.mem_cons_self, hab⟩
    · obtain ⟨y, hy, hR⟩ := ih hx
      exact ⟨y, List.mem_cons_of_mem _ hy, hR⟩

theorem exists_of_mem_right {R : α → β → Prop} {xs : List α} {ys : List β}
    (h : List.Forall₂ R xs ys) {y : β} (hy : y ∈ ys) : ∃ x ∈ xs, R x y :=
  exists_of_mem_left h.flip hy

/-- Steps that are run on closed input succeed with what a check of their outcome finds. -/
theorem exists_of_any {x : Except ε α} {P : α → Prop} [DecidablePred P]
    (h : x.toOption.any (fun a => decide (P a)) = true) : ∃ a, x = .ok a ∧ P a := by
  cases x with
  | error e => cases h
  | ok a => exact ⟨a, rfl, of_decide_eq_true h⟩

/-- Whether steps end in an error can be found out, even if what they give cannot be compared. -/
instance decidableEqError [DecidableEq ε] (x : Except ε α) (e : ε) : Decidable (x = .error e) :=
  match x with
  | .error e' => decidable_of_iff (e' = e) ⟨congrArg Except.error, Except.error.inj⟩
  | .ok _ => isFalse nofun

/-! ### With a state -/

theorem run_bind_eq_ok {x : StateT σ (Except ε) α} {f : α → StateT σ (Except ε) β} {s s' : σ}
    {b : β} :
    (x >>= f).run s = .ok (b, s') ↔
      ∃ a t, x.run s = .ok (a, t) ∧ (f a).run t = .ok (b, s') := by
  rw [StateT.run_bind, bind_eq_ok]
  constructor
  · rintro ⟨⟨a, t⟩, hx, hf⟩
    exact ⟨a, t, hx, hf⟩
  · rintro ⟨a, t, hx, hf⟩
    exact ⟨(a, t), hx, hf⟩

theorem run_pure_eq_ok {a b : α} {s s' : σ} :
    (pure a : StateT σ (Except ε) α).run s = .ok (b, s') ↔ a = b ∧ s = s' := by
  rw [StateT.run_pure, pure_eq_ok, Prod.mk.injEq]

theorem run_lift_eq_ok {x : Except ε α} {a : α} {s s' : σ} :
    (liftM x : StateT σ (Except ε) α).run s = .ok (a, s') ↔ x = .ok a ∧ s = s' := by
  cases x with
  | error e => simp [liftM, monadLift, MonadLift.monadLift, StateT.lift, StateT.run, bind, Except.bind]
  | ok b =>
    simp [liftM, monadLift, MonadLift.monadLift, StateT.lift, StateT.run, bind, Except.bind, pure,
      Except.pure]

theorem run_get_bind_eq_ok {f : σ → StateT σ (Except ε) β} {s s' : σ} {b : β} :
    (get >>= f).run s = .ok (b, s') ↔ (f s).run s = .ok (b, s') := by
  rw [run_bind_eq_ok]
  constructor
  · rintro ⟨a, t, hget, hf⟩
    cases hget
    exact hf
  · exact fun hf => ⟨s, s, rfl, hf⟩

theorem run_modify_bind_eq_ok {change : σ → σ} {x : StateT σ (Except ε) β} {s s' : σ} {b : β} :
    (modify change >>= fun _ => x).run s = .ok (b, s') ↔ x.run (change s) = .ok (b, s') := by
  rw [run_bind_eq_ok]
  constructor
  · rintro ⟨a, t, hmodify, hx⟩
    cases hmodify
    exact hx
  · exact fun hx => ⟨(), change s, rfl, hx⟩

theorem lift_ok_bind (a : α) (f : α → StateT σ (Except ε) β) :
    (liftM (Except.ok a : Except ε α) : StateT σ (Except ε) α) >>= f = f a := rfl

theorem lift_error_bind (e : ε) (f : α → StateT σ (Except ε) β) :
    (liftM (Except.error e : Except ε α) : StateT σ (Except ε) α) >>= f = liftM (Except.error e : Except ε β) :=
  rfl

end Mapsmith.Steps
