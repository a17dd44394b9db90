import Mapsmith.Program.Shape
import Mapsmith.Proofs.Matching

/-!
# What the reference of a shape names

A shape knows the classes that it names, its reference only their names. Both say the same
(`Mapsmith.Program.Shape.Apt.exists_class`, `Mapsmith.Program.Shape.Apt.exists_part`): the reference
names an enum or an object in one of its parts exactly where the shape has a class, and an enum
where that class is one. A collection has one element type and a container wherever it stands in the
reference. All this holds of the shape of every type of a program.
-/

namespace Mapsmith

/-! ### References that may be missing -/

namespace TypeRef

variable {q t : TypeRef}

/-- A part of a reference that may be missing is a part of the reference, up to nullability. -/
theorem exists_part_of_orMissing (h : q.Part t.orMissing) :
    ∃ p : TypeRef, p.Part t ∧ p.nonNull = q.nonNull := by
  cases t with
  | mk name kind args container nullable =>
    cases h with
    | whole => exact ⟨_, .whole, rfl⟩
    | inside ha h => exact ⟨q, .inside ha h, rfl⟩

/-- A part of a reference is a part of it as one that may be missing, up to nullability. -/
theorem exists_part_orMissing (h : q.Part t) :
    ∃ p : TypeRef, p.Part t.orMissing ∧ p.nonNull = q.nonNull := by
  cases h with
  | whole =>
    cases q
    exact ⟨_, .whole, rfl⟩
  | inside ha h => exact ⟨q, .inside ha h, rfl⟩

/-- Is a reference one of a collection with one element type and a container? -/
def IsWhole (q : TypeRef) : Prop :=
  ∃ element container, q.args = [element] ∧ q.container = some container

end TypeRef

namespace Program

variable {q : TypeRef}

/-- **Does a reference name a class**: an enum as one, any other class as an object? -/
def ClassRef.NamedBy (c : ClassRef) (q : TypeRef) : Prop :=
  q.name = c.name ∧ q.kind = if c.isEnum then .enum else .object

theorem ClassRef.NamedBy.kind_eq_enum_iff {c : ClassRef} (h : c.NamedBy q) :
    q.kind = .enum ↔ c.isEnum = true := by
  rw [h.2]
  cases c.isEnum
  · exact ⟨nofun, nofun⟩
  · exact ⟨fun _ => rfl, fun _ => rfl⟩

/-- Up to nullability, references name the same classes and are the same collections. -/
theorem eq_of_nonNull {p q : TypeRef} (h : p.nonNull = q.nonNull) :
    p.name = q.name ∧ p.kind = q.kind ∧ p.args = q.args ∧ p.container = q.container := by
  cases p
  cases q
  cases h
  exact ⟨rfl, rfl, rfl, rfl⟩

namespace Shape

theorem refs_eq_map (ss : List Shape) : refs ss = ss.map ref := by
  induction ss with
  | nil => rfl
  | cons s ss ih => rw [refs, ih, List.map_cons]

theorem mem_classesAll {c : ClassRef} {ss : List Shape} :
    c ∈ classesAll ss ↔ ∃ s ∈ ss, c ∈ s.classes := by
  induction ss with
  | nil => simp [classesAll]
  | cons s ss ih => simp [classesAll, ih]

/-- **Does a shape tell enums from other classes**, at every depth? -/
inductive Apt : Shape → Prop
  /-- A scalar. -/
  | scalar {name} : Apt (scalar name)
  /-- A type parameter. -/
  | parameter {name} : Apt (parameter name)
  /-- A type known by its spelling. -/
  | verbatim {spelling} : Apt (verbatim spelling)
  /-- An enum. -/
  | enum {c : ClassRef} (h : c.isEnum = true) : Apt (enum c)
  /-- A class that is no enum. -/
  | object {c : ClassRef} {args} (h : c.isEnum = false) (hargs : ∀ s ∈ args, Apt s) :
    Apt (object c args)
  /-- A collection. -/
  | collection {container element} (h : Apt element) : Apt (collection container element)
  /-- A type whose value may be missing. -/
  | nullable {inner} (h : Apt inner) : Apt (nullable inner)

variable {s : Shape}

/-- **What the reference of a shape names as an enum or an object is a class of the shape.** -/
theorem Apt.exists_class (h : s.Apt) (hq : q.Part s.ref) (hkind : q.kind = .enum ∨ q.kind = .object) :
    ∃ c ∈ s.classes, c.NamedBy q := by
  induction h generalizing q with
  | scalar | parameter | verbatim =>
    cases hq with
    | whole => rcases hkind with hkind | hkind <;> cases hkind
    | inside ha _ => cases ha
  | @enum c h =>
    cases hq with
    | whole => exact ⟨c, List.mem_singleton_self c, rfl, by rw [h]; rfl⟩
    | inside ha _ => cases ha
  | @object c args h _ ih =>
    cases hq with
    | whole => exact ⟨c, List.mem_cons_self, rfl, by rw [h]; rfl⟩
    | inside ha hq =>
      rw [refs_eq_map] at ha
      obtain ⟨s, hs, rfl⟩ := List.mem_map.1 ha
      obtain ⟨c', hc', hnamed⟩ := ih s hs hq hkind
      exact ⟨c', List.mem_cons_of_mem _ (mem_classesAll.2 ⟨s, hs, hc'⟩), hnamed⟩
  | collection h ih =>
    cases hq with
    | whole => rcases hkind with hkind | hkind <;> cases hkind
    | inside ha hq =>
      rw [List.mem_singleton.1 ha] at hq
      exact ih hq hkind
  | nullable h ih =>
    obtain ⟨p, hp, hpq⟩ := TypeRef.exists_part_of_orMissing hq
    obtain ⟨hname, hk, -⟩ := eq_of_nonNull hpq
    obtain ⟨c, hc, hnamed⟩ := ih hp (hk ▸ hkind)
    exact ⟨c, hc, hname ▸ hnamed.1, hk ▸ hnamed.2⟩

/-- **Every class of a shape is named in its reference.** -/
theorem Apt.exists_part (h : s.Apt) {c : ClassRef} (hc : c ∈ s.classes) :
    ∃ q : TypeRef, q.Part s.ref ∧ c.NamedBy q := by
  induction h with
  | scalar | parameter | verbatim => cases hc
  | enum h =>
    rw [List.mem_singleton.1 hc]
    exact ⟨_, .whole, rfl, by rw [h]; rfl⟩
  | object h _ ih =>
    rcases List.mem_cons.1 hc with rfl | hc
    · exact ⟨_, .whole, rfl, by rw [h]; rfl⟩
    · obtain ⟨s, hs, hc⟩ := mem_classesAll.1 hc
      obtain ⟨q, hq, hnamed⟩ := ih s hs hc
      exact ⟨q, .inside (refs_eq_map _ ▸ List.mem_map_of_mem hs) hq, hnamed⟩
  | collection h ih =>
    obtain ⟨q, hq, hnamed⟩ := ih hc
    exact ⟨q, .inside (List.mem_singleton_self _) hq, hnamed⟩
  | nullable h ih =>
    obtain ⟨q, hq, hnamed⟩ := ih hc
    obtain ⟨p, hp, hpq⟩ := TypeRef.exists_part_orMissing hq
    obtain ⟨hname, hk, -⟩ := eq_of_nonNull hpq
    exact ⟨p, hp, hname ▸ hnamed.1, hk ▸ hnamed.2⟩

/-- **Collections in the reference of a shape are whole.** -/
theorem Apt.isWhole (h : s.Apt) (hq : q.Part s.ref) (hkind : q.kind = .collection) : q.IsWhole := by
  induction h generalizing q with
  | scalar | parameter | verbatim | enum =>
    cases hq with
    | whole => cases hkind
    | inside ha _ => cases ha
  | object _ _ ih =>
    cases hq with
    | whole => cases hkind
    | inside ha hq =>
      rw [refs_eq_map] at ha
      obtain ⟨s, hs, rfl⟩ := List.mem_map.1 ha
      exact ih s hs hq hkind
  | collection _ ih =>
    cases hq with
    | whole => exact ⟨_, _, rfl, rfl⟩
    | inside ha hq =>
      rw [List.mem_singleton.1 ha] at hq
      exact ih hq hkind
  | nullable _ ih =>
    obtain ⟨p, hp, hpq⟩ := TypeRef.exists_part_of_orMissing hq
    obtain ⟨-, hk, hargs, hcontainer⟩ := eq_of_nonNull hpq
    obtain ⟨element, container, hone, hsome⟩ := ih hp (hk ▸ hkind)
    exact ⟨element, container, hargs ▸ hone, hcontainer ▸ hsome⟩

end Shape

/-! ### Shapes of types -/

namespace Surroundings

variable {m : Surroundings} {c : ClassId} {o : Object} {s : Shape}

theorem apt_classShape {args : Except Fault (List Shape)}
    (hargs : ∀ ss, args = .ok ss → ∀ s ∈ ss, s.Apt) (h : m.classShape c args = .ok s) : s.Apt := by
  unfold classShape at h
  simp only at h
  split at h
  next henum =>
    cases h
    exact .enum henum
  next henum =>
    split at h
    · cases args with
      | error e => cases h
      | ok ss =>
        cases h
        exact .object (Bool.eq_false_iff.2 henum) (hargs ss rfl)
    · cases h
      exact .verbatim

variable {shapes : List Object → Except Fault (List Shape)}

theorem apt_plainShape (hshapes : ∀ os ss, shapes os = .ok ss → ∀ s ∈ ss, s.Apt)
    (h : m.plainShape shapes c = .ok s) : s.Apt := by
  have hnone : ∀ ss, (.ok [] : Except Fault (List Shape)) = .ok ss → ∀ s ∈ ss, s.Apt := by
    rintro ss ⟨⟩ s hs
    cases hs
  unfold plainShape at h
  simp only at h
  split at h
  · exact apt_classShape (hshapes _) h
  · split at h
    · cases h
      exact .verbatim
    · split at h
      · cases h
        exact .scalar
      · cases h
        exact .collection .verbatim
      · split at h
        · cases h
          exact .verbatim
        · exact apt_classShape hnone h
  · split at h
    · cases h
      exact .verbatim
    · exact apt_classShape hnone h

theorem apt_formedShape {f : Former} {args : List Object}
    (hshapes : ∀ os ss, shapes os = .ok ss → ∀ s ∈ ss, s.Apt)
    (h : m.formedShape shapes o f args = .ok s) : s.Apt := by
  unfold formedShape at h
  simp only at h
  split at h
  · cases h
    exact .verbatim
  · split at h
    · split at h
      · cases h
        exact .verbatim
      · obtain ⟨ss, hss, h⟩ := Steps.bind_eq_ok.1 h
        cases h
        refine .collection ?_
        cases ss with
        | nil => exact .verbatim
        | cons s ss => exact hshapes _ _ hss s List.mem_cons_self
    · split at h
      · cases h
        exact .verbatim
      · exact apt_classShape (hshapes _) h

/-- The shape of a union is that of its only option, or known by its spelling. -/
theorem apt_ofUnion {labels : List String} {ss : List Shape} {canBeMissing : Bool}
    (hss : ∀ s ∈ ss, s.Apt) : (Shape.ofUnion labels ss canBeMissing).Apt := by
  have hmissing : ∀ inner : Shape, inner.Apt →
      (if canBeMissing then Shape.nullable inner else inner).Apt := by
    intro inner hinner
    split
    · exact .nullable hinner
    · exact hinner
  unfold Shape.ofUnion
  refine hmissing _ ?_
  split
  · exact hss _ List.mem_cons_self
  · exact .verbatim

theorem apt_unionShape {args : List Object}
    (hshapes : ∀ os ss, shapes os = .ok ss → ∀ s ∈ ss, s.Apt)
    (h : m.unionShape shapes args = .ok s) : s.Apt := by
  unfold unionShape at h
  simp only at h
  split at h
  · obtain ⟨ss, hss, h⟩ := Steps.bind_eq_ok.1 h
    cases h
    exact apt_ofUnion (hshapes _ ss hss)
  · obtain ⟨ss, hss, h⟩ := Steps.bind_eq_ok.1 h
    obtain ⟨-, -, rfl⟩ := Steps.map_eq_ok.1 hss
    cases h
    exact apt_ofUnion nofun

/-- **The shape of a type tells enums from other classes**, however deep the type is nested. -/
theorem apt_shapeWithin {levels : Nat} (h : m.shapeWithin levels o = .ok s) : s.Apt := by
  induction levels generalizing o s with
  | zero => cases h
  | succ levels ih =>
    have hshapes : ∀ (os : List Object) ss, os.mapM (m.shapeWithin levels) = .ok ss →
        ∀ s ∈ ss, s.Apt := by
      intro os ss hss s hs
      obtain ⟨o, -, ho⟩ := Steps.exists_of_mem_right (Steps.mapM_eq_ok.1 hss) hs
      exact ih ho
    unfold shapeWithin at h
    simp only at h
    split at h
    · exact apt_unionShape hshapes h
    · exact apt_unionShape hshapes h
    · split at h
      · cases h
        exact .verbatim
      · cases h
        exact .parameter
    · cases h
      exact .verbatim
    · obtain ⟨-, -, h⟩ := Steps.bind_eq_ok.1 h
      exact apt_plainShape hshapes h
    · exact apt_formedShape hshapes h
    · obtain ⟨-, -, h⟩ := Steps.bind_eq_ok.1 h
      obtain ⟨-, -, h⟩ := Steps.bind_eq_ok.1 h
      exact apt_formedShape hshapes h
    · split at h
      · cases h
        exact .verbatim
      · obtain ⟨-, -, h⟩ := Steps.bind_eq_ok.1 h
        cases h
        exact .verbatim

theorem apt_shape (h : m.shape o = .ok s) : s.Apt :=
  apt_shapeWithin h

end Surroundings

end Program

end Mapsmith
