import Mapsmith.Proofs.Index
import Mathlib.Data.List.Sort
import Mathlib.Data.Prod.Lex
import Mathlib.Data.String.Basic
import Mathlib.Logic.Equiv.Defs

/-!
# Who is in conflict, and what a conflict tells

The index looks for conflicts in three passes: over directives for one pair, over ways back, and over
routines that would be defined twice. What comes of it is a relation between positions
(`Mapsmith.DirectiveIndex.AtOdds`). It is symmetric, so nobody who takes part in a clash goes unreported,
and it looks at positions only to tell directives apart, so it does not matter in which order they
stand (`Mapsmith.DirectiveIndex.conflict_iff`).

What is said of a conflict does depend on the order. The first two kinds depend on the list of directives
alone. The third names the least definition, in the order of namespaces and names, that the directive
shares with one at another position, and so depends on the types of all directives. Two things follow.
Where a directive shares a definition, its conflict is about one that is no greater
(`Mapsmith.DirectiveIndex.firstShared_le`). And between directives whose types go by the same simple
names, the wording of a conflict tells which definition it is about
(`Mapsmith.DirectiveIndex.eq_of_clashText`).
-/

namespace Mapsmith

/-! ### Pairs of texts in order -/

namespace Text

variable {α : Type}

theorem keyLe_pair {a b : String × String} :
    keyLe [a.1, a.2] [b.1, b.2] = true ↔ toLex a ≤ toLex b := by
  rw [Prod.Lex.toLex_le_toLex]
  simp only [keyLe]
  by_cases hfst : a.1 = b.1
  · rw [if_pos hfst]
    by_cases hsnd : a.2 = b.2
    · simp [hfst, hsnd]
    · rw [if_neg hsnd, decide_eq_true_eq]
      simp [hfst, le_iff_lt_or_eq, hsnd]
  · rw [if_neg hfst, decide_eq_true_eq]
    simp [hfst]

theorem place_eq_orderedInsert (le : α → α → Bool) (x : α) (ys : List α) :
    place le x ys = ys.orderedInsert (fun a b => le a b = true) x := by
  induction ys with
  | nil => rfl
  | cons y ys ih => rw [place, List.orderedInsert_cons, ih]

theorem sortBy_eq_insertionSort (le : α → α → Bool) (xs : List α) :
    sortBy le xs = xs.insertionSort (fun a b => le a b = true) := by
  induction xs with
  | nil => rfl
  | cons x xs ih => rw [sortBy, ih, place_eq_orderedInsert, List.insertionSort_cons]

/-- The first of some pairs in sorted order is the least. -/
theorem le_of_head?_sortByKey {ps : List (String × String)} {p q : String × String}
    (h : (sortByKey (fun k : String × String => [k.1, k.2]) ps).head? = some p) (hq : q ∈ ps) :
    toLex p ≤ toLex q := by
  let le := fun a b : String × String => keyLe [a.1, a.2] [b.1, b.2]
  have htotal : Std.Total fun a b => le a b = true :=
    ⟨fun a b => by simpa only [le, keyLe_pair] using le_total _ _⟩
  have htrans : IsTrans _ fun a b => le a b = true :=
    ⟨fun a b c hab hbc => keyLe_pair.2 ((keyLe_pair.1 hab).trans (keyLe_pair.1 hbc))⟩
  have hsorted : (sortByKey (fun k : String × String => [k.1, k.2]) ps).Pairwise
      fun a b => le a b = true := by
    rw [sortByKey, sortBy_eq_insertionSort]
    exact List.pairwise_insertionSort _ ps
  obtain ⟨rest, hrest⟩ := List.head?_eq_some_iff.1 h
  have hmem : q ∈ p :: rest := hrest ▸ mem_sortByKey.2 hq
  rw [hrest, List.pairwise_cons] at hsorted
  rcases List.mem_cons.1 hmem with rfl | hmem
  · exact le_refl _
  · exact keyLe_pair.1 (hsorted.1 q hmem)

end Text

namespace DirectiveIndex

/-! ### The relation between directives -/

section Relation

variable {index : DirectiveIndex} {d e : Directive} {i j : Nat}

/-- **A directive gets in the way of another one.** They are told apart by their positions `i` and `j`;
a directive between a type and itself may be its own way back. -/
inductive Clash (index : DirectiveIndex) (i j : Nat) (d e : Directive) : Prop
  /-- Both are for one pair. -/
  | samePair (hij : i ≠ j) (hpair : d.pair = e.pair)
  /-- The first is two-way, and the second is for its way back. -/
  | leadsBack (hon : d.bidirectional.isOn = true) (hpair : e.pair = (d.target, d.source))
  /-- The second is two-way, and the first is for its way back. -/
  | ledBack (hon : e.bidirectional.isOn = true) (hpair : d.pair = (e.target, e.source))
  /-- Both define a routine of one name in one namespace. -/
  | sameRoutine {name : String} (hij : i ≠ j) (hhome : index.home d = index.home e)
    (hd : name ∈ index.routineNames d) (he : name ∈ index.routineNames e)

/-- Are the directives at two positions in each other's way? -/
def AtOdds (index : DirectiveIndex) (i j : Nat) : Prop :=
  ∃ d e, index.directives[i]? = some d ∧ index.directives[j]? = some e ∧ index.Clash i j d e

theorem Clash.symm (h : index.Clash i j d e) : index.Clash j i e d := by
  cases h with
  | samePair hij hpair => exact .samePair hij.symm hpair.symm
  | leadsBack hon hpair => exact .ledBack hon hpair
  | ledBack hon hpair => exact .leadsBack hon hpair
  | sameRoutine hij hhome hd he => exact .sameRoutine hij.symm hhome.symm he hd

theorem AtOdds.symm (h : index.AtOdds i j) : index.AtOdds j i := by
  obtain ⟨d, e, hd, he, hclash⟩ := h
  exact ⟨e, d, he, hd, hclash.symm⟩

/-! ### What each pass finds -/

/-- Where more than one position passes a test, one besides any given position does. -/
theorem exists_ne_of_one_lt_countP {α : Type} {xs : List α} {test : α → Bool}
    (h : 1 < xs.countP test) (i : Nat) : ∃ j x, i ≠ j ∧ xs[j]? = some x ∧ test x = true := by
  have hdup : (xs.map test).Duplicate true := by
    rw [List.duplicate_iff_two_le_count, List.count, List.countP_map]
    simp only [Function.comp_def, beq_true]
    exact h
  obtain ⟨m, n, hmn, hm, hn⟩ := List.duplicate_iff_exists_distinct_get.1 hdup
  have hpasses : ∀ k : Fin (xs.map test).length, true = (xs.map test).get k →
      ∃ x, xs[(k : Nat)]? = some x ∧ test x = true := by
    intro k hk
    have hlt : (k : Nat) < xs.length := by simpa using k.isLt
    refine ⟨xs[(k : Nat)], List.getElem?_eq_getElem hlt, ?_⟩
    simpa using hk.symm
  -- the two positions differ, so one of them is not the given one
  by_cases him : i = (m : Nat)
  · obtain ⟨x, hx, htest⟩ := hpasses n hn
    refine ⟨n, x, fun hin => ?_, hx, htest⟩
    exact absurd (Fin.lt_def.1 hmn) (by omega)
  · obtain ⟨x, hx, htest⟩ := hpasses m hm
    exact ⟨m, x, him, hx, htest⟩

theorem isSome_samePairClash (hd : index.directives[i]? = some d) :
    (index.samePairClash d).isSome = true ↔
      ∃ j e, index.directives[j]? = some e ∧ i ≠ j ∧ d.pair = e.pair := by
  constructor
  · intro h
    have hcount : 1 < index.directives.countP (·.pair == d.pair) := by
      by_contra hcount
      simp only [samePairClash] at h
      rw [if_neg hcount] at h
      cases h
    obtain ⟨j, e, hij, he, hpair⟩ := exists_ne_of_one_lt_countP hcount i
    exact ⟨j, e, he, hij, (beq_iff_eq.1 hpair).symm⟩
  · rintro ⟨j, e, he, hij, hpair⟩
    exact samePairClash_isSome hd he hij hpair.symm

/-- The pass over ways back reports both ends: whoever leads back, and whoever is led back to. -/
theorem isSome_reverseClash (i : Nat) : (index.reverseClash i).isSome = true ↔
    ∃ j d o e, index.directives[j]? = some d ∧ index.directives[o]? = some e ∧
      d.bidirectional.isOn = true ∧ e.pair = (d.target, d.source) ∧ (o = i ∨ j = i) := by
  -- what is said of a pair depends on which end is asked about, that something is said does not
  have hreport : ∀ {c c' : Prop} [Decidable c] [Decidable c'] {x y : String},
      (if c then some x else if c' then some y else none).isSome = true ↔ c ∨ c' := by
    intro c c' _ _ x y
    by_cases hc : c <;> simp [hc]
  simp only [reverseClash, List.findSome?_isSome_iff, Prod.exists, mem_numbered]
  refine exists_congr fun j => exists_congr fun d => ?_
  by_cases hon : d.bidirectional.isOn = true
  · simp only [hon, if_true, List.findSome?_isSome_iff, Prod.exists, List.mem_filter, mem_numbered,
      beq_iff_eq, hreport, true_and]
    constructor
    · rintro ⟨hd, o, e, ⟨he, hpair⟩, hi⟩
      exact ⟨o, e, hd, he, hpair, hi⟩
    · rintro ⟨o, e, hd, he, hpair, hi⟩
      exact ⟨hd, o, e, ⟨he, hpair⟩, hi⟩
  · simp [hon]

theorem isSome_routineClash : (index.routineClash i d).isSome = true ↔
    ∃ j e, index.directives[j]? = some e ∧ i ≠ j ∧ index.home d = index.home e ∧
      ∃ name ∈ index.routineNames d, name ∈ index.routineNames e := by
  rw [← Option.ne_none_iff_isSome, Ne, routineClash_eq_none]
  simp only [not_forall, not_not]
  constructor
  · rintro ⟨j, e, he, hji, key, hkd, hke⟩
    obtain ⟨hhome, hname⟩ := mem_definitions.1 hkd
    obtain ⟨hhome', hname'⟩ := mem_definitions.1 hke
    exact ⟨j, e, he, hji.symm, hhome.symm.trans hhome', key.2, hname, hname'⟩
  · rintro ⟨j, e, he, hij, hhome, name, hname, hname'⟩
    exact ⟨j, e, he, hij.symm, (index.home d, name), mem_definitions.2 ⟨rfl, hname⟩,
      mem_definitions.2 ⟨hhome, hname'⟩⟩

/-- **A directive is reported** exactly if it is at odds with some directive, be it with itself. -/
theorem isSome_conflict : (index.conflict i).isSome = true ↔ ∃ j, index.AtOdds i j := by
  cases hd : index.directives[i]? with
  | none =>
    have hnone : index.conflict i = none := by simp only [conflict, hd]
    rw [hnone]
    constructor
    · intro h
      cases h
    · rintro ⟨j, d, e, hsome, -⟩
      rw [hd] at hsome
      cases hsome
  | some d =>
    have hpasses : (index.conflict i).isSome = true ↔ (index.samePairClash d).isSome = true ∨
        (index.reverseClash i).isSome = true ∨ (index.routineClash i d).isSome = true := by
      simp only [conflict, hd, Option.isSome_or, Bool.or_eq_true, or_assoc]
    rw [hpasses, isSome_samePairClash hd, isSome_reverseClash, isSome_routineClash]
    constructor
    · rintro (⟨j, e, he, hij, hpair⟩ | ⟨j, f, k, e, hf, he, hon, hpair, rfl | rfl⟩ |
        ⟨j, e, he, hij, hhome, name, hname, hname'⟩)
      · exact ⟨j, d, e, hd, he, .samePair hij hpair⟩
      · obtain rfl : d = e := Option.some.inj (hd.symm.trans he)
        exact ⟨j, d, f, hd, hf, .ledBack hon hpair⟩
      · obtain rfl : d = f := Option.some.inj (hd.symm.trans hf)
        exact ⟨k, d, e, hd, he, .leadsBack hon hpair⟩
      · exact ⟨j, d, e, hd, he, .sameRoutine hij hhome hname hname'⟩
    · rintro ⟨j, d', e, hd', he, hclash⟩
      obtain rfl : d = d' := Option.some.inj (hd.symm.trans hd')
      cases hclash with
      | samePair hij hpair => exact .inl ⟨j, e, he, hij, hpair⟩
      | leadsBack hon hpair => exact .inr (.inl ⟨i, d, j, e, hd, he, hon, hpair, .inr rfl⟩)
      | ledBack hon hpair => exact .inr (.inl ⟨j, e, i, d, he, hd, hon, hpair, .inl rfl⟩)
      | sameRoutine hij hhome hname hname' =>
        exact .inr (.inr ⟨j, e, he, hij, hhome, _, hname, hname'⟩)

/-! ### Other orders -/

/-- The index with its directives in another order: at a position stands what stood at the one that
it is sent to. -/
def rearranged (index : DirectiveIndex) (σ : Equiv.Perm (Fin index.directives.length)) :
    DirectiveIndex :=
  { index with directives := List.ofFn fun i => index.directives[σ i] }

section Rearranged

variable {σ : Equiv.Perm (Fin index.directives.length)}

theorem getElem?_rearranged (i : Fin index.directives.length) :
    (index.rearranged σ).directives[(i : Nat)]? = some index.directives[σ i] := by
  simp [rearranged]

theorem lt_of_getElem?_rearranged (h : (index.rearranged σ).directives[j]? = some d) :
    j < index.directives.length := by
  obtain ⟨hlt, -⟩ := List.getElem?_eq_some_iff.1 h
  simpa [rearranged] using hlt

/-- A clash looks at positions only to tell them apart. -/
theorem Clash.rearrange {i' j' : Nat} (h : index.Clash i j d e) (hij : i ≠ j → i' ≠ j') :
    index.Clash i' j' d e := by
  cases h with
  | samePair hne hpair => exact .samePair (hij hne) hpair
  | leadsBack hon hpair => exact .leadsBack hon hpair
  | ledBack hon hpair => exact .ledBack hon hpair
  | sameRoutine hne hhome hd he => exact .sameRoutine (hij hne) hhome hd he

/-- What a directive defines does not depend on where it stands. -/
theorem clash_rearranged : (index.rearranged σ).Clash i j d e ↔ index.Clash i j d e := by
  constructor
  · rintro (⟨hij, hpair⟩ | ⟨hon, hpair⟩ | ⟨hon, hpair⟩ | ⟨hij, hhome, hd, he⟩)
    · exact .samePair hij hpair
    · exact .leadsBack hon hpair
    · exact .ledBack hon hpair
    · exact .sameRoutine hij hhome hd he
  · rintro (⟨hij, hpair⟩ | ⟨hon, hpair⟩ | ⟨hon, hpair⟩ | ⟨hij, hhome, hd, he⟩)
    · exact .samePair hij hpair
    · exact .leadsBack hon hpair
    · exact .ledBack hon hpair
    · exact .sameRoutine hij hhome hd he

theorem atOdds_rearranged (i j : Fin index.directives.length) :
    (index.rearranged σ).AtOdds i j ↔ index.AtOdds (σ i) (σ j) := by
  have hne : (i : Nat) ≠ j ↔ (σ i : Nat) ≠ σ j := by
    rw [Fin.val_ne_iff, Fin.val_ne_iff, σ.injective.ne_iff]
  have hget : ∀ k : Fin index.directives.length,
      index.directives[(σ k : Nat)]? = some index.directives[σ k] := fun k => by simp
  constructor
  · rintro ⟨d, e, hd, he, hclash⟩
    rw [getElem?_rearranged] at hd he
    exact ⟨d, e, (hget i).trans hd, (hget j).trans he,
      (clash_rearranged.1 hclash).rearrange hne.1⟩
  · rintro ⟨d, e, hd, he, hclash⟩
    rw [hget] at hd he
    exact ⟨d, e, (getElem?_rearranged i).trans hd, (getElem?_rearranged j).trans he,
      clash_rearranged.2 (hclash.rearrange hne.2)⟩

theorem isSome_conflict_rearranged (i : Fin index.directives.length) :
    ((index.rearranged σ).conflict i).isSome = (index.conflict (σ i)).isSome := by
  rw [Bool.eq_iff_iff, isSome_conflict, isSome_conflict]
  constructor
  · rintro ⟨j, hodds⟩
    obtain ⟨-, e, -, he, -⟩ := id hodds
    exact ⟨_, (atOdds_rearranged i ⟨j, lt_of_getElem?_rearranged he⟩).1 hodds⟩
  · rintro ⟨j, hodds⟩
    obtain ⟨-, e, -, he, -⟩ := id hodds
    obtain ⟨hlt, -⟩ := List.getElem?_eq_some_iff.1 he
    refine ⟨σ.symm ⟨j, hlt⟩, (atOdds_rearranged i _).2 ?_⟩
    rwa [Equiv.apply_symm_apply]

end Rearranged

/-- **Conflicts are exact and symmetric.** A directive is reported for a conflict exactly if it is at
odds with one at some position; that one is then at odds with it, and so reported as well; and in
whatever order the directives stand, the same ones are reported. -/
theorem conflict_iff (index : DirectiveIndex) :
    (∀ i, (index.conflict i).isSome = true ↔ ∃ j, index.AtOdds i j) ∧
    (∀ i j, index.AtOdds i j ↔ index.AtOdds j i) ∧
    ∀ (σ : Equiv.Perm (Fin index.directives.length)) (i : Fin index.directives.length),
      ((index.rearranged σ).conflict i).isSome = (index.conflict (σ i)).isSome :=
  ⟨fun _ => isSome_conflict, fun _ _ => ⟨AtOdds.symm, AtOdds.symm⟩,
    fun _ => isSome_conflict_rearranged⟩

end Relation

variable {index index' : DirectiveIndex} {d e : Directive} {i j : Nat} {key key' : String × String}

/-! ### The least shared definition -/

/-- The least definition of the directive at a position that one at another position shares. -/
def firstShared (index : DirectiveIndex) (position : Nat) (d : Directive) :
    Option (String × String) :=
  (Text.sortByKey (fun key : String × String => [key.1, key.2]) <|
    (index.definitions d).filter fun key =>
      index.numbered.any fun (i, e) => i ≠ position && (index.definitions e).contains key).head?

/-- The wording of a conflict over a definition. -/
def clashText (key : String × String) : String :=
  "routine '" ++ key.2 ++ "' in '" ++ key.1 ++ "' generated more than once"

theorem routineClash_eq : index.routineClash i d = (index.firstShared i d).map clashText := by
  simp only [routineClash, firstShared, List.contains_eq_mem]
  rfl

theorem mem_definitions_of_firstShared (h : index.firstShared i d = some key) :
    key ∈ index.definitions d := by
  have hmem := Text.mem_sortByKey.1 (List.mem_of_head? h)
  exact (List.mem_filter.1 hmem).1

/-- **A directive that shares a definition** has a least one that it shares. -/
theorem firstShared_le (he : index.directives[j]? = some e) (hij : j ≠ i)
    (hkd : key ∈ index.definitions d) (hke : key ∈ index.definitions e) :
    ∃ least, index.firstShared i d = some least ∧ toLex least ≤ toLex key := by
  have hshared : key ∈ (index.definitions d).filter fun key =>
      index.numbered.any fun (n, e) => n ≠ i && (index.definitions e).contains key := by
    refine List.mem_filter.2 ⟨hkd, List.any_eq_true.2 ⟨(j, e), mem_numbered.2 he, ?_⟩⟩
    simp [hij, hke]
  cases hleast : index.firstShared i d with
  | none =>
    rw [firstShared, List.head?_eq_none_iff, Text.sortByKey_eq_nil] at hleast
    rw [hleast] at hshared
    cases hshared
  | some least => exact ⟨least, rfl, Text.le_of_head?_sortByKey hleast hshared⟩

/-! ### Wordings -/

/-- The names that the routines of a directive can have. -/
def namesBetween (source target : String) : List String :=
  [RoutineName.forward source target, RoutineName.forward target source,
    RoutineName.update source target, RoutineName.projection source target]

theorem mem_namesBetween {name : String} (h : name ∈ index.routineNames d) :
    name ∈ namesBetween (index.simpleName d.source) (index.simpleName d.target) := by
  simp only [routineNames, List.mem_cons, List.mem_append] at h
  simp only [namesBetween, List.mem_cons, List.not_mem_nil, or_false]
  rcases h with rfl | (hback | hupdate) | hprojection
  · exact .inl rfl
  · split at hback
    · exact .inr (.inl (List.mem_singleton.1 hback))
    · cases hback
  · split at hupdate
    · exact .inr (.inr (.inl (List.mem_singleton.1 hupdate)))
    · cases hupdate
  · split at hprojection
    · exact .inr (.inr (.inr (List.mem_singleton.1 hprojection)))
    · cases hprojection

/-- Names between two types that begin alike are of one length. -/
theorem length_eq_of_head?_eq {source target n n' : String} (h : n ∈ namesBetween source target)
    (h' : n' ∈ namesBetween source target) (hhead : n.toList.head? = n'.toList.head?) :
    n.toList.length = n'.toList.length := by
  have hswap : (RoutineName.forward source target).toList.length =
      (RoutineName.forward target source).toList.length := by
    simp only [RoutineName.forward, String.toList_append, List.length_append]
    omega
  simp only [namesBetween, List.mem_cons, List.not_mem_nil, or_false] at h h'
  rcases h with rfl | rfl | rfl | rfl <;> rcases h' with rfl | rfl | rfl | rfl <;>
    simp_all [RoutineName.head?_forward, RoutineName.head?_update, RoutineName.head?_projection]

theorem head?_append_of_mem_namesBetween {source target n r : String}
    (h : n ∈ namesBetween source target) : (n ++ r).toList.head? = n.toList.head? := by
  simp only [namesBetween, List.mem_cons, List.not_mem_nil, or_false] at h
  rw [String.toList_append, List.head?_append]
  rcases h with rfl | rfl | rfl | rfl <;>
    simp [RoutineName.head?_forward, RoutineName.head?_update, RoutineName.head?_projection]

/-- **The wording of a conflict tells its definition**, among directives between types that go by the
same simple names. -/
theorem eq_of_clashText (hs : index.simpleName d.source = index.simpleName e.source)
    (ht : index.simpleName d.target = index.simpleName e.target) (hkd : key ∈ index.definitions d)
    (hke : key' ∈ index.definitions e) (h : clashText key = clashText key') : key = key' := by
  have hname := mem_namesBetween (mem_definitions.1 hkd).2
  have hname' := mem_namesBetween (mem_definitions.1 hke).2
  rw [← hs, ← ht] at hname'
  have htail : key.2 ++ ("' in '" ++ key.1 ++ "' generated more than once") =
      key'.2 ++ ("' in '" ++ key'.1 ++ "' generated more than once") := by
    simp only [clashText, String.append_assoc] at h ⊢
    exact String.append_right_inj _ |>.1 h
  -- the names begin alike, so they are of one length and both parts agree
  have hlength : key.2.toList.length = key'.2.toList.length := by
    refine length_eq_of_head?_eq hname hname' ?_
    rw [← head?_append_of_mem_namesBetween hname, htail, head?_append_of_mem_namesBetween hname']
  have hlists := congrArg String.toList htail
  rw [String.toList_append, String.toList_append (s := key'.2)] at hlists
  obtain ⟨hsnd, hrest⟩ := List.append_inj hlists hlength
  have hfst : key.1 = key'.1 := by
    have hafter := String.toList_inj.1 hrest
    simp only [String.append_assoc] at hafter
    exact String.append_left_inj _ |>.1 (String.append_right_inj _ |>.1 hafter)
  exact Prod.ext hfst (String.toList_inj.1 hsnd)

/-! ### Conflicts of one directive -/

/-- **Two conflicts of one directive**, over one list of directives, agree unless both are about
routines. -/
theorem conflict_eq_or (hds : index.directives = index'.directives)
    (hi : index.directives[i]? = some d) (hj : index'.directives[j]? = some d) :
    index.conflict i = index'.conflict j ∨
      index.conflict i = (index.firstShared i d).map clashText ∧
        index'.conflict j = (index'.firstShared j d).map clashText := by
  have hpair : index'.samePairClash d = index.samePairClash d := by
    rw [samePairClash, samePairClash, hds]
  have hback : index'.reverseClash j = index.reverseClash j := by
    rw [reverseClash, reverseClash, numbered, numbered, hds]
  have hconflict : index.conflict i =
      ((index.samePairClash d).or (index.reverseClash i)).or (index.routineClash i d) := by
    simp only [conflict, hi]
  have hconflict' : index'.conflict j =
      ((index.samePairClash d).or (index.reverseClash j)).or (index'.routineClash j d) := by
    simp only [conflict, hj, hpair, hback]
  rw [hconflict, hconflict']
  cases hsame : index.samePairClash d with
  | some detail => exact .inl rfl
  | none =>
    -- a directive that stands at one position alone has one clash over ways back
    have hij : i = j := by
      by_contra hij
      have hclash := samePairClash_isSome hi (hds ▸ hj) hij rfl
      rw [hsame] at hclash
      cases hclash
    rw [hij]
    cases index.reverseClash j with
    | some detail => exact .inl rfl
    | none => exact .inr ⟨routineClash_eq, routineClash_eq⟩

end DirectiveIndex

end Mapsmith
