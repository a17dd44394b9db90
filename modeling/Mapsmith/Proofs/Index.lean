import Mapsmith.DirectiveIndex
import Mapsmith.Proofs.Graph
import Mathlib.Data.List.NodupEquivFin

/-!
# Routines and their definitions

What the index promises for a pair of types, and what it takes for a directive to stand without a
conflict. A routine that the index names is one of the definitions of a directive, in its declared
direction or as its way back; a directive without a conflict shares none of its definitions with a
directive at another position. Together the two tell which directive a named routine belongs to.
-/

namespace Mapsmith

/-! ### The words that names begin with -/

namespace RoutineName

variable (source target : String)

theorem head?_forward : (forward source target).toList.head? = some 'm' := by
  simp [forward, String.toList_append]

theorem head?_update : (update source target).toList.head? = some 'u' := by
  simp [update, String.toList_append]

theorem head?_projection : (projection source target).toList.head? = some 'p' := by
  simp [projection, String.toList_append]

theorem head?_helper (suffix : String) :
    (helper source target ++ suffix).toList.head? = some '_' := by
  simp [helper, String.toList_append]

end RoutineName

@[simp] theorem Directive.strategy_reversed (d : Directive) : d.reversed.strategy = d.strategy := rfl

namespace DirectiveIndex

variable {index index' : DirectiveIndex} {d e : Directive} {s t : String} {r : RoutineRef} {i j : Nat}

/-! ### The directives for a pair -/

theorem directiveFor_eq_some (h : index.directiveFor s t = some d) :
    d ∈ index.directives ∧ d.source = s ∧ d.target = t := by
  refine ⟨List.mem_of_find?_eq_some h, ?_⟩
  simpa using List.find?_some h

theorem reverseFor_eq_some (h : index.reverseFor s t = some d) :
    d ∈ index.directives ∧ d.bidirectional.isOn = true ∧ d.source = t ∧ d.target = s := by
  refine ⟨List.mem_of_find?_eq_some h, ?_⟩
  have hfound := List.find?_some h
  simp only [Bool.and_eq_true, beq_iff_eq] at hfound
  exact ⟨hfound.1.1, hfound.2, hfound.1.2⟩

theorem isSome_directiveFor (hd : d ∈ index.directives) :
    (index.directiveFor d.source d.target).isSome = true :=
  List.find?_isSome.2 ⟨d, hd, by simp⟩

theorem isSome_reverseFor (hd : d ∈ index.directives) (hon : d.bidirectional.isOn = true) :
    (index.reverseFor d.target d.source).isSome = true :=
  List.find?_isSome.2 ⟨d, hd, by simp [hon]⟩

/-- The routine that a directive gives a pair, be it its own or that of its way back. -/
def routineOf (index : DirectiveIndex) (s t : String) (d : Directive) : RoutineRef :=
  { name := RoutineName.forward (index.simpleName s) (index.simpleName t)
    source := s, target := t, home := index.home d }

/-- Does a directive stand behind the routine of a pair: as the first one declared for it, or, where
none is, as the first two-way one that leads back? -/
def Answers (index : DirectiveIndex) (s t : String) (d : Directive) : Prop :=
  index.directiveFor s t = some d ∨ index.directiveFor s t = none ∧ index.reverseFor s t = some d

theorem routineFor_eq_some :
    index.routineFor s t = some r ↔ ∃ d, index.Answers s t d ∧ r = index.routineOf s t d := by
  unfold routineFor Answers routineOf
  cases index.directiveFor s t with
  | some d => simp [eq_comm]
  | none =>
    simp only [Option.none_or, Option.map_eq_some_iff, reduceCtorEq, false_or, true_and]
    exact exists_congr fun d => and_congr_right fun _ => eq_comm

theorem helper_of_routineFor (h : index.routineFor s t = some r) : r.helper = false := by
  obtain ⟨d, -, rfl⟩ := routineFor_eq_some.1 h
  rfl

theorem pair_of_routineFor (h : index.routineFor s t = some r) : r.source = s ∧ r.target = t := by
  obtain ⟨d, -, rfl⟩ := routineFor_eq_some.1 h
  exact ⟨rfl, rfl⟩

theorem Answers.mem (h : index.Answers s t d) : d ∈ index.directives := by
  rcases h with h | ⟨-, h⟩
  · exact (directiveFor_eq_some h).1
  · exact (reverseFor_eq_some h).1

/-- A directive of the index has a routine for its pair. -/
theorem isSome_routineFor (hd : d ∈ index.directives) :
    (index.routineFor d.source d.target).isSome = true := by
  obtain ⟨e, he⟩ := Option.isSome_iff_exists.1 (isSome_directiveFor hd)
  exact Option.isSome_iff_exists.2 ⟨_, routineFor_eq_some.2 ⟨e, .inl he, rfl⟩⟩

/-- A two-way directive of the index has a routine for the pair of its way back. -/
theorem isSome_routineFor_reversed (hd : d ∈ index.directives) (hon : d.bidirectional.isOn = true) :
    (index.routineFor d.target d.source).isSome = true := by
  cases hf : index.directiveFor d.target d.source with
  | some e => exact Option.isSome_iff_exists.2 ⟨_, routineFor_eq_some.2 ⟨e, .inl hf, rfl⟩⟩
  | none =>
    obtain ⟨e, he⟩ := Option.isSome_iff_exists.1 (isSome_reverseFor hd hon)
    exact Option.isSome_iff_exists.2 ⟨_, routineFor_eq_some.2 ⟨e, .inr ⟨hf, he⟩, rfl⟩⟩

/-! ### Definitions -/

theorem mem_definitions {key : String × String} :
    key ∈ index.definitions d ↔ key.1 = index.home d ∧ key.2 ∈ index.routineNames d := by
  obtain ⟨home, name⟩ := key
  simp only [definitions, List.mem_map, Prod.mk.injEq]
  constructor
  · rintro ⟨_, hname, rfl, rfl⟩
    exact ⟨rfl, hname⟩
  · rintro ⟨rfl, hname⟩
    exact ⟨name, hname, rfl, rfl⟩

theorem forward_mem_routineNames :
    RoutineName.forward (index.simpleName d.source) (index.simpleName d.target)
      ∈ index.routineNames d :=
  List.mem_cons_self

theorem backward_mem_routineNames (hon : d.bidirectional.isOn = true) :
    RoutineName.forward (index.simpleName d.target) (index.simpleName d.source)
      ∈ index.routineNames d := by
  simp [routineNames, hon]

theorem update_mem_routineNames (hon : d.update.isOn = true) (henum : index.mapsEnum d = false) :
    RoutineName.update (index.simpleName d.source) (index.simpleName d.target)
      ∈ index.routineNames d := by
  simp [routineNames, hon, henum]

theorem projection_mem_routineNames (hon : d.projection.isOn = true)
    (henum : index.mapsEnum d = false) :
    RoutineName.projection (index.simpleName d.source) (index.simpleName d.target)
      ∈ index.routineNames d := by
  simp [routineNames, hon, henum]

/-- The directive behind a routine defines it. -/
theorem Answers.mem_definitions (h : index.Answers s t d) :
    ((index.routineOf s t d).home, (index.routineOf s t d).name) ∈ index.definitions d := by
  refine DirectiveIndex.mem_definitions.2 ⟨rfl, ?_⟩
  rcases h with h | ⟨-, h⟩
  · obtain ⟨-, rfl, rfl⟩ := directiveFor_eq_some h
    exact forward_mem_routineNames
  · obtain ⟨-, hon, rfl, rfl⟩ := reverseFor_eq_some h
    exact backward_mem_routineNames hon

/-! ### Conflicts -/

theorem mem_numbered : (i, d) ∈ index.numbered ↔ index.directives[i]? = some d := by
  simp only [numbered, List.mem_map, Prod.mk.injEq, Prod.exists, List.mem_zipIdx_iff_getElem?]
  constructor
  · rintro ⟨_, _, h, rfl, rfl⟩
    exact h
  · exact fun h => ⟨d, i, h, rfl, rfl⟩

theorem conflict_eq_none (hd : index.directives[i]? = some d) :
    index.conflict i = none ↔
      index.samePairClash d = none ∧ index.reverseClash i = none ∧ index.routineClash i d = none := by
  simp only [conflict, hd, Option.or_eq_none_iff, and_assoc]

theorem routineClash_eq_none :
    index.routineClash i d = none ↔
      ∀ j e, index.directives[j]? = some e → j ≠ i → ∀ key ∈ index.definitions d,
        key ∉ index.definitions e := by
  unfold routineClash
  rw [Option.map_eq_none_iff, List.head?_eq_none_iff, Text.sortByKey_eq_nil, List.filter_eq_nil_iff]
  simp only [List.any_eq_true, Bool.and_eq_true, decide_eq_true_eq, not_exists, not_and, Prod.forall,
    Prod.exists]
  constructor
  · intro h j e he hji home name hkey hmem
    exact h home name hkey j e (mem_numbered.2 he) hji hmem
  · intro h home name hkey j e he hji
    exact h j e (mem_numbered.1 he) hji home name hkey

/-- Two positions where a test holds make a count of at least two. -/
theorem one_lt_countP {α : Type} {xs : List α} {test : α → Bool} {x y : α} (hij : i ≠ j)
    (hi : xs[i]? = some x) (hj : xs[j]? = some y) (hx : test x = true) (hy : test y = true) :
    1 < xs.countP test := by
  obtain ⟨hilt, rfl⟩ := List.getElem?_eq_some_iff.1 hi
  obtain ⟨hjlt, rfl⟩ := List.getElem?_eq_some_iff.1 hj
  -- the outcome `true` of the test is repeated, so it is counted twice
  have hdup : (xs.map test).Duplicate true := by
    rw [List.duplicate_iff_exists_distinct_get]
    rcases Nat.lt_or_gt_of_ne hij with hlt | hlt
    · exact ⟨⟨i, by simpa using hilt⟩, ⟨j, by simpa using hjlt⟩, hlt, by simp [hx], by simp [hy]⟩
    · exact ⟨⟨j, by simpa using hjlt⟩, ⟨i, by simpa using hilt⟩, hlt, by simp [hy], by simp [hx]⟩
  have htwo := List.duplicate_iff_two_le_count.1 hdup
  rw [List.count, List.countP_map] at htwo
  simp only [Function.comp_def, beq_true] at htwo
  exact htwo

/-- What passes a test that at most one position passes is one thing. -/
theorem eq_of_countP_le {α : Type} {xs : List α} {test : α → Bool} {x y : α}
    (hcount : xs.countP test ≤ 1) (hx : x ∈ xs) (hy : y ∈ xs) (htx : test x = true)
    (hty : test y = true) : x = y := by
  obtain ⟨i, hi⟩ := List.mem_iff_getElem?.1 hx
  obtain ⟨j, hj⟩ := List.mem_iff_getElem?.1 hy
  by_cases hij : i = j
  · subst hij
    exact Option.some.inj (hi.symm.trans hj)
  · exact absurd (one_lt_countP hij hi hj htx hty) (not_lt.2 hcount)

/-- Directives for one pair at two positions are reported. -/
theorem samePairClash_isSome (hd : index.directives[i]? = some d) (he : index.directives[j]? = some e)
    (hij : i ≠ j) (hpair : e.pair = d.pair) : (index.samePairClash d).isSome = true := by
  have hcount : 1 < index.directives.countP (·.pair == d.pair) :=
    one_lt_countP hij hd he (by simp) (by simp [hpair])
  simp [samePairClash, hcount]

/-- **A directive without a conflict shares no definition with another position.** -/
theorem eq_of_mem_definitions (hd : index.directives[i]? = some d)
    (he : index.directives[j]? = some e) (hfree : index.conflict i = none) {key : String × String}
    (hkd : key ∈ index.definitions d) (hke : key ∈ index.definitions e) : j = i := by
  by_contra hji
  exact routineClash_eq_none.1 ((conflict_eq_none hd).1 hfree).2.2 j e he hji key hkd hke

/-- Equal directives have equal conflicts. -/
theorem conflict_congr (hi : index.directives[i]? = some d) (hj : index.directives[j]? = some d) :
    index.conflict i = index.conflict j := by
  -- at two positions a directive clashes with itself over its pair, before anything else is looked at
  by_cases hij : i = j
  · rw [hij]
  · obtain ⟨detail, hdetail⟩ := Option.isSome_iff_exists.1 (samePairClash_isSome hi hj hij rfl)
    simp [conflict, hi, hj, hdetail]

/-! ### Indices that agree -/

theorem simpleName_congr {n : String} (h : index.graph.get? n = index'.graph.get? n) :
    index.simpleName n = index'.simpleName n := by
  rw [simpleName, simpleName, h]

theorem home_congr (h : index.graph.get? d.target = index'.graph.get? d.target) :
    index.home d = index'.home d := by
  rw [home, home, h]

theorem mapsEnum_congr (h : index.graph.get? d.source = index'.graph.get? d.source) :
    index.mapsEnum d = index'.mapsEnum d := by
  rw [mapsEnum, mapsEnum, h]

/-- What a directive defines depends on the graph through its two types only. -/
theorem definitions_congr (hs : index.graph.get? d.source = index'.graph.get? d.source)
    (ht : index.graph.get? d.target = index'.graph.get? d.target) :
    index.definitions d = index'.definitions d := by
  rw [definitions, definitions, routineNames, routineNames, simpleName_congr hs,
    simpleName_congr ht, home_congr ht, mapsEnum_congr hs]

section Agreement

variable (hds : index.directives = index'.directives)
include hds

theorem directiveFor_congr : index.directiveFor s t = index'.directiveFor s t := by
  rw [directiveFor, directiveFor, hds]

/-- The routine of a pair depends on the graph through the two types only. -/
theorem routineFor_congr (hs : index.graph.get? s = index'.graph.get? s)
    (ht : index.graph.get? t = index'.graph.get? t) :
    index.routineFor s t = index'.routineFor s t := by
  -- the home is that of the type the directive leads to, which is `t`, or `s` on a way back
  have hhome : ∀ d, index.Answers s t d → index.home d = index'.home d := by
    rintro d (h | ⟨-, h⟩)
    · obtain ⟨-, -, rfl⟩ := directiveFor_eq_some h
      exact home_congr ht
    · obtain ⟨-, -, -, rfl⟩ := reverseFor_eq_some h
      exact home_congr hs
  have hanswers : ∀ d, index.Answers s t d ↔ index'.Answers s t d := fun d => by
    rw [Answers, Answers, directiveFor, directiveFor, reverseFor, reverseFor, hds]
  ext r
  rw [routineFor_eq_some, routineFor_eq_some]
  constructor
  · rintro ⟨d, hd, rfl⟩
    refine ⟨d, (hanswers d).1 hd, ?_⟩
    rw [routineOf, routineOf, simpleName_congr hs, simpleName_congr ht, hhome d hd]
  · rintro ⟨d, hd, rfl⟩
    refine ⟨d, (hanswers d).2 hd, ?_⟩
    rw [routineOf, routineOf, simpleName_congr hs, simpleName_congr ht, hhome d ((hanswers d).2 hd)]

end Agreement

end DirectiveIndex

end Mapsmith
