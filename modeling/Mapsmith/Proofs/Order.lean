import Mapsmith.Proofs.Clashes
import Mapsmith.Proofs.Locality

/-!
# The order in which types come

A graph lists its types in some order, and nothing shows it. A look-up finds the one type of a name, a
search goes along names, and whatever lists types or names sorts them first. So graphs of the same types
in different orders resolve a name alike, reach the same types and have the same directives in the same
order; then the keys of these directives are the same, and so are their conflicts, their entries and in the
end the results of a pass (`Mapsmith.Generation.generate_congr`).
-/

namespace Mapsmith

namespace Text

/-- Sorted texts are in order. -/
theorem sortedLE_sort (xs : List String) : (sort xs).SortedLE := by
  let le := fun a b : String => decide (a ≤ b) = true
  have hiff : ∀ a b, le a b ↔ a ≤ b := fun a b => decide_eq_true_iff
  have htotal : Std.Total le := ⟨fun a b => by simpa only [hiff] using le_total a b⟩
  have htrans : IsTrans String le := ⟨fun a b c => by simpa only [hiff] using le_trans⟩
  have hsorted : (sort xs).Pairwise le := by
    rw [sort, sortBy_eq_insertionSort]
    exact List.pairwise_insertionSort le xs
  exact (hsorted.imp fun h => (hiff _ _).1 h).sortedLE

/-- **Sorting forgets the order** in which texts come. -/
theorem sort_congr {xs ys : List String} (h : xs.Perm ys) : sort xs = sort ys :=
  -- both sorted lists hold the same texts, and there is one way to put them in order
  List.Perm.eq_of_sortedLE (sortedLE_sort xs) (sortedLE_sort ys)
    (((sort_perm xs).trans h).trans (sort_perm ys).symm)

end Text

/-! ### Graphs of the same types -/

namespace TypeGraph

theorem firstRepeat?_eq_none {seen names : List String} :
    firstRepeat? seen names = none ↔ names.Nodup ∧ ∀ n ∈ names, n ∉ seen := by
  refine ⟨nodup_of_firstRepeat?_eq_none, ?_⟩
  induction names generalizing seen with
  | nil => exact fun _ => rfl
  | cons n rest ih =>
    rintro ⟨hnodup, hseen⟩
    obtain ⟨hn, hrest⟩ := List.nodup_cons.1 hnodup
    rw [firstRepeat?, if_neg (hseen n List.mem_cons_self)]
    refine ih ⟨hrest, fun m hm hmem => ?_⟩
    rcases List.mem_cons.1 hmem with rfl | hmem
    · exact hn hm
    · exact hseen m (List.mem_cons_of_mem _ hm) hmem

/-- **Types under distinct names have a graph**, which lists them as they come. -/
theorem exists_ofTypes {types : List TypeDescriptor}
    (h : (types.map (·.qualifiedName)).Nodup) : ∃ g, ofTypes types = .ok g ∧ g.types = types := by
  have hnone : firstRepeat? [] (types.map (·.qualifiedName)) = none :=
    firstRepeat?_eq_none.2 ⟨h, fun _ _ => List.not_mem_nil⟩
  unfold ofTypes
  split
  next name hsome =>
    rw [hnone] at hsome
    cases hsome
  · exact ⟨_, rfl, rfl⟩

variable {g g' : TypeGraph} {n : String} {names : List String}

section SameTypes

variable (h : g.types.Perm g'.types)
include h

theorem get?_congr : g.get? n = g'.get? n := by
  ext t
  rw [get?_eq_some, get?_eq_some, h.mem_iff]

theorem has_congr : g.has n = g'.has n := by
  rw [has, has, get?_congr h]

theorem descriptors_congr : g.descriptors = g'.descriptors := by
  have hnames : g.typeNames = g'.typeNames := Text.sort_congr (h.map _)
  rw [descriptors, descriptors, hnames]
  exact List.filterMap_congr fun n _ => get?_congr h

/-- What a name stands for does not depend on the order of types: where it is the simple name of only one
type, that type is the only one in any order. -/
theorem resolve_congr {relativeTo : Option String} :
    g.resolve n relativeTo = g'.resolve n relativeTo := by
  have hnamed : ((g.types.filter (·.name == n)).map (·.qualifiedName)).Perm
      ((g'.types.filter (·.name == n)).map (·.qualifiedName)) := (h.filter _).map _
  unfold resolve
  simp only [has_congr h]
  -- a list of one name has itself for its only permutation, and no other list has an only name
  generalize (g.types.filter (·.name == n)).map (·.qualifiedName) = qs at hnamed
  generalize (g'.types.filter (·.name == n)).map (·.qualifiedName) = qs' at hnamed
  match qs, qs', hnamed with
  | [], qs', hnamed => rw [List.nil_perm.1 hnamed]
  | [q], qs', hnamed => rw [List.singleton_perm.1 hnamed]
  | _ :: _ :: _, [], hnamed => exact absurd hnamed.length_eq (by simp)
  | _ :: _ :: _, [_], hnamed => exact absurd hnamed.length_eq (by simp)
  | _ :: _ :: _, _ :: _ :: _, _ => rfl

theorem neighbours_congr {t : TypeDescriptor} : g.neighbours t = g'.neighbours t := by
  unfold neighbours
  simp only [resolve_congr h]
  exact List.filter_congr fun n _ => has_congr h

theorem spread_congr {rounds : Nat} {reached frontier : List String} :
    g.spread rounds reached frontier = g'.spread rounds reached frontier := by
  have hget : g.get? = g'.get? := funext fun n => get?_congr h
  have hneighbours : g.neighbours = g'.neighbours := funext fun t => neighbours_congr h
  induction rounds generalizing reached frontier with
  | zero => rfl
  | succ rounds ih =>
    unfold spread
    simp only [hget, hneighbours, ih]

/-- **The types reached from some names** do not depend on the order of types. -/
theorem closure_congr : g.closure names = g'.closure names := by
  have hreachable : g.reachable names = g'.reachable names := by
    have hhas : g.has = g'.has := funext fun n => has_congr h
    unfold reachable
    simp only [h.length_eq, hhas, spread_congr h]
  rw [closure, closure, hreachable]
  exact List.filterMap_congr fun n _ => get?_congr h

end SameTypes

end TypeGraph

/-- **The directives of a graph** and the reports about their names do not depend on the order of types. -/
theorem Directive.Resolution.ofGraph_congr {g g' : TypeGraph} (h : g.types.Perm g'.types) :
    ofGraph g = ofGraph g' := by
  have hresolve : g.resolve = g'.resolve := funext₂ fun n m => TypeGraph.resolve_congr h
  have hpair : resolvePair g = resolvePair g' := by
    funext t pair
    rw [resolvePair, resolvePair, hresolve]
  have hreports : pairDiagnostics g = pairDiagnostics g' := by
    funext t pair
    rw [pairDiagnostics, pairDiagnostics, hresolve]
  have hone : resolveOne g = resolveOne g' := by
    funext t derived d
    rw [resolveOne, resolveOne, hresolve]
  have hofType : ofType g = ofType g' := by
    funext t
    rw [ofType, ofType, hpair, hreports, hone]
  rw [ofGraph, ofGraph, TypeGraph.descriptors_congr h, hofType]

/-- Indices of the same directives over graphs that look names up alike have the same conflicts. -/
theorem DirectiveIndex.conflict_eq {index index' : DirectiveIndex} {i : Nat}
    (hds : index.directives = index'.directives)
    (hget : ∀ n, index.graph.get? n = index'.graph.get? n) : index.conflict i = index'.conflict i := by
  have hdefinitions : index.definitions = index'.definitions :=
    funext fun d => definitions_congr (hget _) (hget _)
  unfold conflict samePairClash reverseClash routineClash numbered
  simp only [hds, hdefinitions]

/-! ### Passes over the same types -/

namespace Generation

variable {config : Config} {g g' : TypeGraph}

section SameTypes

variable (h : g.types.Perm g'.types)
include h

theorem directives_settingOf_congr :
    (settingOf config g).index.directives = (settingOf config g').index.directives :=
  congrArg Directive.Resolution.Result.directives (Directive.Resolution.ofGraph_congr h)

theorem key_congr {d : Directive} : (settingOf config g).key d = (settingOf config g').key d :=
  key_eq_iff.2 ⟨rfl, TypeGraph.closure_congr h, directives_settingOf_congr h, rfl⟩

theorem entry_congr {position : Nat} {d : Directive} (hd : d ∈ (settingOf config g).index.directives) :
    (settingOf config g).entry position d = (settingOf config g').entry position d := by
  have hconflict : (settingOf config g).index.conflict position =
      (settingOf config g').index.conflict position :=
    DirectiveIndex.conflict_eq (directives_settingOf_congr h) fun _ => TypeGraph.get?_congr h
  rw [Setting.entry_eq, Setting.entry_eq, hconflict]
  exact Setting.entryUnder_congr hd (key_congr h)

theorem entriesFrom_congr {position : Nat} {ds : List Directive}
    (hds : ds ⊆ (settingOf config g).index.directives) :
    (settingOf config g).entriesFrom position ds = (settingOf config g').entriesFrom position ds := by
  induction ds generalizing position with
  -- `rfl` would compare the two settings here, directives and all
  | nil => rw [Setting.entriesFrom, Setting.entriesFrom]
  | cons d ds ih =>
    obtain ⟨hd, hds⟩ := List.cons_subset.1 hds
    rw [Setting.entriesFrom, Setting.entriesFrom, entry_congr h hd, ih hds]

/-- The units of some plans ask a graph for nothing but types by name. -/
theorem generateUnits_congr {plans : List Plan} :
    Emission.generateUnits config (some g) plans = Emission.generateUnits config (some g') plans := by
  have hdispatch : Emission.dispatchType (some g) = Emission.dispatchType (some g') := by
    funext d name
    simp only [Emission.dispatchType, Option.bind_some, TypeGraph.get?_congr h]
  have hreferred : Emission.referredTypes (some g) = Emission.referredTypes (some g') := by
    funext m
    rw [Emission.referredTypes, Emission.referredTypes, hdispatch]
  have himports : Emission.importTable (some g) = Emission.importTable (some g') := by
    funext mappings
    rw [Emission.importTable, Emission.importTable, hreferred]
  have hunit : Emission.generateUnit config (some g) = Emission.generateUnit config (some g') := by
    funext ns plans
    rw [Emission.generateUnit, Emission.generateUnit, himports]
  rw [Emission.generateUnits, Emission.generateUnits, hunit]

/-- **A pass does not depend on the order of types.** -/
theorem generate_congr : generate config g = generate config g' := by
  have hkey : (settingOf config g).key = (settingOf config g').key := funext fun d => key_congr h
  have hfinish : finish config g = finish config g' := by
    funext entries
    unfold finish
    simp only [generateUnits_congr h, hkey, Directive.Resolution.ofGraph_congr h]
  rw [generate_eq_uncached, generate_eq_uncached, uncached, uncached,
    entriesFrom_congr h (List.Subset.refl _), directives_settingOf_congr h, hfinish]

end SameTypes

end Generation

end Mapsmith
