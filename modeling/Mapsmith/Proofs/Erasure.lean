import Mapsmith.Proofs.Locality

/-!
# Planning without places

Where a type or a directive is declared is there for the reader of a report. Two types count as equal if
they differ in nothing else, which shows in what is left of them once places are erased. Planning carries
the types along with their places and never looks at these: planning over a graph whose places are erased
comes to the plan whose places are erased, or to the same error. So what a plan depends on is the closure
of its directive up to places (`Mapsmith.Planning.plan_local`).
-/

namespace Mapsmith

/-! ### Erasing places -/

/-- A directive without its place. -/
def Directive.erase (d : Directive) : Directive :=
  { d with location := none }

namespace TypeDescriptor

variable (t : TypeDescriptor)

/-- A type without its place, and without those of its directives. -/
def erase : TypeDescriptor :=
  { t with location := none, directives := t.directives.map Directive.erase }

@[simp] theorem module_erase : t.erase.module = t.module := rfl
@[simp] theorem kind_erase : t.erase.kind = t.kind := rfl
@[simp] theorem members_erase : t.erase.members = t.members := rfl
@[simp] theorem ancestors_erase : t.erase.ancestors = t.ancestors := rfl

end TypeDescriptor

namespace TypeGraph

variable {g : TypeGraph} {n : String}

/-- A graph without the places of its types. -/
def erase (g : TypeGraph) : TypeGraph where
  types := g.types.map (·.erase)
  nodup := by
    rw [List.map_map]
    exact g.nodup

theorem get?_erase : g.erase.get? n = (g.get? n).map (·.erase) := by
  rw [get?, erase, List.find?_map]
  rfl

theorem has_erase : g.erase.has n = g.has n := by
  rw [has, get?_erase, Option.isSome_map, has]

theorem isSubclass_erase {derived base : String} :
    g.erase.isSubclass derived base = g.isSubclass derived base := by
  rw [isSubclass, get?_erase, Option.any_map]
  rfl

theorem resolve_erase {relativeTo : Option String} :
    g.erase.resolve n relativeTo = g.resolve n relativeTo := by
  have hnamed : (g.erase.types.filter (·.name == n)).map (·.qualifiedName) =
      (g.types.filter (·.name == n)).map (·.qualifiedName) := by
    rw [erase, List.filter_map, List.map_map]
    rfl
  unfold resolve
  simp only [has_erase, hnamed]

theorem neighbours_erase {t : TypeDescriptor} : g.erase.neighbours t.erase = g.neighbours t := by
  have hdirectives : t.erase.directives = t.directives.map Directive.erase := rfl
  unfold neighbours
  simp only [hdirectives, List.flatMap_map, resolve_erase, TypeDescriptor.members_erase,
    TypeDescriptor.ancestors_erase, TypeDescriptor.module_erase]
  exact List.filter_congr fun n _ => has_erase

theorem filterMap_get?_erase {names : List String} :
    names.filterMap g.erase.get? = (names.filterMap g.get?).map (·.erase) := by
  rw [List.map_filterMap]
  exact List.filterMap_congr fun n _ => get?_erase

theorem spread_erase {rounds : Nat} {reached frontier : List String} :
    g.erase.spread rounds reached frontier = g.spread rounds reached frontier := by
  induction rounds generalizing reached frontier with
  | zero => rfl
  | succ rounds ih =>
    have hnext : (frontier.filterMap g.erase.get?).flatMap g.erase.neighbours =
        (frontier.filterMap g.get?).flatMap g.neighbours := by
      rw [filterMap_get?_erase, List.flatMap_map]
      exact List.flatMap_congr fun t _ => neighbours_erase
    unfold spread
    simp only [hnext, ih]

/-- **Erasing places does not change what is reached.** -/
theorem closure_erase {names : List String} :
    g.erase.closure names = (g.closure names).map (·.erase) := by
  have hreachable : g.erase.reachable names = g.reachable names := by
    have hsize : g.erase.types.length = g.types.length := List.length_map _
    have hstart : names.filter g.erase.has = names.filter g.has :=
      List.filter_congr fun n _ => has_erase
    unfold reachable
    simp only [hsize, hstart, spread_erase]
  rw [closure, hreachable, filterMap_get?_erase]
  rfl

end TypeGraph

/-- A mapping of object types without the places of the types. -/
def ObjectMapping.erase (m : ObjectMapping) : ObjectMapping :=
  { m with source := m.source.erase, target := m.target.erase }

/-- A mapping of enums without the places of the enums. -/
def EnumMapping.erase (m : EnumMapping) : EnumMapping :=
  { m with source := m.source.erase, target := m.target.erase }

/-- A mapping without the places of its types. -/
def Mapping.erase : Mapping → Mapping
  | .object m => .object m.erase
  | .enum m => .enum m.erase

/-- A plan without the places of its types. -/
def Plan.erase : Plan → Plan
  | .object forward reverse helpers =>
    .object forward.erase (reverse.map (·.erase)) (helpers.map (·.erase))
  | .enum forward reverse => .enum forward.erase (reverse.map (·.erase))

namespace HelperTable

variable {table : HelperTable} {name : String} {m : Mapping}

/-- A table without the places of types. -/
def erase (table : HelperTable) : HelperTable :=
  table.map fun entry => (entry.1, entry.2.erase)

theorem contains_erase : table.erase.contains name = table.contains name := by
  rw [contains, erase, List.any_map]
  rfl

theorem insert_erase : (table.insert name m).erase = table.erase.insert name m.erase := by
  have hinsert : ∀ (table : HelperTable) (m : Mapping), table.insert name m =
      if table.contains name then
        table.map fun entry => if entry.1 = name then (name, m) else entry
      else table ++ [(name, m)] := fun _ _ => rfl
  rw [hinsert, hinsert, contains_erase]
  split
  · rw [erase, erase, List.map_map, List.map_map]
    refine List.map_congr_left fun entry _ => ?_
    simp only [Function.comp_apply]
    split <;> rfl
  · rw [erase, erase, List.map_append]
    rfl

theorem sorted_erase : table.erase.sorted = table.sorted.map (·.erase) := by
  have hsort : Text.sortByKey (fun entry : String × Mapping => [entry.1]) table.erase =
      (Text.sortByKey (fun entry => [entry.1]) table).map fun entry => (entry.1, entry.2.erase) :=
    Text.sortByKey_map fun _ => rfl
  rw [sorted, hsort, sorted, List.map_map, List.map_map]
  rfl

end HelperTable

/-! ### Runs that come to the same up to places -/

namespace Planning

variable {α β γ δ : Type} {f : α → β} {k : γ → δ}

/-- Does a run over a table without places come to what another run comes to over the table, but for
places? `f` erases places from what the other run comes to. -/
def Erases (f : α → β) (x : PlanM α) (y : PlanM β) : Prop :=
  ∀ table : HelperTable, y.run table.erase = (x.run table).map fun (a, table) => (f a, table.erase)

theorem erases_pure (a : α) : Erases f (pure a) (pure (f a)) :=
  fun _ => rfl

theorem erases_throw (e : PlanningError) : Erases f (throw e) (throw e) :=
  fun _ => rfl

theorem Erases.bind {x : PlanM α} {y : PlanM β} {x' : α → PlanM γ} {y' : β → PlanM δ}
    (h : Erases f x y) (h' : ∀ a, Erases k (x' a) (y' (f a))) : Erases k (x >>= x') (y >>= y') := by
  intro table
  rw [StateT.run_bind, StateT.run_bind, h table]
  cases x.run table with
  | error e => rfl
  | ok at' => exact h' at'.1 at'.2

theorem erases_lift {x : Except PlanningError α} {y : Except PlanningError β} (h : y = x.map f) :
    Erases f (liftM x) (liftM y) := by
  subst h
  intro table
  cases x with
  | error e => rfl
  | ok a => rfl

theorem erases_get : Erases HelperTable.erase get get :=
  fun _ => rfl

theorem erases_insert (name : String) (m : Mapping) :
    Erases id (modify (·.insert name m) : PlanM PUnit) (modify (·.insert name m.erase)) :=
  fun table => by
    show Except.ok (_, _) = Except.ok (_, _)
    rw [HelperTable.insert_erase]

theorem erases_ite {c : Prop} [Decidable c] {x x' : PlanM α} {y y' : PlanM β}
    (h : c → Erases f x y) (h' : ¬ c → Erases f x' y') :
    Erases f (if c then x else x') (if c then y else y') := by
  split
  next hc => exact h hc
  next hc => exact h' hc

end Planning

/-! ### Matching -/

namespace Matching

variable {g : TypeGraph}

mutual

theorem needOf_erase : ∀ (source target : TypeRef),
    needOf g.erase source target = needOf g source target
  | .mk name kind args container nullable, target => by
    unfold needOf
    simp only [TypeGraph.isSubclass_erase, TypeGraph.get?_erase, Option.any_map,
      elementNeed_erase args target.args]
    rfl

theorem elementNeed_erase : ∀ (sources targets : List TypeRef),
    elementNeed g.erase sources targets = elementNeed g sources targets
  | source :: _, target :: _ => by
    unfold elementNeed
    exact needOf_erase source target
  | [], _ => by
    simp [elementNeed]
  | _ :: _, [] => by
    simp [elementNeed]

end

theorem innerMembers_erase {o : Options} {outer : Member} :
    innerMembers g.erase o outer = innerMembers g o outer := by
  unfold innerMembers
  rw [TypeGraph.get?_erase]
  cases g.get? outer.type.name <;> rfl

theorem outcomes_erase {o : Options} {source target : TypeDescriptor} :
    outcomes g.erase o source.erase target.erase = outcomes g o source target := by
  have hflat : ∀ member, flattenedBinding g.erase o source.erase member =
      flattenedBinding g o source member := by
    intro member
    unfold flattenedBinding
    simp only [innerMembers_erase]
    rfl
  have houtcome : ∀ member, outcome g.erase o source.erase member = outcome g o source member := by
    intro member
    unfold outcome
    simp only [hflat]
    rfl
  unfold outcomes
  simp only [houtcome]
  rfl

section Settle

open Planning

variable {supply supply' : Supplier HelperTable}
  (hsupply : ∀ request, Erases id (supply request) (supply' request))
include hsupply

theorem erases_classify (source target : TypeRef) :
    Erases id (classify g supply source target) (classify g.erase supply' source target) := by
  have hneed : needOf g.erase source target = (needOf g source target).map id := by
    rw [needOf_erase]
    cases needOf g source target <;> rfl
  refine (erases_lift hneed).bind fun need => ?_
  simp only [id_eq]
  split
  · exact (hsupply _).bind fun r => erases_pure _
  · exact erases_pure _

theorem erases_settleAll (os : List (Member × Outcome)) :
    Erases id (settleAll g supply os) (settleAll g.erase supply' os) := by
  have hsettle : ∀ m o, Erases id (settle g supply m o) (settle g.erase supply' m o) := by
    intro m o
    cases o with
    | ignored | ambiguous | unmatched => exact erases_pure _
    | bound b => exact (erases_classify hsupply _ _).bind fun c => erases_pure _
  induction os with
  | nil => exact erases_pure _
  | cons mo os ih =>
    exact (hsettle mo.1 mo.2).bind fun finding => ih.bind fun findings => erases_pure _

/-- Matching two types comes to the same without places, if this is so of the routines that are
supplied. -/
theorem erases_matchMembers {o : Options} {source target : TypeDescriptor} :
    Erases id (matchMembers g supply o source target)
      (matchMembers g.erase supply' o source.erase target.erase) := by
  unfold matchMembers
  rw [outcomes_erase]
  exact (erases_settleAll hsupply _).bind fun findings => erases_pure _

end Settle

end Matching

/-! ### Planning -/

namespace Planning

open Matching

variable {p : Planning} {d : Directive} {routine : RoutineRef} {n s t : String} {owner : Owner}
  {source target : TypeDescriptor}

/-- A planning over a graph without places. -/
def erase (p : Planning) : Planning :=
  ⟨⟨p.index.directives, p.graph.erase⟩, p.groups⟩

theorem getType_erase : p.erase.getType n = (p.getType n).map (·.erase) := by
  have hget : p.erase.graph.get? n = (p.graph.get? n).map (·.erase) := TypeGraph.get?_erase
  unfold getType
  rw [hget]
  cases p.graph.get? n <;> rfl

theorem routineFor_erase : p.erase.index.routineFor s t = p.index.routineFor s t := by
  have hname : ∀ n, p.erase.index.simpleName n = p.index.simpleName n := by
    intro n
    have hget : p.erase.index.graph.get? n = (p.index.graph.get? n).map (·.erase) :=
      TypeGraph.get?_erase
    unfold DirectiveIndex.simpleName
    rw [hget]
    cases p.index.graph.get? n <;> rfl
  have hhome : ∀ d, p.erase.index.home d = p.index.home d := by
    intro d
    have hget : p.erase.index.graph.get? d.target = (p.index.graph.get? d.target).map (·.erase) :=
      TypeGraph.get?_erase
    unfold DirectiveIndex.home
    rw [hget]
    cases p.index.graph.get? d.target <;> rfl
  unfold DirectiveIndex.routineFor
  simp only [hname, hhome]
  rfl

theorem enumMapping_erase : p.erase.enumMapping d routine = (p.enumMapping d routine).map (·.erase) := by
  unfold enumMapping
  rw [getType_erase, getType_erase]
  cases p.getType d.source with
  | error e => rfl
  | ok source =>
    cases p.getType d.target with
    | error e => rfl
    | ok target => rfl

theorem erases_supplyEnum : Erases id (p.supplyEnum owner s t) (p.erase.supplyEnum owner s t) := by
  unfold supplyEnum
  rw [routineFor_erase]
  split
  · exact erases_pure _
  refine (erases_lift getType_erase).bind fun source => ?_
  refine (erases_lift getType_erase).bind fun target => ?_
  refine erases_get.bind fun table => ?_
  rw [HelperTable.contains_erase]
  refine erases_ite (fun _ => erases_pure _) fun _ => ?_
  refine (erases_lift enumMapping_erase).bind fun m => ?_
  exact (erases_insert _ (.enum m)).bind fun _ => erases_pure _

/-- **Mappings are planned without looking at places.** -/
theorem erases_objectMapping {levels : Nat} {path : List (String × String)} {inverse : Bool} :
    Erases ObjectMapping.erase (p.objectMapping owner levels path inverse d routine)
      (p.erase.objectMapping owner levels path inverse d routine) := by
  induction levels generalizing path inverse d routine with
  | zero => exact erases_throw _
  | succ levels ih =>
    have hsupply : ∀ request, Erases id (p.supplier owner levels (d.pair :: path) d.strategy request)
        (p.erase.supplier owner levels (d.pair :: path) d.strategy request) := by
      intro request
      cases request with
      | enum s t => exact erases_supplyEnum
      | nested s t =>
        unfold supplier
        simp only [routineFor_erase]
        split
        · exact erases_pure _
        refine (erases_lift getType_erase).bind fun source => ?_
        refine (erases_lift getType_erase).bind fun target => ?_
        refine erases_ite (fun _ => erases_pure _) fun _ => ?_
        refine erases_get.bind fun table => ?_
        rw [HelperTable.contains_erase]
        refine erases_ite (fun _ => erases_pure _) fun _ => ?_
        exact ih.bind fun m => (erases_insert _ (.object m)).bind fun _ => erases_pure _
    rw [objectMapping_succ, objectMapping_succ]
    refine (erases_lift getType_erase).bind fun source => ?_
    refine (erases_lift getType_erase).bind fun target => ?_
    refine erases_ite (fun _ => erases_pure _) fun _ => ?_
    exact (erases_matchMembers hsupply).bind fun result => erases_pure _

theorem dispatch_erase (pairs : List DerivedPair) : p.erase.dispatch d pairs = p.dispatch d pairs := by
  induction pairs with
  | nil => rfl
  | cons pair pairs ih =>
    unfold dispatch
    rw [routineFor_erase, ih]

theorem erases_objectMappings :
    Erases (fun (forward, reverse) => (forward.erase, reverse.map ObjectMapping.erase))
      (p.objectMappings d source target) (p.erase.objectMappings d source.erase target.erase) := by
  have hdepth : p.erase.depth = p.depth := by
    have hsize : p.erase.graph.size = p.graph.size := List.length_map _
    rw [depth, hsize, depth]
  unfold objectMappings
  rw [hdepth]
  refine erases_objectMapping.bind fun forward => ?_
  refine erases_ite (fun _ => ?_) fun _ => erases_pure _
  exact erases_objectMapping.bind fun reverse => erases_pure _

theorem objectPlan_erase :
    p.erase.objectPlan d source.erase target.erase = (p.objectPlan d source target).map (·.erase) := by
  have hrun : (p.erase.objectMappings d source.erase target.erase).run [] =
      ((p.objectMappings d source target).run []).map fun (mappings, helpers) =>
        ((mappings.1.erase, mappings.2.map ObjectMapping.erase), helpers.erase) :=
    erases_objectMappings []
  unfold objectPlan
  rw [hrun, dispatch_erase]
  cases (p.objectMappings d source target).run [] with
  | error e => rfl
  | ok result =>
    obtain ⟨⟨forward, reverse⟩, helpers⟩ := result
    cases p.dispatch d d.derived with
    | error e => rfl
    | ok entries =>
      show Except.ok _ = Except.ok _
      rw [HelperTable.sorted_erase]
      rfl

theorem enumPlan_erase :
    p.erase.enumPlan d source.erase target.erase = (p.enumPlan d source target).map (·.erase) := by
  have hahead : p.erase.enumMapping d (routineBetween source.erase target.erase target.erase.module) =
      (p.enumMapping d (routineBetween source target target.module)).map (·.erase) := enumMapping_erase
  have hback : p.erase.enumMapping d.reversed
      (routineBetween target.erase source.erase target.erase.module) =
      (p.enumMapping d.reversed (routineBetween target source target.module)).map (·.erase) :=
    enumMapping_erase
  unfold enumPlan
  rw [hahead, hback, TypeDescriptor.kind_erase]
  cases p.enumMapping d (routineBetween source target target.module) with
  | error e => rfl
  | ok forward =>
    show (if _ then _ else _) = Except.map _ (if _ then _ else _)
    split
    · cases p.enumMapping d.reversed (routineBetween target source target.module) <;> rfl
    · rfl

/-- **Planning does not look at places**: without them, it comes to the same plan without places, or to
the same error. -/
theorem plan_erase : p.erase.plan d = (p.plan d).map (·.erase) := by
  unfold plan
  rw [getType_erase, getType_erase]
  cases p.getType d.source with
  | error e => rfl
  | ok source =>
    cases p.getType d.target with
    | error e => rfl
    | ok target =>
      show (if source.kind = .enum then _ else _) = Except.map _ (if source.kind = .enum then _ else _)
      split
      · exact enumPlan_erase
      · exact objectPlan_erase

/-- **Planning is local to the closure.** Over two graphs in which a directive reaches the same types, up
to where these are declared, planning it gives one plan up to that, or fails with one error, whatever
other types the graphs hold. If the types that it reaches agree in their places too, so do the plans. -/
theorem plan_local {g g' : TypeGraph} {d : Directive}
    (h : (g.closure d.typeNames).map (·.erase) = (g'.closure d.typeNames).map (·.erase))
    (directives : List Directive) (groups : List (List String)) :
    ((Planning.mk ⟨directives, g⟩ groups).plan d).map (·.erase) =
        ((Planning.mk ⟨directives, g'⟩ groups).plan d).map (·.erase) ∧
      (g.closure d.typeNames = g'.closure d.typeNames →
        (Planning.mk ⟨directives, g⟩ groups).plan d = (Planning.mk ⟨directives, g'⟩ groups).plan d) := by
  refine ⟨?_, fun hclosure => plan_congr ⟨rfl, rfl, hclosure⟩⟩
  rw [← TypeGraph.closure_erase, ← TypeGraph.closure_erase] at h
  rw [← plan_erase, ← plan_erase]
  exact plan_congr ⟨rfl, rfl, h⟩

/-- Notes with a text, and their counterparts, both declared at some line. -/
def notesAt (line : Int) : List TypeDescriptor :=
  let note (home : String) : TypeDescriptor :=
    { name := "Note", module := home, kind := .cls, location := some ⟨"Note", home ++ ".py", line⟩
      members := [{ name := "text", type := .mk "str" .scalar [] none false }] }
  [note "shop", note "dto"]

/-- Notes alone. -/
def notes : TypeGraph where
  types := notesAt 3
  nodup := by decide +kernel

/-- Notes elsewhere, behind tags that none of them refers to. -/
def notesAndTags : TypeGraph where
  types := { name := "Tag", module := "shop", kind := .cls } :: notesAt 8
  nodup := by decide +kernel

theorem plan_local_notes :
    let d : Directive := { source := "shop.Note", target := "dto.Note" }
    ((Planning.mk ⟨[d], notes⟩ []).plan d).toOption.isSome = true ∧
      (Planning.mk ⟨[d], notes⟩ []).plan d ≠ (Planning.mk ⟨[d], notesAndTags⟩ []).plan d ∧
      ((Planning.mk ⟨[d], notes⟩ []).plan d).map (·.erase) =
        ((Planning.mk ⟨[d], notesAndTags⟩ []).plan d).map (·.erase) := by
  intro d
  have hclosure : (notes.closure d.typeNames).map (·.erase) =
      (notesAndTags.closure d.typeNames).map (·.erase) := by decide +kernel
  exact ⟨by decide +kernel, by decide +kernel, (plan_local hclosure [d] []).1⟩

end Planning

end Mapsmith
