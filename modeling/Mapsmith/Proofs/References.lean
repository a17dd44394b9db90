import Mapsmith.Proofs.Importable

/-!
# Names in declarations

A declaration on a type names other types: the target of a directive, and the two types of every
derived pair, which belongs to all directives of its type. A name that stands for nothing is always
reported. If it is the target of a directive, there is no plan; but if it is in a derived pair, only
the pair is left out, and the plan goes on without it. So the branches of a dispatch are those of
the derived pairs whose names stand for types, in order of declaration, each with the routine of the
directive that is declared for it; and a name that stands for nothing keeps every plan away that it
belongs to exactly if the derived pairs behind the plans of a result are all resolved
(`Mapsmith.Generation.resolved_references`).
-/

namespace Mapsmith.Generation

open Directive.Resolution Planning

variable {config : Config} {g : TypeGraph} {cache : Cache} {r : PassResult} {t : TypeDescriptor}
  {d : Directive} {pair : DerivedPair} {name : String}

/-! ### Names that stand for nothing -/

/-- The names that a directive of a type depends on: its target, and those in the derived pairs of the
type. -/
def references (t : TypeDescriptor) (d : Directive) : List String :=
  d.target :: t.derived.flatMap fun pair => [pair.source, pair.target]

/-- Does a name in a declaration on a type stand for nothing? -/
def Dangles (g : TypeGraph) (t : TypeDescriptor) (name : String) : Prop :=
  g.resolve name (some t.module) = none

instance (g : TypeGraph) (t : TypeDescriptor) (name : String) : Decidable (Dangles g t name) :=
  inferInstanceAs (Decidable (_ = _))

theorem isSome_resolvePair :
    (resolvePair g t pair).isSome = true ↔ ¬ Dangles g t pair.source ∧ ¬ Dangles g t pair.target := by
  unfold resolvePair Dangles
  cases g.resolve pair.source (some t.module) <;> cases g.resolve pair.target (some t.module) <;> simp

theorem resolvePair_eq_some {resolved : DerivedPair} :
    resolvePair g t pair = some resolved ↔
      g.resolve pair.source (some t.module) = some resolved.source ∧
        g.resolve pair.target (some t.module) = some resolved.target := by
  obtain ⟨source, target⟩ := resolved
  unfold resolvePair
  cases g.resolve pair.source (some t.module) <;> cases g.resolve pair.target (some t.module) <;> simp

/-- A name in a derived pair that stands for nothing is reported. -/
theorem unresolved_mem_pairReports (ht : t ∈ g.types) (hd : d ∈ t.directives) (hpair : pair ∈ t.derived)
    (hname : name ∈ [pair.source, pair.target]) (hdangles : Dangles g t name) :
    unresolved t name ∈ pairReports g := by
  refine List.mem_flatMap.2 ⟨t, mem_descriptors.2 ht, ?_⟩
  have hsome : t.directives.isEmpty = false := List.isEmpty_eq_false_iff.2 (List.ne_nil_of_mem hd)
  rw [hsome]
  refine List.mem_flatMap.2 ⟨pair, hpair, List.mem_map_of_mem (List.mem_filter.2 ⟨hname, ?_⟩)⟩
  exact Option.isNone_iff_eq_none.2 hdangles

/-- A target that stands for nothing is reported. -/
theorem unresolved_mem_resolution (hdangles : Dangles g t d.target) :
    unresolved t d.target ∈ (resolution g (t, d)).diagnostics := by
  rcases resolution_cases g t d with ⟨-, hreport⟩ | ⟨target, -, htarget, -, -⟩
  · rw [hreport]
    exact List.mem_singleton_self _
  · rw [Dangles, htarget] at hdangles
    cases hdangles

/-- **Every name that stands for nothing is reported** when the directives of a graph are resolved. -/
theorem unresolved_mem_ofGraph (ht : t ∈ g.types) (hd : d ∈ t.directives)
    (hname : name ∈ references t d) (hdangles : Dangles g t name) :
    unresolved t name ∈ (ofGraph g).diagnostics := by
  rw [diagnostics_ofGraph.mem_iff, List.mem_append]
  rcases List.mem_cons.1 hname with rfl | hname
  · have hrecord := mem_recorded.2 ⟨ht, hd⟩
    exact .inr (List.mem_flatMap.2 ⟨(t, d), hrecord, unresolved_mem_resolution hdangles⟩)
  · obtain ⟨pair, hpair, hname⟩ := List.mem_flatMap.1 hname
    exact .inl (unresolved_mem_pairReports ht hd hpair hname hdangles)

/-! ### Directives and their derived pairs -/

/-- The plans of a result belong to directives that are recorded on their sources, whose targets
stand for their targets. -/
theorem exists_ownPlan (hcache : Used cache) (h : (runPass config g cache).1 = .ok r) {plan : Plan}
    (hplan : plan ∈ r.plans) : ∃ t ∈ g.types, ∃ d ∈ t.directives, OwnPlan g t d plan ∧
      plan.directive.derived = plan.source.derived.filterMap (resolvePair g plan.source) := by
  have haccepted := accepted_of_mem hcache h hplan
  obtain ⟨source, target, hof⟩ := haccepted.planOf
  obtain ⟨t, ht, d, hd, hname, htarget, hderived, -⟩ := exists_record haccepted.mem
  have hsource : source = t :=
    Option.some.inj (hof.hs.symm.trans (TypeGraph.get?_eq_some.2 ⟨ht, hname.symm⟩))
  have hsource : plan.source = t := hof.source_eq.trans hsource
  refine ⟨t, ht, d, hd, ⟨hsource, ?_⟩, hsource ▸ hderived⟩
  rw [htarget, hof.target_eq, TypeGraph.qualifiedName_of_get? hof.ht]

/-! ### Branches -/

/-- Does a branch call the routine that the directive declared for its types defines? -/
def CallsDirect (index : DirectiveIndex) (entry : DispatchEntry) : Prop :=
  ∃ e, index.directiveFor entry.source entry.target = some e ∧
    entry.routine = index.routineOf entry.source entry.target e

/-- **Is a branch the one of a derived pair?** Its types are those that the names of the pair stand
for, and it calls the routine that belongs to these types. -/
structure BranchOf (index : DirectiveIndex) (t : TypeDescriptor) (pair : DerivedPair)
    (entry : DispatchEntry) : Prop where
  source_eq : index.graph.resolve pair.source (some t.module) = some entry.source
  target_eq : index.graph.resolve pair.target (some t.module) = some entry.target
  direct : CallsDirect index entry

/-- What stands for something stands beside what it stands for. -/
theorem forall₂_filterMap {α β : Type} (f : α → Option β) (xs : List α) :
    List.Forall₂ (fun x y => f x = some y) (xs.filter fun x => (f x).isSome) (xs.filterMap f) := by
  induction xs with
  | nil => exact .nil
  | cons x xs ih =>
    cases hx : f x with
    | none =>
      rw [List.filterMap_cons_none hx, List.filter_cons_of_neg (by simp [hx])]
      exact ih
    | some y =>
      rw [List.filterMap_cons_some hx, List.filter_cons_of_pos (by simp [hx])]
      exact .cons hx ih

/-- Where directives are declared for all pairs, planning gives each of them a branch. -/
theorem forall₂_dispatch {p : Planning} {pairs : List DerivedPair} {entries : List DispatchEntry}
    (h : p.dispatch d pairs = .ok entries)
    (hdeclared : ∀ pair ∈ pairs, (p.index.directiveFor pair.source pair.target).isSome = true) :
    List.Forall₂ (fun pair entry => entry.source = pair.source ∧ entry.target = pair.target ∧
      CallsDirect p.index entry) pairs entries := by
  have hbranch : ∀ pair ∈ pairs, ∃ e, p.index.directiveFor pair.source pair.target = some e ∧
      p.index.routineFor pair.source pair.target =
        some (p.index.routineOf pair.source pair.target e) := by
    intro pair hpair
    obtain ⟨e, he⟩ := Option.isSome_iff_exists.1 (hdeclared pair hpair)
    exact ⟨e, he, DirectiveIndex.routineFor_eq_some.2 ⟨e, .inl he, rfl⟩⟩
  have hall : pairs.filter (fun pair => ((p.index.routineFor pair.source pair.target).map
      (DispatchEntry.mk pair.source pair.target)).isSome) = pairs := by
    refine List.filter_eq_self.2 fun pair hpair => ?_
    obtain ⟨e, -, hroutine⟩ := hbranch pair hpair
    rw [hroutine, Option.map_some, Option.isSome_some]
  have hbeside := forall₂_filterMap (fun pair : DerivedPair =>
    (p.index.routineFor pair.source pair.target).map (DispatchEntry.mk pair.source pair.target)) pairs
  rw [hall, ← dispatch_eq_ok h] at hbeside
  refine ((List.forall₂_and_left _ _).2 ⟨hbranch, hbeside⟩).imp ?_
  rintro pair entry ⟨⟨e, he, hroutine⟩, hentry⟩
  rw [hroutine] at hentry
  cases hentry
  exact ⟨rfl, rfl, e, he, rfl⟩

/-- **The branches of a plan in a result** are those of the derived pairs of its source whose names
stand for types, in order of declaration. -/
theorem branches_of_mem (hcache : Used cache) (h : (runPass config g cache).1 = .ok r)
    {forward : ObjectMapping} {reverse : Option ObjectMapping} {helpers : List Mapping}
    (hplan : .object forward reverse helpers ∈ r.plans) :
    List.Forall₂ (BranchOf (settingOf config g).index forward.source)
      (forward.source.derived.filter fun pair => (resolvePair g forward.source pair).isSome)
      forward.dispatch := by
  have haccepted := accepted_of_mem hcache h hplan
  obtain ⟨source, target, hof⟩ := haccepted.planOf
  obtain ⟨-, -, -, -, -, hderived⟩ := exists_ownPlan hcache h hplan
  -- an enum's plan is no plan between object types
  have hkind : source.kind ≠ .enum := fun henum => by
    obtain ⟨_, _, hmapping⟩ := hof.enum henum
    cases hmapping
  obtain ⟨entries, _, hentries, hparts⟩ := (hof.object hkind).parts
  have hdispatch : forward.dispatch = entries := by
    injection hparts with hforward
    rw [hforward, forwardMapping]
  have hbeside := forall₂_dispatch hentries fun pair hpair =>
    haccepted.passed.declared hof hkind hpair
  rw [← hdispatch, hderived] at hbeside
  refine (forall₂_comp (forall₂_filterMap _ _) hbeside).imp ?_
  rintro pair entry ⟨resolved, hresolved, hsource, htarget, hdirect⟩
  obtain ⟨hs, ht⟩ := resolvePair_eq_some.1 hresolved
  exact ⟨hs.trans (congrArg some hsource.symm), ht.trans (congrArg some htarget.symm), hdirect⟩

/-! ### What a name that stands for nothing keeps away -/

/-- **Do names that stand for nothing block?** Each of them is reported and leaves none of the
directives that depend on it a plan, and the dispatch of a plan has a branch for every derived pair
of its source, in order of declaration. -/
structure Blocks (config : Config) (g : TypeGraph) (r : PassResult) : Prop where
  reported : ∀ t ∈ g.types, ∀ d ∈ t.directives, ∀ name ∈ references t d, Dangles g t name →
    unresolved t name ∈ r.diagnostics
  absent : ∀ t ∈ g.types, ∀ d ∈ t.directives, ∀ name ∈ references t d, Dangles g t name →
    ∀ plan ∈ r.plans, ¬ OwnPlan g t d plan
  branches : ∀ forward reverse helpers, .object forward reverse helpers ∈ r.plans →
    List.Forall₂ (BranchOf (settingOf config g).index forward.source) forward.source.derived
      forward.dispatch

/-- Reports about the names of a graph are among the diagnostics of a pass. -/
theorem mem_diagnostics_of_ofGraph (hcache : Used cache) (h : (runPass config g cache).1 = .ok r)
    {x : Diagnostic} (hx : x ∈ (ofGraph g).diagnostics) : x ∈ r.diagnostics := by
  obtain ⟨entries, hhanded, hfinish⟩ := exists_handed hcache h
  obtain ⟨accounts, -, -, hdiagnostics⟩ := exists_accounts_of_finish hhanded hfinish
  exact hdiagnostics.mem_iff.2 (List.mem_append_left _ hx)

/-- **Names that stand for nothing.** Each of them is reported, as an error at the type that it is
used on, and every plan of a result belongs to a directive whose target stands for a type. The
dispatch of a plan has a branch for each derived pair of its source whose names both stand for
types, in order of declaration, with the routine of the directive declared for it. And these names
block every directive that depends on them exactly if the derived pairs of the sources of all plans
are resolved. -/
theorem resolved_references (hcache : Used cache) (h : (runPass config g cache).1 = .ok r) :
    (∀ t ∈ g.types, ∀ d ∈ t.directives, ∀ name ∈ references t d, Dangles g t name →
      unresolved t name ∈ r.diagnostics ∧ (unresolved t name).isError = true ∧
        (unresolved t name).problem.id = "MAP014") ∧
    (∀ plan ∈ r.plans, ∃ t ∈ g.types, ∃ d ∈ t.directives, OwnPlan g t d plan) ∧
    (∀ forward reverse helpers, .object forward reverse helpers ∈ r.plans →
      List.Forall₂ (BranchOf (settingOf config g).index forward.source)
        (forward.source.derived.filter fun pair => (resolvePair g forward.source pair).isSome)
        forward.dispatch) ∧
    (Blocks config g r ↔ ∀ plan ∈ r.plans, ∀ pair ∈ plan.source.derived,
      ¬ Dangles g plan.source pair.source ∧ ¬ Dangles g plan.source pair.target) := by
  have hreported : ∀ t ∈ g.types, ∀ d ∈ t.directives, ∀ name ∈ references t d, Dangles g t name →
      unresolved t name ∈ r.diagnostics := fun t ht d hd name hname hdangles =>
    mem_diagnostics_of_ofGraph hcache h (unresolved_mem_ofGraph ht hd hname hdangles)
  have hown : ∀ plan ∈ r.plans, ∃ t ∈ g.types, ∃ d ∈ t.directives, OwnPlan g t d plan := by
    intro plan hplan
    obtain ⟨t, ht, d, hd, hown, -⟩ := exists_ownPlan hcache h hplan
    exact ⟨t, ht, d, hd, hown⟩
  refine ⟨fun t ht d hd name hname hdangles => ⟨hreported t ht d hd name hname hdangles, rfl, rfl⟩,
    hown, fun forward reverse helpers hplan => branches_of_mem hcache h hplan,
    fun hblocks plan hplan pair hpair => ?_,
    fun hall => ⟨hreported, fun t ht d hd name hname hdangles plan hplan hown => ?_,
      fun forward reverse helpers hplan => ?_⟩⟩
  · obtain ⟨t, ht, d, hd, hown⟩ := hown plan hplan
    have hsource := hown.source_eq
    rw [hsource] at hpair ⊢
    have hmem : ∀ name ∈ [pair.source, pair.target], name ∈ references t d := fun name hname =>
      List.mem_cons_of_mem _ (List.mem_flatMap.2 ⟨pair, hpair, hname⟩)
    exact ⟨fun hdangles => hblocks.absent t ht d hd _ (hmem _ (by simp)) hdangles plan hplan hown,
      fun hdangles => hblocks.absent t ht d hd _ (hmem _ (by simp)) hdangles plan hplan hown⟩
  · rcases List.mem_cons.1 hname with rfl | hname
    · have hresolve := hown.resolve_eq
      rw [hdangles] at hresolve
      cases hresolve
    · obtain ⟨pair, hpair, hname⟩ := List.mem_flatMap.1 hname
      obtain ⟨hsource, htarget⟩ := hall plan hplan pair (hown.source_eq ▸ hpair)
      rw [hown.source_eq] at hsource htarget
      rcases List.mem_pair.1 hname with rfl | rfl
      · exact hsource hdangles
      · exact htarget hdangles
  · have hresolved : forward.source.derived.filter (fun pair =>
        (resolvePair g forward.source pair).isSome) = forward.source.derived :=
      List.filter_eq_self.2 fun pair hpair => isSome_resolvePair.2 (hall _ hplan pair hpair)
    have hbranches := branches_of_mem hcache h hplan
    rwa [hresolved] at hbranches

/-- Animals that are mapped by their kinds: dogs, and cats, whose target may be missing. -/
def animals (missing : Bool) : TypeGraph :=
  let animal (module name : String) : TypeDescriptor :=
    { name, module, kind := .cls, ancestors := [module ++ ".Animal"] }
  let mapped (name : String) : TypeDescriptor :=
    { animal "shop" name with directives := [{ source := "shop." ++ name, target := "dto." ++ name }] }
  { types := [
      { mapped "Animal" with
        ancestors := []
        derived := [⟨"Dog", "dto.Dog"⟩, ⟨"Cat", if missing then "dto.Lion" else "dto.Cat"⟩] },
      mapped "Dog", mapped "Cat",
      { animal "dto" "Animal" with ancestors := [] }, animal "dto" "Dog", animal "dto" "Cat"]
    nodup := by cases missing <;> decide +kernel }

theorem resolved_references_animals : Used { capacity := 4 } ∧
    ∃ r, (runPass {} (animals false) { capacity := 4 }).1 = .ok r ∧ r.plans.length = 3 ∧
      (r.plans.map fun p => p.forward.dispatch.length) = [2, 0, 0] ∧ Blocks {} (animals false) r := by
  obtain ⟨r, h, hplans, hdispatch, hresolved⟩ :
      ∃ r, (runPass {} (animals false) { capacity := 4 }).1 = .ok r ∧ r.plans.length = 3 ∧
        (r.plans.map fun p => p.forward.dispatch.length) = [2, 0, 0] ∧
        ∀ plan ∈ r.plans, ∀ pair ∈ plan.source.derived,
          ¬ Dangles (animals false) plan.source pair.source ∧
            ¬ Dangles (animals false) plan.source pair.target :=
    Steps.exists_of_any (by decide +kernel)
  exact ⟨.new 4, r, h, hplans, hdispatch, (resolved_references (.new 4) h).2.2.2.2 hresolved⟩

/-- A pair of animals without a target is reported, and the mapping of animals is planned without
it. -/
theorem not_blocks_animals :
    ∃ r, generate {} (animals true) = .ok r ∧ ¬ Blocks {} (animals true) r := by
  obtain ⟨r, h, t, ht, d, hd, name, hname, hdangles, plan, hplan, hsource, htarget⟩ :
      ∃ r, generate {} (animals true) = .ok r ∧ ∃ t ∈ (animals true).types, ∃ d ∈ t.directives,
        ∃ name ∈ references t d, Dangles (animals true) t name ∧ ∃ plan ∈ r.plans, plan.source = t ∧
          (animals true).resolve d.target (some t.module) = some plan.target.qualifiedName :=
    Steps.exists_of_any (by decide +kernel)
  refine ⟨r, h, fun hblocks => ?_⟩
  exact hblocks.absent t ht d hd name hname hdangles plan hplan ⟨hsource, htarget⟩

end Mapsmith.Generation
