import Mapsmith.Proofs.Emitted

/-!
# The routines of a unit

A unit defines the routines of its mappings one after another, and offers the public ones. Which
routines those are shows in the mapping: a public one makes a routine for itself and for each
variant that its directive asks for, a private one a single routine.
-/

namespace Mapsmith.Emission

variable {config : Config} {graph : Option TypeGraph} {ns : String} {plans : List Plan}
  {isPublic : Bool} {m : Mapping} {routines : List Routine}

/-! ### The routines of a mapping -/

/-- The names of the routines that a mapping makes. -/
def definedNames (isPublic : Bool) : Mapping → List String
  | .object m => m.routine.name ::
    (if isPublic then m.updateRoutine.toList ++ m.projectionRoutine.toList else [])
  | .enum m => [m.routine.name]

theorem routine_name_mem_definedNames : m.routine.name ∈ definedNames isPublic m := by
  cases m with
  | object m => exact List.mem_cons_self
  | enum m => exact List.mem_cons_self

variable {site : Site}

theorem forward_eq_ok {m : ObjectMapping} {r : Routine} (h : site.forward isPublic m = .ok r) :
    r.name = m.routine.name ∧ r.isPublic = isPublic := by
  unfold Site.forward at h
  simp only at h
  split at h
  · obtain ⟨rest, -, h⟩ := Steps.bind_eq_ok.1 h
    cases h
    exact ⟨rfl, rfl⟩
  · obtain ⟨rest, -, h⟩ := Steps.bind_eq_ok.1 h
    cases h
    exact ⟨rfl, rfl⟩

theorem update_eq_ok {m : ObjectMapping} {name : String} {r : Routine}
    (h : site.update name m = .ok r) : r.name = name ∧ r.isPublic = true := by
  obtain ⟨rest, -, h⟩ := Steps.bind_eq_ok.1 h
  cases h
  exact ⟨rfl, rfl⟩

theorem enumRoutine_eq_ok {m : EnumMapping} {r : Routine}
    (h : Site.enumRoutine isPublic m = .ok r) : r.name = m.routine.name ∧ r.isPublic = isPublic := by
  obtain ⟨cases', -, h⟩ := Steps.bind_eq_ok.1 h
  cases h
  exact ⟨rfl, rfl⟩

/-- The routines of a mapping go by its names, and are public as it is. -/
theorem routines_eq_ok (h : site.routines isPublic m = .ok routines) :
    routines.map (·.name) = definedNames isPublic m ∧ ∀ r ∈ routines, r.isPublic = isPublic := by
  cases m with
  | enum m =>
    obtain ⟨r, hr, h⟩ := Steps.bind_eq_ok.1 h
    obtain ⟨hname, hpublic⟩ := enumRoutine_eq_ok hr
    cases h
    exact ⟨by rw [List.map_singleton, hname, definedNames], by simpa using hpublic⟩
  | object m =>
    obtain ⟨first, hfirst, h⟩ := Steps.bind_eq_ok.1 h
    obtain ⟨hname, hpublic⟩ := forward_eq_ok hfirst
    cases isPublic with
    | false =>
      cases h
      exact ⟨by rw [List.map_singleton, hname]; rfl, by simpa using hpublic⟩
    | true =>
      obtain ⟨updates, hupdates, h⟩ := Steps.bind_eq_ok.1 h
      cases h
      have hupdates := Steps.mapM_eq_ok.1 hupdates
      have hnames : updates.map (·.name) = m.updateRoutine.toList := by
        refine List.forall₂_eq_eq_eq ▸ ?_
        rw [List.forall₂_map_left_iff]
        exact hupdates.flip.imp fun r name hr => (update_eq_ok hr).1
      refine ⟨?_, fun r hr => ?_⟩
      · have hprojections : (m.projectionRoutine.toList.map fun name => site.projection name m).map
            (·.name) = m.projectionRoutine.toList := by
          rw [List.map_map]
          exact List.map_id _
        rw [List.cons_append, List.map_cons, List.map_append, hname, hnames, hprojections]
        rfl
      · rcases List.mem_append.1 hr with hr | hr
        · rcases List.mem_cons.1 hr with rfl | hr
          · exact hpublic
          · obtain ⟨name, -, hr⟩ := Steps.exists_of_mem_right hupdates hr
            exact (update_eq_ok hr).2
        · obtain ⟨name, -, rfl⟩ := List.mem_map.1 hr
          rfl

/-! ### The routines of some mappings -/

/-- The routines of the mappings of a unit, one after another. -/
def unitRoutines (site : Site) (plans : List Plan) : Except EmissionError (List Routine) := do
  return (← (unitMappings (sortPlans plans)).mapM fun (isPublic, m) =>
    site.routines isPublic m).flatten

/-- The names that a unit of some plans defines, in order. -/
def unitNames (plans : List Plan) : List String :=
  (unitMappings (sortPlans plans)).flatMap fun (isPublic, m) => definedNames isPublic m

/-- The names of the public routines that a unit of some plans defines, in order. -/
def publicNames (plans : List Plan) : List String :=
  (sortPlans plans).flatMap fun p => p.publicMappings.flatMap (definedNames true)

theorem mapM_routines {ms : List (Bool × Mapping)} {rss : List (List Routine)}
    (h : ms.mapM (fun (isPublic, m) => site.routines isPublic m) = .ok rss) :
    rss.flatten.map (·.name) = ms.flatMap (fun (isPublic, m) => definedNames isPublic m) ∧
      (rss.flatten.filter (·.isPublic)).map (·.name) =
        (ms.filter (·.1)).flatMap (fun (isPublic, m) => definedNames isPublic m) := by
  have hforall := Steps.mapM_eq_ok.1 h
  clear h
  induction hforall with
  | nil => exact ⟨rfl, rfl⟩
  | @cons bm rs ms rss hrs _ ih =>
    obtain ⟨isPublic, m⟩ := bm
    obtain ⟨hnames, hpublic⟩ := routines_eq_ok hrs
    refine ⟨?_, ?_⟩
    · rw [List.flatten_cons, List.map_append, hnames, ih.1, List.flatMap_cons]
    · rw [List.flatten_cons, List.filter_append, List.map_append, ih.2]
      cases isPublic with
      | true =>
        rw [List.filter_eq_self.2 hpublic, hnames, List.filter_cons_of_pos rfl, List.flatMap_cons]
      | false =>
        have hnone : rs.filter (·.isPublic) = [] :=
          List.filter_eq_nil_iff.2 fun r hr => by rw [hpublic r hr]; exact Bool.false_ne_true
        rw [hnone, List.filter_cons_of_neg Bool.false_ne_true, List.map_nil, List.nil_append]

theorem filter_unitMappings : (unitMappings plans).filter (·.1) =
    (plans.flatMap (·.publicMappings)).map fun m => (true, m) := by
  unfold unitMappings
  rw [List.filter_append, ← List.map_flatMap]
  have hpublic : ((plans.flatMap (·.publicMappings)).map fun m => (true, m)).filter (·.1) =
      (plans.flatMap (·.publicMappings)).map fun m => (true, m) :=
    List.filter_eq_self.2 fun bm hbm => by
      obtain ⟨m, -, rfl⟩ := List.mem_map.1 hbm
      rfl
  have hprivate : ((helperMappings plans).map fun m => (false, m)).filter (·.1) = [] :=
    List.filter_eq_nil_iff.2 fun bm hbm => by
      obtain ⟨m, -, rfl⟩ := List.mem_map.1 hbm
      exact Bool.false_ne_true
  rw [hpublic, hprivate, List.append_nil]

/-- **The routines of a unit**: it is written from them, and offers the public ones. -/
structure UnitOf (config : Config) (ns : String) (plans : List Plan) (u : GeneratedUnit)
    (routines : List Routine) : Prop where
  ns_eq : u.ns = ns
  routines_eq : unitRoutines ⟨config, ns⟩ plans = .ok routines
  written : ∃ above names, u.source = above ++ Layout.render (routines.flatMap (·.layout names))
  names : routines.map (·.name) = unitNames plans
  offered : u.routines = publicNames plans

theorem generateUnit_eq_ok {u : GeneratedUnit}
    (h : generateUnit config graph ns plans = .ok u) : ∃ routines, UnitOf config ns plans u routines := by
  obtain ⟨table, -, h⟩ := Steps.bind_eq_ok.1 h
  obtain ⟨rss, hrss, h⟩ := Steps.bind_eq_ok.1 h
  cases h
  obtain ⟨hnames, hpublic⟩ := mapM_routines hrss
  refine ⟨rss.flatten, rfl, Steps.bind_eq_ok.2 ⟨rss, hrss, rfl⟩, ⟨_, _, rfl⟩, hnames, ?_⟩
  rw [filter_unitMappings, List.flatMap_map, List.flatMap_assoc] at hpublic
  exact hpublic

/-! ### The units of a pass -/

theorem mem_plansOf {p : Plan} : p ∈ plansOf plans ns ↔ p ∈ plans ∧ p.home = ns := by
  simp only [plansOf, List.mem_filter, beq_iff_eq]

theorem mem_namespaces : ns ∈ namespaces plans ↔ ∃ p ∈ plans, p.home = ns := by
  simp only [namespaces, Text.mem_sort, Text.mem_distinct, List.mem_map]

variable {units : List GeneratedUnit} {u : GeneratedUnit}

/-- A unit is that of its namespace. -/
theorem unitOf_of_mem (h : generateUnits config graph plans = .ok units) (hu : u ∈ units) :
    ∃ routines, UnitOf config u.ns (plansOf plans u.ns) u routines := by
  obtain ⟨ns, -, hunit⟩ := Steps.exists_of_mem_right (Steps.mapM_eq_ok.1 h) hu
  obtain ⟨routines, hroutines⟩ := generateUnit_eq_ok hunit
  obtain rfl := hroutines.ns_eq
  exact ⟨routines, hroutines⟩

/-- Every namespace that a plan maps into has a unit. -/
theorem exists_unit (h : generateUnits config graph plans = .ok units) {p : Plan} (hp : p ∈ plans) :
    ∃ u ∈ units, u.ns = p.home := by
  obtain ⟨u, hu, hunit⟩ := Steps.exists_of_mem_left (Steps.mapM_eq_ok.1 h)
    (mem_namespaces.2 ⟨p, hp, rfl⟩)
  obtain ⟨routines, hroutines⟩ := generateUnit_eq_ok hunit
  exact ⟨u, hu, hroutines.ns_eq⟩

theorem mem_publicNames {name : String} :
    name ∈ publicNames plans ↔ ∃ p ∈ plans, ∃ m ∈ p.publicMappings, name ∈ definedNames true m := by
  simp only [publicNames, sortPlans, List.mem_flatMap, Text.mem_sortByKey]

/-- The unit of a plan's namespace offers the plan's routines. -/
theorem exists_unit_of_mapping (h : generateUnits config graph plans = .ok units) {p : Plan}
    (hp : p ∈ plans) (hm : m ∈ p.publicMappings) :
    ∃ u ∈ units, u.ns = p.home ∧ m.routine.name ∈ u.routines := by
  obtain ⟨u, hu, hns⟩ := exists_unit h hp
  obtain ⟨routines, hroutines⟩ := unitOf_of_mem h hu
  refine ⟨u, hu, hns, ?_⟩
  rw [hroutines.offered]
  exact mem_publicNames.2 ⟨p, mem_plansOf.2 ⟨hp, hns.symm⟩, m, hm, routine_name_mem_definedNames⟩

end Mapsmith.Emission

namespace Mapsmith.Generation

open Emission Planning

variable {s : Setting} {i j : Nat} {d e : Directive} {plan : Plan} {m : Mapping} {name : String}

/-! ### The public routines of a plan -/

/-- The names of the variants that a directive between object types asks for: the routine that
updates and the one that projects. -/
def variantNames (d : Directive) (source target : TypeDescriptor) : List String :=
  if source.kind = .enum then []
  else
    (if d.update.isOn then [RoutineName.update source.name target.name] else []) ++
      (if d.projection.isOn then [RoutineName.projection source.name target.name] else [])

/-- The public routines of a plan: that of its declared direction, its variants, and that of its way
back. -/
theorem names_publicMappings {p : Planning} {source target : TypeDescriptor}
    (hplan : PlanOf p d source target plan) :
    plan.publicMappings.flatMap (definedNames true) = plan.forward.routine.name ::
      (variantNames d source target ++ plan.reverse?.toList.map (·.routine.name)) := by
  by_cases hkind : source.kind = .enum
  · obtain ⟨forward, reverse, rfl⟩ := hplan.enum hkind
    cases reverse <;> simp [Plan.publicMappings, Plan.forward, Plan.reverse?, variantNames, hkind,
      definedNames, Mapping.routine]
  · obtain ⟨entries, helpers, -, rfl⟩ := (hplan.object hkind).parts
    have hforward : definedNames true (.object (p.forwardMapping d source target entries)) =
        (p.forwardMapping d source target entries).routine.name :: variantNames d source target := by
      rw [variantNames, if_neg hkind, definedNames, if_pos rfl, forwardMapping]
      split <;> split <;> rfl
    have hreverse : ∀ m ∈ (p.reverseMapping? d source target).toList,
        definedNames true (.object m) = [m.routine.name] := by
      intro m hm
      rw [Option.mem_toList, reverseMapping?] at hm
      split at hm
      · cases hm
        simp [definedNames]
      · cases hm
    rw [Plan.publicMappings, List.flatMap_cons, Plan.forward, hforward, Plan.reverse?]
    cases hback : p.reverseMapping? d source target with
    | none => simp [Mapping.routine]
    | some m => simp [Mapping.routine, hreverse m (by simp [hback])]

/-- The public routines of a plan are among those of its directive. -/
theorem mem_routineNames {p : Planning} {source target : TypeDescriptor}
    (hplan : PlanOf p d source target plan) (hm : m ∈ plan.publicMappings)
    (hname : name ∈ definedNames true m) : name ∈ p.index.routineNames d := by
  have hmem : name ∈ plan.publicMappings.flatMap (definedNames true) :=
    List.mem_flatMap.2 ⟨m, hm, hname⟩
  rw [names_publicMappings hplan, List.mem_cons, List.mem_append, List.mem_map] at hmem
  rcases hmem with rfl | hvariant | ⟨back, hback, rfl⟩
  · rw [hplan.ahead]
    exact DirectiveIndex.forward_mem_routineNames
  -- there are variants between object types only, where the index counts them too
  · have hsource := simpleName_of_get? hplan.hs
    have htarget := simpleName_of_get? hplan.ht
    rw [variantNames] at hvariant
    split at hvariant
    · cases hvariant
    next hkind =>
    have henum : p.index.mapsEnum d = false := by
      have hget : p.index.graph.get? d.source = some source := hplan.hs
      rw [DirectiveIndex.mapsEnum, hget, Option.any_some, beq_eq_false_iff_ne]
      exact hkind
    rcases List.mem_append.1 hvariant with hupdate | hprojection
    · split at hupdate
      next hon =>
        rw [List.mem_singleton.1 hupdate, ← hsource, ← htarget]
        exact DirectiveIndex.update_mem_routineNames hon henum
      · cases hupdate
    · split at hprojection
      next hon =>
        rw [List.mem_singleton.1 hprojection, ← hsource, ← htarget]
        exact DirectiveIndex.projection_mem_routineNames hon henum
      · cases hprojection
  · have hreturns : returns d source target = true := by
      rw [← hplan.isSome_back, Option.mem_toList.1 hback, Option.isSome_some]
    rw [(hplan.back back (Option.mem_toList.1 hback)).1]
    exact DirectiveIndex.backward_mem_routineNames (isOn_of_returns hreturns)

/-! ### What an emitted plan defines -/

namespace Passed

variable {conflict : Option String}

theorem home_eq (h : Passed s conflict d plan) : plan.home = s.index.home d := by
  obtain ⟨source, target, hplan⟩ := h.planOf
  rw [Plan.home, hplan.ahead]
  rfl

/-- The target of a plan without errors has the shape that its source asks for. -/
theorem target_kind {source target : TypeDescriptor} (h : Passed s conflict d plan)
    (hplan : PlanOf s.planning d source target plan) :
    if source.kind = .enum then target.kind = .enum else target.kind.isObject = true := by
  split
  next henum =>
    obtain ⟨forward, reverse, rfl⟩ := hplan.enum henum
    rw [← hplan.target_eq]
    exact (Validation.enum_of_check h.free).1
  next hkind =>
    obtain ⟨entries, helpers, -, rfl⟩ := (hplan.object hkind).parts
    rw [← hplan.target_eq]
    exact (Validation.sound_of_check h.free).target

end Passed

namespace Emitted

theorem planOf (h : Emitted s i d plan) :
    ∃ source target, PlanOf s.planning d source target plan :=
  h.passed.planOf

theorem conflict_eq_none (h : Emitted s i d plan) : s.index.conflict i = none :=
  Validation.conflict_eq_none_of_check h.free

theorem home_eq (h : Emitted s i d plan) : plan.home = s.index.home d :=
  h.passed.home_eq

/-- The public routines of an emitted plan are definitions of its directive. -/
theorem mem_definitions (h : Emitted s i d plan) (hm : m ∈ plan.publicMappings)
    (hname : name ∈ definedNames true m) : (plan.home, name) ∈ s.index.definitions d := by
  obtain ⟨source, target, hplan⟩ := h.planOf
  have hmem := mem_routineNames hplan hm hname
  exact DirectiveIndex.mem_definitions.2 ⟨h.home_eq, hmem⟩

/-- **An emitted plan shares its definitions with no other position.** -/
theorem unique (h : Emitted s i d plan) (hj : s.index.directives[j]? = some e)
    {key : String × String} (hd : key ∈ s.index.definitions d) (he : key ∈ s.index.definitions e) :
    j = i :=
  DirectiveIndex.eq_of_mem_definitions h.getElem? hj h.conflict_eq_none hd he

end Emitted

end Mapsmith.Generation
