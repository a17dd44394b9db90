import Mapsmith.Proofs.Importable
import Mapsmith.Proofs.Participation
import Mapsmith.Proofs.ReadTypes

/-!
# What can be rendered

Rendering a plan has several ways to fail: a conversion may lack its routine, its elements or its
container, a dispatch may name a type that is not in the graph, and the values of an enum may be no
identifiers. Where the types of members are complete, as they are in a graph that is read from a
program, planning makes no conversion of the first kind (`Mapsmith.Conversion.Expressible`), and
what a plan dispatches to is the source of a directive. So units fail only for the name of an enum
value, and they do fail if one of their mappings has such a value
(`Mapsmith.Emission.generateUnits_cases`).
-/

namespace Mapsmith

/-! ### Conversions -/

/-- Can a conversion be written as an expression? -/
inductive Conversion.Expressible : Conversion → Prop
  /-- The value as it is. -/
  | direct {routine element container nullable} :
    Expressible (.mk .direct routine element container nullable)
  /-- A conversion between scalars. -/
  | builtin {kind routine element container nullable} (h : kind.isBuiltin = true) :
    Expressible (.mk kind routine element container nullable)
  /-- A call for an object. -/
  | nested {r element container nullable} :
    Expressible (.mk .nested (some r) element container nullable)
  /-- A call for an enum value. -/
  | enum {r element container nullable} :
    Expressible (.mk .enum (some r) element container nullable)
  /-- A container rebuilt from its elements. -/
  | collection {routine element container nullable} (h : Expressible element) :
    Expressible (.mk .collection routine (some element) (some container) nullable)

/-- **Does a conversion make values of a type?** A routine makes objects and enum values, and a collection
is put into the container of the type, from elements that are made in the same way. -/
inductive Conversion.Makes : TypeRef → Conversion → Prop
  /-- The value as it is. -/
  | direct {t} : Makes t .direct
  /-- A conversion between scalars. -/
  | builtin {t kind nullable} (h : kind.isBuiltin = true) : Makes t (.builtin kind nullable)
  /-- A call for an object. -/
  | nested {t r nullable} : Makes t (.nested r nullable)
  /-- A call for an enum value. -/
  | enum {t r nullable} : Makes t (.enum r nullable)
  /-- A container rebuilt from its elements. -/
  | collection {name element args container nullable c nullable'} (h : Makes element c) :
    Makes (.mk name .collection (element :: args) (some container) nullable)
      (.collection c (some container) nullable')

theorem Conversion.Makes.expressible {c : Conversion} {t : TypeRef} (h : c.Makes t) :
    c.Expressible := by
  induction h with
  | direct => exact .direct
  | builtin h => exact .builtin h
  | nested => exact .nested
  | enum => exact .enum
  | collection _ ih => exact .collection ih

theorem ConversionKind.isBuiltin_between {source target : String} {kind : ConversionKind}
    (h : between source target = some kind) : kind.isBuiltin = true := by
  unfold between at h
  split at h <;> cases h <;> rfl

namespace Matching

variable {g : TypeGraph}

/-- **Is a need sound** for a type: are its scalars converted by something built in, and is it a collection
only where the type is one, with the container of the type? -/
inductive Need.Sound : TypeRef → Need → Prop
  /-- Nothing to be done. -/
  | direct {t} : Sound t .direct
  /-- Nothing that can be done. -/
  | unconvertible {t} : Sound t .unconvertible
  /-- A conversion between scalars. -/
  | builtin {t kind nullable} (h : kind.isBuiltin = true) : Sound t (.builtin kind nullable)
  /-- A routine. -/
  | routine {t request nullable} : Sound t (.routine request nullable)
  /-- The same for every element. -/
  | collection {name element args container nullable need nullable'} (h : Sound element need) :
    Sound (.mk name .collection (element :: args) (some container) nullable)
      (.collection need (some container) nullable')

/-- **Complete types can be compared**, and what it takes to convert them is sound. -/
theorem exists_sound {source target : TypeRef} (hs : source.Complete) (ht : target.Complete) :
    ∃ need, needOf g source target = .ok need ∧ need.Sound target := by
  induction hs generalizing target with
  | @single name kind args container nullable hkind =>
    unfold needOf
    split
    · exact ⟨_, rfl, .direct⟩
    split
    · split
      · exact ⟨_, rfl, .direct⟩
      split
      · exact ⟨_, rfl, .routine⟩
      · exact ⟨_, rfl, .unconvertible⟩
    · exact ⟨_, rfl, .routine⟩
    · exact absurd rfl hkind
    · split
      next kind hbetween => exact ⟨_, rfl, .builtin (ConversionKind.isBuiltin_between hbetween)⟩
      · exact ⟨_, rfl, .unconvertible⟩
    · exact ⟨_, rfl, .unconvertible⟩
  | @collection name element args container nullable _ ih =>
    unfold needOf
    split
    · exact ⟨_, rfl, .direct⟩
    cases ht with
    | single hkind =>
      split
      next hsource _ => cases hsource
      next hsource _ => cases hsource
      next _ htarget => exact absurd htarget hkind
      next hsource _ => cases hsource
      · exact ⟨_, rfl, .unconvertible⟩
    | @collection _ _ _ container' _ helement =>
      obtain ⟨need, hneed, hsound⟩ := ih helement
      exact ⟨.collection need (some container') nullable, Steps.bind_eq_ok.2 ⟨need, hneed, rfl⟩,
        .collection hsound⟩

/-- A sound need is settled by a conversion that makes values of the type, unless there is none. -/
theorem Need.Sound.makes_settle {need : Need} {t : TypeRef} (h : need.Sound t)
    {supplied : Option RoutineRef} (hkind : (need.settle supplied).kind ≠ .unconvertible) :
    (need.settle supplied).Makes t := by
  induction h with
  | direct => exact .direct
  | unconvertible => exact absurd rfl hkind
  | builtin h => exact .builtin h
  | @routine _ request nullable =>
    cases supplied with
    | none => exact absurd rfl hkind
    | some r =>
      cases request with
      | nested => exact .nested
      | enum => exact .enum
  | collection _ ih =>
    unfold Need.settle at hkind ⊢
    simp only at hkind ⊢
    split
    next hinner =>
      rw [if_pos hinner] at hkind
      exact absurd rfl hkind
    next hinner => exact .collection (ih hinner)

end Matching

/-! ### Parts of plans -/

/-- Can all correspondences of a mapping be written? -/
def Mapping.Expressible (m : Mapping) : Prop :=
  ∀ c ∈ m.correspondences, c.conversion.Expressible

/-- Are the types of all members in a graph complete? -/
def TypeGraph.Complete (g : TypeGraph) : Prop :=
  ∀ t ∈ g.types, ∀ m ∈ t.members, m.type.Complete

/-- **Can a plan be rendered** but for the names of enum values? Its parts can be written, and the
types that it dispatches to are known. -/
structure Plan.Renderable (g : TypeGraph) (p : Plan) : Prop where
  expressible : ∀ m ∈ p.parts, m.Expressible
  known : ∀ m ∈ p.parts, ∀ entry ∈ m.dispatch, (g.get? entry.source).isSome = true

/-- Does a mapping refer to the value of an enum, or to its counterpart, by a name that is no
identifier? -/
def Mapping.Misnames : Mapping → String → Prop
  | .object _, _ => False
  | .enum m, name => ∃ v ∈ m.values, ∃ counterpart, v.targetValue = some counterpart ∧
    (name = v.sourceValue ∨ name = counterpart) ∧ Text.isIdentifier name = false

namespace Planning

open Matching

variable {p : Planning} {d : Directive} {source target : TypeDescriptor}

/-- **A planned mapping makes what it fills in**: values of the types of the target's members. -/
theorem IsPlanned.makes {o : ObjectMapping} (hg : p.graph.Complete) (h : p.IsPlanned o)
    {c : PropertyMapping} (hc : c ∈ o.mappings) : c.conversion.Makes c.targetType := by
  obtain ⟨home, inverse, routine, hmappings⟩ := h.mappings
  rw [hmappings] at hc
  obtain ⟨-, m, b, hb, rfl, hkind⟩ := mem_mappings_mappingWith.1 hc
  have hm : m.type.Complete :=
    hg o.target (TypeGraph.get?_eq_some.1 h.target).1 m (mem_of_mem_outcomes hb)
  have hread : b.read.type.Complete := by
    rcases read_of_mem_outcomes hb with hread | ⟨outer, -, inner, hinner, hread⟩
    · exact hg o.source (TypeGraph.get?_eq_some.1 h.source).1 b.read hread
    · exact hg inner (TypeGraph.get?_eq_some.1 hinner).1 b.read hread
  obtain ⟨need, hneed, hsound⟩ := exists_sound (g := p.graph) hread hm
  simp only [Binding.toMapping, conversionWith, hneed] at hkind ⊢
  exact hsound.makes_settle hkind

/-- **Every part of a plan can be written** if the types of members are complete. -/
theorem PlanOf.expressible {plan : Plan} (hg : p.graph.Complete)
    (hplan : PlanOf p d source target plan) {m : Mapping} (hm : m ∈ plan.parts) : m.Expressible := by
  cases m with
  | enum m => exact fun _ hc => absurd hc List.not_mem_nil
  | object o => exact fun c hc => ((hplan.isPlanned hm).makes hg hc).expressible

end Planning

namespace Emission

variable (site : Site)

/-! ### Routines between object types -/

theorem exists_convert {c : Conversion} (h : c.Expressible) (depth : Nat) (p : Place) :
    ∃ e, site.convert depth p c = .ok e := by
  induction h generalizing depth p with
  | direct => exact ⟨_, by rw [Site.convert]; rfl⟩
  | @builtin kind routine element container nullable hkind =>
    cases kind with
    | direct | nested | enum | collection | unconvertible => cases hkind
    | _ => exact ⟨_, by unfold Site.convert; rfl⟩
  | nested => exact ⟨_, by rw [Site.convert]; rfl⟩
  | enum => exact ⟨_, by rw [Site.convert]; rfl⟩
  | @collection routine element container nullable _ ih =>
    obtain ⟨e, he⟩ := ih (depth + 1) ⟨Site.itemName depth, []⟩
    rw [Site.convert]
    simp only [he]
    exact ⟨_, rfl⟩

theorem exists_value {c : PropertyMapping} (h : c.conversion.Expressible) :
    ∃ e, site.value c = .ok e := by
  obtain ⟨e, he⟩ := exists_convert site h 0 ⟨"source", c.sourcePath⟩
  by_cases hmissing : (c.isFlattened && c.outerNullable) = true
  · exact ⟨_, Steps.bind_eq_ok.2 ⟨e, he, if_pos hmissing⟩⟩
  · exact ⟨_, Steps.bind_eq_ok.2 ⟨e, he, if_neg hmissing⟩⟩

section Object

variable {cs : List PropertyMapping}
  (h : ∀ c ∈ cs, c.conversion.Expressible)
include h

theorem expressible_filter (test : PropertyMapping → Bool) :
    ∀ c ∈ cs.filter test, c.conversion.Expressible :=
  fun c hc => h c (List.mem_filter.1 hc).1

theorem exists_assignments : ∃ sts, site.assignments cs = .ok sts := by
  refine Steps.exists_mapM_eq_ok fun c hc => ?_
  obtain ⟨e, he⟩ := exists_value site (h c hc)
  exact ⟨_, Steps.bind_eq_ok.2 ⟨e, he, rfl⟩⟩

theorem exists_named : ∃ arguments, cs.mapM (fun c => site.named c.targetKeyword c) = .ok arguments := by
  refine Steps.exists_mapM_eq_ok fun c hc => ?_
  obtain ⟨e, he⟩ := exists_value site (h c hc)
  exact ⟨_, Steps.bind_eq_ok.2 ⟨e, he, rfl⟩⟩

theorem exists_construction (target : TypeDescriptor) :
    ∃ call, site.construction target cs = .ok call := by
  unfold Site.construction
  simp only [List.partition_eq_filter_filter]
  obtain ⟨keywords, hkeywords⟩ :=
    exists_named site (expressible_filter h fun c => Text.isIdentifier c.targetKeyword)
  obtain ⟨entries, hentries⟩ :=
    exists_named site (expressible_filter h (not ∘ fun c => Text.isIdentifier c.targetKeyword))
  exact ⟨_, Steps.bind_eq_ok.2 ⟨keywords, hkeywords, Steps.bind_eq_ok.2 ⟨entries, hentries, rfl⟩⟩⟩

end Object

theorem exists_build {m : ObjectMapping} (h : (Mapping.object m).Expressible) :
    ∃ sts, site.build m = .ok sts := by
  unfold Site.build
  split
  · obtain ⟨assigned, hassigned⟩ := exists_assignments site h
    exact ⟨_, Steps.bind_eq_ok.2 ⟨assigned, hassigned, rfl⟩⟩
  · simp only [List.partition_eq_filter_filter]
    obtain ⟨call, hcall⟩ := exists_construction site (expressible_filter h (·.viaConstructor)) m.target
    obtain ⟨assigned, hassigned⟩ := 
      exists_assignments site (expressible_filter h (not ∘ (·.viaConstructor)))
    by_cases hreturn :
        ((m.mappings.filter (not ∘ (·.viaConstructor))).isEmpty && m.directive.afterMap.isNone) = true
    · exact ⟨_, Steps.bind_eq_ok.2 ⟨call, hcall, if_pos hreturn⟩⟩
    · exact ⟨_, Steps.bind_eq_ok.2 ⟨call, hcall,
        (if_neg hreturn).trans (Steps.bind_eq_ok.2 ⟨assigned, hassigned, rfl⟩)⟩⟩

theorem exists_forward {m : ObjectMapping} (h : (Mapping.object m).Expressible) (isPublic : Bool) :
    ∃ r, site.forward isPublic m = .ok r := by
  obtain ⟨sts, hsts⟩ := exists_build site h
  unfold Site.forward
  simp only
  split
  · exact ⟨_, rfl⟩
  · rw [hsts]
    exact ⟨_, rfl⟩

theorem exists_objectRoutines {m : ObjectMapping} (h : (Mapping.object m).Expressible)
    (isPublic : Bool) : ∃ rs, site.objectRoutines isPublic m = .ok rs := by
  obtain ⟨first, hfirst⟩ := exists_forward site h isPublic
  obtain ⟨assigned, hassigned⟩ := exists_assignments site h
  have hupdates : ∃ updates, (m.updateRoutine.toList.mapM fun name => site.update name m) =
      .ok updates :=
    Steps.exists_mapM_eq_ok fun name _ => ⟨_, Steps.bind_eq_ok.2 ⟨assigned, hassigned, rfl⟩⟩
  obtain ⟨updates, hupdates⟩ := hupdates
  cases isPublic with
  | false => exact ⟨_, Steps.bind_eq_ok.2 ⟨first, hfirst, rfl⟩⟩
  | true =>
    exact ⟨_, Steps.bind_eq_ok.2 ⟨first, hfirst, Steps.bind_eq_ok.2 ⟨updates, hupdates, rfl⟩⟩⟩

variable {site}

/-! ### Routines between enums -/

theorem enumCase_eq_ok {value counterpart : String} {pair : String × String}
    (h : Site.enumCase value counterpart = .ok pair) :
    Text.isIdentifier value = true ∧ Text.isIdentifier counterpart = true := by
  unfold Site.enumCase at h
  split at h
  · cases h
  next hvalue =>
    split at h
    · cases h
    next hcounterpart => exact ⟨by simpa using hvalue, by simpa using hcounterpart⟩

theorem enumCase_eq_error {value counterpart : String} {e : EmissionError}
    (h : Site.enumCase value counterpart = .error e) :
    ∃ name, e = .badEnumValue name ∧ (name = value ∨ name = counterpart) ∧
      Text.isIdentifier name = false := by
  unfold Site.enumCase at h
  split at h
  next hvalue =>
    cases h
    exact ⟨value, rfl, .inl rfl, by simpa using hvalue⟩
  · split at h
    next hcounterpart =>
      cases h
      exact ⟨counterpart, rfl, .inr rfl, by simpa using hcounterpart⟩
    · cases h

/-- The cases of a mapping between enums, each value with its counterpart. -/
theorem mem_cases {m : EnumMapping} {value counterpart : String} :
    (value, counterpart) ∈ m.values.filterMap (fun v => v.targetValue.map fun t => (v.sourceValue, t)) ↔
      ∃ v ∈ m.values, v.sourceValue = value ∧ v.targetValue = some counterpart := by
  simp only [List.mem_filterMap, Option.map_eq_some_iff, Prod.mk.injEq]
  constructor
  · rintro ⟨v, hv, t, ht, rfl, rfl⟩
    exact ⟨v, hv, rfl, ht⟩
  · rintro ⟨v, hv, rfl, ht⟩
    exact ⟨v, hv, counterpart, ht, rfl, rfl⟩

variable {m : Mapping} {isPublic : Bool} {name : String} {e : EmissionError}

/-- Rendering a mapping that can be written fails for the name of an enum value only. -/
theorem misnames_of_error (hm : m.Expressible) (h : site.routines isPublic m = .error e) :
    ∃ name, e = .badEnumValue name ∧ m.Misnames name := by
  cases m with
  | object m =>
    obtain ⟨rs, hrs⟩ := exists_objectRoutines site hm isPublic
    have hroutines : site.routines isPublic (.object m) = .ok rs := hrs
    rw [hroutines] at h
    cases h
  | enum m =>
    rcases Steps.bind_eq_error h with h | ⟨r, -, h⟩
    · rcases Steps.bind_eq_error h with h | ⟨cases', -, h⟩
      · obtain ⟨⟨value, counterpart⟩, hmem, h⟩ := Steps.mapM_eq_error h
        obtain ⟨v, hv, rfl, hcounterpart⟩ := mem_cases.1 hmem
        obtain ⟨name, rfl, hname, hnot⟩ := enumCase_eq_error h
        exact ⟨name, rfl, v, hv, counterpart, hcounterpart, hname, hnot⟩
      · cases h
    · cases h

/-- If it succeeds, all names are identifiers. -/
theorem not_misnames_of_ok {rs : List Routine} (h : site.routines isPublic m = .ok rs) :
    ¬ m.Misnames name := by
  cases m with
  | object m => exact id
  | enum m =>
    rintro ⟨v, hv, counterpart, hcounterpart, hname, hnot⟩
    obtain ⟨r, hr, -⟩ := Steps.bind_eq_ok.1 h
    obtain ⟨cases', hcases, -⟩ := Steps.bind_eq_ok.1 hr
    obtain ⟨pair, -, hpair⟩ :=
      Steps.exists_of_mem_left (Steps.mapM_eq_ok.1 hcases) (mem_cases.2 ⟨v, hv, rfl, hcounterpart⟩)
    obtain ⟨hvalue, htarget⟩ := enumCase_eq_ok hpair
    rcases hname with rfl | rfl
    · rw [hvalue] at hnot
      cases hnot
    · rw [htarget] at hnot
      cases hnot

/-! ### Units -/

open Generation

variable {config : Config} {g : TypeGraph} {ns : String} {plans : List Plan}

theorem generateUnit_eq_error (hplans : ∀ p ∈ plans, p.Renderable g)
    (h : generateUnit config (some g) ns plans = .error e) :
    ∃ m ∈ renderedMappings plans, ∃ name, e = .badEnumValue name ∧ m.Misnames name := by
  have hknown : ∀ m ∈ renderedMappings plans, ∀ entry ∈ m.dispatch,
      (g.get? entry.source).isSome = true := fun m hm => by
    obtain ⟨p, hp, hpart⟩ := exists_part hm
    exact (hplans p hp).known m hpart
  obtain ⟨table, htable⟩ := exists_importTable hknown
  rcases Steps.bind_eq_error h with h | ⟨table', -, h⟩
  · rw [show importTable (some g) ((unitMappings (sortPlans plans)).map (·.2)) = .ok table
      from htable] at h
    cases h
  rcases Steps.bind_eq_error h with h | ⟨rss, -, h⟩
  · obtain ⟨⟨isPublic, m⟩, hmem, h⟩ := Steps.mapM_eq_error h
    have hm : m ∈ renderedMappings plans := List.mem_map_of_mem hmem
    obtain ⟨p, hp, hpart⟩ := exists_part hm
    exact ⟨m, hm, misnames_of_error ((hplans p hp).expressible m hpart) h⟩
  · cases h

theorem not_misnames_of_generateUnit {graph : Option TypeGraph} {u : GeneratedUnit}
    (h : generateUnit config graph ns plans = .ok u) (hm : m ∈ renderedMappings plans) :
    ¬ m.Misnames name := by
  obtain ⟨table, -, h⟩ := Steps.bind_eq_ok.1 h
  obtain ⟨rss, hrss, -⟩ := Steps.bind_eq_ok.1 h
  obtain ⟨⟨isPublic, m⟩, hmem, rfl⟩ := List.mem_map.1 hm
  obtain ⟨rs, -, hrs⟩ := Steps.exists_of_mem_left (Steps.mapM_eq_ok.1 hrss) hmem
  exact not_misnames_of_ok hrs

/-- Does the unit of a namespace, among those of some plans, refer to an enum value by a name that is
no identifier? -/
def Misnamed (plans : List Plan) (name : String) : Prop :=
  ∃ ns, ∃ m ∈ renderedMappings (plansOf plans ns), m.Misnames name

/-- **Units are generated, or one of them misnames an enum value** and nothing is generated. -/
theorem generateUnits_cases (config : Config) (hplans : ∀ p ∈ plans, p.Renderable g) :
    ((∃ units, generateUnits config (some g) plans = .ok units) ∧ ∀ name, ¬ Misnamed plans name) ∨
      ∃ name, generateUnits config (some g) plans = .error (.badEnumValue name) ∧
        Misnamed plans name := by
  cases h : generateUnits config (some g) plans with
  | ok units =>
    refine .inl ⟨⟨units, rfl⟩, ?_⟩
    rintro name ⟨ns, m, hm, hmisnames⟩
    obtain ⟨p, hp, -⟩ := exists_part hm
    obtain ⟨hmem, hhome⟩ := mem_plansOf.1 hp
    obtain ⟨u, -, hu⟩ := Steps.exists_of_mem_left (Steps.mapM_eq_ok.1 h)
      (mem_namespaces.2 ⟨p, hmem, hhome⟩)
    exact not_misnames_of_generateUnit hu hm hmisnames
  | error e =>
    obtain ⟨ns, -, hunit⟩ := Steps.mapM_eq_error h
    obtain ⟨m, hm, name, rfl, hmisnames⟩ :=
      generateUnit_eq_error (fun p hp => hplans p (mem_plansOf.1 hp).1) hunit
    exact .inr ⟨name, rfl, ns, m, hm, hmisnames⟩

end Emission

/-! ### Plans of a pass -/

namespace Generation

open Planning

/-- **A plan without errors can be rendered** but for the names of enum values, if the types of
members are complete. -/
theorem Passed.renderable {config : Config} {g : TypeGraph} {conflict : Option String}
    {d : Directive} {plan : Plan} (hg : g.Complete)
    (h : Passed (settingOf config g) conflict d plan) : plan.Renderable g := by
  obtain ⟨source, target, hplan⟩ := h.planOf
  have hgraph : (settingOf config g).planning.graph.Complete := hg
  refine ⟨fun m hm => hplan.expressible hgraph hm, fun m hm entry hentry => ?_⟩
  obtain ⟨-, hkind, entries, hentries, hmem⟩ := dispatch_of_parts hplan hm hentry
  obtain ⟨-, hpair⟩ := routineFor_of_dispatch hentries hmem
  obtain ⟨e, he⟩ := Option.isSome_iff_exists.1 (h.declared hplan hkind hpair)
  obtain ⟨hmem, hsource, -⟩ := DirectiveIndex.directiveFor_eq_some he
  have hhas := (has_of_mem_directives hmem).1
  rwa [hsource] at hhas

end Generation

end Mapsmith
