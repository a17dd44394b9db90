import Mapsmith.Program.Expr.Token
import Mapsmith.Proofs.Legality
import Mapsmith.Proofs.Renderable

/-!
# Names that are written as they are

Generated code writes the keyword of an argument and the value of an enum as they are, and so only if they
are identifiers: any other keyword stands in the dictionary of further arguments, as a text, and any other
value keeps units from being generated. A constructor call holds the value of every correspondence that it
is made for once, in one of the two places (`Mapsmith.Emission.Construction.Passes`), and the routine of two
enums has one case for every value with a counterpart.

An identifier need not be a name. The reserved words are identifiers, too, and nothing looks at them: what a
unit writes as it is can be used as a name exactly if no mapping of the unit writes a reserved word
(`Mapsmith.Emission.verbatim_names`).
-/

namespace Mapsmith

/-- The correspondences whose values a constructor takes. -/
def Mapping.taken : Mapping → List PropertyMapping
  | .object m => m.mappings.filter (·.viaConstructor)
  | .enum _ => []

/-- The values of enums that have a counterpart, with it. -/
def Mapping.matched : Mapping → List (String × String)
  | .object _ => []
  | .enum m => m.values.filterMap fun v => v.targetValue.map fun t => (v.sourceValue, t)

/-- **Does a mapping write a name as it is?** It is the keyword of an argument, if it is an identifier, or
the value of an enum. -/
def Mapping.Writes (m : Mapping) (name : String) : Prop :=
  (m.IsBuilt ∧ ∃ c ∈ m.taken, c.targetKeyword = name ∧ Text.isIdentifier name = true) ∨
    ∃ values ∈ m.matched, name = values.1 ∨ name = values.2

namespace Emission

/-! ### What stands in statements -/

/-- The constructor calls of a statement. -/
def Statement.constructions : Statement → List Construction
  | .construct call | .returnConstruct call => [call]
  | _ => []

/-- The cases of a statement over the values of an enum. -/
def Statement.cases : Statement → List (String × String)
  | .matchValues _ _ cases => cases
  | _ => []

/-- The names that a statement writes as they are. -/
def Statement.verbatim (st : Statement) : List String :=
  (st.constructions.flatMap fun call => call.keywords.map (·.1)) ++
    st.cases.flatMap fun (value, counterpart) => [value, counterpart]

/-- The names that a routine writes as they are. -/
def Routine.verbatim (r : Routine) : List String :=
  r.body.flatMap (·.verbatim)

variable {site : Site} {m : Mapping} {sts sts' : List Statement} {name : String}

theorem mem_flatMap_verbatim : name ∈ sts.flatMap (·.verbatim) ↔
    (∃ call ∈ sts.flatMap (·.constructions), ∃ a ∈ call.keywords, a.1 = name) ∨
      ∃ values ∈ sts.flatMap (·.cases), name = values.1 ∨ name = values.2 := by
  simp only [Statement.verbatim, List.mem_flatMap, List.mem_append, List.mem_map, List.mem_pair]
  constructor
  · rintro ⟨st, hst, ⟨call, hcall, hname⟩ | ⟨values, hvalues, hname⟩⟩
    · exact .inl ⟨call, ⟨st, hst, hcall⟩, hname⟩
    · exact .inr ⟨values, ⟨st, hst, hvalues⟩, hname⟩
  · rintro (⟨call, ⟨st, hst, hcall⟩, hname⟩ | ⟨values, ⟨st, hst, hvalues⟩, hname⟩)
    · exact ⟨st, hst, .inl ⟨call, hcall, hname⟩⟩
    · exact ⟨st, hst, .inr ⟨values, hvalues, hname⟩⟩

/-- **Does a constructor call hold the values of some correspondences**, each once and in order, those whose
keywords are identifiers as arguments, and the others in the dictionary? -/
structure Construction.Passes (site : Site) (cs : List PropertyMapping) (call : Construction) : Prop where
  keywords : List.Forall₂ (fun c a => a.1 = c.targetKeyword ∧ site.value c = .ok a.2)
    (cs.filter fun c => Text.isIdentifier c.targetKeyword) call.keywords
  entries : List.Forall₂ (fun c a => a.1 = c.targetKeyword ∧ site.value c = .ok a.2)
    (cs.filter fun c => !Text.isIdentifier c.targetKeyword) call.entries

theorem Construction.Passes.mem_keywords {cs : List PropertyMapping} {call : Construction}
    (h : call.Passes site cs) : (∃ a ∈ call.keywords, a.1 = name) ↔
      ∃ c ∈ cs, c.targetKeyword = name ∧ Text.isIdentifier name = true := by
  constructor
  · rintro ⟨a, ha, rfl⟩
    obtain ⟨c, hc, hkeyword, -⟩ := Steps.exists_of_mem_right h.keywords ha
    obtain ⟨hmem, hidentifier⟩ := List.mem_filter.1 hc
    exact ⟨c, hmem, hkeyword.symm, hkeyword ▸ hidentifier⟩
  · rintro ⟨c, hc, rfl, hidentifier⟩
    obtain ⟨a, ha, hkeyword, -⟩ :=
      Steps.exists_of_mem_left h.keywords (List.mem_filter.2 ⟨hc, hidentifier⟩)
    exact ⟨a, ha, hkeyword⟩

/-- **Do statements spell the names of a mapping?** The target is built by one constructor call, which holds
all that the constructor takes, or by none, and every value of an enum has a case if it has a counterpart. -/
structure Spelled (site : Site) (m : Mapping) (sts : List Statement) : Prop where
  built : m.IsBuilt → ∃ call, sts.flatMap (·.constructions) = [call] ∧ call.Passes site m.taken
  unbuilt : ¬ m.IsBuilt → sts.flatMap (·.constructions) = []
  cases_eq : sts.flatMap (·.cases) = m.matched

theorem Spelled.mem_verbatim (h : Spelled site m sts) :
    name ∈ sts.flatMap (·.verbatim) ↔ m.Writes name := by
  rw [mem_flatMap_verbatim, Mapping.Writes, h.cases_eq]
  refine or_congr_left ?_
  by_cases hbuilt : m.IsBuilt
  · obtain ⟨call, hcalls, hpasses⟩ := h.built hbuilt
    rw [hcalls, ← hpasses.mem_keywords]
    simp [hbuilt]
  · rw [h.unbuilt hbuilt]
    simp [hbuilt]

/-- Do statements hold neither constructor calls nor cases? -/
def Bare (sts : List Statement) : Prop :=
  ∀ st ∈ sts, st.constructions = [] ∧ st.cases = []

theorem Bare.constructions (h : Bare sts) : sts.flatMap (·.constructions) = [] :=
  List.flatMap_eq_nil_iff.2 fun st hst => (h st hst).1

theorem Bare.cases (h : Bare sts) : sts.flatMap (·.cases) = [] :=
  List.flatMap_eq_nil_iff.2 fun st hst => (h st hst).2

theorem Bare.nil : Bare [] :=
  nofun

theorem Bare.append (h : Bare sts) (h' : Bare sts') : Bare (sts ++ sts') :=
  List.forall_mem_append.2 ⟨h, h'⟩

/-- Statements spell what they spell among bare ones. -/
theorem Spelled.surround {before after : List Statement} (h : Spelled site m sts) (hbefore : Bare before)
    (hafter : Bare after) : Spelled site m (before ++ sts ++ after) := by
  have hcalls : (before ++ sts ++ after).flatMap (·.constructions) = sts.flatMap (·.constructions) := by
    rw [List.flatMap_append, List.flatMap_append, hbefore.constructions, hafter.constructions,
      List.nil_append, List.append_nil]
  have hcases : (before ++ sts ++ after).flatMap (·.cases) = sts.flatMap (·.cases) := by
    rw [List.flatMap_append, List.flatMap_append, hbefore.cases, hafter.cases, List.nil_append,
      List.append_nil]
  exact ⟨hcalls ▸ h.built, hcalls ▸ h.unbuilt, hcases ▸ h.cases_eq⟩

/-! ### What is rendered -/

section Object

variable {m : ObjectMapping}

/-- A constructor call holds the values of the correspondences that it is made for. -/
theorem passes_of_construction {target : TypeDescriptor} {cs : List PropertyMapping} {call : Construction}
    (h : site.construction target cs = .ok call) : call.Passes site cs := by
  unfold Site.construction at h
  simp only [List.partition_eq_filter_filter] at h
  obtain ⟨keywords, hkeywords, h⟩ := Steps.bind_eq_ok.1 h
  obtain ⟨entries, hentries, h⟩ := Steps.bind_eq_ok.1 h
  cases h
  exact ⟨(Steps.mapM_eq_ok.1 hkeywords).imp fun c a => named_eq_ok.1,
    (Steps.mapM_eq_ok.1 hentries).imp fun c a => named_eq_ok.1⟩

theorem bare_assignments {cs : List PropertyMapping} (h : site.assignments cs = .ok sts) : Bare sts := by
  intro st hst
  obtain ⟨c, -, e, -, rfl⟩ := assignments_eq_ok h hst
  exact ⟨rfl, rfl⟩

theorem bare_beforeHook (m : ObjectMapping) : Bare (Site.beforeHook m) := by
  intro st hst
  obtain ⟨hook, -, rfl⟩ := List.mem_map.1 hst
  exact ⟨rfl, rfl⟩

theorem bare_afterHook (m : ObjectMapping) : Bare (Site.afterHook m) := by
  intro st hst
  obtain ⟨hook, -, rfl⟩ := List.mem_map.1 hst
  exact ⟨rfl, rfl⟩

theorem bare_dispatch (m : ObjectMapping) : Bare (site.dispatch m) := by
  intro st hst
  unfold Site.dispatch at hst
  split at hst
  · cases hst
  · rcases List.mem_pair.1 hst with rfl | rfl
    · exact ⟨rfl, rfl⟩
    · split <;> exact ⟨rfl, rfl⟩

/-- Bare statements spell the names of a mapping between objects that does not build its target. -/
theorem Bare.spelled (h : Bare sts) (hnot : ¬ (Mapping.object m).IsBuilt) : Spelled site (.object m) sts :=
  ⟨fun hbuilt => absurd hbuilt hnot, fun _ => h.constructions, h.cases⟩

/-- The statements that build a target call its constructor once, with all that it takes, unless a factory
does their work. -/
theorem spelled_build (habstract : ¬ (m.dispatch ≠ [] ∧ Site.isAbstract m = true))
    (h : site.build m = .ok sts) : Spelled site (.object m) sts := by
  have hend : Bare (Site.afterHook m ++ [.returnTarget]) :=
    (bare_afterHook m).append (List.forall_mem_singleton.2 ⟨rfl, rfl⟩)
  unfold Site.build at h
  split at h
  next factory hfactory =>
    obtain ⟨assigned, hassigned, h⟩ := Steps.bind_eq_ok.1 h
    cases h
    have hnot : ¬ (Mapping.object m).IsBuilt := fun hbuilt => by
      have hnone : m.directive.factory = none := hbuilt.1
      rw [hfactory] at hnone
      cases hnone
    refine Bare.spelled ?_ hnot
    rw [List.append_assoc]
    exact Bare.append (List.forall_mem_cons.2 ⟨⟨rfl, rfl⟩, bare_assignments hassigned⟩) hend
  next hfactory =>
    simp only [List.partition_eq_filter_filter] at h
    obtain ⟨call, hcall, h⟩ := Steps.bind_eq_ok.1 h
    have hpasses : call.Passes site (Mapping.object m).taken := passes_of_construction hcall
    have hbuilt : (Mapping.object m).IsBuilt := ⟨hfactory, habstract⟩
    split at h
    · cases h
      exact ⟨fun _ => ⟨call, rfl, hpasses⟩, fun hnot => absurd hbuilt hnot, rfl⟩
    · obtain ⟨assigned, hassigned, h⟩ := Steps.bind_eq_ok.1 h
      cases h
      have hcall : Spelled site (.object m) [.construct call] :=
        ⟨fun _ => ⟨call, rfl, hpasses⟩, fun hnot => absurd hbuilt hnot, rfl⟩
      rw [List.append_assoc]
      exact hcall.surround .nil ((bare_assignments hassigned).append hend)

/-- The first routine of a mapping spells its names. -/
theorem spelled_forward {isPublic : Bool} {r : Routine} (h : site.forward isPublic m = .ok r) :
    Spelled site (.object m) r.body := by
  have hhead : Bare ((if isPublic then
      [Site.pairWords "Map " m.source.name " to " m.target.name "."] else []) ++ site.dispatch m) := by
    refine Bare.append (fun st hst => ?_) (bare_dispatch m)
    split at hst
    · rw [List.mem_singleton.1 hst]
      exact ⟨rfl, rfl⟩
    · cases hst
  unfold Site.forward at h
  simp only at h
  split at h
  next habstract =>
    obtain ⟨rest, hrest, h⟩ := Steps.bind_eq_ok.1 h
    cases hrest
    cases h
    refine Bare.spelled (hhead.append .nil) fun hbuilt => hbuilt.2 ?_
    simpa using habstract
  next habstract =>
    obtain ⟨rest, hrest, h⟩ := Steps.bind_eq_ok.1 h
    cases h
    rw [map_eq_pure_bind] at hrest
    obtain ⟨sts, hbuild, hrest⟩ := Steps.bind_eq_ok.1 hrest
    cases hrest
    have hspelled : Spelled site (.object m) sts := spelled_build (by simpa using habstract) hbuild
    have hall := hspelled.surround (hhead.append (bare_beforeHook m)) .nil
    rwa [List.append_nil, List.append_assoc _ (Site.beforeHook m)] at hall

/-- The routines that update and project spell no names. -/
theorem bare_variants {updates : List Routine} (h : (m.updateRoutine.toList.mapM fun name =>
      site.update name m) = .ok updates) :
    Bare ((updates ++
      m.projectionRoutine.toList.map fun name => site.projection name m).flatMap (·.body)) := by
  intro st hst
  obtain ⟨r, hr, hst⟩ := List.mem_flatMap.1 hst
  rcases List.mem_append.1 hr with hr | hr
  · obtain ⟨name, -, hr⟩ := Steps.exists_of_mem_right (Steps.mapM_eq_ok.1 h) hr
    obtain ⟨assigned, hassigned, hr⟩ := Steps.bind_eq_ok.1 hr
    cases hr
    have hbare : Bare (Site.beforeHook m ++ assigned ++ Site.afterHook m) :=
      ((bare_beforeHook m).append (bare_assignments hassigned)).append (bare_afterHook m)
    rcases List.mem_cons.1 hst with rfl | hst
    · exact ⟨rfl, rfl⟩
    · exact hbare st hst
  · obtain ⟨name, -, rfl⟩ := List.mem_map.1 hr
    rcases List.mem_pair.1 hst with rfl | rfl <;> exact ⟨rfl, rfl⟩

end Object

/-- A case of enum values is made of the two values. -/
theorem eq_of_enumCase {value counterpart : String} {pair : String × String}
    (h : Site.enumCase value counterpart = .ok pair) : pair = (value, counterpart) := by
  unfold Site.enumCase at h
  split at h
  · cases h
  · split at h
    · cases h
    · exact (Except.ok.inj h).symm

theorem mapM_enumCase {pairs cases' : List (String × String)}
    (h : pairs.mapM (fun (value, counterpart) => Site.enumCase value counterpart) = .ok cases') :
    cases' = pairs :=
  List.forall₂_eq_eq_eq ▸ (Steps.mapM_eq_ok.1 h).flip.imp fun _ _ => eq_of_enumCase

/-- **The routines of a mapping spell its names.** -/
theorem spelled_routines {isPublic : Bool} {routines : List Routine}
    (h : site.routines isPublic m = .ok routines) : Spelled site m (routines.flatMap (·.body)) := by
  cases m with
  | object m =>
    obtain ⟨first, hfirst, h⟩ := Steps.bind_eq_ok.1 h
    have hspelled := spelled_forward hfirst
    cases isPublic with
    | false =>
      cases h
      rwa [List.flatMap_singleton]
    | true =>
      obtain ⟨updates, hupdates, h⟩ := Steps.bind_eq_ok.1 h
      cases h
      exact hspelled.surround .nil (bare_variants hupdates)
  | enum m =>
    obtain ⟨r, hr, h⟩ := Steps.bind_eq_ok.1 h
    cases h
    obtain ⟨cases', hcases, hr⟩ := Steps.bind_eq_ok.1 hr
    cases hr
    obtain rfl := mapM_enumCase hcases
    have hmatch : Spelled site (.enum m) [.matchValues m.source.qualifiedName m.target.qualifiedName
        (Mapping.enum m).matched] := ⟨fun hbuilt => hbuilt.elim, fun _ => rfl, List.append_nil _⟩
    have hdoc : Bare (if isPublic then
        [Site.pairWords "Map " m.source.name " values to " m.target.name "."] else []) := by
      intro st hst
      split at hst
      · rw [List.mem_singleton.1 hst]
        exact ⟨rfl, rfl⟩
      · cases hst
    have hall := hmatch.surround hdoc .nil
    rw [List.append_nil] at hall
    rwa [List.flatMap_singleton]

/-! ### Units -/

open Generation Program

/-- **Does a unit of some plans spell its names?** It is written from routines that do, one mapping after
another. All that these write as it is are identifiers, and they can all be used as names exactly if no
mapping writes a reserved word. -/
def SpelledUnit (config : Config) (plans : List Plan) (u : GeneratedUnit) : Prop :=
  ∃ rendered : List (List Routine),
    List.Forall₂ (fun (isPublic, m) routines => Site.routines ⟨config, u.ns⟩ isPublic m = .ok routines ∧
      Spelled ⟨config, u.ns⟩ m (routines.flatMap (·.body))) (unitMappings (sortPlans plans)) rendered ∧
    (∃ above names, u.source = above ++ Layout.render (rendered.flatten.flatMap (·.layout names))) ∧
    (∀ r ∈ rendered.flatten, ∀ name ∈ r.verbatim, Text.isIdentifier name = true) ∧
    ((∀ r ∈ rendered.flatten, ∀ name ∈ r.verbatim, Token.isName name = true) ↔
      ∀ m ∈ renderedMappings plans, ∀ name, m.Writes name → name ∉ Token.keywords)

variable {config : Config} {graph : Option TypeGraph} {plans : List Plan} {units : List GeneratedUnit}
  {u : GeneratedUnit}

/-- All names that a mapping writes as they are are identifiers, if its routines can be rendered. -/
theorem isIdentifier_of_writes {isPublic : Bool} {routines : List Routine}
    (h : site.routines isPublic m = .ok routines) (hname : m.Writes name) :
    Text.isIdentifier name = true := by
  rcases hname with ⟨-, c, -, -, hidentifier⟩ | ⟨values, hvalues, hname⟩
  · exact hidentifier
  · by_contra hnot
    refine not_misnames_of_ok h (?_ : m.Misnames name)
    cases m with
    | object m => cases hvalues
    | enum m =>
      obtain ⟨v, hv, hcounterpart⟩ := mem_cases.1 hvalues
      refine ⟨v, hv, values.2, hcounterpart.2, ?_, by simpa using hnot⟩
      rw [hcounterpart.1]
      exact hname

/-- The routines of a unit write as they are what its mappings write. -/
theorem exists_verbatim {ms : List (Bool × Mapping)} {rendered : List (List Routine)}
    (h : List.Forall₂ (fun (isPublic, m) routines => site.routines isPublic m = .ok routines) ms rendered) :
    (∃ r ∈ rendered.flatten, name ∈ r.verbatim) ↔ ∃ m ∈ ms.map (·.2), m.Writes name := by
  induction h with
  | nil => simp
  | @cons bm routines ms rendered hroutines _ ih =>
    obtain ⟨isPublic, m⟩ := bm
    have hfirst : (∃ r ∈ routines, name ∈ r.verbatim) ↔ m.Writes name := by
      rw [← (spelled_routines hroutines).mem_verbatim, List.flatMap_assoc, List.mem_flatMap]
      rfl
    rw [List.map_cons, List.exists_mem_cons_iff, ← ih, ← hfirst]
    simp only [List.flatten_cons, List.mem_append, or_and_right, exists_or]

theorem spelledUnit_of_mem (h : generateUnits config graph plans = .ok units) (hu : u ∈ units) :
    SpelledUnit config (plansOf plans u.ns) u := by
  obtain ⟨routines, hunit⟩ := unitOf_of_mem h hu
  obtain ⟨rendered, hrendered, heq⟩ := Steps.bind_eq_ok.1 hunit.routines_eq
  cases heq
  replace hrendered := Steps.mapM_eq_ok.1 hrendered
  have hwritten : ∀ name, (∃ r ∈ rendered.flatten, name ∈ r.verbatim) ↔
      ∃ m ∈ renderedMappings (plansOf plans u.ns), m.Writes name := fun _ => exists_verbatim hrendered
  have hidentifier : ∀ r ∈ rendered.flatten, ∀ name ∈ r.verbatim, Text.isIdentifier name = true := by
    intro r hr name hname
    obtain ⟨m, hm, hwrites⟩ := (hwritten name).1 ⟨r, hr, hname⟩
    obtain ⟨bm, hmem, rfl⟩ := List.mem_map.1 hm
    obtain ⟨rs, -, hrs⟩ := Steps.exists_of_mem_left hrendered hmem
    exact isIdentifier_of_writes hrs hwrites
  refine ⟨rendered, hrendered.imp fun bm rs hrs => ⟨hrs, spelled_routines hrs⟩, hunit.written,
    hidentifier, ?_⟩
  constructor
  · intro hnames m hm name hwrites
    obtain ⟨r, hr, hname⟩ := (hwritten name).2 ⟨m, hm, hwrites⟩
    have hisName := hnames r hr name hname
    rw [Token.isName, Bool.and_eq_true, decide_eq_true_iff] at hisName
    exact hisName.2
  · intro hnone r hr name hname
    obtain ⟨m, hm, hwrites⟩ := (hwritten name).1 ⟨r, hr, hname⟩
    rw [Token.isName, Bool.and_eq_true, decide_eq_true_iff]
    exact ⟨hidentifier r hr name hname, hnone m hm name hwrites⟩

/-- **What is written as it is.** Every unit spells its names: each keyword of a constructor that is an
identifier stands as an argument, each other one in the dictionary, once and with its own value, and the
values of enums stand as they are, all of them identifiers; and what stands as it is can be used as a name
exactly if it is no reserved word. If a mapping refers to an enum value by a name that is no identifier,
nothing is generated. -/
theorem verbatim_names (config : Config) (graph : Option TypeGraph) (plans : List Plan) :
    (∀ units, generateUnits config graph plans = .ok units →
      ∀ u ∈ units, SpelledUnit config (plansOf plans u.ns) u) ∧
    ∀ name, Misnamed plans name → ∃ e, generateUnits config graph plans = .error e := by
  refine ⟨fun units h u hu => spelledUnit_of_mem h hu, ?_⟩
  rintro name ⟨ns, m, hm, hmisnames⟩
  cases h : generateUnits config graph plans with
  | error e => exact ⟨e, rfl⟩
  | ok units =>
    obtain ⟨p, hp, -⟩ := exists_part hm
    obtain ⟨hmem, hhome⟩ := mem_plansOf.1 hp
    obtain ⟨u, -, hu⟩ := Steps.exists_of_mem_left (Steps.mapM_eq_ok.1 h)
      (mem_namespaces.2 ⟨p, hmem, hhome⟩)
    exact absurd hmisnames (not_misnames_of_generateUnit hu hm)

/-- A program with mails that are mapped to models, whose only field goes by a keyword of its own. -/
def mails (keyword : String) : Memory :=
  let text : Object := .cls (.library .text)
  { classes := [
      { module := "shop", path := "Mail", line := [.program 0, .library (.builtin "object")]
        isProtocol := some false, annotations := [("sender", text)]
        dataclass := some { fields := [("sender", { type := text })], frozen := false, nodup := by decide }
        declared := { directives := [{ source := "shop.Mail", target := "dto.Mail" }] }
        references := [.program 1] },
      { module := "dto", path := "Mail", line := [.program 1, .library .model, .library (.builtin "object")]
        isProtocol := some false, annotations := [("sender", text)]
        model := some { fields := [("sender", { type := text, aliasName := some keyword })]
                        isBuilt := true, nodup := List.nodup_singleton _ } }]
    modules := [
      { name := "shop", names := [("Mail", .cls (.program 0))] },
      { name := "dto", names := [("Mail", .cls (.program 1))] }]
    registry := [("shop", 0), ("dto", 1)]
    typeVariables := [] }

theorem verbatim_names_mails : ∃ g r, IsRead g ∧ (runPass {} g { capacity := 0 }).1 = .ok r ∧
    r.units.map (·.routines) = [["map_mail_to_mail"]] ∧
    ∀ u ∈ r.units, SpelledUnit {} (plansOf r.plans u.ns) u := by
  obtain ⟨g, hg, hpass⟩ : ∃ g, (Read.graphOf [.cls (.program 0)] { memory := mails "e-mail" }).1 = .ok g ∧
      ((runPass {} g { capacity := 0 }).1.toOption.any fun r =>
        decide (r.units.map (·.routines) = [["map_mail_to_mail"]])) = true :=
    Steps.exists_of_any (by decide +kernel)
  obtain ⟨r, hr, hunits⟩ := Steps.exists_of_any hpass
  exact ⟨g, r, ⟨_, _, rfl, hg⟩, hr, hunits, (verbatim_names {} (some g) r.plans).1 _ (units_eq (.new 0) hr)⟩

/-- A reserved word is an identifier, so the keyword is written as it is and cannot be read. -/
theorem not_isName_mails : ∃ g r, IsRead g ∧ (runPass {} g { capacity := 0 }).1 = .ok r ∧
    ∃ u ∈ r.units, ∃ routines, UnitOf {} u.ns (plansOf r.plans u.ns) u routines ∧
      ∃ routine ∈ routines, ∃ name ∈ routine.verbatim, Token.isName name = false := by
  obtain ⟨g, hg, hpass⟩ : ∃ g, (Read.graphOf [.cls (.program 0)] { memory := mails "from" }).1 = .ok g ∧
      ((runPass {} g { capacity := 0 }).1.toOption.any fun r =>
        decide (∃ u ∈ r.units, (unitRoutines ⟨{}, u.ns⟩ (plansOf r.plans u.ns)).toOption.any fun routines =>
          decide (∃ routine ∈ routines, ∃ name ∈ routine.verbatim, Token.isName name = false))) = true :=
    Steps.exists_of_any (by decide +kernel)
  obtain ⟨r, hr, u, hu, hroutines⟩ := Steps.exists_of_any hpass
  obtain ⟨routines, hunit⟩ := unitOf_of_mem (units_eq (.new 0) hr) hu
  obtain ⟨routines', hroutines', hname⟩ := Steps.exists_of_any hroutines
  obtain rfl : routines = routines' := Except.ok.inj (hunit.routines_eq.symm.trans hroutines')
  exact ⟨g, r, ⟨_, _, rfl, hg⟩, hr, u, hu, routines, hunit, hname⟩

end Emission

end Mapsmith
