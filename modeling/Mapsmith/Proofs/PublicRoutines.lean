import Mapsmith.Proofs.Accounting
import Mapsmith.Proofs.Links

/-!
# Public routines are the promised ones

The index promises public routines from directives alone, before anything is planned: the routine of
the declared direction, that of the way back, and the variants. A plan has them by the kinds of its
types, and the unit of its home offers what is rendered of it. Both agree, whatever the cache of the
pass has been used for, with one exception: the way back of a two-way directive from an interface is
promised (`Mapsmith.Generation.Lacks`), but an interface cannot be built, so there is no such
routine. All other promises are kept, and nothing is offered that was not promised
(`Mapsmith.Generation.offers`).
-/

namespace Mapsmith

/-! ### The directive behind its own pairs -/

namespace DirectiveIndex

variable {index : DirectiveIndex} {d : Directive} {i : Nat}

/-- A directive that shares its pair with no other stands behind the routine of its pair. -/
theorem answers_ahead (hd : d ∈ index.directives)
    (hsingle : index.directives.countP (·.pair == d.pair) ≤ 1) :
    index.Answers d.source d.target d := by
  obtain ⟨e, he⟩ := Option.isSome_iff_exists.1 (isSome_directiveFor hd)
  obtain ⟨hmem, hsource, htarget⟩ := directiveFor_eq_some he
  obtain rfl : e = d := by
    refine eq_of_countP_le hsingle hmem hd ?_ (beq_self_eq_true _)
    rw [Directive.pair, Directive.pair, hsource, htarget]
    exact beq_self_eq_true _
  exact .inl he

/-- If it is a two-way directive and none is declared for the way back, it stands behind the routine
of that, too. -/
theorem answers_back (hd : d ∈ index.directives)
    (hsingle : index.directives.countP (·.pair == d.pair) ≤ 1) (hon : d.bidirectional.isOn = true)
    (hnone : index.directiveFor d.target d.source = none) :
    index.Answers d.target d.source d := by
  obtain ⟨e, he⟩ := Option.isSome_iff_exists.1 (isSome_reverseFor hd hon)
  obtain ⟨hmem, -, hsource, htarget⟩ := reverseFor_eq_some he
  obtain rfl : e = d := by
    refine eq_of_countP_le hsingle hmem hd ?_ (beq_self_eq_true _)
    rw [Directive.pair, Directive.pair, hsource, htarget]
    exact beq_self_eq_true _
  exact .inr ⟨hnone, he⟩

/-- No directive is declared for the way back of a two-way directive without a conflict. -/
theorem directiveFor_back (hd : index.directives[i]? = some d) (hon : d.bidirectional.isOn = true)
    (hfree : index.conflict i = none) : index.directiveFor d.target d.source = none := by
  rw [Option.eq_none_iff_forall_ne_some]
  intro e he
  obtain ⟨hmem, hsource, htarget⟩ := directiveFor_eq_some he
  obtain ⟨j, hj⟩ := List.mem_iff_getElem?.1 hmem
  -- going through the two-way directives comes to this one, and then to the other
  have hclash := ((conflict_eq_none hd).1 hfree).2.1
  have hhere := List.findSome?_eq_none_iff.1 hclash (i, d) (mem_numbered.2 hd)
  simp only [hon, ↓reduceIte] at hhere
  have hpair : e.pair = (d.target, d.source) := by rw [Directive.pair, hsource, htarget]
  have hthere := List.findSome?_eq_none_iff.1 hhere (j, e)
    (List.mem_filter.2 ⟨mem_numbered.2 hj, by simp [hpair]⟩)
  split at hthere
  · cases hthere
  · cases hthere

end DirectiveIndex

/-! ### What a plan contributes to its unit -/

namespace Emission

variable {config : Config} {ns : String} {plans : List Plan} {p : Plan} {u : GeneratedUnit}
  {all : List Routine}

/-- The routines that are generated for the public mappings of a plan. -/
def publicRoutines (site : Site) (p : Plan) : Except EmissionError (List Routine) := do
  return (← p.publicMappings.mapM (site.routines true)).flatten

/-- What a plan contributes to a unit stands in it in one piece. -/
theorem exists_publicRoutines (h : UnitOf config ns plans u all) (hp : p ∈ plans) :
    ∃ routines, publicRoutines ⟨config, ns⟩ p = .ok routines ∧
      routines.map (·.name) = p.publicMappings.flatMap (definedNames true) ∧
      routines <:+: all ∧ routines.map (·.name) <:+: u.routines := by
  have hsorted : [p] <:+: sortPlans plans := by
    have hmem : p ∈ sortPlans plans := Text.mem_sortByKey.2 hp
    obtain ⟨before, after, heq⟩ := List.append_of_mem hmem
    exact ⟨before, after, by rw [heq, List.append_assoc]; rfl⟩
  have hmappings : p.publicMappings.map (fun m => (true, m)) <:+: unitMappings (sortPlans plans) := by
    have hpart := hsorted.flatMap fun p => p.publicMappings.map fun m => (true, m)
    rw [List.flatMap_singleton] at hpart
    exact hpart.trans (List.prefix_append _ _).isInfix
  obtain ⟨rss, hrss, hall⟩ := Steps.bind_eq_ok.1 h.routines_eq
  obtain ⟨part, hpart, hinfix⟩ := Steps.exists_infix_of_mapM hrss hmappings
  have hnames := (mapM_routines hpart).1
  rw [List.flatMap_map] at hnames
  rw [List.mapM_map] at hpart
  refine ⟨part.flatten, Steps.bind_eq_ok.2 ⟨part, hpart, rfl⟩, hnames, ?_, ?_⟩
  · rw [← Steps.pure_eq_ok.1 hall]
    exact hinfix.flatten
  · rw [hnames, h.offered]
    have hoffered := hsorted.flatMap fun p => p.publicMappings.flatMap (definedNames true)
    rwa [List.flatMap_singleton] at hoffered

end Emission

namespace Generation

open Emission Planning

variable {s : Setting} {d : Directive} {plan : Plan} {conflict : Option String}

/-! ### Promised and made -/

/-- Does a directive promise a way back that no plan can have? -/
def Lacks (s : Setting) (d : Directive) : Prop :=
  d.bidirectional.isOn = true ∧ IsInterface s.index.graph d.source

/-- The name of a directive's way back. -/
def wayBack (s : Setting) (d : Directive) : String :=
  RoutineName.forward (s.index.simpleName d.target) (s.index.simpleName d.source)

/-- What the index promises: the routine of the declared direction, that of the way back, and the
variants. -/
theorem routineNames_eq {source target : TypeDescriptor}
    (hplan : PlanOf s.planning d source target plan) :
    s.index.routineNames d = plan.forward.routine.name ::
      ((if d.bidirectional.isOn then [wayBack s d] else []) ++ variantNames d source target) := by
  have hsource : s.index.simpleName d.source = source.name := simpleName_of_get? hplan.hs
  have htarget : s.index.simpleName d.target = target.name := simpleName_of_get? hplan.ht
  have hforward : plan.forward.routine.name = RoutineName.forward source.name target.name := by
    rw [hplan.ahead, ← hsource, ← htarget]
    rfl
  have hget : s.index.graph.get? d.source = some source := hplan.hs
  rw [hforward, DirectiveIndex.routineNames, wayBack, variantNames, DirectiveIndex.mapsEnum, hget,
    hsource, htarget, Option.any_some]
  by_cases hkind : source.kind = .enum
  · simp [hkind]
  · simp [hkind]

/-- A plan without errors has a way back exactly if its directive asks for one and one can be made. -/
theorem Passed.returns_iff (h : Passed s conflict d plan) {source target : TypeDescriptor}
    (hplan : PlanOf s.planning d source target plan) :
    returns d source target = true ↔ d.bidirectional.isOn = true ∧ ¬ Lacks s d := by
  have htarget := h.target_kind hplan
  have hlacks : Lacks s d ↔ d.bidirectional.isOn = true ∧ source.kind = .interface := by
    refine and_congr_right fun _ => ⟨?_, fun hkind => ⟨source, hplan.hs, hkind⟩⟩
    rintro ⟨t, ht, hkind⟩
    obtain rfl : source = t := Option.some.inj (hplan.hs.symm.trans ht)
    exact hkind
  rw [hlacks, returns, goesBack]
  cases hs : source.kind with
  | enum => simpa [hs] using fun _ => htarget
  | interface => simp [TypeKind.isObject]
  | cls | record | struct => simpa [hs, TypeKind.isObject] using fun _ => htarget

theorem Passed.isSome_reverse_iff (h : Passed s conflict d plan) :
    plan.reverse?.isSome = true ↔ d.bidirectional.isOn = true ∧ ¬ Lacks s d := by
  obtain ⟨source, target, hplan⟩ := h.planOf
  rw [hplan.isSome_back]
  exact h.returns_iff hplan

/-- The way back of a plan, if it has one, goes by the promised name. -/
theorem names_reverse {source target : TypeDescriptor}
    (hplan : PlanOf s.planning d source target plan) :
    plan.reverse?.toList.map (·.routine.name) =
      if plan.reverse?.isSome then [wayBack s d] else [] := by
  cases hback : plan.reverse? with
  | none => rfl
  | some m =>
    have hname : m.routine.name = wayBack s d :=
      congrArg RoutineRef.name (hplan.back m hback).1
    simp [hname]

/-- A plan without errors makes exactly what is promised, unless a way back is lacking. -/
theorem Passed.perm_routineNames (h : Passed s conflict d plan) (hkept : ¬ Lacks s d) :
    (plan.publicMappings.flatMap (definedNames true)).Perm (s.index.routineNames d) := by
  obtain ⟨source, target, hplan⟩ := h.planOf
  have hback : plan.reverse?.isSome = d.bidirectional.isOn := by
    rw [Bool.eq_iff_iff, h.isSome_reverse_iff]
    exact and_iff_left hkept
  rw [names_publicMappings hplan, names_reverse hplan, routineNames_eq hplan, hback]
  exact List.perm_append_comm.cons _

/-- If it is lacking, the plan makes everything else. -/
theorem Passed.perm_of_lacks (h : Passed s conflict d plan) (hlacks : Lacks s d) :
    (wayBack s d :: plan.publicMappings.flatMap (definedNames true)).Perm
      (s.index.routineNames d) := by
  obtain ⟨source, target, hplan⟩ := h.planOf
  have hback : plan.reverse?.isSome = false := by
    rw [Bool.eq_false_iff, ne_eq, h.isSome_reverse_iff]
    exact fun hcan => hcan.2 hlacks
  rw [names_publicMappings hplan, names_reverse hplan, routineNames_eq hplan, hback,
    if_pos hlacks.1, if_neg Bool.false_ne_true, List.append_nil]
  exact .swap _ _ _

/-! ### Promises and units -/

/-- Is the routine that the index has for a pair of types provided by a plan and offered by a unit? -/
def Answered (s : Setting) (plan : Plan) (u : GeneratedUnit) (source target : String) : Prop :=
  ∃ r, s.index.routineFor source target = some r ∧ plan.Provides r ∧ r.home = u.ns ∧
    r.name ∈ u.routines

/-- Does a unit offer for a plan what the index promises for its directive, but for some names? -/
structure Offers (s : Setting) (plan : Plan) (u : GeneratedUnit) (missing : List String) : Prop where
  /-- It is the unit of the directive's home. -/
  ns_eq : u.ns = s.index.home plan.directive
  /-- It offers what is rendered of the plan, which are the promised names and the missing ones
  away. -/
  exact : ∃ routines, publicRoutines ⟨s.config, u.ns⟩ plan = .ok routines ∧
    routines.map (·.name) <:+: u.routines ∧
    (missing ++ routines.map (·.name)).Perm (s.index.routineNames plan.directive)
  /-- The routine for the pair of the directive is there. -/
  ahead : Answered s plan u plan.directive.source plan.directive.target

/-- **Does a unit keep the promises of a plan's directive?** -/
structure KeepsPromises (s : Setting) (plan : Plan) (u : GeneratedUnit) : Prop extends
    Offers s plan u [] where
  /-- There is a way back exactly if the directive asks for one. -/
  back : plan.reverse?.isSome = true ↔ plan.directive.bidirectional.isOn = true
  /-- The routine for the way back is there. -/
  behind : plan.directive.bidirectional.isOn = true →
    Answered s plan u plan.directive.target plan.directive.source

/-- What a plan provides is offered by the unit of its home. -/
theorem answered_of_provides {u : GeneratedUnit} {source target : String}
    (hns : u.ns = s.index.home d)
    (hoffered : ∀ name ∈ plan.publicMappings.flatMap (definedNames true), name ∈ u.routines)
    (hanswers : s.index.Answers source target d)
    (hprovides : plan.Provides (s.index.routineOf source target d)) :
    Answered s plan u source target := by
  have hfor := DirectiveIndex.routineFor_eq_some.2 ⟨d, hanswers, rfl⟩
  have hmapping := hprovides
  obtain ⟨m, hm, hname, -⟩ := hmapping
  refine ⟨_, hfor, hprovides, hns.symm, hoffered _ (List.mem_flatMap.2 ⟨m, hm, ?_⟩)⟩
  rw [← hname]
  exact routine_name_mem_definedNames

/-- An accepted plan is that of the directive behind the routine of its pair. -/
theorem Accepted.answers_ahead (h : Accepted s d plan) : s.index.Answers d.source d.target d :=
  DirectiveIndex.answers_ahead h.mem h.countP_le

/-- So it is for the way back of a two-way directive. -/
theorem Accepted.answers_back (h : Accepted s d plan) (hon : d.bidirectional.isOn = true) :
    s.index.Answers d.target d.source d := by
  -- the conflict was none over the same directives, be it over other types
  obtain ⟨s', j, hd', hkey, hfree⟩ := h.told
  have hnone := DirectiveIndex.directiveFor_back hd' hon hfree.symm
  have hdirectives : s.index.directives = s'.index.directives := (alike_of_key hkey).directives
  rw [← DirectiveIndex.directiveFor_congr hdirectives] at hnone
  exact DirectiveIndex.answers_back h.mem h.countP_le hon hnone

/-- The unit that an accepted plan goes to keeps the promises of its directive, or all but the way
back that is lacking. -/
theorem Accepted.keepsPromises_or_offers (h : Accepted s d plan) {plans : List Plan} {u : GeneratedUnit}
    {all : List Routine} (hunit : UnitOf s.config u.ns plans u all) (hmem : plan ∈ plans)
    (hns : u.ns = plan.home) :
    (KeepsPromises s plan u ↔ ¬ Lacks s d) ∧
      (Lacks s d → Offers s plan u [wayBack s d] ∧ plan.reverse? = none) := by
  obtain ⟨source, target, hplan⟩ := h.planOf
  obtain ⟨routines, hroutines, hnames, -, hinfix⟩ := exists_publicRoutines hunit hmem
  rw [h.passed.home_eq] at hns
  have hoffered : ∀ name ∈ plan.publicMappings.flatMap (definedNames true), name ∈ u.routines :=
    fun name hname => hinfix.subset (hnames ▸ hname)
  have hahead : Answered s plan u d.source d.target :=
    answered_of_provides hns hoffered h.answers_ahead (provides_ahead hplan)
  rw [← hplan.directive_eq] at hahead hns
  refine ⟨⟨fun hkeeps hlacks => ?_, fun hkept => ?_⟩, fun hlacks => ⟨⟨hns, ?_, hahead⟩, ?_⟩⟩
  · have hback := hkeeps.back.2 (hplan.directive_eq ▸ hlacks.1)
    exact (h.passed.isSome_reverse_iff.1 hback).2 hlacks
  · refine ⟨⟨hns, ⟨routines, hroutines, hinfix, ?_⟩, hahead⟩, ?_, ?_⟩
    · rw [List.nil_append, hnames, hplan.directive_eq]
      exact h.passed.perm_routineNames hkept
    · rw [h.passed.isSome_reverse_iff, hplan.directive_eq]
      exact and_iff_left hkept
    · rw [hplan.directive_eq] at hns ⊢
      intro hon
      have hreturns := (h.passed.returns_iff hplan).2 ⟨hon, hkept⟩
      exact answered_of_provides hns hoffered (h.answers_back hon)
        (provides_back hplan hreturns)
  · refine ⟨routines, hroutines, hinfix, ?_⟩
    rw [List.singleton_append, hnames, hplan.directive_eq]
    exact h.passed.perm_of_lacks hlacks
  · rw [← Option.not_isSome_iff_eq_none, h.passed.isSome_reverse_iff]
    exact fun hcan => hcan.2 hlacks

/-- **Public routines are the promised ones.** Every plan of a result has a directive of the pass, and
the unit of that directive's home offers for it exactly the routines that the index promises, in one
piece, with the way back if the directive asks for one and with what the index names for the
directive's pairs; unless the directive lacks a way back that is promised. In that case the unit
offers everything else that is promised, and nothing more. -/
theorem offers {config : Config} {g : TypeGraph} {cache : Cache} {r : PassResult}
    (hcache : Used cache) (h : (runPass config g cache).1 = .ok r) :
    ∀ plan ∈ r.plans, plan.directive ∈ (settingOf config g).index.directives ∧ ∃ u ∈ r.units,
      (KeepsPromises (settingOf config g) plan u ↔
        ¬ Lacks (settingOf config g) plan.directive) ∧
      (Lacks (settingOf config g) plan.directive →
        Offers (settingOf config g) plan u [wayBack (settingOf config g) plan.directive] ∧
          plan.reverse? = none) := by
  intro plan hp
  have haccepted := accepted_of_mem hcache h hp
  have hunits := units_eq hcache h
  obtain ⟨u, hu, hns⟩ := exists_unit hunits hp
  obtain ⟨routines, hunit⟩ := unitOf_of_mem hunits hu
  have hmem : plan ∈ plansOf r.plans u.ns := mem_plansOf.2 ⟨hp, hns.symm⟩
  exact ⟨haccepted.mem, u, hu, haccepted.keepsPromises_or_offers hunit hmem hns⟩

/-- Accounts and logins, mapped both ways and with all variants. -/
def accounts (kind : TypeKind) : TypeGraph :=
  { types := [
      { name := "Account", module := "api", kind
        directives := [{ source := "api.Account", target := "store.Login"
                         bidirectional := ⟨.bool true⟩, update := ⟨.bool true⟩
                         projection := ⟨.bool true⟩ }] },
      { name := "Login", module := "store", kind := .cls }]
    nodup := by cases kind <;> decide +kernel }

theorem offers_accounts : Used { capacity := 4 } ∧
    ∃ r, (runPass {} (accounts .record) { capacity := 4 }).1 = .ok r ∧
      ∃ plan ∈ r.plans, plan.reverse?.isSome = true ∧
        ∃ u ∈ r.units, KeepsPromises (settingOf {} (accounts .record)) plan u := by
  obtain ⟨r, h, plan, hp, hback⟩ :
      ∃ r, (runPass {} (accounts .record) { capacity := 4 }).1 = .ok r ∧
        ∃ plan ∈ r.plans, plan.reverse?.isSome = true :=
    Steps.exists_of_any (by decide +kernel)
  obtain ⟨-, u, hu, hkeeps, hlacks⟩ := offers (.new 4) h plan hp
  refine ⟨.new 4, r, h, plan, hp, hback, u, hu, hkeeps.2 fun hlack => ?_⟩
  have hnone := (hlacks hlack).2
  rw [hnone] at hback
  cases hback

/-- With an interface in place of the record the way back is lacking. -/
theorem not_keepsPromises_accounts :
    ∃ r, generate {} (accounts .interface) = .ok r ∧
      ¬ ∀ plan ∈ r.plans, ∃ u ∈ r.units,
        KeepsPromises (settingOf {} (accounts .interface)) plan u := by
  obtain ⟨r, h, plan, hp, hon, hback⟩ :
      ∃ r, generate {} (accounts .interface) = .ok r ∧
        ∃ plan ∈ r.plans, plan.directive.bidirectional.isOn = true ∧ plan.reverse?.isSome = false :=
    Steps.exists_of_any (by decide +kernel)
  refine ⟨r, h, fun hall => ?_⟩
  obtain ⟨u, -, hkeeps⟩ := hall plan hp
  rw [hkeeps.back.2 hon] at hback
  cases hback

end Generation

end Mapsmith
