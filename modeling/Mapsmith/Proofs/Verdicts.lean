import Mapsmith.Proofs.Participation
import Mapsmith.Proofs.Places
import Mapsmith.Proofs.PrivateMappings
import Mapsmith.Proofs.Validation

/-!
# Verdicts

What a plan has to fulfil is a list of conditions in order, the most fundamental first: those on the
declared direction, those on the way back, and those on one private mapping after the other. The check
goes through rules, some of which only warn, and may end in the middle of any of the parts. Still it
judges the conditions exactly (`Mapsmith.Validation.Judges`): it finds no error iff all of them hold, and
otherwise its errors all stand for the first one that fails, under the identifier of that one
(`Mapsmith.Validation.validate_exact`).

A projection shows what such a verdict is worth. It only selects: of the correspondences of a mapping it keeps
those that copy a value or look up an enum value, and the target is built from these alone. Whether that is
enough is judged by two conditions that know nothing of each other. One asks whether everything that the
constructor insists on has a correspondence, by the target's members, and lets mappings with a factory off;
the other asks whether a correspondence that is not kept is insisted on, by what was noted down when it was
made. Together they leave no gap (`Mapsmith.Validation.projection_of_plan`), except where the factory has no
name: it is a factory to the former and none to the latter.
-/

namespace Mapsmith

namespace Validation

/-! ### Conditions in order -/

/-- Something that a plan has to fulfil, and what is reported if it does not. -/
structure Condition where
  /-- The identifier of the reports. -/
  id : String
  /-- Is it fulfilled? -/
  holds : Prop

/-- **Do findings judge conditions**: no error if all hold, and else errors that stand for the first one
that fails? -/
structure Judges (conditions : List Condition) (found : List Problem) : Prop where
  exact : anyError found = false ↔ ∀ c ∈ conditions, c.holds
  first : anyError found = true → ∃ before c after, conditions = before ++ c :: after ∧
    (∀ b ∈ before, b.holds) ∧ ¬ c.holds ∧ ∀ q ∈ found, q.severity = .error → q.id = c.id

variable {found later : List Problem} {m : ObjectMapping} {index : DirectiveIndex}
  {conflict : Option String} {id : String} {P : Prop} {cs ds : List Condition}

theorem Reports.judges (h : Reports id P found) : Judges [⟨id, P⟩] found where
  exact := by simpa using h.anyError_eq_false_iff
  first hfound := by
    refine ⟨[], ⟨id, P⟩, [], rfl, nofun, fun hP => ?_, fun q hq _ => h.id_eq q hq⟩
    rw [h.anyError_eq_false_iff.2 hP] at hfound
    cases hfound

/-- Warnings judge nothing. -/
theorem judges_nil (h : anyError found = false) : Judges [] found where
  exact := by simpa using h
  first hfound := by
    rw [h] at hfound
    cases hfound

namespace Judges

/-- **Checks in order judge conditions in order.** -/
theorem andThen (h : Judges cs found) (h' : Judges ds later) :
    Judges (cs ++ ds) (Validation.andThen found later) where
  exact := by rw [anyError_andThen, h.exact, h'.exact, List.forall_mem_append]
  first herror := by
    cases hfound : anyError found with
    | true =>
      -- the check ends here, and what fails first is among the earlier conditions
      obtain ⟨before, c, after, rfl, hbefore, hc, hid⟩ := h.first hfound
      rw [andThen_of_anyError hfound]
      exact ⟨before, c, after ++ ds, List.append_assoc .., hbefore, hc, hid⟩
    | false =>
      have hlater : anyError later = true := by
        rw [← Bool.not_eq_false] at herror ⊢
        exact fun hlater => herror (anyError_andThen.2 ⟨hfound, hlater⟩)
      obtain ⟨before, c, after, rfl, hbefore, hc, hid⟩ := h'.first hlater
      refine ⟨cs ++ before, c, after, (List.append_assoc ..).symm,
        List.forall_mem_append.2 ⟨h.exact.1 hfound, hbefore⟩, hc, fun q hq hseverity => ?_⟩
      rcases mem_of_mem_andThen hq with hq | hq
      · exact absurd hseverity (anyError_eq_false.1 hfound q hq)
      · exact hid q hq hseverity

/-- A rule that reports a condition comes before the others. -/
theorem cons {rule : Rule} {rules : List Rule} (h : Reports id P (rule m))
    (h' : Judges cs (run m rules)) : Judges (⟨id, P⟩ :: cs) (run m (rule :: rules)) :=
  h.judges.andThen h'

theorem warning {rule : Rule} (h : anyError (rule m) = false) : Judges [] (run m [rule]) :=
  (judges_nil h).andThen (judges_nil rfl)

end Judges

/-! ### The conditions on a plan -/

namespace Condition

/-- Generated code can import two types. -/
def importable (source target : TypeDescriptor) : Condition :=
  ⟨"MAP001", source.extensible = true ∧ target.extensible = true⟩

/-- No other directive is in the way. -/
def free (conflict : Option String) : Condition :=
  ⟨"MAP006", conflict = none⟩

/-- No target member is fed by several source members. -/
def unambiguous (m : ObjectMapping) : Condition :=
  ⟨"MAP007", m.result.ambiguous = []⟩

/-- A factory builds the target, or whatever its constructor insists on is mapped. -/
def complete (m : ObjectMapping) : Condition :=
  ⟨"MAP004", m.directive.factory.isSome = true ∨ ∀ t ∈ m.target.members, t.init = true →
    t.required = true → ∃ c ∈ m.mappings, c.targetMember = t.name⟩

end Condition

open Condition

/-- The conditions on the members of a mapping, in order. -/
def memberConditions (m : ObjectMapping) : List Condition :=
  [unambiguous m, complete m]

/-- The conditions on the mapping that a directive asks for, in order. -/
def ownConditions (index : DirectiveIndex) (conflict : Option String) (m : ObjectMapping) :
    List Condition :=
  let d := m.directive
  [⟨"MAP002", m.target.kind.isObject = true⟩,
    importable m.source m.target,
    free conflict,
    ⟨"MAP003", m.result.danglingRenames = []⟩,
    ⟨"MAP005", ∀ name, d.beforeMap = some name ∨ d.afterMap = some name ∨ d.factory = some name →
      name ∈ m.source.callables⟩,
    ⟨"MAP012", ∀ pair ∈ d.derived, index.graph.isSubclass pair.source d.source = true ∧
      index.graph.isSubclass pair.target d.target = true⟩,
    ⟨"MAP008", ∀ pair ∈ d.derived, (index.directiveFor pair.source pair.target).isSome = true⟩,
    unambiguous m,
    complete m,
    ⟨"MAP011", d.update.isOn = true ∨ d.factory.isSome = true →
      ∀ c ∈ m.mappings, c.targetSettable = true⟩,
    ⟨"MAP009", d.projection.isOn = true → d.hooks = [] ∧ d.derived = [] ∧
      ∀ c ∈ m.mappings, c.targetRequired = true → c.targetMember ∉ m.projectionExcluded⟩]

/-- The conditions on a private mapping, in order; on one between enums there are none. -/
def privateConditions : Mapping → List Condition
  | .object m => importable m.source m.target :: memberConditions m
  | .enum _ => []

/-- **The conditions on a plan**, in order: on the declared direction, on the way back, and on one
private mapping after the other. -/
def conditions (index : DirectiveIndex) (conflict : Option String) : Plan → List Condition
  | .object m reverse helpers => ownConditions index conflict m ++
    (reverse.toList.flatMap memberConditions ++ helpers.flatMap privateConditions)
  | .enum m _ => [⟨"ENUM001", m.target.kind = .enum⟩, importable m.source m.target, free conflict]

/-! ### The check of a plan -/

theorem reports_importable {source target : TypeDescriptor} : Reports "MAP001"
    (source.extensible = true ∧ target.extensible = true) (notExtensible [source, target]) :=
  ⟨reports_notExtensible.eq_nil_iff.trans (by simp), reports_notExtensible.error,
    reports_notExtensible.id_eq⟩

theorem judges_structuralRules : Judges (memberConditions m) (run m structuralRules) :=
  .cons reports_noFanIn (.cons reports_requiredMembersMapped (.warning anyError_conversions))

theorem judges_rules :
    Judges (ownConditions index conflict m) (run m (rules index conflict)) :=
  .cons reports_targetIsObject <| .cons reports_importable <| .cons reports_noConflict <|
  .cons reports_renamesExist <| .cons reports_hooksExist <| .cons reports_derivedTypesDerive <|
  .cons reports_derivedTypesMapped <| .cons reports_noFanIn <| .cons reports_requiredMembersMapped <|
  .cons reports_membersAssignable <| .cons reports_projectionSupported <|
  .warning anyError_conversions

theorem judges_checkHelper {h : Mapping} : Judges (privateConditions h) (checkHelper h) := by
  cases h with
  | object m => exact .cons reports_importable judges_structuralRules
  | enum m => exact judges_nil anyError_unmappedValues

theorem judges_checkHelpers {helpers : List Mapping} :
    Judges (helpers.flatMap privateConditions) (checkHelpers helpers) := by
  induction helpers with
  | nil => exact judges_nil rfl
  | cons h hs ih =>
    rw [List.flatMap_cons]
    exact judges_checkHelper.andThen ih

theorem judges_checkEnum {e : EnumMapping} {reverse : Option EnumMapping} :
    Judges (conditions index conflict (.enum e reverse)) (checkEnum e reverse conflict) := by
  have hvalues : anyError (unmappedValues e ++ reverse.toList.flatMap unmappedValues) = false := by
    rw [anyError_append, anyError_unmappedValues, Bool.false_or]
    cases reverse with
    | none => rfl
    | some r => rw [Option.toList_some, List.flatMap_singleton, anyError_unmappedValues]
  rw [checkEnum_eq]
  exact reports_targetIsEnum.judges.andThen (reports_importable.judges.andThen
    (reports_enumConflict.judges.andThen (judges_nil hvalues)))

/-- **The check of a plan judges its conditions.** -/
theorem judges_check (plan : Plan) :
    Judges (conditions index conflict plan) (check index conflict plan) := by
  cases plan with
  | enum m reverse => exact judges_checkEnum
  | object m reverse helpers =>
    refine judges_rules.andThen (Judges.andThen ?_ judges_checkHelpers)
    cases reverse with
    | none => exact judges_nil rfl
    | some r =>
      rw [Option.toList_some, List.flatMap_singleton, List.flatMap_singleton]
      exact judges_structuralRules

/-- **The verdict on a plan is exact, and of one kind.** There is no error among the reports on a plan iff
all its conditions hold. If there is one, then some condition is the first that fails, and all errors
stand for it, under its identifier. All reports, warnings included, are made where the plan stands. -/
theorem validate_exact (index : DirectiveIndex) (plan : Plan) (conflict : Option String) :
    (Diagnostic.anyError (validate index plan conflict) = false ↔
      ∀ c ∈ conditions index conflict plan, c.holds) ∧
    (Diagnostic.anyError (validate index plan conflict) = true →
      ∃ before c after, conditions index conflict plan = before ++ c :: after ∧
        (∀ b ∈ before, b.holds) ∧ ¬ c.holds ∧
          ∀ x ∈ validate index plan conflict, x.isError = true → x.problem.id = c.id) ∧
    ∀ x ∈ validate index plan conflict, x.location = plan.location := by
  have hjudges : Judges (conditions index conflict plan) (check index conflict plan) := judges_check plan
  rw [anyError_validate]
  refine ⟨hjudges.exact, fun herror => ?_, fun x hx => ?_⟩
  · obtain ⟨before, c, after, hsplit, hbefore, hc, hid⟩ := hjudges.first herror
    refine ⟨before, c, after, hsplit, hbefore, hc, fun x hx hxerror => ?_⟩
    obtain ⟨q, hq, rfl⟩ := List.mem_map.1 hx
    exact hid q hq (beq_iff_eq.1 hxerror)
  · obtain ⟨q, -, rfl⟩ := List.mem_map.1 hx
    rfl

/-- A request for a projection whose factory has a name without letters. -/
def namelessFactory : Directive :=
  { source := "shop.User", target := "dto.UserDto", projection := ⟨.bool true⟩, factory := some "" }

/-- Users, with a method of that name and nothing else. -/
def namelessUser : TypeDescriptor :=
  { name := "User", module := "shop", kind := .cls, callables := [""] }

/-- Their counterparts, which need a name. -/
def namedUser : TypeDescriptor :=
  { name := "UserDto", module := "dto", kind := .cls
    members := [{ name := "name", type := .mk "str" .scalar [] none false, required := true }] }

/-- The planning of users. -/
def namelessUsers : Planning :=
  { index := {
      directives := [namelessFactory]
      graph := { types := [namelessUser, namedUser], nodup := by decide +kernel } }
    groups := [] }

/-- **A factory without a name is a factory to one rule and none to another**: it builds the target, for
which nothing need be mapped then, and it does not stand in the way of a projection. -/
theorem not_exact_of_namelessFactory : ∃ m, namelessUsers.plan namelessFactory = .ok (.object m none []) ∧
    Diagnostic.anyError (validate namelessUsers.index (.object m none []) none) = false ∧
    m.directive.projection.isOn = true ∧ m.directive.factory.isSome = true ∧
    ∃ t ∈ m.target.members, t.init = true ∧ t.required = true ∧
      ∀ c ∈ m.mappings, c.targetMember ≠ t.name :=
  ⟨namelessUsers.forwardMapping namelessFactory namelessUser namedUser [], by decide +kernel,
    by decide +kernel, by decide +kernel, by decide +kernel, by decide +kernel⟩

end Validation

namespace Planning

/-! ### The declared direction -/

variable {p : Planning} {home : String} {inverse : Bool} {d : Directive} {routine : RoutineRef}
  {source target : TypeDescriptor} {m : ObjectMapping} {reverse : Option ObjectMapping}
  {helpers : List Mapping}

theorem sublist_mappingWith :
    ((p.mappingWith home inverse d routine source target).mappings.map (·.targetMember)).Sublist
      (target.members.map (·.name)) := by
  have hmappings : ∀ r : MatchResult, (if inverse = true then { r with danglingRenames := [] } else r).mappings =
      r.mappings := by
    intro r
    split <;> rfl
  unfold mappingWith ObjectMapping.mappings
  split
  · exact List.nil_sublist _
  · dsimp only
    rw [hmappings]
    exact Matching.sublist_mappings Matching.findings_settled

/-- **The declared direction of a plan**, whatever directive is planned. -/
theorem forwardMapping_of_plan (h : p.plan d = .ok (.object m reverse helpers)) :
    ∃ source target entries, p.graph.get? d.source = some source ∧ p.graph.get? d.target = some target ∧
      p.dispatch d d.derived = .ok entries ∧ m = p.forwardMapping d source target entries := by
  obtain ⟨source, hs, h⟩ := Steps.bind_eq_ok.1 h
  obtain ⟨target, ht, h⟩ := Steps.bind_eq_ok.1 h
  rw [getType_eq_ok] at hs ht
  refine ⟨source, target, ?_⟩
  split at h
  · -- an enum is planned as an enum
    obtain ⟨forward, -, h⟩ := Steps.bind_eq_ok.1 h
    split at h
    · obtain ⟨back, -, h⟩ := Steps.bind_eq_ok.1 h
      cases h
    · cases h
  · obtain ⟨⟨⟨forward, back⟩, table⟩, hrun, h⟩ := Steps.bind_eq_ok.1 h
    obtain ⟨entries, hentries, h⟩ := Steps.bind_eq_ok.1 h
    obtain ⟨forward, _, hforward, hrun⟩ := Steps.run_bind_eq_ok.1 hrun
    obtain ⟨⟨source', target', hs', ht', rfl⟩, -⟩ := objectMapping_anywhere _ hforward
    obtain rfl := Option.some.inj (hs.symm.trans hs')
    obtain rfl := Option.some.inj (ht.symm.trans ht')
    refine ⟨entries, hs, ht, hentries, ?_⟩
    split at hrun
    · obtain ⟨back, _, -, hrun⟩ := Steps.run_bind_eq_ok.1 hrun
      cases hrun
      cases h
      rfl
    · cases hrun
      cases h
      rfl

/-- What a projection keeps and what it leaves out. -/
theorem projection_forwardMapping (p : Planning) (source target : TypeDescriptor)
    (entries : List DispatchEntry) (hon : d.projection.isOn = true) :
    (p.forwardMapping d source target entries).projection =
        (p.forwardMapping d source target entries).mappings.filter (·.projectable) ∧
      (p.forwardMapping d source target entries).projectionExcluded =
        ((p.forwardMapping d source target entries).mappings.filter fun c => !c.projectable).map
          (·.targetMember) := by
  simp only [forwardMapping, if_pos hon]
  exact ⟨rfl, rfl⟩

/-- A correspondence says of a member of the target whether it is required. -/
theorem required_mappingWith {c : PropertyMapping}
    (hc : c ∈ (p.mappingWith home inverse d routine source target).mappings) :
    ∃ t ∈ target.members, c.targetMember = t.name ∧ c.targetKeyword = t.keyword ∧
      c.viaConstructor = t.init ∧ c.targetRequired = t.required := by
  obtain ⟨-, t, b, hout, rfl, -⟩ := mem_mappings_mappingWith.1 hc
  exact ⟨t, Matching.mem_of_mem_outcomes hout, rfl, rfl, rfl, rfl⟩

end Planning

namespace Validation

open Planning

/-! ### Projections that build their target -/

/-- **Does the projection of a mapping build its target?** -/
structure Projects (m : ObjectMapping) : Prop where
  /-- It keeps what is copied or looked up. -/
  kept : m.projection = m.mappings.filter fun c =>
    c.conversion.kind = .direct || c.conversion.kind = .enum
  /-- It keeps the order of the target's members. -/
  ordered : (m.projection.map (·.targetMember)).Sublist (m.target.members.map (·.name))
  /-- It has whatever the constructor insists on, and passes it to the constructor. -/
  complete : m.directive.factory ≠ some "" → ∀ t ∈ m.target.members, t.init = true →
    t.required = true → ∃ c ∈ m.projection, c.targetMember = t.name ∧ c.targetKeyword = t.keyword ∧
      c.viaConstructor = true
  /-- No method with a name is called. -/
  unhooked : ∀ name, m.directive.beforeMap = some name ∨ m.directive.afterMap = some name ∨
    m.directive.factory = some name → name = ""
  /-- There is nothing to dispatch over. -/
  single : m.directive.derived = [] ∧ m.dispatch = []
  /-- What is left out goes to members that are not required. -/
  spared : ∀ c ∈ m.mappings, c ∉ m.projection → c.targetRequired = false ∧
    ∃ t ∈ m.target.members, c.targetMember = t.name ∧ t.required = false

variable {p : Planning} {d : Directive} {m : ObjectMapping} {reverse : Option ObjectMapping}
  {helpers : List Mapping} {index : DirectiveIndex} {conflict : Option String} {name : String}

theorem mem_hooks : name ∈ d.hooks ↔
    (d.beforeMap = some name ∨ d.afterMap = some name ∨ d.factory = some name) ∧ name ≠ "" := by
  simp only [Directive.hooks, List.mem_filter, List.mem_filterMap, id_eq, exists_eq_right, List.mem_cons,
    List.not_mem_nil, or_false, decide_eq_true_eq, eq_comm (a := some name)]

/-- Where no method has a name to be called by, every name given for one is empty. -/
theorem eq_empty_of_hooks (h : d.hooks = [])
    (hname : d.beforeMap = some name ∨ d.afterMap = some name ∨ d.factory = some name) : name = "" := by
  by_contra hne
  have hmem := mem_hooks.2 ⟨hname, hne⟩
  rw [h] at hmem
  cases hmem

section Forward

variable {source target : TypeDescriptor} {entries : List DispatchEntry}

/-- Where no correspondence that is left out was noted down as required, the required ones are kept. -/
theorem mem_projection_of_required {c : PropertyMapping} (hon : d.projection.isOn = true)
    (hcovered : ∀ c ∈ (p.forwardMapping d source target entries).mappings, c.targetRequired = true →
      c.targetMember ∉ (p.forwardMapping d source target entries).projectionExcluded)
    (hc : c ∈ (p.forwardMapping d source target entries).mappings) (hrequired : c.targetRequired = true) :
    c ∈ (p.forwardMapping d source target entries).projection := by
  obtain ⟨hkept, hexcluded⟩ := projection_forwardMapping p source target entries hon
  rw [hkept, List.mem_filter]
  refine ⟨hc, ?_⟩
  by_contra hnot
  refine hcovered c hc hrequired ?_
  rw [hexcluded]
  exact List.mem_map_of_mem (List.mem_filter.2 ⟨hc, by simpa using hnot⟩)

/-- The two rules together: what is required has a correspondence, and that one is kept. -/
theorem exists_mem_projection {t : Member} (hnodup : (target.members.map (·.name)).Nodup)
    (hkeeps : ∀ c ∈ (p.forwardMapping d source target entries).mappings, c.targetRequired = true →
      c ∈ (p.forwardMapping d source target entries).projection)
    (hmapped : ∃ c ∈ (p.forwardMapping d source target entries).mappings, c.targetMember = t.name)
    (ht : t ∈ target.members) (hinit : t.init = true) (hrequired : t.required = true) :
    ∃ c ∈ (p.forwardMapping d source target entries).projection, c.targetMember = t.name ∧
      c.targetKeyword = t.keyword ∧ c.viaConstructor = true := by
  obtain ⟨c, hc, hname⟩ := hmapped
  obtain ⟨t', ht', hmember, hkeyword, hvia, hsame⟩ := required_mappingWith hc
  obtain rfl : t' = t := List.inj_on_of_nodup_map hnodup ht' ht (hmember.symm.trans hname)
  exact ⟨c, hkeeps c hc (hsame.trans hrequired), hname, hkeyword, hvia.trans hinit⟩

end Forward

/-- **A projection that passes the check builds its target.** Whatever directive is planned, in a graph in
which the members of every type have names of their own, if it asks for a projection and no error is found
in its plan, then the projection consists of the correspondences that copy or look up a value, in the order
of the target's members. Unless the directive names a factory without a name, everything that the
constructor insists on is among them, and goes to the constructor. No method with a name is called, there is
no dispatch, and only members that are not required are left out. -/
theorem projection_of_plan (hg : p.graph.NamesMembers) (hon : d.projection.isOn = true)
    (h : p.plan d = .ok (.object m reverse helpers))
    (hfree : Diagnostic.anyError (validate index (.object m reverse helpers) conflict) = false) :
    m.directive = d ∧ Projects m := by
  rw [anyError_validate] at hfree
  obtain ⟨hrules, -⟩ := anyError_andThen.1 hfree
  have hrequired := reports_requiredMembersMapped.anyError_eq_false_iff.1
    (anyError_run.1 hrules requiredMembersMapped (by simp [rules]))
  have hsupported := reports_projectionSupported.anyError_eq_false_iff.1
    (anyError_run.1 hrules projectionSupported (by simp [rules]))
  obtain ⟨source, target, entries, -, ht, hentries, rfl⟩ := forwardMapping_of_plan h
  have hdirective : (p.forwardMapping d source target entries).directive = d := directive_mappingWith
  have htarget : (p.forwardMapping d source target entries).target = target := target_mappingWith
  rw [hdirective] at hrequired hsupported
  rw [htarget] at hrequired
  obtain ⟨hhooks, hderived, hcovered⟩ := hsupported hon
  have hkeeps : ∀ c ∈ (p.forwardMapping d source target entries).mappings, c.targetRequired = true →
      c ∈ (p.forwardMapping d source target entries).projection :=
    fun c hc => mem_projection_of_required hon hcovered hc
  have hkept := (projection_forwardMapping p source target entries hon).1
  refine ⟨hdirective, hkept, ?_, ?_, ?_, ⟨?_, ?_⟩, ?_⟩
  · rw [hkept, htarget]
    exact (List.filter_sublist.map _).trans sublist_mappingWith
  · rw [hdirective, htarget]
    intro hfactory t htmem hinit htrequired
    have hnone : ¬ d.factory.isSome = true := by
      intro hsome
      obtain ⟨name, hname⟩ := Option.isSome_iff_exists.1 hsome
      obtain rfl := eq_empty_of_hooks hhooks (.inr (.inr hname))
      exact hfactory hname
    have hmapped := hrequired.resolve_left hnone t htmem hinit htrequired
    exact exists_mem_projection (hg target (TypeGraph.get?_eq_some.1 ht).1) hkeeps hmapped htmem hinit
      htrequired
  · rw [hdirective]
    exact fun name => eq_empty_of_hooks hhooks
  · rwa [hdirective]
  · rw [hderived] at hentries
    cases hentries
    rfl
  · intro c hc hout
    have hspared : c.targetRequired = false := Bool.eq_false_iff.2 fun h => hout (hkeeps c hc h)
    obtain ⟨t, htmem, hmember, -, -, hsame⟩ := required_mappingWith hc
    rw [htarget]
    exact ⟨hspared, t, htmem, hmember, hsame.symm.trans hspared⟩

/-- A request for a projection of accounts. -/
def accountProjection : Directive :=
  { source := "shop.Account", target := "dto.Account", projection := ⟨.bool true⟩ }

/-- A request to map their states. -/
def stateMapping : Directive :=
  { source := "shop.State", target := "dto.State" }

/-- Accounts with a number, a state, and the year since which they are kept. -/
def account : TypeDescriptor :=
  { name := "Account", module := "shop", kind := .cls
    members := [
      { name := "since", type := .mk "int" .scalar [] none false },
      { name := "state", type := .mk "shop.State" .enum [] none false },
      { name := "number", type := .mk "int" .scalar [] none false }] }

/-- What they are mapped to: the year is a text there, and not required. -/
def accountDto : TypeDescriptor :=
  { name := "Account", module := "dto", kind := .cls
    members := [
      { name := "number", type := .mk "int" .scalar [] none false, required := true },
      { name := "since", type := .mk "str" .scalar [] none false },
      { name := "state", type := .mk "dto.State" .enum [] none false, required := true }] }

/-- The planning of accounts and their states. -/
def accounts : Planning :=
  { index := {
      directives := [accountProjection, stateMapping]
      graph := {
        types := [account, accountDto,
          { name := "State", module := "shop", kind := .enum, enumValues := ["open"] },
          { name := "State", module := "dto", kind := .enum, enumValues := ["OPEN"] }]
        nodup := by decide +kernel } }
    groups := [] }

/-- The projection of accounts keeps the number and the state, and leaves out the year. -/
theorem projection_of_plan_accounts : ∃ m, accounts.plan accountProjection = .ok (.object m none []) ∧
    m.projection.map (·.targetMember) = ["number", "state"] ∧ m.projectionExcluded = ["since"] ∧
    Projects m := by
  have hplan : accounts.plan accountProjection =
      .ok (.object (accounts.forwardMapping accountProjection account accountDto []) none []) := by
    decide +kernel
  have hfree : Diagnostic.anyError (validate accounts.index
      (.object (accounts.forwardMapping accountProjection account accountDto []) none []) none) = false := by
    decide +kernel
  exact ⟨_, hplan, by decide +kernel, by decide +kernel,
    (projection_of_plan (by decide +kernel) (by decide +kernel) hplan hfree).2⟩

/-- **With a factory without a name a projection lacks what the constructor insists on**, and nothing is
wrong with the plan. -/
theorem not_projection_of_namelessFactory : ∃ m,
    namelessUsers.plan namelessFactory = .ok (.object m none []) ∧ namelessUsers.graph.NamesMembers ∧
    namelessFactory.projection.isOn = true ∧
    Diagnostic.anyError (validate namelessUsers.index (.object m none []) none) = false ∧
    m.directive.factory.isSome = true ∧ ∃ t ∈ m.target.members, t.init = true ∧ t.required = true ∧
      ∀ c ∈ m.projection, c.targetMember ≠ t.name :=
  ⟨namelessUsers.forwardMapping namelessFactory namelessUser namedUser [], by decide +kernel,
    by decide +kernel, by decide +kernel, by decide +kernel, by decide +kernel, by decide +kernel⟩

end Validation

end Mapsmith
