import Mapsmith.Validation
import Mapsmith.Proofs.PlanParts

/-!
# Checks

A rule asks one thing of a mapping, and whatever it reports is an error under one identifier
(`Mapsmith.Validation.Reports`), but for the rules about members and values without a counterpart, which
only warn. A check goes rule by rule and ends at the first error, so it finds no error exactly if no rule
finds one. What a plan without errors therefore promises: no directive is in its way, its target is of
the right shape, and its derived pairs have directives of their own.

The check of a plan reads the index in two places: it asks which of the derived pairs have
directives, and which derived types inherit from the types of the directive. What else it depends on
is the conflict it is told of. It reports that conflict alone, if it comes to it at all: a target of
the wrong shape and types that cannot be imported are found first
(`Mapsmith.Plan.FacesConflict`).
-/

namespace Mapsmith

namespace Validation

variable {found later : List Problem} {m : ObjectMapping} {index : DirectiveIndex}
  {conflict : Option String} {id : String} {P Q : Prop}

/-! ### Errors of a list -/

theorem anyError_append : anyError (found ++ later) = (anyError found || anyError later) :=
  List.any_append

theorem anyError_eq_false : anyError found = false ↔ ∀ q ∈ found, q.severity ≠ .error := by
  simp [anyError]

/-- A rule all of whose findings are errors finds none iff it finds nothing. -/
theorem eq_nil_of_anyError_eq_false (h : anyError found = false)
    (herrors : ∀ q ∈ found, q.severity = .error) : found = [] :=
  List.eq_nil_iff_forall_not_mem.2 fun q hq => anyError_eq_false.1 h q hq (herrors q hq)

/-! ### Conditions and their reports -/

/-- **Do findings report that a condition fails**: errors under one identifier, and none if it holds? -/
structure Reports (id : String) (P : Prop) (found : List Problem) : Prop where
  eq_nil_iff : found = [] ↔ P
  error : ∀ q ∈ found, q.severity = .error
  id_eq : ∀ q ∈ found, q.id = id

namespace Reports

theorem anyError_eq_false_iff (h : Reports id P found) : anyError found = false ↔ P := by
  refine Iff.trans ⟨fun hfree => ?_, fun hnil => ?_⟩ h.eq_nil_iff
  · exact eq_nil_of_anyError_eq_false hfree h.error
  · rw [hnil]
    rfl

/-- One report for each of several things in the way. -/
theorem map {α : Type} {f : α → Problem} {xs : List α} (hnil : xs = [] ↔ P)
    (herror : ∀ x, (f x).severity = .error) (hid : ∀ x, (f x).id = id) : Reports id P (xs.map f) where
  eq_nil_iff := by rw [List.map_eq_nil_iff, hnil]
  error := by
    intro q hq
    obtain ⟨x, -, rfl⟩ := List.mem_map.1 hq
    exact herror x
  id_eq := by
    intro q hq
    obtain ⟨x, -, rfl⟩ := List.mem_map.1 hq
    exact hid x

/-- One report for each of those that do not pass a test. -/
theorem map_filter {α : Type} {f : α → Problem} {xs : List α} {test : α → Bool}
    (hall : (∀ x ∈ xs, test x = false) ↔ P) (herror : ∀ x, (f x).severity = .error)
    (hid : ∀ x, (f x).id = id) : Reports id P ((xs.filter test).map f) := by
  refine map ?_ herror hid
  rw [List.filter_eq_nil_iff, ← hall]
  simp only [Bool.not_eq_true]

/-- Nothing is reported where something else spares the mapping the condition. -/
theorem spared {c : Prop} [Decidable c] (h : Reports id Q found) (hP : c ∨ Q ↔ P) :
    Reports id P (if c then [] else found) := by
  by_cases hc : c
  · rw [if_pos hc]
    exact ⟨⟨fun _ => hP.1 (.inl hc), fun _ => rfl⟩, fun _ hq => absurd hq List.not_mem_nil,
      fun _ hq => absurd hq List.not_mem_nil⟩
  · rw [if_neg hc]
    exact ⟨h.eq_nil_iff.trans ((or_iff_right hc).symm.trans hP), h.error, h.id_eq⟩

/-- One report if a test fails. -/
theorem ite {c : Prop} [Decidable c] {q : Problem} (herror : q.severity = .error) (hid : q.id = id) :
    Reports id c (if c then [] else [q]) := by
  have hq : Reports id False [q] :=
    ⟨⟨nofun, False.elim⟩, fun _ h => List.mem_singleton.1 h ▸ herror,
      fun _ h => List.mem_singleton.1 h ▸ hid⟩
  exact hq.spared (or_iff_left not_false)

theorem append (h : Reports id P found) (h' : Reports id Q later) :
    Reports id (P ∧ Q) (found ++ later) where
  eq_nil_iff := by rw [List.append_eq_nil_iff, h.eq_nil_iff, h'.eq_nil_iff]
  error q hq := (List.mem_append.1 hq).elim (h.error q) (h'.error q)
  id_eq q hq := (List.mem_append.1 hq).elim (h.id_eq q) (h'.id_eq q)

theorem flatMap {α : Type} {f : α → List Problem} {holds : α → Prop} {xs : List α}
    (h : ∀ x ∈ xs, Reports id (holds x) (f x)) :
    Reports id (∀ x ∈ xs, holds x) (xs.flatMap f) where
  eq_nil_iff := by
    rw [List.flatMap_eq_nil_iff]
    exact forall₂_congr fun x hx => (h x hx).eq_nil_iff
  error q hq := by
    obtain ⟨x, hx, hq⟩ := List.mem_flatMap.1 hq
    exact (h x hx).error q hq
  id_eq q hq := by
    obtain ⟨x, hx, hq⟩ := List.mem_flatMap.1 hq
    exact (h x hx).id_eq q hq

end Reports

/-! ### The rules -/

theorem reports_targetIsObject :
    Reports "MAP002" (m.target.kind.isObject = true) (targetIsObject m) :=
  .ite rfl rfl

theorem reports_notExtensible {types : List TypeDescriptor} :
    Reports "MAP001" (∀ t ∈ types, t.extensible = true) (notExtensible types) :=
  .map_filter (by simp) (fun _ => rfl) fun _ => rfl

theorem reports_noConflict : Reports "MAP006" (conflict = none) (noConflict conflict m) :=
  .map Option.toList_eq_nil_iff (fun _ => rfl) fun _ => rfl

theorem reports_renamesExist :
    Reports "MAP003" (m.result.danglingRenames = []) (renamesExist m) :=
  .map Iff.rfl (fun _ => rfl) fun _ => rfl

/-- The methods that a directive names. -/
theorem exists_mem_hookRoles {d : Directive} {name : String} :
    (∃ role, (role, name) ∈ hookRoles d) ↔
      d.beforeMap = some name ∨ d.afterMap = some name ∨ d.factory = some name := by
  simp [hookRoles, or_and_right, exists_or]

theorem reports_hooksExist : Reports "MAP005"
    (∀ name, m.directive.beforeMap = some name ∨ m.directive.afterMap = some name ∨
      m.directive.factory = some name → name ∈ m.source.callables) (hooksExist m) := by
  refine .map_filter ?_ (fun _ => rfl) fun _ => rfl
  simp only [← exists_mem_hookRoles, Prod.forall, decide_eq_false_iff_not, not_not]
  exact ⟨fun h name ⟨role, hmem⟩ => h role name hmem, fun h role name hmem => h name ⟨role, hmem⟩⟩

theorem reports_derivedTypesDerive {g : TypeGraph} : Reports "MAP012"
    (∀ pair ∈ m.directive.derived, g.isSubclass pair.source m.directive.source = true ∧
      g.isSubclass pair.target m.directive.target = true) (derivedTypesDerive g m) :=
  .flatMap fun _ _ => .append (.ite rfl rfl) (.ite rfl rfl)

theorem reports_derivedTypesMapped : Reports "MAP008"
    (∀ pair ∈ m.directive.derived, (index.directiveFor pair.source pair.target).isSome = true)
    (derivedTypesMapped index m) :=
  .map_filter (by simp [Option.isSome_iff_ne_none]) (fun _ => rfl) fun _ => rfl

theorem reports_noFanIn : Reports "MAP007" (m.result.ambiguous = []) (noFanIn m) :=
  .map Iff.rfl (fun _ => rfl) fun _ => rfl

theorem reports_requiredMembersMapped : Reports "MAP004"
    (m.directive.factory.isSome = true ∨ ∀ t ∈ m.target.members, t.init = true → t.required = true →
      ∃ c ∈ m.mappings, c.targetMember = t.name) (requiredMembersMapped m) := by
  refine .spared (.map_filter Iff.rfl (fun t => ?_) fun t => ?_) (or_congr_right ?_)
  · split <;> rfl
  · split <;> rfl
  · simp

theorem reports_membersAssignable : Reports "MAP011"
    (m.directive.update.isOn = true ∨ m.directive.factory.isSome = true →
      ∀ c ∈ m.mappings, c.targetSettable = true) (membersAssignable m) := by
  have hreasons : (assignmentReasons m.directive).isEmpty = true ↔
      ¬ (m.directive.update.isOn = true ∨ m.directive.factory.isSome = true) := by
    cases hupdate : m.directive.update.isOn <;> cases hfactory : m.directive.factory <;>
      simp [assignmentReasons, hupdate, hfactory]
  refine .spared (.map_filter Iff.rfl (fun _ => rfl) fun _ => rfl) ?_
  rw [hreasons, ← imp_iff_not_or]
  simp only [Bool.not_eq_false']

theorem reports_projectionSupported : Reports "MAP009"
    (m.directive.projection.isOn = true → m.directive.hooks = [] ∧ m.directive.derived = [] ∧
      ∀ c ∈ m.mappings, c.targetRequired = true → c.targetMember ∉ m.projectionExcluded)
    (projectionSupported m) := by
  have huncovered : uncovered m = [] ↔
      ∀ c ∈ m.mappings, c.targetRequired = true → c.targetMember ∉ m.projectionExcluded := by
    simp only [uncovered, List.filter_eq_nil_iff, decide_eq_true_eq, List.mem_map, List.mem_filter]
    exact ⟨fun h c hc hrequired hmem => h _ hmem ⟨c, ⟨hc, hrequired⟩, rfl⟩,
      fun h _ hmem ⟨c, ⟨hc, hrequired⟩, hname⟩ => h c hc hrequired (hname ▸ hmem)⟩
  refine .spared (.map Iff.rfl (fun _ => rfl) fun _ => rfl) ?_
  rw [Bool.not_eq_true', ← Bool.not_eq_true, ← imp_iff_not_or, ← huncovered]
  refine imp_congr_right fun _ => ?_
  simp only [List.append_eq_nil_iff, ite_eq_left_iff, List.cons_ne_nil, imp_false, not_not,
    List.isEmpty_iff, and_assoc]

/-! ### Warnings -/

theorem anyError_conversions : anyError (conversions m) = false := by
  rw [anyError_eq_false]
  intro q hq
  obtain ⟨u, -, rfl⟩ := List.mem_map.1 hq
  exact nofun

theorem anyError_unmappedValues {e : EnumMapping} : anyError (unmappedValues e) = false := by
  rw [anyError_eq_false]
  intro q hq
  obtain ⟨value, -, rfl⟩ := List.mem_map.1 hq
  exact nofun

/-! ### Rules in a row -/

theorem anyError_run {rules : List Rule} :
    anyError (run m rules) = false ↔ ∀ rule ∈ rules, anyError (rule m) = false := by
  induction rules with
  | nil => simp [run, anyError]
  | cons rule rules ih =>
    rw [List.forall_mem_cons, ← ih]
    simp only [run]
    split
    next herror =>
      rw [herror]
      simp
    next hfree =>
      rw [anyError_append, Bool.or_eq_false_iff]

theorem anyError_andThen :
    anyError (andThen found later) = false ↔ anyError found = false ∧ anyError later = false := by
  unfold andThen
  split
  next herror =>
    rw [herror]
    simp
  next hfree => rw [anyError_append, Bool.or_eq_false_iff]

theorem mem_of_mem_andThen {q : Problem} (h : q ∈ andThen found later) : q ∈ found ∨ q ∈ later := by
  unfold andThen at h
  split at h
  · exact .inl h
  · exact List.mem_append.1 h

theorem anyError_validate {plan : Plan} :
    Diagnostic.anyError (validate index plan conflict) = anyError (check index conflict plan) := by
  unfold validate Diagnostic.anyError anyError
  rw [List.any_map]
  rfl

/-! ### What a plan without errors promises -/

/-- A mapping that a directive asks for and that has no errors, as far as its types, its directive
and its derived pairs go. -/
structure Sound (index : DirectiveIndex) (conflict : Option String) (m : ObjectMapping) : Prop where
  target : m.target.kind.isObject = true
  free : conflict = none
  derived : ∀ pair ∈ m.directive.derived, (index.directiveFor pair.source pair.target).isSome = true
  projection : m.directive.projection.isOn = true → m.directive.derived = []

theorem sound_of_run (h : anyError (run m (rules index conflict)) = false) :
    Sound index conflict m := by
  rw [anyError_run] at h
  refine ⟨?_, ?_, ?_, fun hon => ?_⟩
  · exact reports_targetIsObject.anyError_eq_false_iff.1 (h _ (by simp [rules]))
  · exact reports_noConflict.anyError_eq_false_iff.1 (h _ (by simp [rules]))
  · exact reports_derivedTypesMapped.anyError_eq_false_iff.1 (h _ (by simp [rules]))
  · exact (reports_projectionSupported.anyError_eq_false_iff.1 (h _ (by simp [rules])) hon).2.1

theorem sound_of_check {reverse : Option ObjectMapping} {helpers : List Mapping}
    (h : anyError (check index conflict (.object m reverse helpers)) = false) :
    Sound index conflict m :=
  sound_of_run (anyError_andThen.1 h).1

theorem enum_of_check {forward : EnumMapping} {reverse : Option EnumMapping}
    (h : anyError (check index conflict (.enum forward reverse)) = false) :
    forward.target.kind = .enum ∧ conflict = none := by
  simp only [check, checkEnum] at h
  split at h
  · cases h
  next hkind =>
    refine ⟨not_not.1 hkind, ?_⟩
    split at h
    next q qs hext =>
      have hq : q ∈ notExtensible [forward.source, forward.target] := hext ▸ List.mem_cons_self
      obtain ⟨t, -, rfl⟩ := List.mem_map.1 hq
      cases h
    · cases h
    · rfl

/-- **A conflict is an error**, whatever the plan. -/
theorem conflict_eq_none_of_check {plan : Plan} (h : anyError (check index conflict plan) = false) :
    conflict = none := by
  cases plan with
  | object m reverse helpers => exact (sound_of_check h).free
  | enum forward reverse => exact (enum_of_check h).2

end Validation

/-! ### What a check depends on -/

/-- Does the check of a plan come to the conflict of its directive? It does if the target is of the
right shape, and both types can be imported. -/
def Plan.FacesConflict : Plan → Prop
  | .object m _ _ => m.target.kind.isObject = true ∧ Validation.notExtensible [m.source, m.target] = []
  | .enum m _ => m.target.kind = .enum ∧ Validation.notExtensible [m.source, m.target] = []

namespace Validation

variable {index index' : DirectiveIndex} {plan : Plan} {m : ObjectMapping} {q : Problem}
  {conflict conflict' : Option String} {found later : List Problem} {rs rs' : List Rule}

/-! ### The index -/

theorem derivedTypesDerive_congr (hget : ∀ pair ∈ m.directive.derived,
    index.graph.get? pair.source = index'.graph.get? pair.source ∧
      index.graph.get? pair.target = index'.graph.get? pair.target) :
    derivedTypesDerive index.graph m = derivedTypesDerive index'.graph m := by
  refine List.flatMap_congr fun pair hpair => ?_
  obtain ⟨hs, ht⟩ := hget pair hpair
  rw [Matching.isSubclass_congr hs, Matching.isSubclass_congr ht]

theorem derivedTypesMapped_congr (hds : index.directives = index'.directives) :
    derivedTypesMapped index m = derivedTypesMapped index' m := by
  have hdeclared : ∀ s t, index.directiveFor s t = index'.directiveFor s t := fun s t =>
    DirectiveIndex.directiveFor_congr hds
  unfold derivedTypesMapped
  simp only [hdeclared]

/-- **The check of a plan** depends on the directives of the index, and on its graph through the
derived pairs of the plan's directive. -/
theorem check_congr (hds : index.directives = index'.directives)
    (hget : ∀ pair ∈ plan.directive.derived,
      index.graph.get? pair.source = index'.graph.get? pair.source ∧
        index.graph.get? pair.target = index'.graph.get? pair.target) :
    check index conflict plan = check index' conflict plan := by
  cases plan with
  | enum m reverse => rfl
  | object m reverse helpers =>
    simp only [check, rules, run, derivedTypesDerive_congr hget, derivedTypesMapped_congr hds]

/-! ### The conflict -/

/-- The rules that come after the question of conflicts. -/
def laterRules (index : DirectiveIndex) : List Rule :=
  [renamesExist, hooksExist, derivedTypesDerive index.graph, derivedTypesMapped index, noFanIn,
    requiredMembersMapped, membersAssignable, projectionSupported, conversions]

theorem rules_eq : rules index conflict =
    targetIsObject :: typesExtensible :: noConflict conflict :: laterRules index := rfl

theorem run_cons {rule : Rule} {rules : List Rule} :
    run m (rule :: rules) = andThen (rule m) (run m rules) := rfl

theorem andThen_of_anyError (h : anyError found = true) : andThen found later = found :=
  if_pos h

theorem nil_andThen : andThen [] later = later := rfl

theorem anyError_notExtensible {types : List TypeDescriptor} (h : notExtensible types ≠ []) :
    anyError (notExtensible types) = true := by
  rw [← Bool.not_eq_false, reports_notExtensible.anyError_eq_false_iff,
    ← reports_notExtensible.eq_nil_iff]
  exact h

/-- The report on a mapping from an enum whose target is none. -/
def targetIsEnum (e : EnumMapping) : List Problem :=
  if e.target.kind = .enum then []
  else [.targetNotEnum e.target.name e.source.name e.target.kind.word]

/-- The report on a mapping from an enum that another directive is in the way of. -/
def enumConflict (conflict : Option String) (e : EnumMapping) : List Problem :=
  conflict.toList.map fun detail => .duplicateDirective e.source.name e.target.name detail

theorem reports_targetIsEnum {e : EnumMapping} :
    Reports "ENUM001" (e.target.kind = .enum) (targetIsEnum e) :=
  .ite rfl rfl

theorem reports_enumConflict {e : EnumMapping} :
    Reports "MAP006" (conflict = none) (enumConflict conflict e) :=
  .map Option.toList_eq_nil_iff (fun _ => rfl) fun _ => rfl

/-- The check between enums goes rule by rule as well. -/
theorem checkEnum_eq {e : EnumMapping} {reverse : Option EnumMapping} : checkEnum e reverse conflict =
    andThen (targetIsEnum e) (andThen (notExtensible [e.source, e.target])
      (andThen (enumConflict conflict e)
        (unmappedValues e ++ reverse.toList.flatMap unmappedValues))) := by
  unfold checkEnum targetIsEnum enumConflict
  by_cases hkind : e.target.kind = .enum
  · rw [if_neg (not_not.2 hkind), if_pos hkind, nil_andThen]
    cases hext : notExtensible [e.source, e.target] with
    | nil => cases conflict <;> rfl
    | cons q qs =>
      have herror := anyError_notExtensible (hext ▸ List.cons_ne_nil q qs)
      rw [hext] at herror
      exact (andThen_of_anyError herror).symm
  · rw [if_pos hkind, if_neg hkind]
    rfl

/-- A plan whose check comes to the conflict is reported for it, and for nothing else. -/
theorem check_of_facesConflict (h : plan.FacesConflict) (detail : String) :
    check index (some detail) plan =
      [.duplicateDirective plan.source.name plan.target.name detail] := by
  cases plan with
  | enum m reverse =>
    obtain ⟨hkind, hext⟩ := h
    simp only [check, checkEnum, hext, hkind]
    rfl
  | object m reverse helpers =>
    obtain ⟨hkind, hext⟩ := h
    have htarget : targetIsObject m = [] := if_pos hkind
    have hrun : run m (rules index (some detail)) =
        [.duplicateDirective m.source.name m.target.name detail] := by
      rw [rules_eq, run_cons, htarget, nil_andThen, run_cons, typesExtensible, hext, nil_andThen,
        run_cons]
      rfl
    rw [check, hrun]
    rfl

/-- A plan whose check does not come to the conflict is checked alike for all conflicts. -/
theorem check_of_not_facesConflict (h : ¬ plan.FacesConflict) :
    check index conflict plan = check index conflict' plan := by
  cases plan with
  | enum m reverse =>
    simp only [check, checkEnum]
    split
    · rfl
    next hkind =>
      cases hext : notExtensible [m.source, m.target] with
      | nil => exact absurd ⟨not_not.1 hkind, hext⟩ h
      | cons q qs => rfl
  | object m reverse helpers =>
    by_cases hkind : m.target.kind.isObject = true
    · have hext : notExtensible [m.source, m.target] ≠ [] := fun hext => h ⟨hkind, hext⟩
      have hrun : ∀ c, run m (rules index c) =
          andThen (targetIsObject m) (notExtensible [m.source, m.target]) := fun c => by
        rw [rules_eq, run_cons, run_cons, typesExtensible,
          andThen_of_anyError (anyError_notExtensible hext)]
      rw [check, check, hrun, hrun]
    · have herror : anyError (targetIsObject m) = true := by
        rw [targetIsObject, if_neg hkind]
        rfl
      have hrun : ∀ c, run m (rules index c) = targetIsObject m := fun c => by
        rw [rules_eq, run_cons, andThen_of_anyError herror]
      rw [check, check, hrun, hrun]

/-- Is a problem other than the report of a conflict? -/
def NoConflict (q : Problem) : Prop :=
  ∀ source target detail, q ≠ .duplicateDirective source target detail

theorem noConflict_andThen (hfound : ∀ q ∈ found, NoConflict q) (hlater : ∀ q ∈ later, NoConflict q) :
    ∀ q ∈ andThen found later, NoConflict q :=
  fun q hq => (mem_of_mem_andThen hq).elim (hfound q) (hlater q)

theorem noConflict_run {rules : List Rule} (h : ∀ rule ∈ rules, ∀ q ∈ rule m, NoConflict q) :
    ∀ q ∈ run m rules, NoConflict q := by
  induction rules with
  | nil => exact fun q hq => absurd hq List.not_mem_nil
  | cons rule rules ih =>
    rw [List.forall_mem_cons] at h
    exact noConflict_andThen h.1 (ih h.2)

theorem noConflict_map {α : Type} {f : α → Problem} {xs : List α} (h : ∀ x, NoConflict (f x)) :
    ∀ q ∈ xs.map f, NoConflict q := by
  intro q hq
  obtain ⟨x, -, rfl⟩ := List.mem_map.1 hq
  exact h x

theorem noConflict_nil : ∀ q ∈ ([] : List Problem), NoConflict q :=
  fun _ hq => absurd hq List.not_mem_nil

/-- What reports another condition under an identifier of its own reports no conflict. -/
theorem Reports.noConflict {id : String} {P : Prop} (h : Reports id P found) (hid : id ≠ "MAP006") :
    ∀ q ∈ found, NoConflict q := by
  rintro q hq source target detail rfl
  exact hid (h.id_eq _ hq).symm

theorem noConflict_structuralRules : ∀ rule ∈ structuralRules, ∀ q ∈ rule m, NoConflict q := by
  simp only [structuralRules, List.forall_mem_cons]
  exact ⟨reports_noFanIn.noConflict (by decide), reports_requiredMembersMapped.noConflict (by decide),
    noConflict_map fun _ => nofun, fun _ h => absurd h List.not_mem_nil⟩

/-- No rule but the one about conflicts reports one. -/
theorem noConflict_rules : ∀ rule ∈ rules index none, ∀ q ∈ rule m, NoConflict q := by
  rw [rules_eq, laterRules]
  simp only [List.forall_mem_cons]
  exact ⟨reports_targetIsObject.noConflict (by decide), reports_notExtensible.noConflict (by decide),
    noConflict_nil, reports_renamesExist.noConflict (by decide),
    reports_hooksExist.noConflict (by decide), reports_derivedTypesDerive.noConflict (by decide),
    reports_derivedTypesMapped.noConflict (by decide), reports_noFanIn.noConflict (by decide),
    reports_requiredMembersMapped.noConflict (by decide),
    reports_membersAssignable.noConflict (by decide),
    reports_projectionSupported.noConflict (by decide), noConflict_map fun _ => nofun,
    fun _ h => absurd h List.not_mem_nil⟩

theorem noConflict_unmappedValues {e : EnumMapping} : ∀ q ∈ unmappedValues e, NoConflict q :=
  noConflict_map fun _ => nofun

theorem noConflict_checkHelpers {helpers : List Mapping} :
    ∀ q ∈ checkHelpers helpers, NoConflict q := by
  induction helpers with
  | nil => exact noConflict_nil
  | cons h hs ih =>
    refine noConflict_andThen ?_ ih
    cases h with
    | enum m => exact noConflict_unmappedValues
    | object m =>
      refine noConflict_run ?_
      rw [List.forall_mem_cons]
      exact ⟨reports_notExtensible.noConflict (by decide), noConflict_structuralRules⟩

/-- **A plan without a conflict is not reported for one.** -/
theorem noConflict_check : ∀ q ∈ check index none plan, NoConflict q := by
  cases plan with
  | object m reverse helpers =>
    refine noConflict_andThen (noConflict_run noConflict_rules)
      (noConflict_andThen (fun q hq => ?_) noConflict_checkHelpers)
    obtain ⟨r, -, hq⟩ := List.mem_flatMap.1 hq
    exact noConflict_run noConflict_structuralRules q hq
  | enum m reverse =>
    rw [check, checkEnum_eq]
    refine noConflict_andThen (reports_targetIsEnum.noConflict (by decide))
      (noConflict_andThen (reports_notExtensible.noConflict (by decide))
        (noConflict_andThen noConflict_nil fun q hq => ?_))
    rcases List.mem_append.1 hq with hq | hq
    · exact noConflict_unmappedValues q hq
    · obtain ⟨r, -, hq⟩ := List.mem_flatMap.1 hq
      exact noConflict_unmappedValues q hq

/-- **Checks with two conflicts agree** only if the conflicts do, or no check comes to them. -/
theorem check_eq_iff : check index conflict plan = check index conflict' plan ↔
    conflict = conflict' ∨ ¬ plan.FacesConflict := by
  constructor
  · intro heq
    by_contra hne
    obtain ⟨hne, hfaces⟩ := not_or.1 hne
    -- a conflict that is come to is all that is reported, and nothing else reports one
    have hfaces := not_not.1 hfaces
    cases conflict with
    | none =>
      cases conflict' with
      | none => exact hne rfl
      | some detail =>
        rw [check_of_facesConflict hfaces detail] at heq
        exact noConflict_check _ (heq ▸ List.mem_singleton.2 rfl) _ _ _ rfl
    | some detail =>
      rw [check_of_facesConflict hfaces detail] at heq
      cases conflict' with
      | none => exact noConflict_check _ (heq ▸ List.mem_singleton.2 rfl) _ _ _ rfl
      | some detail' =>
        rw [check_of_facesConflict hfaces detail'] at heq
        simp only [List.cons.injEq, Problem.duplicateDirective.injEq, true_and, and_true] at heq
        exact hne (congrArg some heq)
  · rintro (rfl | h)
    · rfl
    · exact check_of_not_facesConflict h

end Validation

end Mapsmith
