import Mapsmith.Diagnostic
import Mapsmith.DirectiveIndex
import Mapsmith.Plan

/-!
# Validation

A plan is checked rule by rule, the most fundamental rule first, and the first rule that finds an
error ends the check; warnings never do. The mapping of the way back and the private mappings of a
plan are checked by the rules about their members only. Everything found is reported where the
plan's directive stands.
-/

namespace Mapsmith.Validation

/-- A rule finds problems in a mapping. -/
abbrev Rule := ObjectMapping → List Problem

/-- Is there an error among the problems? -/
def anyError (problems : List Problem) : Bool :=
  problems.any (·.severity == .error)

/-- Applies rules in order up to the first that finds an error. -/
def run (m : ObjectMapping) : List Rule → List Problem
  | [] => []
  | rule :: rules =>
    let found := rule m
    if anyError found then found else found ++ run m rules

/-! ### Rules about both types -/

/-- The target can be built from members. -/
def targetIsObject : Rule := fun m =>
  if m.target.kind.isObject then [] else [.targetNotObject m.target.name m.target.kind.word]

/-- Those of some types that generated code cannot import. -/
def notExtensible (types : List TypeDescriptor) : List Problem :=
  (types.filter fun t => !t.extensible).map fun t => .notExtensible t.qualifiedName

/-- Generated code can import both types. -/
def typesExtensible : Rule := fun m =>
  notExtensible [m.source, m.target]

/-- No other directive is in the way. -/
def noConflict (conflict : Option String) : Rule := fun m =>
  conflict.toList.map fun detail => .duplicateDirective m.source.name m.target.name detail

/-- The hooks a directive names, each with its role. -/
def hookRoles (d : Directive) : List (String × String) :=
  [("before_map", d.beforeMap), ("after_map", d.afterMap), ("factory", d.factory)].filterMap
    fun (role, name) => name.map fun n => (role, n)

/-- Hooks are methods of the source type. -/
def hooksExist : Rule := fun m =>
  ((hookRoles m.directive).filter fun (_, name) => name ∉ m.source.callables).map
    fun (role, name) => .hookMissing role name m.source.name

/-! ### Rules about derived pairs -/

/-- Derived types inherit from the types of the directive. -/
def derivedTypesDerive (g : TypeGraph) : Rule := fun m =>
  m.directive.derived.flatMap fun pair =>
    (if g.isSubclass pair.source m.directive.source then []
      else [.derivedMismatch pair.source m.directive.source])
    ++ (if g.isSubclass pair.target m.directive.target then []
      else [.derivedMismatch pair.target m.directive.target])

/-- Derived pairs have directives of their own. -/
def derivedTypesMapped (index : DirectiveIndex) : Rule := fun m =>
  (m.directive.derived.filter fun pair => (index.directiveFor pair.source pair.target).isNone).map
    fun pair => .derivedUnmapped pair.source pair.target m.source.name

/-! ### Rules about members -/

/-- Declared renames lead to members of the target. -/
def renamesExist : Rule := fun m =>
  m.result.danglingRenames.map fun r => .renameDangling r.sourceMember r.renameTo m.target.name

/-- No target member is fed by several source members. -/
def noFanIn : Rule := fun m =>
  m.result.ambiguous.map fun a => .ambiguousMember a.targetMember m.target.name a.sourceMembers

/-- Members that the target's constructor insists on are mapped, unless a factory builds it. -/
def requiredMembersMapped : Rule := fun m =>
  if m.directive.factory.isSome then []
  else
    let mapped := m.mappings.map (·.targetMember)
    (m.target.members.filter fun t => t.init && t.required && t.name ∉ mapped).map fun t =>
      if t.ignored then .requiredIgnored t.name m.target.name m.source.name
      else .requiredUnmapped t.name m.target.name m.source.name

/-- What makes a mapping assign every member after construction. -/
def assignmentReasons (d : Directive) : List String :=
  (if d.update.isOn then ["update_target"] else [])
    ++ d.factory.toList.map fun name => "factory '" ++ name ++ "'"

/-- Where every member is assigned after construction, every one can be. -/
def membersAssignable : Rule := fun m =>
  let reasons := assignmentReasons m.directive
  if reasons.isEmpty then []
  else (m.mappings.filter fun p => !p.targetSettable).map fun p =>
    .notAssignable p.targetMember m.target.name reasons

/-- The required members that a projection leaves out. -/
def uncovered (m : ObjectMapping) : List String :=
  let required := (m.mappings.filter (·.targetRequired)).map (·.targetMember)
  m.projectionExcluded.filter (· ∈ required)

/-- A projection only selects members. -/
def projectionSupported : Rule := fun m =>
  if !m.directive.projection.isOn then []
  else
    let reasons :=
      (if m.directive.hooks.isEmpty then [] else ["mapping hooks cannot run inside a projection"])
      ++ (if m.directive.derived.isEmpty then []
        else ["derived type dispatch cannot run inside a projection"])
      ++ (if (uncovered m).isEmpty then []
        else ["required members need conversion: " ++ ", ".intercalate (uncovered m)])
    reasons.map fun reason => .projectionUnsupported m.source.name m.target.name reason

/-- Members that are skipped for want of a conversion. -/
def conversions : Rule := fun m =>
  m.result.unconvertible.map fun u =>
    .notConvertible u.sourceMember u.sourceType.display u.targetMember u.targetType.display
      m.target.name

/-! ### Checks -/

/-- The rules about the members of a mapping. -/
def structuralRules : List Rule :=
  [noFanIn, requiredMembersMapped, conversions]

/-- All rules for the mapping a directive asks for. -/
def rules (index : DirectiveIndex) (conflict : Option String) : List Rule :=
  [targetIsObject, typesExtensible, noConflict conflict, renamesExist, hooksExist,
    derivedTypesDerive index.graph, derivedTypesMapped index, noFanIn, requiredMembersMapped,
    membersAssignable, projectionSupported, conversions]

/-- The values of an enum mapping without a counterpart. -/
def unmappedValues (m : EnumMapping) : List Problem :=
  m.unmapped.map fun value => .enumValueUnmapped m.source.name value m.target.name

/-- Checks a private mapping. -/
def checkHelper : Mapping → List Problem
  | .object m => run m (typesExtensible :: structuralRules)
  | .enum m => unmappedValues m

/-- Checks private mappings in order up to the first with an error. -/
def checkHelpers : List Mapping → List Problem
  | [] => []
  | h :: hs =>
    let found := checkHelper h
    if anyError found then found else found ++ checkHelpers hs

/-- Checks parts in order: the later ones only when the earlier ones hold no error. -/
def andThen (found : List Problem) (later : List Problem) : List Problem :=
  if anyError found then found else found ++ later

/-- Checks a mapping between enums and its way back. -/
def checkEnum (m : EnumMapping) (reverse : Option EnumMapping) (conflict : Option String) :
    List Problem :=
  if m.target.kind ≠ .enum then [.targetNotEnum m.target.name m.source.name m.target.kind.word]
  else match notExtensible [m.source, m.target], conflict with
    | p :: ps, _ => p :: ps
    | [], some detail => [.duplicateDirective m.source.name m.target.name detail]
    | [], none => unmappedValues m ++ reverse.toList.flatMap unmappedValues

/-- Everything that is wrong with a plan. -/
def check (index : DirectiveIndex) (conflict : Option String) : Plan → List Problem
  | .object m reverse helpers =>
    andThen (run m (rules index conflict))
      (andThen (reverse.toList.flatMap fun r => run r structuralRules) (checkHelpers helpers))
  | .enum m reverse => checkEnum m reverse conflict

/-- Validates a plan; `conflict` says what other directive is in its way, if any. -/
def validate (index : DirectiveIndex) (plan : Plan) (conflict : Option String) :
    List Diagnostic :=
  (check index conflict plan).map fun problem => ⟨problem, plan.location⟩

end Mapsmith.Validation
