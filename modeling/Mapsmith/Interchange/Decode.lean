import Mapsmith.Plan
import Mapsmith.Value

/-!
# Reading records

Descriptors, directives and plans from tables. A field that is missing has its default; a table that
does not fit yields nothing.
-/

namespace Mapsmith.Interchange

/-- Reads something from a value. -/
abbrev Decoder (α : Type) := Value → Option α

/-! ### Parts -/

/-- A text. -/
def text : Decoder String
  | .str s => some s
  | _ => none

/-- A truth value; every value counts as one. -/
def flag : Decoder Bool :=
  fun v => some v.isTruthy

/-- An integer. -/
def integer : Decoder Int
  | .int n => some n
  | _ => none

/-- The items of a list. -/
def listOf {α : Type} (item : Decoder α) : Decoder (List α)
  | .list items => items.mapM item
  | _ => none

/-- A value that may be missing. -/
def optional {α : Type} (inner : Decoder α) : Decoder (Option α)
  | .null => some none
  | v => (inner v).map some

/-- One of some words. -/
def oneOf {α : Type} (words : List (String × α)) : Decoder α
  | .str s => words.lookup s
  | _ => none

/-- A field that has to be there. -/
def field {α : Type} (key : String) (inner : Decoder α) : Decoder α :=
  fun v => (v.get? key).bind inner

/-- A field with a default. -/
def fieldOr {α : Type} (key : String) (inner : Decoder α) (default : α) : Decoder α :=
  fun v => match v.get? key with
    | some x => inner x
    | none => some default

/-- A pair of texts. -/
def textPair : Decoder (String × String)
  | .list [.str a, .str b] => some (a, b)
  | _ => none

mutual

/-- How deep a value nests. -/
def depth : Value → Nat
  | .list items => depthOf items + 1
  | .dict entries => depthOfEntries entries + 1
  | _ => 0

/-- How deep values in a row nest. -/
def depthOf : List Value → Nat
  | [] => 0
  | v :: vs => max (depth v) (depthOf vs)

/-- How deep the values of a table nest. -/
def depthOfEntries : List (String × Value) → Nat
  | [] => 0
  | (_, v) :: rest => max (depth v) (depthOfEntries rest)

end

/-! ### Types -/

/-- The words for kinds of references. -/
def refKinds : List (String × RefKind) :=
  [("scalar", .scalar), ("object", .object), ("enum", .enum), ("collection", .collection),
    ("type_parameter", .typeParameter), ("opaque", .verbatim)]

/-- The words for containers. -/
def containers : List (String × Container) :=
  [("list", .list), ("tuple", .tuple), ("set", .set), ("frozenset", .frozenset)]

/-- The words for shapes of types. -/
def typeKinds : List (String × TypeKind) :=
  [("class", .cls), ("record", .record), ("struct", .struct), ("enum", .enum),
    ("interface", .interface)]

/-- A type reference of a bounded depth. -/
def typeRefWithin : Nat → Decoder TypeRef
  | 0, _ => none
  | levels + 1, v => do
    return .mk (← field "name" text v) (← field "kind" (oneOf refKinds) v)
      (← fieldOr "args" (listOf (typeRefWithin levels)) [] v)
      (← fieldOr "container" (optional (oneOf containers)) none v) (← fieldOr "nullable" flag false v)

/-- A type reference. -/
def typeRef : Decoder TypeRef :=
  fun v => typeRefWithin (depth v + 1) v

/-- A location. -/
def location : Decoder Location := fun v => do
  return ⟨← field "symbol" text v, ← fieldOr "path" (optional text) none v,
    ← fieldOr "line" (optional integer) none v⟩

/-- A derived pair. -/
def derivedPair : Decoder DerivedPair := fun v => do
  return ⟨← field "source" text v, ← field "target" text v⟩

/-- A naming strategy. -/
def strategy : Decoder NamingStrategy
  | .str s => NamingStrategy.ofWord? s
  | _ => none

/-- A flag of a directive: any value. -/
def switch : Decoder Switch :=
  fun v => some ⟨v⟩

/-- A directive. -/
def directive : Decoder Directive := fun v => do
  return {
    source := ← fieldOr "source" text "" v
    target := ← field "target" text v
    bidirectional := ← fieldOr "bidirectional" switch {} v
    flattening := ← fieldOr "enable_flattening" switch {} v
    projection := ← fieldOr "generate_projection" switch {} v
    update := ← fieldOr "update_target" switch {} v
    includePrivate := ← fieldOr "include_private_members" switch {} v
    beforeMap := ← fieldOr "before_map" (optional text) none v
    afterMap := ← fieldOr "after_map" (optional text) none v
    factory := ← fieldOr "factory" (optional text) none v
    strategy := ← fieldOr "naming_strategy" strategy .identity v
    derived := ← fieldOr "derived_types" (listOf derivedPair) [] v
    location := ← fieldOr "location" (optional location) none v }

/-- A type parameter. -/
def genericParameter : Decoder GenericParameter := fun v => do
  return {
    name := ← field "name" text v
    bound := ← fieldOr "bound" (optional text) none v
    constraints := ← fieldOr "constraints" (listOf text) [] v
    covariant := ← fieldOr "covariant" flag false v
    contravariant := ← fieldOr "contravariant" flag false v }

/-- A member. -/
def member : Decoder Member := fun v => do
  return {
    name := ← field "name" text v
    type := ← field "type" typeRef v
    init := ← fieldOr "init" flag true v
    initName := ← fieldOr "init_name" text "" v
    settable := ← fieldOr "settable" flag true v
    readable := ← fieldOr "readable" flag true v
    required := ← fieldOr "required" flag false v
    isPrivate := ← fieldOr "private" flag false v
    renameTo := ← fieldOr "rename_to" (optional text) none v
    ignored := ← fieldOr "ignored" flag false v
    declaredIn := ← fieldOr "declared_in" text "" v }

/-- A type descriptor. -/
def typeDescriptor : Decoder TypeDescriptor := fun v => do
  return {
    name := ← field "name" text v
    module := ← field "module" text v
    kind := ← field "kind" (oneOf typeKinds) v
    members := ← fieldOr "members" (listOf member) [] v
    enumValues := ← fieldOr "enum_values" (listOf text) [] v
    genericParameters := ← fieldOr "generic_parameters" (listOf genericParameter) [] v
    ancestors := ← fieldOr "ancestors" (listOf text) [] v
    isAbstract := ← fieldOr "abstract" flag false v
    extensible := ← fieldOr "extensible" flag true v
    callables := ← fieldOr "callables" (listOf text) [] v
    directives := ← fieldOr "directives" (listOf directive) [] v
    derived := ← fieldOr "derived_type_mappings" (listOf derivedPair) [] v
    location := ← fieldOr "location" (optional location) none v }

/-! ### Plans -/

/-- The words for kinds of conversions. -/
def conversionKinds : List (String × ConversionKind) :=
  [ConversionKind.direct, .toText, .toIsoText, .toFloat, .toDecimal, .parseInt, .parseFloat,
    .parseDecimal, .parseBool, .parseUuid, .parseDatetime, .parseDate, .parseTime, .nested, .enum,
    .collection, .unconvertible].map fun kind => (kind.word, kind)

/-- The words for kinds of correspondences. -/
def matchKinds : List (String × MatchKind) :=
  [MatchKind.directive, .name, .flattened, .exact, .caseInsensitive, .equivalence].map fun kind =>
    (kind.word, kind)

/-- A routine. -/
def routineRef : Decoder RoutineRef := fun v => do
  return ⟨← field "name" text v, ← field "source" text v, ← field "target" text v,
    ← field "home_module" text v, ← fieldOr "helper" flag false v⟩

/-- A conversion of a bounded depth. -/
def conversionWithin : Nat → Decoder Conversion
  | 0, _ => none
  | levels + 1, v => do
    return .mk (← field "kind" (oneOf conversionKinds) v)
      (← fieldOr "routine" (optional routineRef) none v)
      (← fieldOr "element" (optional (conversionWithin levels)) none v)
      (← fieldOr "container" (optional (oneOf containers)) none v) (← fieldOr "nullable" flag false v)

/-- A conversion. -/
def conversion : Decoder Conversion :=
  fun v => conversionWithin (depth v + 1) v

/-- A member correspondence. -/
def propertyMapping : Decoder PropertyMapping := fun v => do
  return {
    sourceMember := ← field "source_member" text v
    targetMember := ← field "target_member" text v
    targetKeyword := ← field "target_keyword" text v
    sourceType := ← field "source_type" typeRef v
    targetType := ← field "target_type" typeRef v
    conversion := ← field "conversion" conversion v
    matchKind := ← field "match_kind" (oneOf matchKinds) v
    flattenedPath := ← fieldOr "flattened_path" (listOf text) [] v
    viaConstructor := ← fieldOr "via_constructor" flag true v
    targetSettable := ← fieldOr "target_settable" flag true v
    targetRequired := ← fieldOr "target_required" flag false v
    outerNullable := ← fieldOr "outer_nullable" flag false v }

/-- A member without a conversion. -/
def unconvertibleMember : Decoder UnconvertibleMember := fun v => do
  return ⟨← field "source_member" text v, ← field "source_type" typeRef v,
    ← field "target_member" text v, ← field "target_type" typeRef v,
    ← fieldOr "target_required" flag false v⟩

/-- A rename that leads nowhere. -/
def danglingRename : Decoder DanglingRename := fun v => do
  return ⟨← field "source_member" text v, ← field "rename_to" text v⟩

/-- A target member that several source members feed. -/
def ambiguity : Decoder Ambiguity := fun v => do
  return ⟨← field "target_member" text v, ← field "source_members" (listOf text) v⟩

/-- A branch of a dispatch. -/
def dispatchEntry : Decoder DispatchEntry := fun v => do
  return ⟨← field "source" text v, ← field "target" text v, ← field "routine" routineRef v⟩

/-- An enum value and its counterpart. -/
def enumValueMapping : Decoder EnumValueMapping := fun v => do
  return ⟨← field "source_value" text v, ← fieldOr "target_value" (optional text) none v,
    ← fieldOr "match_kind" (optional (oneOf matchKinds)) none v⟩

/-- One of the types known by their qualified names. -/
def knownType (types : List TypeDescriptor) : Decoder TypeDescriptor
  | .str s => types.find? (·.qualifiedName == s)
  | _ => none

/-- A mapping between object types. -/
def objectMapping (types : List TypeDescriptor) : Decoder ObjectMapping := fun v => do
  return {
    directive := ← field "directive" directive v
    source := ← field "source" (knownType types) v
    target := ← field "target" (knownType types) v
    routine := ← field "routine" routineRef v
    result := {
      mappings := ← fieldOr "mappings" (listOf propertyMapping) [] v
      unmatched := ← fieldOr "unmatched" (listOf text) [] v
      ignored := ← fieldOr "ignored" (listOf text) [] v
      unconvertible := ← fieldOr "unconvertible" (listOf unconvertibleMember) [] v
      danglingRenames := ← fieldOr "dangling_renames" (listOf danglingRename) [] v
      ambiguous := ← fieldOr "ambiguous" (listOf ambiguity) [] v }
    updateRoutine := ← fieldOr "update_routine" (optional text) none v
    projectionRoutine := ← fieldOr "projection_routine" (optional text) none v
    projection := ← fieldOr "projection" (listOf propertyMapping) [] v
    projectionExcluded := ← fieldOr "projection_excluded" (listOf text) [] v
    dispatch := ← fieldOr "dispatch" (listOf dispatchEntry) [] v
    genericParameters := ← fieldOr "generic_parameters" (listOf genericParameter) [] v }

/-- A mapping between enums. -/
def enumMapping (types : List TypeDescriptor) : Decoder EnumMapping := fun v => do
  return {
    directive := ← field "directive" directive v
    source := ← field "source" (knownType types) v
    target := ← field "target" (knownType types) v
    routine := ← field "routine" routineRef v
    values := ← fieldOr "values" (listOf enumValueMapping) [] v }

/-- A mapping of either kind. -/
def mapping (types : List TypeDescriptor) : Decoder Mapping := fun v => do
  match ← field "type" text v with
  | "enum" => return .enum (← enumMapping types v)
  | _ => return .object (← objectMapping types v)

/-- A plan. -/
def plan (types : List TypeDescriptor) : Decoder Plan := fun v => do
  match ← field "type" text v with
  | "enum" =>
    return .enum (← enumMapping types v)
      (← fieldOr "reverse" (optional (enumMapping types)) none v)
  | _ =>
    return .object (← objectMapping types v)
      (← fieldOr "reverse" (optional (objectMapping types)) none v)
      (← fieldOr "helpers" (listOf (mapping types)) [] v)

end Mapsmith.Interchange
