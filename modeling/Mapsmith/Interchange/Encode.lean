import Mapsmith.Diagnostic
import Mapsmith.Emission.GeneratedUnit
import Mapsmith.Interchange.Decode

/-!
# Writing records

Descriptors, directives, plans, diagnostics and units as tables. Every field is written, with the
properties of a record that are worth knowing beside its fields.
-/

namespace Mapsmith.Interchange

/-! ### Parts -/

/-- A text that may be missing. -/
def ofOptional {α : Type} (inner : α → Value) : Option α → Value
  | some x => inner x
  | none => .null

/-- Values in a row. -/
def ofList {α : Type} (inner : α → Value) (xs : List α) : Value :=
  .list (xs.map inner)

/-- Texts in a row. -/
def ofTexts (xs : List String) : Value :=
  ofList .str xs

/-- The word of a pair list for a value. -/
def wordOf {α : Type} [DecidableEq α] (words : List (String × α)) (x : α) : Value :=
  match words.find? (·.2 = x) with
  | some (word, _) => .str word
  | none => .null

/-! ### Types -/

mutual

/-- A type reference. -/
def ofTypeRef : TypeRef → Value
  | .mk name kind args container nullable =>
    .dict [("name", .str name), ("kind", wordOf refKinds kind), ("args", .list (ofTypeRefs args)),
      ("container", ofOptional (fun c => .str c.word) container), ("nullable", .bool nullable)]

/-- Type references in a row. -/
def ofTypeRefs : List TypeRef → List Value
  | [] => []
  | r :: rs => ofTypeRef r :: ofTypeRefs rs

end

/-- A location. -/
def ofLocation (l : Location) : Value :=
  .dict [("symbol", .str l.symbol), ("path", ofOptional .str l.path), ("line", ofOptional .int l.line)]

/-- A derived pair. -/
def ofDerivedPair (p : DerivedPair) : Value :=
  .dict [("source", .str p.source), ("target", .str p.target)]

/-- The fields of a directive. -/
def directiveFields (d : Directive) : List (String × Value) :=
  [("source", .str d.source), ("target", .str d.target), ("bidirectional", d.bidirectional.value),
    ("enable_flattening", d.flattening.value), ("generate_projection", d.projection.value),
    ("update_target", d.update.value), ("include_private_members", d.includePrivate.value),
    ("before_map", ofOptional .str d.beforeMap), ("after_map", ofOptional .str d.afterMap),
    ("factory", ofOptional .str d.factory), ("naming_strategy", .str d.strategy.word),
    ("derived_types", ofList ofDerivedPair d.derived), ("location", ofOptional ofLocation d.location)]

/-- A directive. -/
def ofDirective (d : Directive) : Value :=
  .dict (directiveFields d)

/-- A type parameter. -/
def ofGenericParameter (q : GenericParameter) : Value :=
  .dict [("name", .str q.name), ("bound", ofOptional .str q.bound),
    ("constraints", ofTexts q.constraints), ("covariant", .bool q.covariant),
    ("contravariant", .bool q.contravariant)]

/-- A member. -/
def ofMember (m : Member) : Value :=
  .dict [("name", .str m.name), ("type", ofTypeRef m.type), ("init", .bool m.init),
    ("init_name", .str m.initName), ("settable", .bool m.settable), ("readable", .bool m.readable),
    ("required", .bool m.required), ("private", .bool m.isPrivate),
    ("rename_to", ofOptional .str m.renameTo), ("ignored", .bool m.ignored),
    ("declared_in", .str m.declaredIn)]

/-- A type descriptor. -/
def ofTypeDescriptor (t : TypeDescriptor) : Value :=
  .dict [("name", .str t.name), ("module", .str t.module), ("kind", .str t.kind.word),
    ("members", ofList ofMember t.members), ("enum_values", ofTexts t.enumValues),
    ("generic_parameters", ofList ofGenericParameter t.genericParameters),
    ("ancestors", ofTexts t.ancestors), ("abstract", .bool t.isAbstract),
    ("extensible", .bool t.extensible), ("callables", ofTexts t.callables),
    ("directives", ofList ofDirective t.directives),
    ("derived_type_mappings", ofList ofDerivedPair t.derived),
    ("location", ofOptional ofLocation t.location)]

/-! ### Plans -/

/-- A routine. -/
def ofRoutineRef (r : RoutineRef) : Value :=
  .dict [("name", .str r.name), ("source", .str r.source), ("target", .str r.target),
    ("home_module", .str r.home), ("helper", .bool r.helper)]

/-- A conversion. -/
def ofConversion : Conversion → Value
  | .mk kind routine element container nullable =>
    .dict [("kind", .str kind.word), ("routine", ofOptional ofRoutineRef routine),
      ("element", match element with
        | some e => ofConversion e
        | none => .null),
      ("container", ofOptional (fun c => .str c.word) container), ("nullable", .bool nullable)]

/-- The properties of a member correspondence that hold. -/
def mappingFlags (m : PropertyMapping) : List String :=
  [("requires_conversion", m.requiresConversion), ("is_nested", m.conversion.kind == .nested),
    ("has_enum_mapping", m.conversion.kind == .enum),
    ("is_collection", m.conversion.kind == .collection), ("is_flattened", m.isFlattened)].filterMap
    fun (name, holds) => if holds then some name else none

/-- A member correspondence. -/
def ofPropertyMapping (m : PropertyMapping) : Value :=
  .dict [("source_member", .str m.sourceMember), ("target_member", .str m.targetMember),
    ("target_keyword", .str m.targetKeyword), ("source_type", ofTypeRef m.sourceType),
    ("target_type", ofTypeRef m.targetType), ("conversion", ofConversion m.conversion),
    ("match_kind", .str m.matchKind.word), ("flattened_path", ofTexts m.flattenedPath),
    ("via_constructor", .bool m.viaConstructor), ("target_settable", .bool m.targetSettable),
    ("target_required", .bool m.targetRequired), ("outer_nullable", .bool m.outerNullable),
    ("flags", ofTexts (mappingFlags m)), ("source_path", ofTexts m.sourcePath)]

/-- The fields of a match result. -/
def matchResultFields (r : MatchResult) : List (String × Value) :=
  [("mappings", ofList ofPropertyMapping r.mappings), ("unmatched", ofTexts r.unmatched),
    ("ignored", ofTexts r.ignored),
    ("unconvertible", ofList (fun u : UnconvertibleMember => .dict
      [("source_member", .str u.sourceMember), ("source_type", ofTypeRef u.sourceType),
        ("target_member", .str u.targetMember), ("target_type", ofTypeRef u.targetType),
        ("target_required", .bool u.targetRequired)]) r.unconvertible),
    ("dangling_renames", ofList (fun d : DanglingRename => .dict
      [("source_member", .str d.sourceMember), ("rename_to", .str d.renameTo)]) r.danglingRenames),
    ("ambiguous", ofList (fun a : Ambiguity => .dict
      [("target_member", .str a.targetMember), ("source_members", ofTexts a.sourceMembers)])
      r.ambiguous)]

/-- A match result. -/
def ofMatchResult (r : MatchResult) : Value :=
  .dict (matchResultFields r)

/-- An enum value and its counterpart. -/
def ofEnumValueMapping (v : EnumValueMapping) : Value :=
  .dict [("source_value", .str v.sourceValue), ("target_value", ofOptional .str v.targetValue),
    ("match_kind", ofOptional (fun k => .str k.word) v.matchKind)]

/-- A branch of a dispatch. -/
def ofDispatchEntry (e : DispatchEntry) : Value :=
  .dict [("source", .str e.source), ("target", .str e.target), ("routine", ofRoutineRef e.routine)]

/-- A mapping between object types, with its way back and its private mappings. -/
def ofObjectMapping (m : ObjectMapping) (reverse : Value) (helpers : List Value) : Value :=
  .dict ([("type", .str "object"), ("directive", ofDirective m.directive),
    ("source", .str m.source.qualifiedName), ("target", .str m.target.qualifiedName),
    ("routine", ofRoutineRef m.routine)] ++ matchResultFields m.result ++
    [("update_routine", ofOptional .str m.updateRoutine),
    ("projection_routine", ofOptional .str m.projectionRoutine),
    ("projection", ofList ofPropertyMapping m.projection),
    ("projection_excluded", ofTexts m.projectionExcluded), ("reverse", reverse),
    ("dispatch", ofList ofDispatchEntry m.dispatch), ("helpers", .list helpers),
    ("generic_parameters", ofList ofGenericParameter m.genericParameters),
    ("is_polymorphic", .bool !m.dispatch.isEmpty)])

/-- A mapping between enums, with its way back. -/
def ofEnumMapping (m : EnumMapping) (reverse : Value) : Value :=
  .dict [("type", .str "enum"), ("directive", ofDirective m.directive),
    ("source", .str m.source.qualifiedName), ("target", .str m.target.qualifiedName),
    ("routine", ofRoutineRef m.routine), ("values", ofList ofEnumValueMapping m.values),
    ("reverse", reverse), ("unmapped", ofTexts m.unmapped)]

/-- A mapping on its own. -/
def ofMapping : Mapping → Value
  | .object m => ofObjectMapping m .null []
  | .enum m => ofEnumMapping m .null

/-- A plan. -/
def ofPlan : Plan → Value
  | .object m reverse helpers =>
    ofObjectMapping m (ofOptional (fun r => ofMapping (.object r)) reverse) (helpers.map ofMapping)
  | .enum m reverse => ofEnumMapping m (ofOptional (fun r => ofMapping (.enum r)) reverse)

/-! ### Results -/

/-- A diagnostic. -/
def ofDiagnostic (d : Diagnostic) : Value :=
  .dict [("id", .str d.problem.id), ("severity", .str d.problem.severity.word),
    ("category", .str d.problem.category.word), ("message", .str d.problem.message),
    ("location", ofLocation d.location), ("text", .str d.text)]

end Mapsmith.Interchange
