import Mapsmith.Value

/-!
# Failures

The kinds of failure that the program and the code it generates can report, each under a name and
under the names of the wider kinds it belongs to.
-/

namespace Mapsmith

/-- A failure that can be reported. -/
inductive Failure
  /-- Some failure of the program. -/
  | general (detail : String)
  /-- A failure about the types of a program. -/
  | typeGraph (detail : String)
  /-- A type that is not in the graph. -/
  | typeNotFound (name : String)
  /-- Something that cannot be described as a type. -/
  | unsupportedType (name detail : String)
  /-- A directive that is declared wrongly. -/
  | directive (detail : String)
  /-- A plan that cannot be made. -/
  | planCompilation (detail : String)
  /-- Code that cannot be generated. -/
  | emission (detail : String)
  /-- Settings that cannot be used. -/
  | configuration (source detail : String)
  /-- A failure of generated code. -/
  | mappingRuntime (detail : String)
  /-- An enum value without a counterpart. -/
  | unmappedEnumValue (source target : String) (value : Value)
  /-- A value of a class that a dispatch does not know. -/
  | unknownDerivedType (base actual : String)
  /-- A hook that rejects its value. -/
  | mappingHook (hook detail : String)
  /-- A row that lacks columns. -/
  | projectionColumn (target : String) (missing : List String)
  deriving Repr

namespace Failure

/-- The wording of a failure. -/
def message : Failure → String
  | general detail | typeGraph detail | directive detail | planCompilation detail
  | emission detail | mappingRuntime detail => detail
  | typeNotFound name => "Type not found in graph: '" ++ name ++ "'"
  | unsupportedType name detail => "Cannot describe '" ++ name ++ "': " ++ detail
  | configuration source detail => "Invalid configuration in " ++ source ++ ": " ++ detail
  | unmappedEnumValue source target value =>
    "Unmapped enum value " ++ value.literal ++ ": " ++ source ++ " has no mapping to " ++ target
  | unknownDerivedType base actual =>
    "Unknown derived type '" ++ actual ++ "' for polymorphic mapping of " ++ base
  | mappingHook hook detail => "Mapping aborted by hook '" ++ hook ++ "': " ++ detail
  | projectionColumn target missing =>
    "Row cannot be projected to " ++ target ++ ": missing columns " ++ ", ".intercalate missing

/-- The kinds a failure belongs to, its own first and wider ones after it. -/
def kinds : Failure → List String
  | general _ => ["MapCompilerError"]
  | typeGraph _ => ["TypeGraphError", "MapCompilerError"]
  | typeNotFound _ => ["TypeNotFoundError", "TypeGraphError", "MapCompilerError"]
  | unsupportedType .. => ["UnsupportedTypeError", "TypeGraphError", "MapCompilerError"]
  | directive _ => ["DirectiveError", "MapCompilerError"]
  | planCompilation _ => ["PlanCompilationError", "MapCompilerError"]
  | emission _ => ["EmissionError", "MapCompilerError"]
  | configuration .. => ["ConfigurationError", "MapCompilerError"]
  | mappingRuntime _ => ["MappingRuntimeError", "MapCompilerError"]
  | unmappedEnumValue .. =>
    ["UnmappedEnumValueError", "MappingRuntimeError", "MapCompilerError", "ValueError"]
  | unknownDerivedType .. =>
    ["UnknownDerivedTypeError", "MappingRuntimeError", "MapCompilerError", "TypeError"]
  | mappingHook .. => ["MappingHookError", "MappingRuntimeError", "MapCompilerError"]
  | projectionColumn .. => ["ProjectionColumnError", "MappingRuntimeError", "MapCompilerError"]

/-- The name of a failure's own kind. -/
def kind (f : Failure) : String :=
  f.kinds.headD ""

/-- The kinds that there are. -/
def kindNames : List String :=
  ["MapCompilerError", "TypeGraphError", "TypeNotFoundError", "UnsupportedTypeError",
    "DirectiveError", "PlanCompilationError", "EmissionError", "ConfigurationError",
    "MappingRuntimeError", "UnmappedEnumValueError", "UnknownDerivedTypeError", "MappingHookError",
    "ProjectionColumnError"]

/-- The names under which a failure remembers the values that it was made from, in their order. -/
def detailNames : Failure → List String
  | typeNotFound _ | unsupportedType .. => ["type_name"]
  | configuration .. => ["source"]
  | unmappedEnumValue .. => ["source_enum", "target_enum", "value"]
  | unknownDerivedType .. => ["base_type", "runtime_type"]
  | mappingHook .. => ["hook"]
  | projectionColumn .. => ["target", "missing"]
  | _ => []

/-- The wording that values make: one stands for itself, several for their row. -/
def wording : List Value → String
  | [] => ""
  | [v] => v.display
  | vs => "(" ++ ", ".intercalate (vs.map (·.literal)) ++ ")"

/-- The texts that a value lists: the items of a row of texts, the characters of a text, or the keys of a
table. -/
def listed : Value → Option (List String)
  | .list items => items.mapM fun
    | .str s => some s
    | _ => none
  | .str s => some (s.toList.map String.singleton)
  | .dict entries => some (entries.map (·.1))
  | _ => none

/-- The failure of a kind that is made from some values, if it can be made from them. -/
def ofKind? (kind : String) (arguments : List Value) : Option Failure :=
  match kind, arguments with
  | "MapCompilerError", said => some (general (wording said))
  | "TypeGraphError", said => some (typeGraph (wording said))
  | "TypeNotFoundError", [n] => some (typeNotFound n.display)
  | "UnsupportedTypeError", [n, d] => some (unsupportedType n.display d.display)
  | "DirectiveError", said => some (directive (wording said))
  | "PlanCompilationError", said => some (planCompilation (wording said))
  | "EmissionError", said => some (emission (wording said))
  | "ConfigurationError", [s, d] => some (configuration s.display d.display)
  | "MappingRuntimeError", said => some (mappingRuntime (wording said))
  | "UnmappedEnumValueError", [s, t, v] => some (unmappedEnumValue s.display t.display v)
  | "UnknownDerivedTypeError", [b, a] => some (unknownDerivedType b.display a.display)
  | "MappingHookError", [h, d] => some (mappingHook h.display d.display)
  | "ProjectionColumnError", [t, missing] =>
    (listed missing).map fun names => projectionColumn t.display names
  | _, _ => none

end Failure

end Mapsmith
