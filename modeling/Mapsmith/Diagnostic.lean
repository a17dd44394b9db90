import Mapsmith.Location
import Mapsmith.Text.Order

/-!
# Diagnostics

What a pass reports about the mappings it was asked for. A `Mapsmith.Problem` is the finding with
its particulars; its identifier, severity, category and wording follow from it. A diagnostic is a
problem at a location.
-/

namespace Mapsmith

/-- How bad a problem is. -/
inductive Severity
  /-- The mapping is not generated. -/
  | error
  /-- The mapping is generated without the part in question. -/
  | warning
  deriving DecidableEq, Repr

/-- The word for a severity. -/
def Severity.word : Severity → String
  | error => "error"
  | warning => "warning"

/-- What kind of mapping a problem is about. -/
inductive Category
  /-- A mapping of classes. -/
  | objectMapping
  /-- A mapping of enums. -/
  | enumMapping
  deriving DecidableEq, Repr

/-- The word for a category. -/
def Category.word : Category → String
  | objectMapping => "ObjectMapping"
  | enumMapping => "EnumMapping"

/-- A finding about a mapping. -/
inductive Problem
  /-- Generated code cannot import the type. -/
  | notExtensible (type : String)
  /-- The target has no constructor taking members. -/
  | targetNotObject (target kind : String)
  /-- A member is bound by declaration to a target member that does not exist. -/
  | renameDangling (member rename target : String)
  /-- The target's constructor needs a member that nothing feeds. -/
  | requiredUnmapped (member target source : String)
  /-- The target's constructor needs a member that is left out of mappings. -/
  | requiredIgnored (member target source : String)
  /-- A hook is not a method of the source. -/
  | hookMissing (role name source : String)
  /-- Two directives generate the same thing. -/
  | duplicateDirective (source target detail : String)
  /-- Several source members feed one target member. -/
  | ambiguousMember (member target : String) (sources : List String)
  /-- A derived pair has no directive of its own. -/
  | derivedUnmapped (source target base : String)
  /-- The mapping cannot be a projection. -/
  | projectionUnsupported (source target reason : String)
  /-- A member's value cannot be converted. -/
  | notConvertible (member sourceType targetMember targetType target : String)
  /-- A member would have to be assigned and cannot be. -/
  | notAssignable (member target : String) (reasons : List String)
  /-- A derived type of a pair does not derive from the base. -/
  | derivedMismatch (derived base : String)
  /-- A directive names a type that is not in the graph. -/
  | unresolvedType (name owner : String)
  /-- The mapping could not be planned. -/
  | planFailed (source target detail : String)
  /-- An enum is mapped to something else. -/
  | targetNotEnum (target source kind : String)
  /-- An enum value has no counterpart. -/
  | enumValueUnmapped (source value target : String)
  deriving DecidableEq, Repr

namespace Problem

/-- The stable identifier of a kind of problem. -/
def id : Problem → String
  | notExtensible .. => "MAP001"
  | targetNotObject .. => "MAP002"
  | renameDangling .. => "MAP003"
  | requiredUnmapped .. => "MAP004"
  | requiredIgnored .. => "MAP004"
  | hookMissing .. => "MAP005"
  | duplicateDirective .. => "MAP006"
  | ambiguousMember .. => "MAP007"
  | derivedUnmapped .. => "MAP008"
  | projectionUnsupported .. => "MAP009"
  | notConvertible .. => "MAP010"
  | notAssignable .. => "MAP011"
  | derivedMismatch .. => "MAP012"
  | unresolvedType .. => "MAP014"
  | planFailed .. => "MAP099"
  | targetNotEnum .. => "ENUM001"
  | enumValueUnmapped .. => "ENUM002"

/-- How bad the problem is. -/
def severity : Problem → Severity
  | notConvertible .. | enumValueUnmapped .. => .warning
  | _ => .error

/-- The kind of mapping the problem is about. -/
def category : Problem → Category
  | targetNotEnum .. | enumValueUnmapped .. => .enumMapping
  | _ => .objectMapping

/-- A name in quotation marks. -/
def marked (name : String) : String :=
  "'" ++ name ++ "'"

/-- The wording of a problem. -/
def message : Problem → String
  | notExtensible type =>
    "Type " ++ marked type ++ " must be declared at module scope to be imported by generated code"
  | targetNotObject target kind =>
    "Target type " ++ marked target ++ " must be a class, record or struct, but is a " ++ kind
  | renameDangling member rename target =>
    "Member " ++ marked member ++ " with MapProperty(" ++ marked rename ++ ") names target member "
      ++ marked rename ++ " which does not exist on target type " ++ marked target
  | requiredUnmapped member target source =>
    "Required member " ++ marked member ++ " on target type " ++ marked target
      ++ " has no mapping from source type " ++ marked source
  | requiredIgnored member target source =>
    "Required member " ++ marked member ++ " on target type " ++ marked target
      ++ " is ignored but its constructor needs it; give it a default or map it from source type "
      ++ marked source
  | hookMissing role name source =>
    role ++ " hook " ++ marked name ++ " is not a method of source type " ++ marked source
  | duplicateDirective source target detail =>
    "Mapping from " ++ marked source ++ " to " ++ marked target
      ++ " is declared more than once (" ++ detail ++ ")"
  | ambiguousMember member target sources =>
    "Target member " ++ marked member ++ " on " ++ marked target
      ++ " is matched by several source members: " ++ ", ".intercalate sources
  | derivedUnmapped source target base =>
    "Derived type mapping " ++ marked source ++ " -> " ++ marked target ++ " of " ++ marked base
      ++ " requires its own map_to directive"
  | projectionUnsupported source target reason =>
    "Projection from " ++ marked source ++ " to " ++ marked target ++ " is not supported: "
      ++ reason
  | notConvertible member sourceType targetMember targetType target =>
    "Member " ++ marked member ++ " (" ++ sourceType ++ ") cannot be converted to "
      ++ marked targetMember ++ " (" ++ targetType ++ ") on " ++ marked target
      ++ "; member is skipped"
  | notAssignable member target reasons =>
    "Target member " ++ marked member ++ " on " ++ marked target
      ++ " cannot be assigned after construction (" ++ " and ".intercalate reasons ++ ")"
  | derivedMismatch derived base =>
    "Derived type " ++ marked derived ++ " does not derive from " ++ marked base
  | unresolvedType name owner =>
    "Type " ++ marked name ++ " referenced by a directive on " ++ marked owner
      ++ " is not part of the type graph"
  | planFailed source target detail =>
    "Mapping from " ++ marked source ++ " to " ++ marked target ++ " could not be planned: "
      ++ detail
  | targetNotEnum target source kind =>
    "Target type " ++ marked target ++ " of enum " ++ marked source
      ++ " must be an enum, but is a " ++ kind
  | enumValueUnmapped source value target =>
    "Enum value '" ++ source ++ "." ++ value ++ "' has no matching value in " ++ marked target

end Problem

/-- A problem at a location. -/
structure Diagnostic where
  /-- What was found. -/
  problem : Problem
  /-- Where. -/
  location : Location
  deriving DecidableEq, Repr

namespace Diagnostic

/-- Does the diagnostic keep its mapping from being generated? -/
def isError (d : Diagnostic) : Bool :=
  d.problem.severity == .error

/-- The diagnostic as one line. -/
def text (d : Diagnostic) : String :=
  d.location.text ++ ": " ++ d.problem.severity.word ++ " " ++ d.problem.id ++ ": "
    ++ d.problem.message

/-- Diagnostics are listed by file, then line, identifier and wording; a file or a line that is
not known comes first. -/
def le (a b : Diagnostic) : Bool :=
  let path (d : Diagnostic) : String := d.location.path.getD ""
  let line (d : Diagnostic) : Int := d.location.line.getD 0
  if path a ≠ path b then decide (path a < path b)
  else if line a ≠ line b then decide (line a < line b)
  else Text.keyLe [a.problem.id, a.problem.message] [b.problem.id, b.problem.message]

/-- Diagnostics in the order in which they are listed. -/
def sort (ds : List Diagnostic) : List Diagnostic :=
  Text.sortBy le ds

/-- Is there an error among the diagnostics? -/
def anyError (ds : List Diagnostic) : Bool :=
  ds.any isError

end Diagnostic

end Mapsmith
