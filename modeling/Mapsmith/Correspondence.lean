import Mapsmith.Conversion
import Mapsmith.TypeDescriptor

/-!
# Correspondences

What comparing the members of two types finds: the pairs that feed each other with the way their
values are converted, and everything that is left over.
-/

namespace Mapsmith

/-- How a correspondence came about. -/
inductive MatchKind
  /-- A declared rename. -/
  | directive
  /-- Equal names. -/
  | name
  /-- A member read from inside another one. -/
  | flattened
  /-- Equal enum values. -/
  | exact
  /-- Enum values equal up to case. -/
  | caseInsensitive
  /-- Enum values of one equivalence group. -/
  | equivalence
  deriving DecidableEq, Repr, Inhabited

/-- The word for a kind of correspondence. -/
def MatchKind.word : MatchKind → String
  | directive => "directive"
  | name => "name"
  | flattened => "flattened"
  | exact => "exact"
  | caseInsensitive => "case_insensitive"
  | equivalence => "equivalence"

/-- A source member that feeds a target member. -/
structure PropertyMapping where
  /-- The source member, the outer one if the value is read from inside it. -/
  sourceMember : String
  /-- The target member. -/
  targetMember : String
  /-- The keyword the target's constructor takes it under. -/
  targetKeyword : String
  /-- The type of the value that is read. -/
  sourceType : TypeRef
  /-- The type of the target member. -/
  targetType : TypeRef
  /-- How the value is converted. -/
  conversion : Conversion
  /-- How the two were found to correspond. -/
  matchKind : MatchKind
  /-- The attributes a flattened value is read along; empty if it is not flattened. -/
  flattenedPath : List String := []
  /-- Does the constructor take the target member? -/
  viaConstructor : Bool := true
  /-- Can the target member be assigned? -/
  targetSettable : Bool := true
  /-- Does the constructor insist on the target member? -/
  targetRequired : Bool := false
  /-- May the outer member of a flattened value be missing? -/
  outerNullable : Bool := false
  deriving DecidableEq, Repr, Inhabited

namespace PropertyMapping

/-- The attributes the value is read along. -/
def sourcePath (m : PropertyMapping) : List String :=
  if m.flattenedPath.isEmpty then [m.sourceMember] else m.flattenedPath

/-- Is the value converted between scalars? -/
def requiresConversion (m : PropertyMapping) : Bool :=
  m.conversion.kind.isBuiltin

/-- Is the value read from inside another member? -/
def isFlattened (m : PropertyMapping) : Bool :=
  m.matchKind == .flattened

/-- Does the mapping fit into a projection? -/
def projectable (m : PropertyMapping) : Bool :=
  m.conversion.kind == .direct || m.conversion.kind == .enum

end PropertyMapping

/-- Two members bound to each other whose types have no conversion. -/
structure UnconvertibleMember where
  /-- The attributes the value is read along, joined with dots. -/
  sourceMember : String
  /-- The type of the value. -/
  sourceType : TypeRef
  /-- The target member. -/
  targetMember : String
  /-- The type of the target member. -/
  targetType : TypeRef
  /-- Does the constructor insist on the target member? -/
  targetRequired : Bool := false
  deriving DecidableEq, Repr, Inhabited

/-- A declared rename to a target member that does not exist. -/
structure DanglingRename where
  /-- The source member. -/
  sourceMember : String
  /-- The name it is bound to. -/
  renameTo : String
  deriving DecidableEq, Repr, Inhabited

/-- A target member that several source members feed. -/
structure Ambiguity where
  /-- The target member. -/
  targetMember : String
  /-- The source members in order of declaration. -/
  sourceMembers : List String
  deriving DecidableEq, Repr, Inhabited

/-- What comparing the members of two types finds. -/
structure MatchResult where
  /-- The members that feed each other. -/
  mappings : List PropertyMapping := []
  /-- The target members that nothing feeds. -/
  unmatched : List String := []
  /-- The members left out, those of the source first. -/
  ignored : List String := []
  /-- The members bound to each other without a conversion. -/
  unconvertible : List UnconvertibleMember := []
  /-- The renames that lead nowhere. -/
  danglingRenames : List DanglingRename := []
  /-- The target members that several source members feed. -/
  ambiguous : List Ambiguity := []
  deriving DecidableEq, Repr, Inhabited

/-- An enum value and its counterpart. -/
structure EnumValueMapping where
  /-- The source value. -/
  sourceValue : String
  /-- The target value, if there is one. -/
  targetValue : Option String := none
  /-- How it was found. -/
  matchKind : Option MatchKind := none
  deriving DecidableEq, Repr, Inhabited

/-- Has the value a counterpart? -/
def EnumValueMapping.matched (v : EnumValueMapping) : Bool :=
  v.targetValue.isSome

end Mapsmith
