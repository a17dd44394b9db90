import Mapsmith.Correspondence

/-!
# Mapping plans

A plan says everything about one requested mapping that rendering it needs. A mapping between
object types lists its member correspondences; a mapping between enums lists its value table. A
plan adds to the mapping of the declared direction the one of the way back, and the private
mappings of nested pairs that nobody declared.
-/

namespace Mapsmith

/-- A branch of a dispatch over derived types. -/
structure DispatchEntry where
  /-- The derived source type. -/
  source : String
  /-- The derived target type. -/
  target : String
  /-- The routine that maps the pair. -/
  routine : RoutineRef
  deriving DecidableEq, Repr, Inhabited

/-- A mapping between two object types in one direction. -/
structure ObjectMapping where
  /-- What asked for it. -/
  directive : Directive
  /-- The source type. -/
  source : TypeDescriptor
  /-- The target type. -/
  target : TypeDescriptor
  /-- The routine that performs it. -/
  routine : RoutineRef
  /-- The correspondences of members. -/
  result : MatchResult := {}
  /-- The routine that copies onto an existing target. -/
  updateRoutine : Option String := none
  /-- The routine that makes the projection. -/
  projectionRoutine : Option String := none
  /-- The correspondences that the projection keeps. -/
  projection : List PropertyMapping := []
  /-- The target members that the projection leaves out. -/
  projectionExcluded : List String := []
  /-- The dispatch over derived types. -/
  dispatch : List DispatchEntry := []
  /-- The type parameters of both types. -/
  genericParameters : List GenericParameter := []
  deriving DecidableEq, Repr, Inhabited

namespace ObjectMapping

/-- The member correspondences. -/
def mappings (m : ObjectMapping) : List PropertyMapping :=
  m.result.mappings

/-- The correspondence of a target member. -/
def mappingFor (m : ObjectMapping) (target : String) : Option PropertyMapping :=
  m.mappings.find? (·.targetMember == target)

end ObjectMapping

/-- A mapping between two enums in one direction. -/
structure EnumMapping where
  /-- What asked for it. -/
  directive : Directive
  /-- The source type. -/
  source : TypeDescriptor
  /-- The target type. -/
  target : TypeDescriptor
  /-- The routine that performs it. -/
  routine : RoutineRef
  /-- The table of values. -/
  values : List EnumValueMapping := []
  deriving DecidableEq, Repr, Inhabited

/-- The source values without a counterpart. -/
def EnumMapping.unmapped (m : EnumMapping) : List String :=
  (m.values.filter fun v => !v.matched).map (·.sourceValue)

/-- A mapping of one direction, of either kind. -/
inductive Mapping
  /-- Between object types. -/
  | object (mapping : ObjectMapping)
  /-- Between enums. -/
  | enum (mapping : EnumMapping)
  deriving DecidableEq, Repr

namespace Mapping

/-- The routine that performs the mapping. -/
def routine : Mapping → RoutineRef
  | object m => m.routine
  | enum m => m.routine

/-- The source type. -/
def source : Mapping → TypeDescriptor
  | object m => m.source
  | enum m => m.source

/-- The target type. -/
def target : Mapping → TypeDescriptor
  | object m => m.target
  | enum m => m.target

/-- What asked for the mapping. -/
def directive : Mapping → Directive
  | object m => m.directive
  | enum m => m.directive

/-- The dispatch over derived types. -/
def dispatch : Mapping → List DispatchEntry
  | object m => m.dispatch
  | enum _ => []

/-- The routines that the mapping calls: those of its members' conversions, then those of its
dispatch. -/
def calls : Mapping → List RoutineRef
  | object m => m.mappings.flatMap (·.conversion.routines)
  | enum _ => []

end Mapping

/-- Everything about one requested mapping. -/
inductive Plan
  /-- A mapping of object types, its way back, and the private mappings it uses by the order of
  their routines' names. -/
  | object (forward : ObjectMapping) (reverse : Option ObjectMapping) (helpers : List Mapping)
  /-- A mapping of enums and its way back. -/
  | enum (forward : EnumMapping) (reverse : Option EnumMapping)
  deriving DecidableEq, Repr

namespace Plan

/-- The mapping of the declared direction. -/
def forward : Plan → Mapping
  | object m _ _ => .object m
  | enum m _ => .enum m

/-- The mapping of the way back. -/
def reverse? : Plan → Option Mapping
  | object _ r _ => r.map .object
  | enum _ r => r.map .enum

/-- The private mappings of pairs that nobody declared. -/
def helpers : Plan → List Mapping
  | object _ _ helpers => helpers
  | enum _ _ => []

/-- What asked for the plan. -/
def directive (p : Plan) : Directive :=
  p.forward.directive

/-- The source type. -/
def source (p : Plan) : TypeDescriptor :=
  p.forward.source

/-- The target type. -/
def target (p : Plan) : TypeDescriptor :=
  p.forward.target

/-- The namespace whose unit holds the plan's routines. -/
def home (p : Plan) : String :=
  p.forward.routine.home

/-- Where diagnostics about the plan point. -/
def location (p : Plan) : Location :=
  p.directive.location.getD p.source.anchor

/-- The public mappings of the plan: the declared direction and the way back. -/
def publicMappings (p : Plan) : List Mapping :=
  p.forward :: p.reverse?.toList

end Plan

end Mapsmith
