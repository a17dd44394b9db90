import Mapsmith.Config
import Mapsmith.Emission.Code
import Mapsmith.Plan
import Mapsmith.Text.Identifier
import Mapsmith.TypeGraph

/-!
# Rendering plans

The routines a plan stands for. A mapping between object types becomes a routine that builds the
target, and where its directive asks for them a routine that copies onto an existing target and one
that makes a projection; a mapping between enums becomes a routine that goes through their values.
-/

namespace Mapsmith.Emission

/-- The module generated for a namespace. -/
def unitModule (config : Config) (ns : String) : String :=
  ns ++ config.unitSuffix

/-- Where code is generated: under some settings, for one namespace. -/
structure Site where
  /-- The settings. -/
  config : Config
  /-- The namespace. -/
  ns : String

namespace Site

variable (site : Site)

/-- How the site's code calls a routine: by its name if it is in the same module, and through its
own module otherwise. -/
def callee (r : RoutineRef) : Callee :=
  if r.helper || r.home = site.ns then .sibling r.name
  else .inModule (unitModule site.config r.home) r.name

/-! ### Values -/

/-- What a conversion between scalars writes around a value. -/
def builtin? (p : Place) : ConversionKind → Option Expr
  | .toText => some (.call (.builtin "str") p)
  | .toIsoText => some (.isoText p)
  | .toFloat | .parseFloat => some (.call (.builtin "float") p)
  | .toDecimal | .parseDecimal => some (.call (.inModule "decimal" "Decimal") p)
  | .parseInt => some (.call (.builtin "int") p)
  | .parseBool => some (.call (.support "parse_bool") p)
  | .parseUuid => some (.call (.inModule "uuid" "UUID") p)
  | .parseDatetime => some (.call (.inModule "datetime" "datetime.fromisoformat") p)
  | .parseDate => some (.call (.inModule "datetime" "date.fromisoformat") p)
  | .parseTime => some (.call (.inModule "datetime" "time.fromisoformat") p)
  | _ => none

/-- The variable that the elements of a collection go by at a depth. -/
def itemName (depth : Nat) : String :=
  if depth = 0 then "item" else "item_" ++ toString depth

/-- The expression that converts the value of a place, inside so many collections. -/
def convert (depth : Nat) (p : Place) : Conversion → Except EmissionError Expr
  | .mk kind routine element container nullable => do
    let passMissing (e : Expr) : Expr := if nullable then .unlessMissing p e else e
    match kind with
    | .direct => return .place p
    | .nested | .enum => match routine with
      | some r => return passMissing (.call (site.callee r) p)
      | none => .error (.noRoutine kind.word p.text)
    | .collection => match element, container with
      | some inner, some c =>
        let item := itemName depth
        return passMissing (.rebuilt c (← convert (depth + 1) ⟨item, []⟩ inner) item p)
      | _, _ => .error (.noElement p.text)
    | _ => match builtin? p kind with
      | some e => return passMissing e
      | none => .error (.noConversion kind.word p.text)

/-- The expression that makes the value of a target member. -/
def value (m : PropertyMapping) : Except EmissionError Expr := do
  let e ← site.convert 0 ⟨"source", m.sourcePath⟩ m.conversion
  if m.isFlattened && m.outerNullable then
    let nests := m.conversion.nullable && m.conversion.kind ≠ .direct
    return .unlessMissing ⟨"source", m.sourcePath.take 1⟩ (if nests then .grouped e else e)
  else return e

/-- The value of a mapping beside a name. -/
def named (name : String) (m : PropertyMapping) : Except EmissionError (String × Expr) := do
  return (name, ← site.value m)

/-! ### Statements of a mapping between object types -/

/-- The class a descriptor stands for, with its open type parameters. -/
def classType (t : TypeDescriptor) : ClassType :=
  ⟨t.qualifiedName, t.genericParameters.map (·.name)⟩

/-- The constructor call with some mappings as arguments. Keywords that are no identifiers are
passed as the entries of a dictionary. -/
def construction (target : TypeDescriptor) (mappings : List PropertyMapping) :
    Except EmissionError Construction := do
  let (plain, odd) := mappings.partition fun m => Text.isIdentifier m.targetKeyword
  return ⟨target.qualifiedName, ← plain.mapM fun m => site.named m.targetKeyword m,
    ← odd.mapM fun m => site.named m.targetKeyword m⟩

/-- The assignments of some mappings to the target. -/
def assignments (mappings : List PropertyMapping) : Except EmissionError (List Statement) :=
  mappings.mapM fun m => do return .assign m.targetMember (← site.value m)

/-- Is neither type of the mapping ever the exact class of a value? -/
def isAbstract (m : ObjectMapping) : Bool :=
  m.source.isAbstract || m.target.isAbstract

/-- The dispatch over derived types, and what becomes of other values. -/
def dispatch (m : ObjectMapping) : List Statement :=
  if m.dispatch.isEmpty then []
  else
    [.dispatch (m.dispatch.map fun entry => (entry.source, site.callee entry.routine)),
      if isAbstract m then .refuseAll m.source.qualifiedName
      else .refuseSubclasses m.source.qualifiedName]

/-- The hook that runs first. -/
def beforeHook (m : ObjectMapping) : List Statement :=
  m.directive.beforeMap.toList.map (.beforeHook m.source.qualifiedName)

/-- The hook that runs last. -/
def afterHook (m : ObjectMapping) : List Statement :=
  m.directive.afterMap.toList.map (.afterHook m.source.qualifiedName)

/-- The statements that build the target and give it back. -/
def build (m : ObjectMapping) : Except EmissionError (List Statement) := do
  match m.directive.factory with
  | some factory =>
    return .fromFactory m.source.qualifiedName factory :: (← site.assignments m.mappings)
      ++ afterHook m ++ [.returnTarget]
  | none =>
    let (init, assigned) := m.mappings.partition (·.viaConstructor)
    let call ← site.construction m.target init
    if assigned.isEmpty && m.directive.afterMap.isNone then return [.returnConstruct call]
    else
      return .construct call :: (← site.assignments assigned) ++ afterHook m ++ [.returnTarget]

/-- The words for a pair of types in a docstring. -/
def pairWords (lead source middle target close : String) : Statement :=
  .docstring (lead ++ "``" ++ source ++ "``" ++ middle ++ "``" ++ target ++ "``" ++ close)

/-- The routine that builds the target. -/
def forward (isPublic : Bool) (m : ObjectMapping) : Except EmissionError Routine := do
  let doc := if isPublic then [pairWords "Map " m.source.name " to " m.target.name "."] else []
  let rest ←
    if !m.dispatch.isEmpty && isAbstract m then pure []
    else (beforeHook m ++ ·) <$> site.build m
  return ⟨m.routine.name, .maps (classType m.source) (classType m.target),
    doc ++ site.dispatch m ++ rest, isPublic⟩

/-- The routine that copies onto an existing target. -/
def update (name : String) (m : ObjectMapping) : Except EmissionError Routine := do
  return ⟨name, .updates (classType m.source) (classType m.target),
    pairWords "Copy " m.source.name " members onto an existing " m.target.name "." ::
      beforeHook m ++ (← site.assignments m.mappings) ++ afterHook m, true⟩

/-- The member that a projection selects for a mapping. -/
def projectedMember (m : PropertyMapping) : ProjectedMember :=
  ⟨m.targetMember, m.targetKeyword, m.sourcePath, m.viaConstructor,
    m.conversion.routine.map site.callee⟩

/-- The routine that makes the projection. -/
def projection (name : String) (m : ObjectMapping) : Routine :=
  ⟨name, .projects (classType m.target),
    [pairWords "Side-effect-free selection of " m.target.name " members from " m.source.name ".",
      .returnProjection m.source.qualifiedName m.target.qualifiedName
        (m.projection.map site.projectedMember)], true⟩

/-- The routines of a mapping between object types. The private ones come without variants. -/
def objectRoutines (isPublic : Bool) (m : ObjectMapping) :
    Except EmissionError (List Routine) := do
  let first ← site.forward isPublic m
  if isPublic then
    let updates ← m.updateRoutine.toList.mapM fun name => site.update name m
    return first :: updates ++ m.projectionRoutine.toList.map fun name => site.projection name m
  else return [first]

/-! ### Enums -/

/-- A value and its counterpart, both as attributes of their enums. -/
def enumCase (value counterpart : String) : Except EmissionError (String × String) :=
  if !Text.isIdentifier value then .error (.badEnumValue value)
  else if !Text.isIdentifier counterpart then .error (.badEnumValue counterpart)
  else .ok (value, counterpart)

/-- The routine of a mapping between enums. -/
def enumRoutine (isPublic : Bool) (m : EnumMapping) : Except EmissionError Routine := do
  let doc :=
    if isPublic then [pairWords "Map " m.source.name " values to " m.target.name "."] else []
  let cases ← (m.values.filterMap fun v => v.targetValue.map fun t => (v.sourceValue, t)).mapM
    fun (value, counterpart) => enumCase value counterpart
  return ⟨m.routine.name, .maps ⟨m.source.qualifiedName, []⟩ ⟨m.target.qualifiedName, []⟩,
    doc ++ [.matchValues m.source.qualifiedName m.target.qualifiedName cases], isPublic⟩

/-- The routines of a mapping. -/
def routines (isPublic : Bool) : Mapping → Except EmissionError (List Routine)
  | .object m => site.objectRoutines isPublic m
  | .enum m => do return [← enumRoutine isPublic m]

end Site

end Mapsmith.Emission
