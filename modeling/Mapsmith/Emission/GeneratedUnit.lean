import Mapsmith.Emission.Rendering

/-!
# Generated units

A unit is the module generated for one namespace. It holds the public mappings of all plans into
that namespace, ordered by target and source, and after them the private mappings these use, each
name once. Routines of other units are reached through their modules, so units may refer to each
other freely.
-/

namespace Mapsmith.Emission

/-- A generated module. -/
structure GeneratedUnit where
  /-- Its dotted name. -/
  module : String
  /-- The namespace it maps into. -/
  ns : String
  /-- Its text. -/
  source : String
  /-- The routines it offers, in order. -/
  routines : List String
  deriving DecidableEq, Repr, Inhabited

/-! ### What a unit holds -/

/-- Plans in the order of a unit: by target name, then by source name. -/
def sortPlans (plans : List Plan) : List Plan :=
  Text.sortByKey (fun p => [p.target.name, p.source.name]) plans

/-- The private mappings of some plans, the first of every name, in the order of names. -/
def helperMappings (plans : List Plan) : List Mapping :=
  let first := (plans.flatMap (·.helpers)).foldl
    (fun seen h => if seen.any (·.routine.name == h.routine.name) then seen else seen ++ [h]) []
  Text.sortByKey (fun h => [h.routine.name]) first

/-- The mappings of a unit over sorted plans, each with whether it is public. -/
def unitMappings (plans : List Plan) : List (Bool × Mapping) :=
  (plans.flatMap fun p => p.publicMappings.map fun m => (true, m))
    ++ (helperMappings plans).map fun m => (false, m)

/-- The names of a mapping that classes must not take. -/
def reservedBy : Mapping → List String
  | .object m => m.routine.name ::
      ((m.updateRoutine.toList ++ m.projectionRoutine.toList).filter (· ≠ ""))
      ++ m.genericParameters.map (·.name)
  | .enum m => [m.routine.name]

/-- The names that classes must not take in any unit. -/
def commonReserved : List String :=
  ["source", "target", "exc", "item", "typing", "datetime", "decimal", "uuid", runtimeAlias]

/-- A type as a class to be imported. -/
def importedClass (t : TypeDescriptor) : ImportedClass :=
  ⟨t.qualifiedName, t.module, t.name⟩

/-- A type of the graph that a dispatch names. -/
def dispatchType (graph : Option TypeGraph) (d : Directive) (name : String) :
    Except EmissionError TypeDescriptor :=
  match graph.bind (·.get? name) with
  | some t => .ok t
  | none => .error (.unknownType name d.describe)

/-- The types that a mapping's routines refer to. -/
def referredTypes (graph : Option TypeGraph) (m : Mapping) :
    Except EmissionError (List TypeDescriptor) := do
  let derived ← m.dispatch.mapM fun entry => dispatchType graph m.directive entry.source
  return m.source :: m.target :: derived

/-- The import table of a unit, closed, without its modules. -/
def importTable (graph : Option TypeGraph) (mappings : List Mapping) :
    Except EmissionError ImportTable := do
  let types ← mappings.mapM (referredTypes graph)
  let table ← (types.flatten.map importedClass).foldlM (fun table c => table.addClass c)
    { reserved := commonReserved ++ mappings.flatMap reservedBy : ImportTable }
  return table.close

/-- The type parameters of the routines that build objects, each name once, in the order of names. -/
def typeVariables (mappings : List Mapping) : List GenericParameter :=
  let parameters := mappings.flatMap fun m => match m with
    | .object o => o.genericParameters
    | .enum _ => []
  let first := parameters.foldl
    (fun seen q => if seen.any (·.name == q.name) then seen else seen ++ [q]) []
  Text.sortByKey (fun q => [q.name]) first

/-! ### The text of a unit -/

/-- The line that declares a type variable. -/
def typeVariableLine (q : GenericParameter) : String :=
  let arguments := Text.quote q.name :: q.constraints.map Text.quote
    ++ q.bound.toList.map (fun bound => "bound=" ++ Text.quote bound)
    ++ (if q.covariant then ["covariant=True"] else [])
    ++ (if q.contravariant then ["contravariant=True"] else [])
  q.name ++ " = typing.TypeVar(" ++ ", ".intercalate arguments ++ ")"

/-- The modules that the routines of a unit need imported. -/
def neededModules (routines : List Routine) (parameters : List GenericParameter) : List String :=
  (if parameters.isEmpty then [] else ["typing"])
    ++ routines.flatMap fun r => r.body.flatMap (·.modules)

/-- Do the routines of a unit need the support module? -/
def needsSupport (routines : List Routine) : Bool :=
  routines.any fun r => r.body.any (·.usesSupport)

/-- The import table with everything that the routines of a unit need. -/
def completeImports (config : Config) (table : ImportTable) (routines : List Routine)
    (parameters : List GenericParameter) : ImportTable :=
  let table := (neededModules routines parameters).foldl (fun t m => t.addModule m) table
  if needsSupport routines then table.setRuntime config.runtimeModule runtimeAlias else table

/-- Everything above the routines. -/
def preamble (config : Config) (ns : String) (table : ImportTable)
    (parameters : List GenericParameter) (offered : List String) : List Layout :=
  [.line ("\"\"\"" ++ config.header), .blank 1, .line ("Mappings into ``" ++ ns ++ "``.\"\"\""),
    .blank 1, .line "from __future__ import annotations", .blank 1]
  ++ table.lines.map .line
  ++ (if parameters.isEmpty then [] else .blank 1 :: parameters.map fun q => .line (typeVariableLine q))
  ++ [.blank 1, .line "__all__ = ["]
  ++ (offered.map fun name => .line ("    " ++ Text.quote name ++ ","))
  ++ [.line "]"]

/-- Generates the unit of a namespace from its plans. -/
def generateUnit (config : Config) (graph : Option TypeGraph) (ns : String) (plans : List Plan) :
    Except EmissionError GeneratedUnit := do
  let mappings := unitMappings (sortPlans plans)
  let table ← importTable graph (mappings.map (·.2))
  let routines := (← mappings.mapM fun (isPublic, m) =>
    Site.routines ⟨config, ns⟩ isPublic m).flatten
  let parameters := typeVariables (mappings.map (·.2))
  let offered := (routines.filter (·.isPublic)).map (·.name)
  let imports := completeImports config table routines parameters
  let names (qualified : String) : String := (table.ref? qualified).getD qualified
  return { module := unitModule config ns, ns
           source := Layout.render (preamble config ns imports parameters offered)
             ++ Layout.render (routines.flatMap (·.layout names))
           routines := offered }

/-! ### All units -/

/-- The namespaces of some plans, in order. -/
def namespaces (plans : List Plan) : List String :=
  Text.sort (Text.distinct (plans.map (·.home)))

/-- The plans of a namespace. -/
def plansOf (plans : List Plan) (ns : String) : List Plan :=
  plans.filter (·.home == ns)

/-- Generates one unit for every namespace, in the order of namespaces. -/
def generateUnits (config : Config) (graph : Option TypeGraph) (plans : List Plan) :
    Except EmissionError (List GeneratedUnit) :=
  (namespaces plans).mapM fun ns => generateUnit config graph ns (plansOf plans ns)

end Mapsmith.Emission
