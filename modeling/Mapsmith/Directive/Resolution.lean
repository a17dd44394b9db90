import Mapsmith.Diagnostic
import Mapsmith.TypeGraph

/-!
# Resolving directives

The directives declared on the types of a graph, with every name in them replaced by the qualified
name it stands for. The derived pairs of a class belong to each of its directives. A name that
stands for nothing is reported; a directive whose target is such a name is dropped, and so is such
a derived pair.
-/

namespace Mapsmith.Directive.Resolution

/-- What resolving yields: directives, and reports about names. -/
structure Result where
  /-- The resolved directives. -/
  directives : List Directive := []
  /-- The names that stand for nothing. -/
  diagnostics : List Diagnostic := []
  deriving Repr

/-- One result after another. -/
def Result.append (a b : Result) : Result :=
  ⟨a.directives ++ b.directives, a.diagnostics ++ b.diagnostics⟩

/-- The report that a name in a declaration on a type stands for nothing. -/
def unresolved (t : TypeDescriptor) (name : String) : Diagnostic :=
  ⟨.unresolvedType name t.name, t.anchor⟩

/-- The reports about the names of a derived pair. -/
def pairDiagnostics (g : TypeGraph) (t : TypeDescriptor) (pair : DerivedPair) : List Diagnostic :=
  ([pair.source, pair.target].filter fun name => (g.resolve name (some t.module)).isNone).map
    (unresolved t)

/-- A derived pair with its names resolved, if both can be. -/
def resolvePair (g : TypeGraph) (t : TypeDescriptor) (pair : DerivedPair) : Option DerivedPair := do
  return ⟨← g.resolve pair.source (some t.module), ← g.resolve pair.target (some t.module)⟩

/-- Resolves a directive declared on a type. -/
def resolveOne (g : TypeGraph) (t : TypeDescriptor) (derived : List DerivedPair) (d : Directive) :
    Result :=
  match g.resolve d.target (some t.module) with
  | some target =>
    { directives := [{ d with
        source := t.qualifiedName, target, derived, location := some (d.location.getD t.anchor) }] }
  | none => { diagnostics := [unresolved t d.target] }

/-- Resolves the directives declared on a type. -/
def ofType (g : TypeGraph) (t : TypeDescriptor) : Result :=
  if t.directives.isEmpty then {}
  else
    let derived := t.derived.filterMap (resolvePair g t)
    t.directives.foldl (fun result d => result.append (resolveOne g t derived d))
      { diagnostics := t.derived.flatMap (pairDiagnostics g t) }

/-- Resolves the directives of all types, in order of qualified names. -/
def ofGraph (g : TypeGraph) : Result :=
  g.descriptors.foldl (fun result t => result.append (ofType g t)) {}

end Mapsmith.Directive.Resolution
