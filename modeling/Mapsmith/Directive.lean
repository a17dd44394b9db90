import Mapsmith.Location
import Mapsmith.Naming
import Mapsmith.Value

/-!
# Mapping directives

A directive asks for a mapping from one type to another. It names both types, chooses which
variants of the mapping are generated, how member names are compared, and which methods of the
source type run before and after. The pairs of derived types turn a mapping of a base type into a
dispatch over its subtypes.
-/

namespace Mapsmith

/-- A pair of derived types, source and target, under a mapping of their bases. -/
structure DerivedPair where
  /-- The derived source type. -/
  source : String
  /-- The derived target type. -/
  target : String
  deriving DecidableEq, Repr, Inhabited

/-- A flag of a directive, as it is declared. Any value may be given for it. -/
structure Switch where
  /-- The value that is given. -/
  value : Value := .bool false
  deriving DecidableEq, Repr, Inhabited

/-- Is the flag on? It is if its value counts as true. -/
def Switch.isOn (s : Switch) : Bool :=
  s.value.isTruthy

/-- A request for a mapping from a source type to a target type. -/
structure Directive where
  /-- The source type. -/
  source : String
  /-- The target type. -/
  target : String
  /-- Is the mapping back wanted as well? -/
  bidirectional : Switch := {}
  /-- May a member be read from inside another one? -/
  flattening : Switch := {}
  /-- Is a projection wanted? -/
  projection : Switch := {}
  /-- Is a routine wanted that copies onto an existing target? -/
  update : Switch := {}
  /-- Do private members take part? -/
  includePrivate : Switch := {}
  /-- The method called before the members are read. -/
  beforeMap : Option String := none
  /-- The method called on both values at the end. -/
  afterMap : Option String := none
  /-- The method that makes the target, in place of its constructor. -/
  factory : Option String := none
  /-- How source names are respelled before they are compared. -/
  strategy : NamingStrategy := .identity
  /-- The derived pairs the mapping dispatches over. -/
  derived : List DerivedPair := []
  /-- Where the directive is declared. -/
  location : Option Location := none
  deriving DecidableEq, Repr, Inhabited

namespace Directive

/-- Source and target. -/
def pair (d : Directive) : String × String :=
  (d.source, d.target)

/-- The methods the mapping calls, those with a name. -/
def hooks (d : Directive) : List String :=
  ([d.beforeMap, d.afterMap, d.factory].filterMap id).filter (· ≠ "")

/-- The directive of the way back. Hooks, derived pairs and the extra variants belong to the
declared direction only. -/
def reversed (d : Directive) : Directive :=
  { source := d.target, target := d.source, flattening := d.flattening,
    includePrivate := d.includePrivate, strategy := d.strategy, location := d.location }

/-- The directive in a message. -/
def describe (d : Directive) : String :=
  d.source ++ " -> " ++ d.target

/-- Every type the directive names. -/
def typeNames (d : Directive) : List String :=
  d.source :: d.target :: d.derived.flatMap fun p => [p.source, p.target]

end Directive

end Mapsmith
