import Mapsmith.EnumMatching

/-!
# Configuration

The settings of a pass. How they are read from a table and how they are written down for
comparison stands in the modules beneath.
-/

namespace Mapsmith

/-- The settings of a pass. -/
structure Config where
  /-- Groups of enum values that count as equal. -/
  equivalenceGroups : List (List String) := EnumMatching.defaultGroups
  /-- How many mappings may be planned at once. -/
  maxWorkers : Nat := 1
  /-- What a generated module's name adds to the namespace it maps into. -/
  unitSuffix : String := "_mappings"
  /-- The module that generated code takes its support from. -/
  runtimeModule : String := "map_compiler.runtime"
  /-- How many plans are remembered between passes. -/
  cacheSize : Nat := 256
  /-- The first line of a generated module. -/
  header : String := "Generated by map_compiler. Do not edit."
  deriving DecidableEq, Repr, Inhabited

end Mapsmith
