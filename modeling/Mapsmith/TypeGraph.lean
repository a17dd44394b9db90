import Mapsmith.Failure
import Mapsmith.TypeDescriptor

/-!
# The type graph

All types of a program, each under its qualified name. The graph answers what a name in a directive
stands for, who inherits from whom, and which types can be reached from given ones: the closure of
a directive holds everything its plan can depend on.
-/

namespace Mapsmith

/-- Why a type graph cannot be built or a type not be found in it. -/
inductive GraphError
  /-- Two types share a qualified name. -/
  | duplicate (name : String)
  /-- No type of the graph has the name. -/
  | notFound (name : String)
  /-- A class or a value that cannot be described. -/
  | undescribable (name detail : String)
  /-- A module that cannot be imported. -/
  | noModule (name detail : String)
  deriving DecidableEq, Repr

/-- The failure that a graph error is reported as. -/
def GraphError.failure : GraphError → Failure
  | duplicate name => .typeGraph ("Duplicate type in graph: '" ++ name ++ "'")
  | notFound name => .typeNotFound name
  | undescribable name detail => .unsupportedType name detail
  | noModule name detail => .typeGraph ("Cannot import module '" ++ name ++ "': " ++ detail)

/-- The types of a program, no two under one qualified name. -/
structure TypeGraph where
  /-- The types, in the order in which they were found. -/
  types : List TypeDescriptor
  /-- Qualified names are distinct. -/
  nodup : (types.map (·.qualifiedName)).Nodup

namespace TypeGraph

/-! ### Construction -/

/-- The first qualified name that stands in a list for the second time. -/
def firstRepeat? : List String → List String → Option String
  | _, [] => none
  | seen, n :: rest => if n ∈ seen then some n else firstRepeat? (n :: seen) rest

theorem nodup_of_firstRepeat?_eq_none {seen names : List String}
    (h : firstRepeat? seen names = none) : names.Nodup ∧ ∀ n ∈ names, n ∉ seen := by
  induction names generalizing seen with
  | nil => simp
  | cons n rest ih =>
    unfold firstRepeat? at h
    split at h
    · cases h
    · obtain ⟨hrest, hseen⟩ := ih h
      refine ⟨List.nodup_cons.2 ⟨fun hn => hseen n hn (List.mem_cons_self ..), hrest⟩, ?_⟩
      intro m hm
      rcases List.mem_cons.1 hm with rfl | hm
      · assumption
      · exact fun hms => hseen m hm (List.mem_cons_of_mem _ hms)

/-- The graph of the given types. -/
def ofTypes (types : List TypeDescriptor) : Except GraphError TypeGraph :=
  match h : firstRepeat? [] (types.map (·.qualifiedName)) with
  | some name => .error (.duplicate name)
  | none => .ok ⟨types, (nodup_of_firstRepeat?_eq_none h).1⟩

/-! ### Looking up -/

variable (g : TypeGraph)

/-- The type of a qualified name. -/
def get? (name : String) : Option TypeDescriptor :=
  g.types.find? (·.qualifiedName == name)

/-- The type of a qualified name, or the error that there is none. -/
def get (name : String) : Except GraphError TypeDescriptor :=
  match g.get? name with
  | some t => .ok t
  | none => .error (.notFound name)

/-- Is there a type of the qualified name? -/
def has (name : String) : Bool :=
  (g.get? name).isSome

/-- The number of types. -/
def size : Nat :=
  g.types.length

/-- Every qualified name, in order. -/
def typeNames : List String :=
  Text.sort (g.types.map (·.qualifiedName))

/-- Every type, in order of qualified names. -/
def descriptors : List TypeDescriptor :=
  g.typeNames.filterMap g.get?

/-- The qualified name that a name in a directive stands for: the name as it is, the name inside
the declaring module, or the only type with that simple name. -/
def resolve (name : String) (relativeTo : Option String) : Option String :=
  if g.has name then some name
  else
    let inModule := relativeTo.bind fun m =>
      if g.has (m ++ "." ++ name) then some (m ++ "." ++ name) else none
    match inModule with
    | some q => some q
    | none =>
      if '.' ∈ name.toList then none
      else match (g.types.filter (·.name == name)).map (·.qualifiedName) with
        | [q] => some q
        | _ => none

/-- Is the first type the second or an heir of it? -/
def isSubclass (derived base : String) : Bool :=
  derived == base || (g.get? derived).any (base ∈ ·.ancestors)

/-! ### Reachability -/

/-- The types one step away from a type: those its members' types name at any depth, its ancestors,
and what its directives and derived pairs resolve to. -/
def neighbours (t : TypeDescriptor) : List String :=
  let resolved (name : String) : List String := (g.resolve name (some t.module)).toList
  (t.members.flatMap (·.type.names) ++ t.ancestors
    ++ t.directives.flatMap (fun d => resolved d.target)
    ++ t.derived.flatMap (fun p => resolved p.source ++ resolved p.target)).filter g.has

/-- Adds everything reachable from the frontier in so many rounds. -/
def spread : Nat → List String → List String → List String
  | 0, reached, _ => reached
  | rounds + 1, reached, frontier =>
    let next := Text.distinct
      (((frontier.filterMap g.get?).flatMap g.neighbours).filter (· ∉ reached))
    if next.isEmpty then reached else spread rounds (reached ++ next) next

/-- The names reachable from given ones. Every round but the last adds a type, so there are at most
as many rounds as types. -/
def reachable (names : List String) : List String :=
  let start := Text.distinct (names.filter g.has)
  g.spread g.types.length start start

/-- The types reachable from given names, in order of qualified names. -/
def closure (names : List String) : List TypeDescriptor :=
  (Text.sort (g.reachable names)).filterMap g.get?

end TypeGraph

end Mapsmith
