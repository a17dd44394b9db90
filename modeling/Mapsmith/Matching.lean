import Mapsmith.Correspondence
import Mapsmith.TypeGraph

/-!
# Matching members

For every member of a target type, the source member that feeds it. The search goes through tiers
and stops at the first that finds something:

1. source members bound to the target member by a declared rename;
2. on the way back of a two-way mapping, the source member that the target member's own rename
   names;
3. source members whose respelled name equals the target's name or the keyword of its constructor;
4. where flattening is allowed, the first member inside a source member whose joined name does.

Several finds in one of the first three tiers are an ambiguity. A pair found this way is then
classified by the two declared types. Classification is a pure question, `Mapsmith.Matching.needOf`,
whose answer asks for at most one routine; who supplies that routine is left open.
-/

namespace Mapsmith

/-- Why a mapping cannot be planned. -/
inductive PlanningError
  /-- A type is not in the graph. -/
  | typeNotFound (name : String)
  /-- A derived pair starts from the base itself. -/
  | repeatedBase (directive : String)
  /-- A collection has no element type. -/
  | missingElement
  /-- Planning went deeper than there are pairs of types. -/
  | tooDeep
  deriving DecidableEq, Repr

/-- The failure that a planning error is reported as; the others are no fault of a directive. -/
def PlanningError.failure? : PlanningError → Option Failure
  | typeNotFound name => some (.typeNotFound name)
  | repeatedBase directive =>
    some (.planCompilation ("Derived type mapping of " ++ directive ++ " repeats the base pair"))
  | missingElement | tooDeep => none

namespace Matching

/-! ### Finding the source member -/

/-- What a mapping chooses about its members. -/
structure Options where
  /-- How source names are respelled. -/
  strategy : NamingStrategy := .identity
  /-- May a member be read from inside another one? -/
  flatten : Bool := false
  /-- Do private members take part? -/
  includePrivate : Bool := false
  /-- Do the target's own renames count, read backwards? -/
  inverseRenames : Bool := false
  deriving DecidableEq, Repr

/-- Does the member take part as far as privacy goes? -/
def Options.admits (o : Options) (m : Member) : Bool :=
  o.includePrivate || !m.isPrivate

/-- The source members a mapping may read. -/
def sourceMembers (o : Options) (source : TypeDescriptor) : List Member :=
  source.members.filter fun m => m.readable && o.admits m

/-- The target members a mapping may fill. -/
def targetMembers (o : Options) (target : TypeDescriptor) : List Member :=
  target.members.filter fun m => m.writable && o.admits m

/-- The source members with a declared target. -/
def renamedMembers (o : Options) (source : TypeDescriptor) : List Member :=
  (sourceMembers o source).filter fun m => m.rename?.isSome && !m.ignored

/-- The source members that are found by name. -/
def plainMembers (o : Options) (source : TypeDescriptor) : List Member :=
  (sourceMembers o source).filter fun m => m.rename?.isNone && !m.ignored

/-- Does a source name feed the target member, by its name or by the keyword of its
constructor? -/
def feeds (strategy : NamingStrategy) (name : String) (target : Member) : Bool :=
  strategy.agree name target.name ||
    (target.keyword ≠ target.name && strategy.agree name target.keyword)

/-- The first tier: the source members declared to feed the target member. -/
def declaredHits (o : Options) (source : TypeDescriptor) (target : Member) : List Member :=
  (renamedMembers o source).filter fun s =>
    NamingStrategy.identity.agree (s.renameTo.getD "") target.name

/-- The second tier: the source member that the target member's rename names. -/
def inverseHits (o : Options) (source : TypeDescriptor) (target : Member) : List Member :=
  match o.inverseRenames, target.rename? with
  | true, some rename =>
    (plainMembers o source).filter fun s => NamingStrategy.identity.agree s.name rename
  | _, _ => []

/-- The third tier: the source members found by name. -/
def namedHits (o : Options) (source : TypeDescriptor) (target : Member) : List Member :=
  (plainMembers o source).filter fun s => feeds o.strategy s.name target

/-- The members of the first tier that finds any, and how they were found. -/
def hits (o : Options) (source : TypeDescriptor) (target : Member) : List Member × MatchKind :=
  match declaredHits o source target with
  | s :: ss => (s :: ss, .directive)
  | [] => match inverseHits o source target with
    | s :: ss => (s :: ss, .directive)
    | [] => (namedHits o source target, .name)

/-- A source member found for a target member. -/
structure Binding where
  /-- The member whose value is read. -/
  read : Member
  /-- How it was found. -/
  kind : MatchKind
  /-- The attributes it is read along if it stands inside another member. -/
  path : List String := []
  /-- May that other member be missing? -/
  outerNullable : Bool := false
  deriving DecidableEq, Repr

/-- The members inside a source member, if its type is an object of the graph. -/
def innerMembers (g : TypeGraph) (o : Options) (outer : Member) : List Member :=
  if outer.type.kind = .object then
    match g.get? outer.type.name with
    | some nested =>
      if nested.kind.isObject then
        nested.members.filter fun m => m.readable && !m.ignored && o.admits m
      else []
    | none => []
  else []

/-- Does the joined name of an inner member feed the target member? -/
def joinedFeeds (o : Options) (outer inner target : Member) : Bool :=
  feeds o.strategy (outer.name ++ inner.name) target ||
    feeds o.strategy (outer.name ++ "_" ++ inner.name) target

/-- The first member inside a source member that feeds the target member. -/
def flattenedBinding (g : TypeGraph) (o : Options) (source : TypeDescriptor) (target : Member) :
    Option Binding :=
  (plainMembers o source).findSome? fun outer =>
    ((innerMembers g o outer).find? fun inner => joinedFeeds o outer inner target).map fun inner =>
      ⟨inner, .flattened, [outer.name, inner.name], outer.type.nullable⟩

/-- What the search finds for a target member. -/
inductive Outcome
  /-- The member is left out. -/
  | ignored
  /-- Several source members feed it. -/
  | ambiguous (sources : List String)
  /-- Nothing feeds it. -/
  | unmatched
  /-- One source member feeds it. -/
  | bound (binding : Binding)
  deriving DecidableEq, Repr

/-- Searches the tiers for a target member. -/
def outcome (g : TypeGraph) (o : Options) (source : TypeDescriptor) (target : Member) : Outcome :=
  if target.ignored then .ignored
  else match hits o source target with
    | ([s], kind) => .bound ⟨s, kind, [], false⟩
    | (s :: ss, _) => .ambiguous ((s :: ss).map (·.name))
    | ([], _) =>
      if o.flatten then
        match flattenedBinding g o source target with
        | some b => .bound b
        | none => .unmatched
      else .unmatched

/-- What the search finds for every target member, in order of declaration. -/
def outcomes (g : TypeGraph) (o : Options) (source target : TypeDescriptor) :
    List (Member × Outcome) :=
  (targetMembers o target).map fun m => (m, outcome g o source m)

/-! ### Classifying the types -/

/-- A routine that a conversion calls for. -/
inductive Request
  /-- A routine for a pair of object types. -/
  | nested (source target : String)
  /-- A routine for a pair of enums. -/
  | enum (source target : String)
  deriving DecidableEq, Repr

/-- What it takes to turn a value of one type into a value of another. -/
inductive Need
  /-- Nothing. -/
  | direct
  /-- It cannot be done. -/
  | unconvertible
  /-- A conversion between scalars. -/
  | builtin (kind : ConversionKind) (nullable : Bool)
  /-- A routine. -/
  | routine (request : Request) (nullable : Bool)
  /-- The same for every element. -/
  | collection (element : Need) (container : Option Container) (nullable : Bool)
  deriving DecidableEq, Repr

mutual

/-- What it takes to turn a source value into a target value. -/
def needOf (g : TypeGraph) : TypeRef → TypeRef → Except PlanningError Need
  | .mk name kind args container nullable, target =>
    if (TypeRef.mk name kind args container nullable).sameType target then .ok .direct
    else match kind, target.kind with
      | .object, .object =>
        if args.isEmpty && target.args.isEmpty && g.isSubclass name target.name then .ok .direct
        else if (g.get? target.name).any (·.kind.isObject) then
          .ok (.routine (.nested name target.name) nullable)
        else .ok .unconvertible
      | .enum, .enum => .ok (.routine (.enum name target.name) nullable)
      | .collection, .collection => do
        return .collection (← elementNeed g args target.args) target.container nullable
      | .scalar, .scalar =>
        match ConversionKind.between name target.name with
        | some kind => .ok (.builtin kind nullable)
        | none => .ok .unconvertible
      | _, _ => .ok .unconvertible

/-- What it takes to turn the elements of a collection into those of another one. -/
def elementNeed (g : TypeGraph) : List TypeRef → List TypeRef → Except PlanningError Need
  | source :: _, target :: _ => needOf g source target
  | _, _ => .error .missingElement

end

namespace Need

/-- The one routine a need calls for, if any. -/
def request? : Need → Option Request
  | routine request _ => some request
  | collection element _ _ => element.request?
  | _ => none

/-- The conversion that meets a need with the routine supplied for it. A collection of elements
that cannot be converted cannot be converted either. -/
def settle (supplied : Option RoutineRef) : Need → Conversion
  | direct => .direct
  | unconvertible => .unconvertible
  | builtin kind nullable => .builtin kind nullable
  | routine request nullable => match supplied with
    | none => .unconvertible
    | some r => match request with
      | .nested _ _ => .nested r nullable
      | .enum _ _ => .enum r nullable
  | collection element container nullable =>
    let inner := element.settle supplied
    if inner.kind = .unconvertible then .unconvertible
    else .collection inner container nullable

end Need

/-- Supplies routines, keeping a state of its own. -/
abbrev Supplier (σ : Type) :=
  Request → StateT σ (Except PlanningError) (Option RoutineRef)

/-- The conversion between two types, its routine supplied on demand. -/
def classify {σ : Type} (g : TypeGraph) (supply : Supplier σ) (source target : TypeRef) :
    StateT σ (Except PlanningError) Conversion := do
  let need ← (needOf g source target : Except PlanningError Need)
  match need.request? with
  | some request => return need.settle (← supply request)
  | none => return need.settle none

/-- The supplier that names the direct routine of every pair of types in the graph. -/
def directSupplier (g : TypeGraph) : Supplier Unit := fun request =>
  let (source, target) := match request with
    | .nested s t => (s, t)
    | .enum s t => (s, t)
  match g.get? source, g.get? target with
  | some s, some t =>
    return some ⟨RoutineName.forward s.name t.name, source, target, t.module, false⟩
  | _, _ => return none

/-! ### The result -/

/-- What is known of a target member once its conversion is settled. -/
inductive Finding
  /-- The member is left out. -/
  | ignored
  /-- Several source members feed it. -/
  | ambiguous (sources : List String)
  /-- Nothing feeds it. -/
  | unmatched
  /-- A source member feeds it, with or without a conversion. -/
  | bound (mapping : PropertyMapping)
  deriving DecidableEq, Repr

/-- The mapping of a binding. -/
def Binding.toMapping (b : Binding) (target : Member) (conversion : Conversion) :
    PropertyMapping :=
  { sourceMember := b.path.headD b.read.name
    targetMember := target.name
    targetKeyword := target.keyword
    sourceType := b.read.type
    targetType := target.type
    conversion
    matchKind := b.kind
    flattenedPath := b.path
    viaConstructor := target.init
    targetSettable := target.settable
    targetRequired := target.required
    outerNullable := b.outerNullable }

/-- Settles the outcome for one target member. -/
def settle {σ : Type} (g : TypeGraph) (supply : Supplier σ) (target : Member) :
    Outcome → StateT σ (Except PlanningError) Finding
  | .ignored => return .ignored
  | .ambiguous sources => return .ambiguous sources
  | .unmatched => return .unmatched
  | .bound b => do
    return .bound (b.toMapping target (← classify g supply b.read.type target.type))

/-- Settles the outcomes in order. -/
def settleAll {σ : Type} (g : TypeGraph) (supply : Supplier σ) :
    List (Member × Outcome) → StateT σ (Except PlanningError) (List (Member × Finding))
  | [] => return []
  | (m, o) :: rest => do
    let finding ← settle g supply m o
    return (m, finding) :: (← settleAll g supply rest)

/-- The mapping a finding stands for, if its value can be converted. -/
def Finding.mapping? : Finding → Option PropertyMapping
  | .bound m => if m.conversion.kind = .unconvertible then none else some m
  | _ => none

/-- The member without a conversion that a finding stands for. -/
def Finding.unconvertible? : Finding → Option UnconvertibleMember
  | .bound m =>
    if m.conversion.kind = .unconvertible then
      some ⟨".".intercalate m.sourcePath, m.sourceType, m.targetMember, m.targetType,
        m.targetRequired⟩
    else none
  | _ => none

/-- The renames of a source type that no target member answers to. -/
def danglingRenames (o : Options) (source target : TypeDescriptor) : List DanglingRename :=
  let targets := target.members.map fun m => Text.casefold m.name
  (renamedMembers o source).filterMap fun m =>
    let rename := m.renameTo.getD ""
    if Text.casefold rename ∈ targets then none else some ⟨m.name, rename⟩

/-- Sorts the findings into a result. -/
def assemble (o : Options) (source target : TypeDescriptor) (findings : List (Member × Finding)) :
    MatchResult :=
  { mappings := findings.filterMap (·.2.mapping?)
    unmatched := findings.filterMap fun (m, f) => if f = .unmatched then some m.name else none
    ignored := ((sourceMembers o source).filter (·.ignored)).map (·.name) ++
      findings.filterMap fun (m, f) => if f = .ignored then some m.name else none
    unconvertible := findings.filterMap (·.2.unconvertible?)
    danglingRenames := danglingRenames o source target
    ambiguous := findings.filterMap fun (m, f) => match f with
      | .ambiguous sources => some ⟨m.name, sources⟩
      | _ => none }

/-- Matches the members of two types. -/
def matchMembers {σ : Type} (g : TypeGraph) (supply : Supplier σ) (o : Options)
    (source target : TypeDescriptor) : StateT σ (Except PlanningError) MatchResult := do
  let findings ← settleAll g supply (outcomes g o source target)
  return assemble o source target findings

end Matching

end Mapsmith
