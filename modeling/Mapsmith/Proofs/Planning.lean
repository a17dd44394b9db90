import Mapsmith.Planning
import Mapsmith.Proofs.Index
import Mapsmith.Proofs.Matching

/-!
# Planning without the table

Planning a directive fills a table of private mappings on the way, cuts cycles at the pairs that are
being planned, and uses a private mapping that exists under a name as it is. None of this shows in a
mapping that it makes: the routine that a member's conversion calls is settled by the index, the
types and the naming strategy alone (`Mapsmith.Planning.answer`), so a mapping that comes out of a
run is the one under these answers (`Mapsmith.Planning.objectMapping_run`). What the run adds is the
table, and the invariant `Mapsmith.Planning.Table` says what stands in it: every entry is made for a
request that was called for, and every private routine that an entry calls stands in the table too,
or is that of a pair whose planning is still under way.
-/

namespace Mapsmith

open Matching

/-! ### The routines that a mapping uses -/

namespace Mapping

/-- The routines that a mapping uses for its members, each with the kind of conversion it is called
for. -/
def uses : Mapping → List (ConversionKind × RoutineRef)
  | .object m => m.mappings.flatMap (·.conversion.uses)
  | .enum _ => []

theorem mem_calls_iff {m : Mapping} {r : RoutineRef} :
    r ∈ m.calls ↔ ∃ kind, (kind, r) ∈ m.uses := by
  cases m with
  | enum m => simp [calls, uses]
  | object m =>
    simp only [calls, uses, List.mem_flatMap, Conversion.mem_routines]
    constructor
    · rintro ⟨c, hc, kind, h⟩
      exact ⟨kind, c, hc, h⟩
    · rintro ⟨kind, c, hc, h⟩
      exact ⟨c, hc, kind, h⟩

end Mapping

/-! ### The table of private mappings -/

namespace HelperTable

variable {table : HelperTable} {name key : String} {m : Mapping} {e : String × Mapping}

theorem contains_iff : table.contains name = true ↔ name ∈ table.map (·.1) := by
  simp only [contains, List.any_eq_true, beq_iff_eq, List.mem_map]

theorem names_insert : (table.insert name m).map (·.1) =
    if name ∈ table.map (·.1) then table.map (·.1) else table.map (·.1) ++ [name] := by
  have hinsert : table.insert name m = if table.contains name then
      table.map fun entry => if entry.1 = name then (name, m) else entry
    else table ++ [(name, m)] := rfl
  rw [hinsert]
  by_cases hmem : name ∈ table.map (·.1)
  · rw [if_pos (contains_iff.2 hmem), if_pos hmem, List.map_map]
    refine List.map_congr_left fun entry _ => ?_
    by_cases hname : entry.1 = name
    · simp [hname]
    · simp [hname]
  · rw [if_neg (mt contains_iff.1 hmem), if_neg hmem, List.map_append, List.map_singleton]

theorem contains_insert :
    (table.insert name m).contains key = true ↔ key = name ∨ table.contains key = true := by
  rw [contains_iff, contains_iff, names_insert]
  split
  next hmem =>
    refine ⟨.inr, ?_⟩
    rintro (rfl | h)
    · exact hmem
    · exact h
  · rw [List.mem_append, List.mem_singleton, or_comm]

theorem mem_of_mem_insert (h : e ∈ table.insert name m) : e = (name, m) ∨ e ∈ table := by
  unfold insert at h
  split at h
  · obtain ⟨entry, hentry, heq⟩ := List.mem_map.1 h
    split at heq
    · exact .inl heq.symm
    · exact .inr (heq ▸ hentry)
  · rcases List.mem_append.1 h with h | h
    · exact .inr h
    · exact .inl (List.mem_singleton.1 h)

theorem nodup_insert (h : (table.map (·.1)).Nodup) : ((table.insert name m).map (·.1)).Nodup := by
  rw [names_insert]
  split
  · exact h
  next hmem =>
    refine List.nodup_append.2 ⟨h, List.nodup_singleton _, fun a ha b hb hab => hmem ?_⟩
    rwa [← List.mem_singleton.1 hb, ← hab]

theorem sorted_perm : table.sorted.Perm (table.map (·.2)) :=
  (Text.sortByKey_perm _ table).map _

end HelperTable

namespace Planning

variable {p : Planning}

/-! ### Settled answers -/

theorem getType_eq_ok {n : String} {t : TypeDescriptor} :
    p.getType n = .ok t ↔ p.graph.get? n = some t := by
  unfold getType
  cases p.graph.get? n with
  | none => simp
  | some u => simp

/-- The name of the private routine that a request is answered with, if no directive maps its pair
and the pair can be mapped. -/
def privateName? (p : Planning) (strategy : NamingStrategy) (request : Request) : Option String :=
  match p.index.routineFor request.source request.target, p.graph.get? request.source,
    p.graph.get? request.target with
  | none, some s, some t => match request with
    | .enum .. => some (RoutineName.helper s.name t.name)
    | .nested .. =>
      if s.kind = .enum || !t.kind.isObject then none else some (helperName s t strategy)
  | _, _, _ => none

/-- The private routine for a request, as it is called from the mappings of a namespace. -/
def privateRef (home : String) (request : Request) (name : String) : RoutineRef :=
  ⟨name, request.source, request.target, home, true⟩

/-- The routine that a request is answered with. -/
def answer (p : Planning) (home : String) (strategy : NamingStrategy) (request : Request) :
    Option RoutineRef :=
  (p.index.routineFor request.source request.target).or
    ((p.privateName? strategy request).map (privateRef home request))

section Answers

variable {home name : String} {strategy : NamingStrategy} {request : Request} {r : RoutineRef}

theorem routineFor_of_privateName? (h : p.privateName? strategy request = some name) :
    p.index.routineFor request.source request.target = none := by
  unfold privateName? at h
  split at h
  next hroutine _ _ => exact hroutine
  · cases h

/-- A request is answered with the routine of a directive, or with a private one. -/
theorem answer_eq_some :
    p.answer home strategy request = some r ↔
      p.index.routineFor request.source request.target = some r ∨
        ∃ name, p.privateName? strategy request = some name ∧ r = privateRef home request name := by
  unfold answer
  cases hroutine : p.index.routineFor request.source request.target with
  | some q =>
    rw [Option.some_or]
    refine ⟨.inl, ?_⟩
    rintro (h | ⟨name, hname, -⟩)
    · exact h
    · rw [routineFor_of_privateName? hname] at hroutine
      cases hroutine
  | none =>
    rw [Option.none_or, Option.map_eq_some_iff]
    simp only [reduceCtorEq, false_or]
    exact exists_congr fun name => and_congr_right fun _ => eq_comm

theorem answer_private (h : p.answer home strategy request = some r) (hr : r.helper = true) :
    ∃ name, p.privateName? strategy request = some name ∧ r = privateRef home request name := by
  rcases answer_eq_some.1 h with h | h
  · rw [DirectiveIndex.helper_of_routineFor h] at hr
    cases hr
  · exact h

theorem answer_public (h : p.answer home strategy request = some r) (hr : r.helper = false) :
    p.index.routineFor request.source request.target = some r := by
  rcases answer_eq_some.1 h with h | ⟨name, -, rfl⟩
  · exact h
  · cases hr

end Answers

/-! ### Mappings under settled answers -/

/-- What a directive chooses about its members, there or on the way back. -/
def options (inverseRenames : Bool) (d : Directive) : Options :=
  { strategy := d.strategy, flatten := d.flattening.isOn, includePrivate := d.includePrivate.isOn,
    inverseRenames }

/-- Is nothing matched between two types, the one being an enum or the other not to be built? -/
def Unmatchable (source target : TypeDescriptor) : Prop :=
  (!target.kind.isObject || source.kind = .enum) = true

instance (source target : TypeDescriptor) : Decidable (Unmatchable source target) :=
  inferInstanceAs (Decidable (_ = true))

/-- The requests that the mapping of a directive makes, between the types of its names. -/
def asked (p : Planning) (inverseRenames : Bool) (d : Directive) : List Request :=
  match p.graph.get? d.source, p.graph.get? d.target with
  | some source, some target =>
    if Unmatchable source target then []
    else requests p.graph (outcomes p.graph (options inverseRenames d) source target)
  | _, _ => []

/-- The mapping of a directive between two types, all requests answered. -/
def mappingWith (p : Planning) (home : String) (inverseRenames : Bool) (d : Directive)
    (routine : RoutineRef) (source target : TypeDescriptor) : ObjectMapping :=
  if Unmatchable source target then { directive := d, source, target, routine }
  else
    let result := resultWith p.graph (p.answer home d.strategy) (options inverseRenames d) source target
    { directive := d, source, target, routine
      result := if inverseRenames then { result with danglingRenames := [] } else result
      genericParameters := mergeParameters source target }

section Mappings

variable {home : String} {inverse : Bool} {d : Directive} {routine r : RoutineRef}
  {source target : TypeDescriptor}

@[simp] theorem routine_mappingWith :
    (p.mappingWith home inverse d routine source target).routine = routine := by
  unfold mappingWith
  split <;> rfl

@[simp] theorem directive_mappingWith :
    (p.mappingWith home inverse d routine source target).directive = d := by
  unfold mappingWith
  split <;> rfl

@[simp] theorem source_mappingWith :
    (p.mappingWith home inverse d routine source target).source = source := by
  unfold mappingWith
  split <;> rfl

@[simp] theorem target_mappingWith :
    (p.mappingWith home inverse d routine source target).target = target := by
  unfold mappingWith
  split <;> rfl

@[simp] theorem updateRoutine_mappingWith :
    (p.mappingWith home inverse d routine source target).updateRoutine = none := by
  unfold mappingWith
  split <;> rfl

@[simp] theorem projectionRoutine_mappingWith :
    (p.mappingWith home inverse d routine source target).projectionRoutine = none := by
  unfold mappingWith
  split <;> rfl

@[simp] theorem projection_mappingWith :
    (p.mappingWith home inverse d routine source target).projection = [] := by
  unfold mappingWith
  split <;> rfl

@[simp] theorem dispatch_mappingWith :
    (p.mappingWith home inverse d routine source target).dispatch = [] := by
  unfold mappingWith
  split <;> rfl

/-- The correspondences of a mapping are what the search found, as far as it can be converted. -/
theorem mem_mappings_mappingWith {c : PropertyMapping} :
    c ∈ (p.mappingWith home inverse d routine source target).mappings ↔
      ¬ Unmatchable source target ∧ ∃ t b, (t, Outcome.bound b) ∈
        outcomes p.graph (options inverse d) source target ∧
        c = b.toMapping t (conversionWith p.graph (p.answer home d.strategy) b.read.type t.type) ∧
        c.conversion.kind ≠ .unconvertible := by
  unfold mappingWith ObjectMapping.mappings
  split
  next h => simp [h]
  next h =>
    simp only [h, not_false_eq_true, true_and, ← mem_mappings_resultWith]
    cases inverse <;> rfl

/-- The routines that a mapping uses are the answers to the requests it makes. -/
theorem mem_uses_mappingWith {kind : ConversionKind} (hs : p.graph.get? d.source = some source)
    (ht : p.graph.get? d.target = some target) :
    (kind, r) ∈ (Mapping.object (p.mappingWith home inverse d routine source target)).uses ↔
      ∃ request ∈ p.asked inverse d,
        p.answer home d.strategy request = some r ∧ request.conversionKind = kind := by
  unfold Mapping.uses mappingWith asked
  simp only [hs, ht]
  split
  · simp [ObjectMapping.mappings]
  · rw [← mem_uses_resultWith, ObjectMapping.mappings]
    cases inverse <;> rfl

/-- The routines that a mapping calls are the answers to the requests it makes. -/
theorem mem_calls_mappingWith (hs : p.graph.get? d.source = some source)
    (ht : p.graph.get? d.target = some target) :
    r ∈ (Mapping.object (p.mappingWith home inverse d routine source target)).calls ↔
      ∃ request ∈ p.asked inverse d, p.answer home d.strategy request = some r := by
  simp only [Mapping.mem_calls_iff, mem_uses_mappingWith hs ht]
  exact ⟨fun ⟨_, request, h, hanswer, _⟩ => ⟨request, h, hanswer⟩,
    fun ⟨request, h, hanswer⟩ => ⟨_, request, h, hanswer, rfl⟩⟩

end Mappings

/-- Does a request stand for a reference in a member of some type of a graph, and a nested one for a
target that can be built? -/
def Originates (g : TypeGraph) (request : Request) : Prop :=
  request.Buildable g ∧ ∃ t ∈ g.types, ∃ m ∈ t.members, ∃ q : TypeRef,
    q.Part m.type ∧ q.kind = request.kind ∧ q.name = request.target

theorem origin_of_asked {inverse : Bool} {d : Directive} {request : Request}
    (h : request ∈ p.asked inverse d) : Originates p.graph request := by
  unfold asked at h
  split at h
  next source target hs ht =>
    split at h
    · cases h
    · obtain ⟨⟨m, out⟩, hout, hrequest⟩ := List.mem_filterMap.1 h
      cases out with
      | ignored | ambiguous | unmatched => cases hrequest
      | bound b =>
        simp only [Outcome.request?] at hrequest
        split at hrequest
        next need hneed =>
          obtain ⟨⟨-, q, hpart, hkind, hname⟩, hbuildable⟩ := needOf_request hneed hrequest
          exact ⟨hbuildable, target, (TypeGraph.get?_eq_some.1 ht).1, m, mem_of_mem_outcomes hout, q,
            hpart, hkind, hname⟩
        · cases hrequest
  · cases h

/-! ### Private mappings -/

/-- The requests that the private mapping for a request makes. -/
def inside (p : Planning) (strategy : NamingStrategy) : Request → List Request
  | .nested s t => p.asked false { source := s, target := t, strategy }
  | .enum .. => []

/-- What a mapping must be to serve a private request under a routine: the mapping between the two
types, under the strategy of the plan where they are objects. -/
inductive Serves (p : Planning) (owner : Owner) (strategy : NamingStrategy) :
    Request → RoutineRef → Mapping → Prop
  /-- Between object types. -/
  | nested {s t ref source target} (hs : p.graph.get? s = some source)
    (ht : p.graph.get? t = some target) :
    Serves p owner strategy (.nested s t) ref (.object (p.mappingWith owner.home false
      { source := s, target := t, strategy, location := owner.location } ref source target))
  /-- Between enums. -/
  | enum {s t ref m} (h : p.enumMapping { source := s, target := t, location := owner.location } ref = .ok m) :
    Serves p owner strategy (.enum s t) ref (.enum m)

section Private

variable {owner : Owner} {strategy : NamingStrategy} {request : Request} {ref r : RoutineRef}
  {m : Mapping}

theorem enumMapping_eq_ok {d : Directive} {e : EnumMapping} (h : p.enumMapping d ref = .ok e) :
    p.graph.get? d.source = some e.source ∧ p.graph.get? d.target = some e.target ∧
      e.routine = ref ∧ e.directive = d := by
  obtain ⟨source, hs, hrest⟩ := Steps.bind_eq_ok.1 h
  obtain ⟨target, ht, hpure⟩ := Steps.bind_eq_ok.1 hrest
  cases hpure
  exact ⟨getType_eq_ok.1 hs, getType_eq_ok.1 ht, rfl, rfl⟩

theorem Serves.routine_eq (h : Serves p owner strategy request ref m) : m.routine = ref := by
  cases h with
  | nested hs ht => exact routine_mappingWith
  | enum h => exact (enumMapping_eq_ok h).2.2.1

theorem Serves.source_eq (h : Serves p owner strategy request ref m) :
    m.source.qualifiedName = request.source := by
  cases h with
  | nested hs ht =>
    rw [Mapping.source, source_mappingWith]
    exact TypeGraph.qualifiedName_of_get? hs
  | enum h => exact TypeGraph.qualifiedName_of_get? (enumMapping_eq_ok h).1

theorem Serves.target_eq (h : Serves p owner strategy request ref m) :
    m.target.qualifiedName = request.target := by
  cases h with
  | nested hs ht =>
    rw [Mapping.target, target_mappingWith]
    exact TypeGraph.qualifiedName_of_get? ht
  | enum h => exact TypeGraph.qualifiedName_of_get? (enumMapping_eq_ok h).2.1

theorem Serves.mem_uses {kind : ConversionKind} (h : Serves p owner strategy request ref m) :
    (kind, r) ∈ m.uses ↔ ∃ other ∈ p.inside strategy request,
      p.answer owner.home strategy other = some r ∧ other.conversionKind = kind := by
  cases h with
  | nested hs ht => exact mem_uses_mappingWith hs ht
  | enum h => exact ⟨nofun, fun ⟨_, hmem, _⟩ => by cases hmem⟩

theorem Serves.mem_calls (h : Serves p owner strategy request ref m) :
    r ∈ m.calls ↔
      ∃ other ∈ p.inside strategy request, p.answer owner.home strategy other = some r := by
  cases h with
  | nested hs ht => exact mem_calls_mappingWith hs ht
  | enum h => exact ⟨nofun, fun ⟨_, hmem, _⟩ => by cases hmem⟩

theorem Serves.dispatch_eq (h : Serves p owner strategy request ref m) : m.dispatch = [] := by
  cases h with
  | nested hs ht => exact dispatch_mappingWith
  | enum h => rfl

theorem exists_asked_of_inside {other : Request} (h : other ∈ p.inside strategy request) :
    ∃ d : Directive, other ∈ p.asked false d := by
  cases request with
  | nested s t => exact ⟨_, h⟩
  | enum s t => cases h

end Private

/-! ### What a run leaves in the table -/

section Table

variable {owner : Owner} {strategy : NamingStrategy} {W : Request → Prop}
  {path : List (String × String)} {table table' : HelperTable} {name : String} {request : Request}

/-- Is a private routine there, or will it be once the pairs under way are planned? -/
def Awaited (p : Planning) (strategy : NamingStrategy) (path : List (String × String))
    (table : HelperTable) (name : String) : Prop :=
  table.contains name = true ∨
    ∃ s t, (s, t) ∈ path ∧ p.privateName? strategy (.nested s t) = some name

/-- Do all entries of a table serve, under their names, requests of a kind? -/
def Served (p : Planning) (owner : Owner) (strategy : NamingStrategy) (W : Request → Prop)
    (table : HelperTable) : Prop :=
  ∀ e ∈ table, ∃ request, W request ∧ p.privateName? strategy request = some e.1 ∧
    Serves p owner strategy request (privateRef owner.home request e.1) e.2

theorem Served.insert {m : Mapping} (h : Served p owner strategy W table) (hW : W request)
    (hname : p.privateName? strategy request = some name)
    (hserves : Serves p owner strategy request (privateRef owner.home request name) m) :
    Served p owner strategy W (table.insert name m) := by
  intro e he
  rcases HelperTable.mem_of_mem_insert he with rfl | he
  · exact ⟨request, hW, hname, hserves⟩
  · exact h e he

/-- **The table of a run.** Names are distinct; every entry serves a request that was called for,
under its name; and the private routines that an entry calls are there, or awaited. -/
structure Table (p : Planning) (owner : Owner) (strategy : NamingStrategy) (W : Request → Prop)
    (path : List (String × String)) (table : HelperTable) : Prop where
  nodup : (table.map (·.1)).Nodup
  made : ∀ e ∈ table, ∃ request, W request ∧ p.privateName? strategy request = some e.1 ∧
    Serves p owner strategy request (privateRef owner.home request e.1) e.2
  closed : ∀ e ∈ table, ∀ r ∈ e.2.calls, r.helper = true → Awaited p strategy path table r.name

/-- A table grows when it keeps its names. -/
def Grown (table table' : HelperTable) : Prop :=
  ∀ n, table.contains n = true → table'.contains n = true

theorem Grown.refl (table : HelperTable) : Grown table table := fun _ h => h

theorem Grown.trans {table'' : HelperTable} (h : Grown table table') (h' : Grown table' table'') :
    Grown table table'' := fun n hn => h' n (h n hn)

theorem grown_insert {key : String} {m : Mapping} : Grown table (table.insert key m) :=
  fun _ hn => HelperTable.contains_insert.2 (.inr hn)

/-- Has a request, if it is private, its routine there or awaited? -/
def Settled (p : Planning) (strategy : NamingStrategy) (path : List (String × String))
    (request : Request) (table : HelperTable) : Prop :=
  ∀ name, p.privateName? strategy request = some name → Awaited p strategy path table name

theorem Awaited.mono (h : Awaited p strategy path table name) (hgrown : Grown table table') :
    Awaited p strategy path table' name := by
  rcases h with h | h
  · exact .inl (hgrown name h)
  · exact .inr h

theorem Awaited.cons {pair : String × String} (h : Awaited p strategy path table name) :
    Awaited p strategy (pair :: path) table name := by
  rcases h with h | ⟨s, t, hmem, hname⟩
  · exact .inl h
  · exact .inr ⟨s, t, List.mem_cons_of_mem _ hmem, hname⟩

theorem Table.cons {pair : String × String} (h : Table p owner strategy W path table) :
    Table p owner strategy W (pair :: path) table :=
  ⟨h.nodup, h.made, fun e he r hr hhelper => (h.closed e he r hr hhelper).cons⟩

theorem Table.empty : Table p owner strategy W [] [] :=
  ⟨List.nodup_nil, fun _ he => absurd he List.not_mem_nil, fun _ he => absurd he List.not_mem_nil⟩

/-- A pair that a directive maps keeps nothing waiting. -/
theorem Awaited.of_cons {s t : String} (h : Awaited p strategy ((s, t) :: path) table name)
    (hmapped : (p.index.routineFor s t).isSome = true) : Awaited p strategy path table name := by
  rcases h with h | ⟨s', t', hmem, hname⟩
  · exact .inl h
  · rcases List.mem_cons.1 hmem with heq | hmem
    · obtain ⟨rfl, rfl⟩ := Prod.mk.inj heq
      have hnone := routineFor_of_privateName? hname
      simp only [Request.source, Request.target] at hnone
      rw [hnone] at hmapped
      cases hmapped
    · exact .inr ⟨s', t', hmem, hname⟩

theorem Table.of_cons {s t : String} (h : Table p owner strategy W ((s, t) :: path) table)
    (hmapped : (p.index.routineFor s t).isSome = true) : Table p owner strategy W path table :=
  ⟨h.nodup, h.made, fun e he r hr hhelper => (h.closed e he r hr hhelper).of_cons hmapped⟩

/-- Once its mapping stands in the table, a pair is under way no more. -/
theorem Awaited.insert {s t key : String} {m : Mapping}
    (h : Awaited p strategy ((s, t) :: path) table name)
    (hkey : p.privateName? strategy (.nested s t) = some key) :
    Awaited p strategy path (table.insert key m) name := by
  rcases h with h | ⟨s', t', hmem, hname⟩
  · exact .inl (HelperTable.contains_insert.2 (.inr h))
  · rcases List.mem_cons.1 hmem with heq | hmem
    · obtain ⟨rfl, rfl⟩ := Prod.mk.inj heq
      obtain rfl : key = name := Option.some.inj (hkey.symm.trans hname)
      exact .inl (HelperTable.contains_insert.2 (.inl rfl))
    · exact .inr ⟨s', t', hmem, hname⟩

/-- The table with the mapping of a pair that was under way. -/
theorem Table.insertNested {s t key : String} {m : Mapping}
    (h : Table p owner strategy W ((s, t) :: path) table) (hW : W (.nested s t))
    (hkey : p.privateName? strategy (.nested s t) = some key)
    (hserves : Serves p owner strategy (.nested s t) (privateRef owner.home (.nested s t) key) m)
    (hcalls : ∀ r ∈ m.calls, r.helper = true → Awaited p strategy ((s, t) :: path) table r.name) :
    Table p owner strategy W path (table.insert key m) := by
  refine ⟨HelperTable.nodup_insert h.nodup, Served.insert h.made hW hkey hserves,
    fun e he r hr hhelper => ?_⟩
  rcases HelperTable.mem_of_mem_insert he with rfl | he
  · exact (hcalls r hr hhelper).insert hkey
  · exact (h.closed e he r hr hhelper).insert hkey

/-- The table with the mapping of a pair of enums, which calls nothing. -/
theorem Table.insertEnum {s t key : String} {m : EnumMapping}
    (h : Table p owner strategy W path table) (hW : W (.enum s t))
    (hkey : p.privateName? strategy (.enum s t) = some key)
    (hserves : Serves p owner strategy (.enum s t) (privateRef owner.home (.enum s t) key) (.enum m)) :
    Table p owner strategy W path (table.insert key (.enum m)) := by
  refine ⟨HelperTable.nodup_insert h.nodup, Served.insert h.made hW hkey hserves,
    fun e he r hr hhelper => ?_⟩
  rcases HelperTable.mem_of_mem_insert he with rfl | he
  · cases hr
  · exact (h.closed e he r hr hhelper).mono grown_insert

end Table

/-! ### A run -/

/-- Supplies routines while the pairs of a path are planned, with so many levels left. -/
def supplier (p : Planning) (owner : Owner) (levels : Nat) (path : List (String × String))
    (strategy : NamingStrategy) : Supplier HelperTable := fun request =>
  match request with
  | .enum s t => p.supplyEnum owner s t
  | .nested s t => do
    match p.index.routineFor s t with
    | some declared => return some declared
    | none =>
      let src ← (p.getType s : Except PlanningError _)
      let tgt ← (p.getType t : Except PlanningError _)
      if src.kind = .enum || !tgt.kind.isObject then return none
      else
        let ref : RoutineRef := ⟨helperName src tgt strategy, s, t, owner.home, true⟩
        if path.contains (s, t) || (← get).contains ref.name then return some ref
        else
          let inner : Directive := { source := s, target := t, strategy, location := owner.location }
          let mapping ← p.objectMapping owner levels path false inner ref
          modify (·.insert ref.name (.object mapping))
          return some ref

theorem objectMapping_succ (owner : Owner) (levels : Nat) (path : List (String × String))
    (inverse : Bool) (d : Directive) (routine : RoutineRef) :
    p.objectMapping owner (levels + 1) path inverse d routine = (do
      let source ← (p.getType d.source : Except PlanningError _)
      let target ← (p.getType d.target : Except PlanningError _)
      if !target.kind.isObject || source.kind = .enum then
        return { directive := d, source, target, routine }
      else
        let result ← matchMembers p.graph (p.supplier owner levels (d.pair :: path) d.strategy)
          (options inverse d) source target
        return { directive := d, source, target, routine
                 result := if inverse then { result with danglingRenames := [] } else result
                 genericParameters := mergeParameters source target }) := by
  unfold supplier
  simp only [List.contains_eq_mem]
  rfl

section Run

variable {owner : Owner} {strategy : NamingStrategy} {W : Request → Prop} {levels : Nat}
  {path : List (String × String)} {table table' : HelperTable} {r : Option RoutineRef}
  {s t name : String} {src tgt : TypeDescriptor}

theorem growth_settled : Growth Grown (Settled p strategy path) where
  refl := Grown.refl
  trans := Grown.trans
  keeps hgrown h name hname := (h name hname).mono hgrown

theorem privateName?_enum (hroutine : p.index.routineFor s t = none)
    (hs : p.graph.get? s = some src) (ht : p.graph.get? t = some tgt) :
    p.privateName? strategy (.enum s t) = some (RoutineName.helper src.name tgt.name) := by
  simp only [privateName?, Request.source, Request.target, hroutine, hs, ht]

theorem privateName?_nested (hroutine : p.index.routineFor s t = none)
    (hs : p.graph.get? s = some src) (ht : p.graph.get? t = some tgt) :
    p.privateName? strategy (.nested s t) =
      if src.kind = .enum || !tgt.kind.isObject then none else some (helperName src tgt strategy) := by
  simp only [privateName?, Request.source, Request.target, hroutine, hs, ht]

theorem privateName?_of_routineFor {request : Request} {declared : RoutineRef}
    (h : p.index.routineFor request.source request.target = some declared) :
    p.privateName? strategy request = none := by
  simp [privateName?, h]

theorem answer_of_routineFor {request : Request} {home : String} {declared : RoutineRef}
    (h : p.index.routineFor request.source request.target = some declared) :
    p.answer home strategy request = some declared :=
  answer_eq_some.2 (.inl h)

theorem answer_of_privateName? {request : Request} {home : String}
    (h : p.privateName? strategy request = some name) :
    p.answer home strategy request = some (privateRef home request name) :=
  answer_eq_some.2 (.inr ⟨name, h, rfl⟩)

theorem settled_of_awaited {request : Request} (hname : p.privateName? strategy request = some name)
    (h : Awaited p strategy path table name) : Settled p strategy path request table :=
  fun _ hother => Option.some.inj (hname.symm.trans hother) ▸ h

/-- What becomes of a table when the routine for a request is supplied. -/
inductive Supplied (p : Planning) (owner : Owner) (levels : Nat) (path : List (String × String))
    (strategy : NamingStrategy) (table : HelperTable) : Request → HelperTable → Prop
  /-- Nothing, where a directive maps the pair, or nothing can. -/
  | settled {request} (h : p.privateName? strategy request = none) :
    Supplied p owner levels path strategy table request table
  /-- Nothing, where the routine is there or its pair is under way. -/
  | awaited {request name} (hname : p.privateName? strategy request = some name)
    (h : Awaited p strategy path table name) :
    Supplied p owner levels path strategy table request table
  /-- A pair of enums is mapped on the spot. -/
  | enum {s t name m} (hname : p.privateName? strategy (.enum s t) = some name)
    (hm : p.enumMapping { source := s, target := t, location := owner.location }
      (privateRef owner.home (.enum s t) name) = .ok m) :
    Supplied p owner levels path strategy table (.enum s t) (table.insert name (.enum m))
  /-- A pair of object types is planned one level further down and leaves the path for the table. -/
  | nested {s t name m table'} (hname : p.privateName? strategy (.nested s t) = some name)
    (hm : (p.objectMapping owner levels path false
      { source := s, target := t, strategy, location := owner.location }
      (privateRef owner.home (.nested s t) name)).run table = .ok (m, table')) :
    Supplied p owner levels path strategy table (.nested s t) (table'.insert name (.object m))

theorem supplied_of_routineFor {request : Request} {declared : RoutineRef}
    (h : p.index.routineFor request.source request.target = some declared) :
    some declared = p.answer owner.home strategy request ∧
      Supplied p owner levels path strategy table request table :=
  ⟨(answer_of_routineFor h).symm, .settled (privateName?_of_routineFor h)⟩

theorem supplied_enum (hrun : (p.supplyEnum owner s t).run table = .ok (r, table')) :
    r = p.answer owner.home strategy (.enum s t) ∧
      Supplied p owner levels path strategy table (.enum s t) table' := by
  simp only [supplyEnum] at hrun
  cases hroutine : p.index.routineFor s t with
  | some declared =>
    rw [hroutine] at hrun
    obtain ⟨rfl, rfl⟩ := Steps.run_pure_eq_ok.1 hrun
    exact supplied_of_routineFor hroutine
  | none =>
    rw [hroutine] at hrun
    obtain ⟨src, t₁, hlift, hrun⟩ := Steps.run_bind_eq_ok.1 hrun
    obtain ⟨hsrc, rfl⟩ := Steps.run_lift_eq_ok.1 hlift
    obtain ⟨tgt, t₂, hlift, hrun⟩ := Steps.run_bind_eq_ok.1 hrun
    obtain ⟨htgt, rfl⟩ := Steps.run_lift_eq_ok.1 hlift
    have hname : p.privateName? strategy (.enum s t) = some (RoutineName.helper src.name tgt.name) :=
      privateName?_enum hroutine (getType_eq_ok.1 hsrc) (getType_eq_ok.1 htgt)
    have hanswer : p.answer owner.home strategy (.enum s t) = _ := answer_of_privateName? hname
    replace hrun := Steps.run_get_bind_eq_ok.1 hrun
    split at hrun
    next hthere =>
      obtain ⟨rfl, rfl⟩ := Steps.run_pure_eq_ok.1 hrun
      exact ⟨hanswer.symm, .awaited hname (.inl hthere)⟩
    next =>
      obtain ⟨m, t₃, hlift, hrun⟩ := Steps.run_bind_eq_ok.1 hrun
      obtain ⟨hm, rfl⟩ := Steps.run_lift_eq_ok.1 hlift
      replace hrun := Steps.run_modify_bind_eq_ok.1 hrun
      obtain ⟨rfl, rfl⟩ := Steps.run_pure_eq_ok.1 hrun
      exact ⟨hanswer.symm, .enum hname hm⟩

theorem supplied_nested
    (hrun : (p.supplier owner levels path strategy (.nested s t)).run table = .ok (r, table')) :
    r = p.answer owner.home strategy (.nested s t) ∧
      Supplied p owner levels path strategy table (.nested s t) table' := by
  simp only [supplier] at hrun
  cases hroutine : p.index.routineFor s t with
  | some declared =>
    rw [hroutine] at hrun
    obtain ⟨rfl, rfl⟩ := Steps.run_pure_eq_ok.1 hrun
    exact supplied_of_routineFor hroutine
  | none =>
    rw [hroutine] at hrun
    obtain ⟨src, t₁, hlift, hrun⟩ := Steps.run_bind_eq_ok.1 hrun
    obtain ⟨hsrc, rfl⟩ := Steps.run_lift_eq_ok.1 hlift
    obtain ⟨tgt, t₂, hlift, hrun⟩ := Steps.run_bind_eq_ok.1 hrun
    obtain ⟨htgt, rfl⟩ := Steps.run_lift_eq_ok.1 hlift
    rw [getType_eq_ok] at hsrc htgt
    have hprivate : p.privateName? strategy (.nested s t) =
        if src.kind = .enum || !tgt.kind.isObject then none else some (helperName src tgt strategy) :=
      privateName?_nested hroutine hsrc htgt
    split at hrun
    next hunmatchable =>
      -- nothing can be matched, and the request is answered with no routine
      rw [if_pos hunmatchable] at hprivate
      have hanswer : p.answer owner.home strategy (.nested s t) = none := by
        simp [answer, Request.source, Request.target, hroutine, hprivate]
      obtain ⟨rfl, rfl⟩ := Steps.run_pure_eq_ok.1 hrun
      exact ⟨hanswer.symm, .settled hprivate⟩
    next hmatchable =>
      rw [if_neg hmatchable] at hprivate
      have hanswer : p.answer owner.home strategy (.nested s t) = _ := answer_of_privateName? hprivate
      replace hrun := Steps.run_get_bind_eq_ok.1 hrun
      split at hrun
      next hthere =>
        obtain ⟨rfl, rfl⟩ := Steps.run_pure_eq_ok.1 hrun
        refine ⟨hanswer.symm, .awaited hprivate ?_⟩
        rcases Bool.or_eq_true_iff.1 hthere with hpath | hthere
        · exact .inr ⟨s, t, List.contains_iff_mem.1 hpath, hprivate⟩
        · exact .inl hthere
      next =>
        obtain ⟨m, t₃, hm, hrun⟩ := Steps.run_bind_eq_ok.1 hrun
        replace hrun := Steps.run_modify_bind_eq_ok.1 hrun
        obtain ⟨rfl, rfl⟩ := Steps.run_pure_eq_ok.1 hrun
        exact ⟨hanswer.symm, .nested hprivate hm⟩

/-- **Supplying a routine** answers the request whatever the table holds; only what is planned on
the spot depends on it. -/
theorem supplied_of_run {request : Request}
    (hrun : (p.supplier owner levels path strategy request).run table = .ok (r, table')) :
    r = p.answer owner.home strategy request ∧
      Supplied p owner levels path strategy table request table' := by
  cases request with
  | nested s t => exact supplied_nested hrun
  | enum s t => exact supplied_enum hrun

/-- **One level of planning** makes the mapping under settled answers, and moves the table as its
supplier does for the requests that are made. -/
theorem objectMapping_succ_run {inverse : Bool} {d : Directive} {routine : RoutineRef}
    {m : ObjectMapping} {Inv : HelperTable → Prop} {Grows : HelperTable → HelperTable → Prop}
    {Done : Request → HelperTable → Prop} (hgrowth : Growth Grows Done)
    (hsupply : ∀ request ∈ p.asked inverse d,
      Supplies (p.supplier owner levels (d.pair :: path) d.strategy) (p.answer owner.home d.strategy)
        Inv Grows Done request)
    (htable : Inv table)
    (hrun : (p.objectMapping owner (levels + 1) path inverse d routine).run table = .ok (m, table')) :
    (∃ source target, p.graph.get? d.source = some source ∧ p.graph.get? d.target = some target ∧
      m = p.mappingWith owner.home inverse d routine source target) ∧
    Inv table' ∧ Grows table table' ∧ ∀ request ∈ p.asked inverse d, Done request table' := by
  rw [objectMapping_succ] at hrun
  obtain ⟨source, t₁, hlift, hrun⟩ := Steps.run_bind_eq_ok.1 hrun
  obtain ⟨hs, rfl⟩ := Steps.run_lift_eq_ok.1 hlift
  obtain ⟨target, t₂, hlift, hrun⟩ := Steps.run_bind_eq_ok.1 hrun
  obtain ⟨ht, rfl⟩ := Steps.run_lift_eq_ok.1 hlift
  rw [getType_eq_ok] at hs ht
  have hasked : p.asked inverse d = if Unmatchable source target then [] else
      requests p.graph (outcomes p.graph (options inverse d) source target) := by
    simp only [asked, hs, ht]
  split at hrun
  next hunmatchable =>
    replace hunmatchable : Unmatchable source target := hunmatchable
    obtain ⟨rfl, rfl⟩ := Steps.run_pure_eq_ok.1 hrun
    rw [hasked, if_pos hunmatchable]
    refine ⟨⟨source, target, hs, ht, ?_⟩, htable, hgrowth.refl _, nofun⟩
    rw [mappingWith, if_pos hunmatchable]
  next hmatchable =>
    replace hmatchable : ¬Unmatchable source target := hmatchable
    rw [if_neg hmatchable] at hasked
    obtain ⟨result, t₃, hresult, hrun⟩ := Steps.run_bind_eq_ok.1 hrun
    obtain ⟨rfl, rfl⟩ := Steps.run_pure_eq_ok.1 hrun
    rw [hasked] at hsupply
    obtain ⟨rfl, hrest⟩ := matchMembers_run hgrowth hsupply htable hresult
    refine ⟨⟨source, target, hs, ht, ?_⟩, hasked ▸ hrest⟩
    rw [mappingWith, if_neg hmatchable]

/-- Do all private requests among some have a property? -/
def AllPrivate (p : Planning) (strategy : NamingStrategy) (W : Request → Prop)
    (requests : List Request) : Prop :=
  ∀ request ∈ requests, ∀ name, p.privateName? strategy request = some name → W request

/-- What planning the mapping of a directive leaves behind, the pairs of a path being under way. -/
structure Planned (p : Planning) (owner : Owner) (strategy : NamingStrategy) (W : Request → Prop)
    (path : List (String × String)) (inverse : Bool) (d : Directive) (routine : RoutineRef)
    (table : HelperTable) (m : ObjectMapping) (table' : HelperTable) : Prop where
  inv : Table p owner strategy W (d.pair :: path) table'
  grown : Grown table table'
  settled : ∀ request ∈ p.asked inverse d, Settled p strategy (d.pair :: path) request table'
  mapping : ∃ source target, p.graph.get? d.source = some source ∧
    p.graph.get? d.target = some target ∧ m = p.mappingWith owner.home inverse d routine source target

/-- The private routines that a planned mapping calls are there or awaited. -/
theorem Planned.calls {inverse : Bool} {d : Directive} {routine : RoutineRef} {m : ObjectMapping}
    (h : Planned p owner strategy W path inverse d routine table m table')
    (hstrategy : d.strategy = strategy) {r : RoutineRef} (hr : r ∈ (Mapping.object m).calls)
    (hhelper : r.helper = true) : Awaited p strategy (d.pair :: path) table' r.name := by
  obtain ⟨source, target, hs, ht, rfl⟩ := h.mapping
  obtain ⟨request, hasked, hanswer⟩ := (mem_calls_mappingWith hs ht).1 hr
  rw [hstrategy] at hanswer
  obtain ⟨name, hname, rfl⟩ := answer_private hanswer hhelper
  exact h.settled request hasked name hname

/-- Planning with some levels left does what it should, for requests of a kind. -/
def PlansRight (p : Planning) (owner : Owner) (strategy : NamingStrategy) (W : Request → Prop)
    (levels : Nat) : Prop :=
  ∀ {path inverse d routine table m table'}, d.strategy = strategy →
    Table p owner strategy W path table → AllPrivate p strategy W (p.asked inverse d) →
    (p.objectMapping owner levels path inverse d routine).run table = .ok (m, table') →
    Planned p owner strategy W path inverse d routine table m table'

/-- Supplying the routine for a request keeps the table's invariant. -/
theorem supplies {request : Request} (hrec : PlansRight p owner strategy W levels)
    (hW : ∀ name, p.privateName? strategy request = some name → W request)
    (hinside : W request → AllPrivate p strategy W (p.inside strategy request)) :
    Supplies (p.supplier owner levels path strategy) (p.answer owner.home strategy)
      (Table p owner strategy W path) Grown (Settled p strategy path) request := by
  intro table r table' htable hrun
  obtain ⟨hanswer, hsupplied⟩ := supplied_of_run hrun
  cases hsupplied with
  | settled hnone =>
    refine ⟨hanswer, htable, .refl _, fun name hname => ?_⟩
    rw [hnone] at hname
    cases hname
  | awaited hname hawaited => exact ⟨hanswer, htable, .refl _, settled_of_awaited hname hawaited⟩
  | enum hname hm =>
    exact ⟨hanswer, htable.insertEnum (hW _ hname) hname (.enum hm), grown_insert,
      settled_of_awaited hname (.inl (HelperTable.contains_insert.2 (.inl rfl)))⟩
  | @nested s t name m table' hname hm =>
    have hwanted := hW _ hname
    have hplanned := hrec rfl htable (show AllPrivate p strategy W (p.asked false
      { source := s, target := t, strategy, location := owner.location }) from hinside hwanted) hm
    obtain ⟨src, tgt, hsrc, htgt, hmapping⟩ := hplanned.mapping
    have hserves : Serves p owner strategy (.nested s t) (privateRef owner.home (.nested s t) name)
        (.object m) := hmapping ▸ .nested hsrc htgt
    exact ⟨hanswer, hplanned.inv.insertNested hwanted hname hserves fun r hr hhelper =>
      hplanned.calls rfl hr hhelper, hplanned.grown.trans grown_insert,
      settled_of_awaited hname (.inl (HelperTable.contains_insert.2 (.inl rfl)))⟩

/-- **A run of planning** makes the mapping under settled answers and keeps the table's invariant. -/
theorem objectMapping_run
    (hinside : ∀ request, W request → AllPrivate p strategy W (p.inside strategy request)) :
    ∀ levels, PlansRight p owner strategy W levels := by
  intro levels
  -- on the levels left, for all paths at once: a member's pair is planned with a longer path
  induction levels with
  | zero =>
    intro path inverse d routine table m table' _ _ _ hrun
    cases hrun
  | succ levels ih =>
    intro path inverse d routine table m table' hstrategy htable hW hrun
    subst hstrategy
    obtain ⟨hmapping, hinv, hgrown, hsettled⟩ := objectMapping_succ_run growth_settled
      (fun request hrequest => supplies ih (hW request hrequest) (hinside request)) htable.cons hrun
    exact ⟨hinv, hgrown, hsettled, hmapping⟩

end Run

end Planning

end Mapsmith
