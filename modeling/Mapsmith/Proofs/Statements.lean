import Mapsmith.Proofs.Legality

/-!
# What stands in routines

The routines of a mapping are made of few forms of statements, and each form takes what it is filled with
from one place: classes are those of the mapping and of its dispatch, values are those of its correspondences
(`Mapsmith.Emission.madeFor_of_mem`). So what a routine refers to and binds can be read off the forms.
The modules it goes through are those of conversions between scalars and the units of other namespaces, and
the names it binds are those of parameters, of a failure and of the elements of collections.
-/

namespace Mapsmith

/-- Do the routines of a mapping refer to a class by this name? -/
def Mapping.RefersTo (m : Mapping) (cls : String) : Prop :=
  cls = m.source.qualifiedName ∨ cls = m.target.qualifiedName ∨ ∃ entry ∈ m.dispatch, entry.source = cls

namespace Emission

/-! ### Classes and variables -/

/-- The variables that an expression binds. -/
def Expr.locals : Expr → List String
  | place _ | call _ _ | isoText _ => []
  | rebuilt _ element item _ => item :: element.locals
  | unlessMissing _ e | grouped e => e.locals

/-- The classes that a statement refers to. -/
def Statement.classes : Statement → List String
  | dispatch branches => branches.map (·.1)
  | refuseSubclasses base => [base]
  | beforeHook cls _ | afterHook cls _ | fromFactory cls _ => [cls]
  | construct call | returnConstruct call => [call.cls]
  | matchValues source target _ | returnProjection source target _ => [source, target]
  | docstring _ | refuseAll _ | assign .. | returnTarget => []

/-- The variables that a statement binds. -/
def Statement.locals : Statement → List String
  | beforeHook .. => ["exc"]
  | fromFactory .. => ["target"]
  | construct call => "target" :: call.exprs.flatMap (·.locals)
  | returnConstruct call => call.exprs.flatMap (·.locals)
  | assign _ value => value.locals
  | docstring _ | dispatch _ | refuseAll _ | refuseSubclasses _ | afterHook .. | returnTarget
  | matchValues .. | returnProjection .. => []

/-- The classes that a signature refers to. -/
def Signature.classes : Signature → List String
  | maps source target | updates source target => [source.cls, target.cls]
  | projects target => [target.cls]

/-- The variables that a signature binds. -/
def Signature.locals : Signature → List String
  | maps .. => ["source"]
  | updates .. => ["source", "target"]
  | projects _ => []

namespace Routine

/-- The classes that a routine refers to. -/
def classes (r : Routine) : List String :=
  r.signature.classes ++ r.body.flatMap (·.classes)

/-- The variables that a routine binds. -/
def locals (r : Routine) : List String :=
  r.signature.locals ++ r.body.flatMap (·.locals)

end Routine

variable {site : Site}

/-! ### Statements -/

/-- **What can stand in a routine for a mapping.** -/
inductive Site.Renders (site : Site) (m : Mapping) : Statement → Prop
  /-- What the routine is for. -/
  | docstring (text : String) : Renders site m (.docstring text)
  /-- The dispatch. -/
  | dispatch :
    Renders site m (.dispatch (m.dispatch.map fun entry => (entry.source, site.callee entry.routine)))
  /-- Nothing but derived values is accepted. -/
  | refuseAll : Renders site m (.refuseAll m.source.qualifiedName)
  /-- No derived values are accepted but those of the dispatch. -/
  | refuseSubclasses : Renders site m (.refuseSubclasses m.source.qualifiedName)
  /-- The hook that runs first. -/
  | beforeHook (hook : String) : Renders site m (.beforeHook m.source.qualifiedName hook)
  /-- The hook that runs last. -/
  | afterHook (hook : String) : Renders site m (.afterHook m.source.qualifiedName hook)
  /-- The factory. -/
  | fromFactory (factory : String) : Renders site m (.fromFactory m.source.qualifiedName factory)
  /-- The constructor, with values of correspondences. -/
  | construct {call : Construction} (hcls : call.cls = m.target.qualifiedName)
    (harguments : ∀ a ∈ call.arguments, ∃ c ∈ m.correspondences, site.value c = .ok a.2) :
    Renders site m (.construct call)
  /-- The same, as the result. -/
  | returnConstruct {call : Construction} (hcls : call.cls = m.target.qualifiedName)
    (harguments : ∀ a ∈ call.arguments, ∃ c ∈ m.correspondences, site.value c = .ok a.2) :
    Renders site m (.returnConstruct call)
  /-- The value of a correspondence is assigned. -/
  | assign (member : String) {value : Expr} {c : PropertyMapping} (hc : c ∈ m.correspondences)
    (hvalue : site.value c = .ok value) : Renders site m (.assign member value)
  /-- The target is the result. -/
  | returnTarget : Renders site m .returnTarget
  /-- The values of enums. -/
  | matchValues (cases : List (String × String)) :
    Renders site m (.matchValues m.source.qualifiedName m.target.qualifiedName cases)
  /-- A projection. -/
  | returnProjection (cs : List PropertyMapping) :
    Renders site m
      (.returnProjection m.source.qualifiedName m.target.qualifiedName (cs.map site.projectedMember))

/-- **Is a routine made for a mapping?** It refers to the types of the mapping, and is made of what can
stand in it. -/
structure Routine.MadeFor (site : Site) (m : Mapping) (r : Routine) : Prop where
  signature : ∀ cls ∈ r.signature.classes, m.RefersTo cls
  body : ∀ st ∈ r.body, site.Renders m st

theorem refersTo_types (m : Mapping) :
    ∀ cls ∈ [m.source.qualifiedName, m.target.qualifiedName], m.RefersTo cls := by
  intro cls hcls
  rcases List.mem_pair.1 hcls with rfl | rfl
  · exact .inl rfl
  · exact .inr (.inl rfl)

section Object

variable {m : ObjectMapping} {sts : List Statement}

theorem renders_assignments {cs : List PropertyMapping} (h : site.assignments cs = .ok sts)
    (hcs : ∀ c ∈ cs, c ∈ m.mappings) : ∀ st ∈ sts, site.Renders (.object m) st := by
  intro st hst
  obtain ⟨c, hc, e, he, rfl⟩ := assignments_eq_ok h hst
  exact .assign _ (hcs c hc) he

theorem renders_beforeHook : ∀ st ∈ Site.beforeHook m, site.Renders (.object m) st := by
  intro st hst
  obtain ⟨hook, -, rfl⟩ := List.mem_map.1 hst
  exact .beforeHook hook

theorem renders_afterHook : ∀ st ∈ Site.afterHook m, site.Renders (.object m) st := by
  intro st hst
  obtain ⟨hook, -, rfl⟩ := List.mem_map.1 hst
  exact .afterHook hook

theorem renders_dispatch : ∀ st ∈ site.dispatch m, site.Renders (.object m) st := by
  intro st hst
  unfold Site.dispatch at hst
  split at hst
  · cases hst
  · rcases List.mem_pair.1 hst with rfl | rfl
    · exact .dispatch
    · split
      · exact .refuseAll
      · exact .refuseSubclasses

theorem renders_build (h : site.build m = .ok sts) : ∀ st ∈ sts, site.Renders (.object m) st := by
  unfold Site.build at h
  split at h
  next factory _ =>
    obtain ⟨assigned, hassigned, h⟩ := Steps.bind_eq_ok.1 h
    cases h
    simp only [List.cons_append, List.forall_mem_cons, List.forall_mem_append]
    exact ⟨.fromFactory _, ⟨renders_assignments hassigned fun _ => id, renders_afterHook⟩, .returnTarget,
      fun _ h => absurd h List.not_mem_nil⟩
  next =>
    simp only [List.partition_eq_filter_filter] at h
    obtain ⟨call, hcall, h⟩ := Steps.bind_eq_ok.1 h
    obtain ⟨hcls, htaken, -⟩ := construction_eq_ok hcall
    have harguments : ∀ a ∈ call.arguments, ∃ c ∈ m.mappings, site.value c = .ok a.2 := fun a ha => by
      obtain ⟨c, hc, hnamed⟩ := htaken a ha
      exact ⟨c, (List.mem_filter.1 hc).1, (named_eq_ok.1 hnamed).2⟩
    split at h
    · cases h
      exact List.forall_mem_singleton.2 (.returnConstruct hcls harguments)
    · obtain ⟨assigned, hassigned, h⟩ := Steps.bind_eq_ok.1 h
      cases h
      simp only [List.cons_append, List.forall_mem_cons, List.forall_mem_append]
      exact ⟨.construct hcls harguments,
        ⟨renders_assignments hassigned fun c hc => (List.mem_filter.1 hc).1, renders_afterHook⟩,
        .returnTarget, fun _ h => absurd h List.not_mem_nil⟩

theorem madeFor_forward {isPublic : Bool} {r : Routine} (h : site.forward isPublic m = .ok r) :
    r.MadeFor site (.object m) := by
  have hdoc : ∀ st ∈ (if isPublic then
      [Site.pairWords "Map " m.source.name " to " m.target.name "."] else []),
      site.Renders (.object m) st := by
    intro st hst
    split at hst
    · rw [List.mem_singleton.1 hst]
      exact .docstring _
    · cases hst
  unfold Site.forward at h
  simp only at h
  split at h
  · obtain ⟨rest, hrest, h⟩ := Steps.bind_eq_ok.1 h
    cases hrest
    cases h
    refine ⟨refersTo_types (.object m), ?_⟩
    simp only [List.forall_mem_append]
    exact ⟨⟨hdoc, renders_dispatch⟩, fun _ h => absurd h List.not_mem_nil⟩
  · obtain ⟨rest, hrest, h⟩ := Steps.bind_eq_ok.1 h
    cases h
    rw [map_eq_pure_bind] at hrest
    obtain ⟨sts, hbuild, hrest⟩ := Steps.bind_eq_ok.1 hrest
    cases hrest
    refine ⟨refersTo_types (.object m), ?_⟩
    simp only [List.forall_mem_append]
    exact ⟨⟨hdoc, renders_dispatch⟩, renders_beforeHook, renders_build hbuild⟩

theorem madeFor_update {name : String} {r : Routine} (h : site.update name m = .ok r) :
    r.MadeFor site (.object m) := by
  obtain ⟨assigned, hassigned, h⟩ := Steps.bind_eq_ok.1 h
  cases h
  refine ⟨refersTo_types (.object m), ?_⟩
  simp only [List.cons_append, List.forall_mem_cons, List.forall_mem_append]
  exact ⟨.docstring _, ⟨renders_beforeHook, renders_assignments hassigned fun _ => id⟩, renders_afterHook⟩

theorem madeFor_projection {name : String} : (site.projection name m).MadeFor site (.object m) := by
  refine ⟨fun cls hcls => refersTo_types (.object m) cls (List.mem_cons_of_mem _ hcls), fun st hst => ?_⟩
  rcases List.mem_pair.1 hst with rfl | rfl
  · exact .docstring _
  · exact .returnProjection _

end Object

variable {m : Mapping} {isPublic : Bool} {rs : List Routine} {r : Routine}

theorem madeFor_enumRoutine {m : EnumMapping} (h : Site.enumRoutine isPublic m = .ok r) :
    r.MadeFor site (.enum m) := by
  obtain ⟨cases', -, h⟩ := Steps.bind_eq_ok.1 h
  cases h
  refine ⟨refersTo_types (.enum m), fun st hst => ?_⟩
  rcases List.mem_append.1 hst with hst | hst
  · split at hst
    · rw [List.mem_singleton.1 hst]
      exact .docstring _
    · cases hst
  · rw [List.mem_singleton.1 hst]
    exact .matchValues _

/-- **The routines of a mapping are made for it.** -/
theorem madeFor_of_mem (h : site.routines isPublic m = .ok rs) (hr : r ∈ rs) : r.MadeFor site m := by
  cases m with
  | object m =>
    obtain ⟨first, hfirst, h⟩ := Steps.bind_eq_ok.1 h
    cases isPublic with
    | false =>
      cases h
      rw [List.mem_singleton.1 hr]
      exact madeFor_forward hfirst
    | true =>
      obtain ⟨updates, hupdates, h⟩ := Steps.bind_eq_ok.1 h
      cases h
      rcases List.mem_append.1 hr with hr | hr
      · rcases List.mem_cons.1 hr with rfl | hr
        · exact madeFor_forward hfirst
        · obtain ⟨name, -, hupdate⟩ := Steps.exists_of_mem_right (Steps.mapM_eq_ok.1 hupdates) hr
          exact madeFor_update hupdate
      · obtain ⟨name, -, rfl⟩ := List.mem_map.1 hr
        exact madeFor_projection
  | enum m =>
    obtain ⟨r', hr', h⟩ := Steps.bind_eq_ok.1 h
    cases h
    rw [List.mem_singleton.1 hr]
    exact madeFor_enumRoutine hr'

/-! ### What routines refer to and bind -/

/-- **Can a site's code go through a module?** It is one that conversions between scalars need, or the unit
of another namespace. -/
def Site.Enters (site : Site) (module : String) : Prop :=
  module ∈ ["decimal", "uuid", "datetime"] ∨ ∃ home, home ≠ site.ns ∧ module = unitModule site.config home

theorem enters_callee {callee : RoutineRef} {module : String} (h : module ∈ (site.callee callee).modules) :
    site.Enters module := by
  unfold Site.callee at h
  split at h
  · cases h
  next hother =>
    rw [Callee.modules, List.mem_singleton] at h
    refine .inr ⟨callee.home, fun hhome => hother ?_, h⟩
    rw [hhome]
    simp

/-- **Is an expression in its place?** It goes through modules that the site's code can go through, and
binds names of elements only. -/
structure Expr.Placed (site : Site) (e : Expr) : Prop where
  modules : ∀ module ∈ e.modules, site.Enters module
  locals : ∀ name ∈ e.locals, ∃ depth, name = Site.itemName depth

/-- **What a conversion is made of**: the value as it is, a call of its routine, what converts a scalar, or
its elements made anew. -/
inductive Site.Made (site : Site) (depth : Nat) (p : Place) : Conversion → Expr → Prop
  /-- The value as it is. -/
  | place {c : Conversion} : Made site depth p c (.place p)
  /-- A call of a routine. -/
  | call {c : Conversion} (r : RoutineRef) : Made site depth p c (.call (site.callee r) p)
  /-- A conversion between scalars. -/
  | builtin {c : Conversion} {e : Expr} (h : Site.builtin? p c.kind = some e) : Made site depth p c e
  /-- Elements made anew. -/
  | rebuilt {c element : Conversion} {made : Expr} (container : Container)
    (helement : c.element = some element)
    (h : site.convert (depth + 1) ⟨Site.itemName depth, []⟩ element = .ok made) :
    Made site depth p c (.rebuilt container made (Site.itemName depth) p)

theorem made_of_convert {c : Conversion} {depth : Nat} {p : Place} {e : Expr}
    (h : site.convert depth p c = .ok e) :
    ∃ inner, site.Made depth p c inner ∧ (e = inner ∨ e = .unlessMissing p inner) := by
  have hpass : ∀ {inner : Expr} {nullable : Bool},
      (if nullable then Expr.unlessMissing p inner else inner) = e →
        e = inner ∨ e = .unlessMissing p inner := by
    rintro inner (_ | _) rfl
    · exact .inl rfl
    · exact .inr rfl
  cases c with
  | mk kind routine element container nullable =>
    rw [Site.convert.eq_def] at h
    simp only at h
    split at h
    · exact ⟨_, .place, .inl (Except.ok.inj h).symm⟩
    · split at h
      · exact ⟨_, .call _, hpass (Except.ok.inj h)⟩
      · cases h
    · split at h
      · exact ⟨_, .call _, hpass (Except.ok.inj h)⟩
      · cases h
    · split at h
      · obtain ⟨made, hmade, h⟩ := Steps.bind_eq_ok.1 h
        exact ⟨_, .rebuilt _ rfl hmade, hpass (Except.ok.inj h)⟩
      · cases h
    · split at h
      next e' hbuiltin => exact ⟨e', .builtin hbuiltin, hpass (Except.ok.inj h)⟩
      · cases h

theorem placed_builtin {p : Place} {kind : ConversionKind} {e : Expr} (h : Site.builtin? p kind = some e) :
    e.Placed site := by
  cases kind with
  | direct | nested | enum | collection | unconvertible => cases h
  | _ =>
    cases h
    exact ⟨fun module hmodule => .inl (by simp_all [Expr.modules, Callee.modules]),
      fun _ h => absurd h List.not_mem_nil⟩

/-- What a conversion is made of is in its place if this holds of its elements. -/
theorem placed_of_made {c : Conversion} {depth : Nat} {p : Place} {e : Expr} (h : site.Made depth p c e)
    (hinside : ∀ element made, c.element = some element →
      site.convert (depth + 1) ⟨Site.itemName depth, []⟩ element = .ok made → made.Placed site) :
    e.Placed site := by
  cases h with
  | place => exact ⟨fun _ h => absurd h List.not_mem_nil, fun _ h => absurd h List.not_mem_nil⟩
  | call r => exact ⟨fun _ => enters_callee, fun _ h => absurd h List.not_mem_nil⟩
  | builtin h => exact placed_builtin h
  | rebuilt container helement hmade =>
    have hplaced := hinside _ _ helement hmade
    refine ⟨hplaced.modules, fun name hname => ?_⟩
    rcases List.mem_cons.1 hname with rfl | hname
    · exact ⟨depth, rfl⟩
    · exact hplaced.locals name hname

theorem Expr.Placed.unlessMissing {e : Expr} (h : e.Placed site) (p : Place) :
    (Expr.unlessMissing p e).Placed site :=
  ⟨h.modules, h.locals⟩

theorem Expr.Placed.of_wrapped {inner e : Expr} {p : Place} (h : inner.Placed site)
    (he : e = inner ∨ e = .unlessMissing p inner) : e.Placed site := by
  rcases he with rfl | rfl
  · exact h
  · exact h.unlessMissing p

/-- **Conversions are made of expressions in their places**, whatever they are applied to. -/
theorem placed_convert {c : Conversion} {depth : Nat} {p : Place} {e : Expr}
    (h : site.convert depth p c = .ok e) : e.Placed site := by
  induction c using Conversion.routines.induct generalizing depth p e with
  | case1 kind routine container nullable =>
    obtain ⟨inner, hmade, he⟩ := made_of_convert h
    have hplaced : inner.Placed site := placed_of_made hmade fun element' made helement _ => by
      cases helement
    exact hplaced.of_wrapped he
  | case2 kind routine element container nullable ih =>
    obtain ⟨inner, hmade, he⟩ := made_of_convert h
    have hplaced : inner.Placed site := placed_of_made hmade fun element' made helement hconvert => by
      cases helement
      exact ih hconvert
    exact hplaced.of_wrapped he

theorem placed_value {c : PropertyMapping} {e : Expr} (h : site.value c = .ok e) : e.Placed site := by
  obtain ⟨inner, hinner, h⟩ := Steps.bind_eq_ok.1 h
  have hplaced := placed_convert hinner
  split at h
  · cases h
    split
    · exact ⟨hplaced.modules, hplaced.locals⟩
    · exact hplaced.unlessMissing _
  · cases h
    exact hplaced

/-- **Does a routine of a site bind a variable of this name?** It may be a parameter, a failure, or an
element of a collection. -/
def IsLocal (name : String) : Prop :=
  name ∈ ["source", "target", "exc"] ∨ ∃ depth, name = Site.itemName depth

/-- **Is a routine in its place?** It goes through modules that its site can go through, binds variables,
and refers to classes of its mapping. -/
structure Routine.InPlace (site : Site) (m : Mapping) (r : Routine) : Prop where
  modules : ∀ module ∈ r.body.flatMap (·.modules), site.Enters module
  locals : ∀ name ∈ r.locals, IsLocal name
  classes : ∀ cls ∈ r.classes, m.RefersTo cls

theorem placed_exprs {call : Construction}
    (h : ∀ a ∈ call.arguments, ∃ c ∈ m.correspondences, site.value c = .ok a.2) :
    ∀ e ∈ call.exprs, e.Placed site := by
  intro e he
  obtain ⟨a, ha, rfl⟩ := List.mem_map.1 he
  obtain ⟨c, -, hc⟩ := h a ha
  exact placed_value hc

/-- What a statement goes through and binds. -/
theorem Site.Renders.placed {st : Statement} (h : site.Renders m st) :
    (∀ module ∈ st.modules, site.Enters module) ∧ ∀ name ∈ st.locals, IsLocal name := by
  have hnone : ∀ {P : String → Prop}, ∀ name ∈ ([] : List String), P name :=
    fun _ h => absurd h List.not_mem_nil
  have hcall : ∀ {call : Construction},
      (∀ a ∈ call.arguments, ∃ c ∈ m.correspondences, site.value c = .ok a.2) →
      (∀ module ∈ call.exprs.flatMap (·.modules), site.Enters module) ∧
        ∀ name ∈ call.exprs.flatMap (·.locals), IsLocal name := by
    intro call hcall
    constructor
    · intro module hmodule
      obtain ⟨e, he, hmodule⟩ := List.mem_flatMap.1 hmodule
      exact (placed_exprs hcall e he).modules module hmodule
    · intro name hname
      obtain ⟨e, he, hname⟩ := List.mem_flatMap.1 hname
      exact .inr ((placed_exprs hcall e he).locals name hname)
  cases h with
  | docstring | refuseAll | refuseSubclasses | afterHook | returnTarget | matchValues =>
    exact ⟨hnone, hnone⟩
  | beforeHook => exact ⟨hnone, List.forall_mem_singleton.2 (.inl (by decide))⟩
  | fromFactory => exact ⟨hnone, List.forall_mem_singleton.2 (.inl (by decide))⟩
  | dispatch =>
    refine ⟨fun module hmodule => ?_, hnone⟩
    obtain ⟨branch, hbranch, hmodule⟩ := List.mem_flatMap.1 hmodule
    obtain ⟨entry, -, rfl⟩ := List.mem_map.1 hbranch
    exact enters_callee hmodule
  | construct _ harguments =>
    exact ⟨(hcall harguments).1, List.forall_mem_cons.2 ⟨.inl (by decide), (hcall harguments).2⟩⟩
  | returnConstruct _ harguments => exact hcall harguments
  | assign member hc hvalue =>
    exact ⟨(placed_value hvalue).modules, fun name hname => .inr ((placed_value hvalue).locals name hname)⟩
  | returnProjection cs =>
    refine ⟨fun module hmodule => ?_, hnone⟩
    obtain ⟨q, hq, hmodule⟩ := List.mem_flatMap.1 hmodule
    obtain ⟨c, -, rfl⟩ := List.mem_map.1 hq
    cases hroutine : c.conversion.routine with
    | none => simp [Site.projectedMember, hroutine] at hmodule
    | some r =>
      simp only [Site.projectedMember, hroutine, Option.map_some, Option.getD_some] at hmodule
      exact enters_callee hmodule

/-- The classes that a statement refers to are those of the mapping. -/
theorem Site.Renders.refersTo {st : Statement} (h : site.Renders m st) :
    ∀ cls ∈ st.classes, m.RefersTo cls := by
  have htypes := refersTo_types m
  have hsource : ∀ cls ∈ [m.source.qualifiedName], m.RefersTo cls := List.forall_mem_singleton.2 (.inl rfl)
  cases h with
  | docstring | refuseAll | assign | returnTarget => exact fun _ h => absurd h List.not_mem_nil
  | refuseSubclasses | beforeHook | afterHook | fromFactory => exact hsource
  | construct hcls | returnConstruct hcls => exact List.forall_mem_singleton.2 (.inr (.inl hcls))
  | matchValues | returnProjection => exact htypes
  | dispatch =>
    intro cls hcls
    obtain ⟨branch, hbranch, rfl⟩ := List.mem_map.1 hcls
    obtain ⟨entry, hentry, rfl⟩ := List.mem_map.1 hbranch
    exact .inr (.inr ⟨entry, hentry, rfl⟩)

/-- The parameters of a routine. -/
theorem isLocal_of_mem_signature {signature : Signature} : ∀ name ∈ signature.locals, IsLocal name := by
  have hsource : IsLocal "source" := .inl (by decide)
  have htarget : IsLocal "target" := .inl (by decide)
  cases signature with
  | maps => exact List.forall_mem_singleton.2 hsource
  | updates => exact List.forall_mem_cons.2 ⟨hsource, List.forall_mem_singleton.2 htarget⟩
  | projects => exact fun _ h => absurd h List.not_mem_nil

/-- **The routines of a mapping are in place.** -/
theorem Routine.MadeFor.inPlace (h : r.MadeFor site m) : r.InPlace site m := by
  refine ⟨fun module hmodule => ?_, fun name hname => ?_, fun cls hcls => ?_⟩
  · obtain ⟨st, hst, hmodule⟩ := List.mem_flatMap.1 hmodule
    exact (h.body st hst).placed.1 module hmodule
  · rcases List.mem_append.1 hname with hname | hname
    · exact isLocal_of_mem_signature name hname
    · obtain ⟨st, hst, hname⟩ := List.mem_flatMap.1 hname
      exact (h.body st hst).placed.2 name hname
  · rcases List.mem_append.1 hcls with hcls | hcls
    · exact h.signature cls hcls
    · obtain ⟨st, hst, hcls⟩ := List.mem_flatMap.1 hcls
      exact (h.body st hst).refersTo cls hcls

end Emission

end Mapsmith
