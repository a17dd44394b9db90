import Mapsmith.Proofs.Accounting
import Mapsmith.Proofs.PrivateRoutines
import Mapsmith.Proofs.ReadTypes
import Mapsmith.Proofs.Vetted

/-!
# Legal routines

A routine that maps an object builds the target with arguments that its constructor takes, and with all
that it insists on; whatever it assigns to the target can be assigned; and the hooks that it calls are
methods of the source. This holds of every routine in every unit of a pass over types that are read from a
program (`Mapsmith.Generation.legal`), whether it belongs to a declared direction, to a way back or to a
private mapping. It needs all parts at once: matching only binds members that a mapping can fill, the rules
let no plan pass that misses a member or assigns a fixed one, and in a type that is read, members of one
name agree on how they are written.
-/

namespace Mapsmith

/-- Has a type a member of a name, and has every one of that name a property? -/
def TypeDescriptor.HasMember (t : TypeDescriptor) (name : String) (P : Member → Prop) : Prop :=
  (∃ m ∈ t.members, m.name = name) ∧ ∀ m ∈ t.members, m.name = name → P m

theorem TypeDescriptor.HasMember.imp {t : TypeDescriptor} {name : String} {P Q : Member → Prop}
    (h : t.HasMember name P) (hPQ : ∀ m, P m → Q m) : t.HasMember name Q :=
  ⟨h.1, fun m hm hname => hPQ m (h.2 m hm hname)⟩

/-- What a correspondence says of one member holds of all of its name, if these agree. -/
theorem PropertyMapping.Writes.hasMember {c : PropertyMapping} {t : TypeDescriptor} {m : Member}
    (h : c.Writes m) (hm : m ∈ t.members) (hagree : Agree t.members) :
    t.HasMember c.targetMember fun m => c.Writes m := by
  refine ⟨⟨m, hm, h.member.symm⟩, fun m' hm' hname => ?_⟩
  obtain ⟨hinit, hkeyword, hsettable⟩ := hagree m hm m' hm' (h.member.symm.trans hname.symm)
  refine ⟨hname.symm, h.keyword.trans hkeyword, h.init.trans hinit, h.settable.trans hsettable, ?_⟩
  have hwritable := h.writable
  rw [Member.writable, hinit, hsettable] at hwritable
  exact hwritable

/-- Is the target of a mapping built by its constructor? It is unless a factory builds it, or all values
are left to derived types. -/
def Mapping.IsBuilt : Mapping → Prop
  | .object m => m.directive.factory = none ∧ ¬ (m.dispatch ≠ [] ∧ Emission.Site.isAbstract m = true)
  | .enum _ => False

namespace Emission

/-! ### Legal statements -/

/-- The arguments of a constructor call. -/
def Construction.arguments (call : Construction) : List (String × Expr) :=
  call.keywords ++ call.entries

/-- **Does a constructor call build the target of a mapping?** Every argument is the value of a member
that the constructor takes, under the keyword of that member, and all members that the constructor
insists on are among them. -/
structure Construction.Builds (site : Site) (m : Mapping) (call : Construction) : Prop where
  cls : call.cls = m.target.qualifiedName
  taken : ∀ a ∈ call.arguments, ∃ c ∈ m.correspondences, site.value c = .ok a.2 ∧
    m.target.HasMember c.targetMember fun t => t.init = true ∧ t.keyword = a.1
  given : ∀ t ∈ m.target.members, t.init = true → t.required = true →
    ∃ c ∈ m.correspondences, c.targetMember = t.name ∧
      ∃ e, site.value c = .ok e ∧ (t.keyword, e) ∈ call.arguments

/-- **Is a statement legal in a routine for a mapping?** What it builds is built as its constructor asks,
what it assigns can be assigned, and what it calls is a method of the source. A projection selects members
that can be filled in the way it says. -/
def Statement.Legal (site : Site) (m : Mapping) : Statement → Prop
  | .construct call | .returnConstruct call => call.Builds site m
  | .assign member value => m.target.HasMember member (·.settable = true) ∧
    ∃ c ∈ m.correspondences, c.targetMember = member ∧ site.value c = .ok value
  | .beforeHook cls hook | .afterHook cls hook | .fromFactory cls hook =>
    cls = m.source.qualifiedName ∧ hook ∈ m.source.callables
  | .returnProjection _ _ members => ∀ q ∈ members, m.target.HasMember q.member fun t =>
    t.keyword = q.keyword ∧ t.init = q.viaConstructor ∧ (t.init = true ∨ t.settable = true)
  | .docstring _ | .dispatch _ | .refuseAll _ | .refuseSubclasses _ | .returnTarget
  | .matchValues .. => True

/-- Does a statement call the constructor? -/
def Statement.Constructs : Statement → Prop
  | .construct _ | .returnConstruct _ => True
  | _ => False

/-- **Are the routines of a mapping legal?** All their statements are, and the first routine calls the
constructor where the target is built by it. -/
structure Legal (site : Site) (m : Mapping) (routines : List Routine) : Prop where
  statements : ∀ r ∈ routines, ∀ st ∈ r.body, st.Legal site m
  built : m.IsBuilt → ∃ r ∈ routines, r.name = m.routine.name ∧
    ∃ st ∈ r.body, st.Constructs

variable {site : Site}

/-! ### What is rendered -/

theorem named_eq_ok {name : String} {c : PropertyMapping} {a : String × Expr} :
    site.named name c = .ok a ↔ a.1 = name ∧ site.value c = .ok a.2 := by
  rw [Site.named, Steps.bind_eq_ok]
  constructor
  · rintro ⟨e, he, heq⟩
    cases heq
    exact ⟨rfl, he⟩
  · rintro ⟨rfl, he⟩
    exact ⟨a.2, he, rfl⟩

/-- The arguments of a constructor call are the values of the correspondences it is made for. -/
theorem construction_eq_ok {target : TypeDescriptor} {cs : List PropertyMapping} {call : Construction}
    (h : site.construction target cs = .ok call) :
    call.cls = target.qualifiedName ∧
      (∀ a ∈ call.arguments, ∃ c ∈ cs, site.named c.targetKeyword c = .ok a) ∧
      ∀ c ∈ cs, ∃ a ∈ call.arguments, site.named c.targetKeyword c = .ok a := by
  unfold Site.construction at h
  simp only [List.partition_eq_filter_filter] at h
  obtain ⟨keywords, hkeywords, h⟩ := Steps.bind_eq_ok.1 h
  obtain ⟨entries, hentries, h⟩ := Steps.bind_eq_ok.1 h
  cases h
  have hplain := Steps.mapM_eq_ok.1 hkeywords
  have hodd := Steps.mapM_eq_ok.1 hentries
  refine ⟨rfl, fun a ha => ?_, fun c hc => ?_⟩
  · rcases List.mem_append.1 ha with ha | ha
    · obtain ⟨c, hc, hnamed⟩ := Steps.exists_of_mem_right hplain ha
      exact ⟨c, (List.mem_filter.1 hc).1, hnamed⟩
    · obtain ⟨c, hc, hnamed⟩ := Steps.exists_of_mem_right hodd ha
      exact ⟨c, (List.mem_filter.1 hc).1, hnamed⟩
  · cases hidentifier : Text.isIdentifier c.targetKeyword with
    | true =>
      obtain ⟨a, ha, hnamed⟩ :=
        Steps.exists_of_mem_left hplain (List.mem_filter.2 ⟨hc, hidentifier⟩)
      exact ⟨a, List.mem_append_left _ ha, hnamed⟩
    | false =>
      have hnot : (!Text.isIdentifier c.targetKeyword) = true := by rw [hidentifier]; rfl
      obtain ⟨a, ha, hnamed⟩ := Steps.exists_of_mem_left hodd (List.mem_filter.2 ⟨hc, hnot⟩)
      exact ⟨a, List.mem_append_right _ ha, hnamed⟩

theorem assignments_eq_ok {cs : List PropertyMapping} {sts : List Statement}
    (h : site.assignments cs = .ok sts) {st : Statement} (hst : st ∈ sts) :
    ∃ c ∈ cs, ∃ e, site.value c = .ok e ∧ st = .assign c.targetMember e := by
  obtain ⟨c, hc, hassign⟩ := Steps.exists_of_mem_right (Steps.mapM_eq_ok.1 h) hst
  obtain ⟨e, he, heq⟩ := Steps.bind_eq_ok.1 hassign
  cases heq
  exact ⟨c, hc, e, he, rfl⟩

/-! ### The routines of a vetted mapping -/

section Vetted

open Validation

variable {m : ObjectMapping} (hvetted : Vetted m) (hagree : Agree m.target.members)
include hvetted

theorem legal_beforeHook : ∀ st ∈ Site.beforeHook m, st.Legal site (.object m) := by
  intro st hst
  obtain ⟨hook, hhook, rfl⟩ := List.mem_map.1 hst
  refine ⟨rfl, hvetted.callable "before_map" hook ?_⟩
  simp [hookRoles, Option.mem_toList.1 hhook]

theorem legal_afterHook : ∀ st ∈ Site.afterHook m, st.Legal site (.object m) := by
  intro st hst
  obtain ⟨hook, hhook, rfl⟩ := List.mem_map.1 hst
  refine ⟨rfl, hvetted.callable "after_map" hook ?_⟩
  simp [hookRoles, Option.mem_toList.1 hhook]

theorem legal_fromFactory {factory : String} (h : m.directive.factory = some factory) :
    (Statement.fromFactory m.source.qualifiedName factory).Legal site (.object m) := by
  refine ⟨rfl, hvetted.callable "factory" factory ?_⟩
  simp [hookRoles, h]

include hagree

/-- The member that a correspondence is for is written as it says. -/
theorem hasMember {c : PropertyMapping} (hc : c ∈ m.mappings) :
    m.target.HasMember c.targetMember fun t => c.Writes t := by
  obtain ⟨t, ht, hwrites⟩ := hvetted.fills c hc
  exact hwrites.hasMember ht hagree

theorem legal_assignments {cs : List PropertyMapping} {sts : List Statement}
    (h : site.assignments cs = .ok sts) (hcs : ∀ c ∈ cs, c ∈ m.mappings ∧ c.targetSettable = true) :
    ∀ st ∈ sts, st.Legal site (.object m) := by
  intro st hst
  obtain ⟨c, hc, e, he, rfl⟩ := assignments_eq_ok h hst
  obtain ⟨hmem, hsettable⟩ := hcs c hc
  refine ⟨(hasMember hvetted hagree hmem).imp fun t ht => ?_, c, hmem, rfl, he⟩
  rw [← ht.settable]
  exact hsettable

/-- A constructor call with all mappings that go through the constructor builds the target. -/
theorem builds_of_construction {call : Construction} (hfactory : m.directive.factory = none)
    (h : site.construction m.target (m.mappings.filter (·.viaConstructor)) = .ok call) :
    call.Builds site (.object m) := by
  obtain ⟨hcls, htaken, hgiven⟩ := construction_eq_ok h
  refine ⟨hcls, fun a ha => ?_, fun t ht hinit hrequired => ?_⟩
  · obtain ⟨c, hc, hnamed⟩ := htaken a ha
    obtain ⟨hkeyword, hvalue⟩ := named_eq_ok.1 hnamed
    obtain ⟨hmem, hvia⟩ := List.mem_filter.1 hc
    refine ⟨c, hmem, hvalue, (hasMember hvetted hagree hmem).imp fun t ht => ⟨?_, ?_⟩⟩
    · rw [← ht.init]
      exact hvia
    · rw [← ht.keyword]
      exact hkeyword.symm
  · -- the correspondence may be for another member of the name, but that is written alike
    obtain ⟨c, hmem, hname⟩ := hvetted.complete hfactory t ht hinit hrequired
    have hwrites := (hasMember hvetted hagree hmem).2 t ht hname.symm
    have hvia : c.viaConstructor = true := hwrites.init.trans hinit
    obtain ⟨a, ha, hnamed⟩ := hgiven c (List.mem_filter.2 ⟨hmem, hvia⟩)
    obtain ⟨hkeyword, hvalue⟩ := named_eq_ok.1 hnamed
    rw [hwrites.keyword] at hkeyword
    exact ⟨c, hmem, hname, a.2, hvalue, hkeyword ▸ ha⟩

/-- The statements that build the target are legal, and call the constructor unless a factory does its
work. -/
theorem legal_build {sts : List Statement} (h : site.build m = .ok sts) :
    (∀ st ∈ sts, st.Legal site (.object m)) ∧
      (m.directive.factory = none → ∃ st ∈ sts, st.Constructs) := by
  have hafter : ∀ st ∈ Site.afterHook m, st.Legal site (.object m) := legal_afterHook hvetted
  unfold Site.build at h
  split at h
  next factory hfactory =>
    -- a factory leaves all members to assignments
    obtain ⟨assigned, hassigned, h⟩ := Steps.bind_eq_ok.1 h
    cases h
    have hsettable := hvetted.settable (.inl (by rw [hfactory]; rfl))
    have hlegal := legal_assignments hvetted hagree hassigned fun c hc => ⟨hc, hsettable c hc⟩
    refine ⟨?_, fun hnone => by rw [hfactory] at hnone; cases hnone⟩
    simp only [List.cons_append, List.forall_mem_cons, List.forall_mem_append]
    exact ⟨legal_fromFactory hvetted hfactory, ⟨hlegal, hafter⟩, trivial, fun _ h => absurd h List.not_mem_nil⟩
  next hfactory =>
    simp only [List.partition_eq_filter_filter] at h
    obtain ⟨call, hcall, h⟩ := Steps.bind_eq_ok.1 h
    have hbuilds := builds_of_construction hvetted hagree hfactory hcall
    split at h
    · cases h
      exact ⟨List.forall_mem_singleton.2 hbuilds, fun _ => ⟨_, List.mem_singleton_self _, trivial⟩⟩
    · obtain ⟨assigned, hassigned, h⟩ := Steps.bind_eq_ok.1 h
      cases h
      -- what the constructor does not take can be assigned, since it can be filled
      have hlegal := legal_assignments hvetted hagree hassigned fun c hc => by
        obtain ⟨hmem, hvia⟩ := List.mem_filter.1 hc
        obtain ⟨t, -, hwrites⟩ := hvetted.fills c hmem
        have hwritable := hwrites.writable
        rw [Member.writable, ← hwrites.init, ← hwrites.settable] at hwritable
        have hvia : c.viaConstructor = false := by simpa using hvia
        rw [hvia, Bool.false_or] at hwritable
        exact ⟨hmem, hwritable⟩
      refine ⟨?_, fun _ => ⟨.construct call, by simp, trivial⟩⟩
      simp only [List.cons_append, List.forall_mem_cons, List.forall_mem_append]
      exact ⟨hbuilds, ⟨hlegal, hafter⟩, trivial, fun _ h => absurd h List.not_mem_nil⟩

theorem legal_forward {isPublic : Bool} {r : Routine} (h : site.forward isPublic m = .ok r) :
    (∀ st ∈ r.body, st.Legal site (.object m)) ∧
      (Mapping.IsBuilt (.object m) → ∃ st ∈ r.body, st.Constructs) := by
  have hdoc : ∀ st ∈ (if isPublic then
      [Site.pairWords "Map " m.source.name " to " m.target.name "."] else []),
      st.Legal site (.object m) := by
    intro st hst
    split at hst
    · rw [List.mem_singleton.1 hst]
      trivial
    · cases hst
  have hdispatch : ∀ st ∈ site.dispatch m, st.Legal site (.object m) := by
    intro st hst
    unfold Site.dispatch at hst
    split at hst
    · cases hst
    · rcases List.mem_pair.1 hst with rfl | rfl
      · trivial
      · split <;> trivial
  unfold Site.forward at h
  simp only at h
  split at h
  next habstract =>
    -- all values go to derived types, nothing is built
    obtain ⟨rest, hrest, h⟩ := Steps.bind_eq_ok.1 h
    cases hrest
    cases h
    refine ⟨?_, fun hbuilt => absurd ?_ hbuilt.2⟩
    · simp only [List.forall_mem_append]
      exact ⟨⟨hdoc, hdispatch⟩, fun _ h => absurd h List.not_mem_nil⟩
    · simpa using habstract
  next =>
    obtain ⟨rest, hrest, h⟩ := Steps.bind_eq_ok.1 h
    cases h
    rw [map_eq_pure_bind] at hrest
    obtain ⟨sts, hbuild, hrest⟩ := Steps.bind_eq_ok.1 hrest
    cases hrest
    obtain ⟨hlegal, hcalls⟩ := legal_build hvetted hagree hbuild
    refine ⟨?_, fun hbuilt => ?_⟩
    · simp only [List.forall_mem_append]
      exact ⟨⟨hdoc, hdispatch⟩, legal_beforeHook hvetted, hlegal⟩
    · obtain ⟨st, hst, hcall⟩ := hcalls hbuilt.1
      exact ⟨st, List.mem_append_right _ (List.mem_append_right _ hst), hcall⟩

theorem legal_update {name : String} {r : Routine} (hname : m.updateRoutine = some name)
    (h : site.update name m = .ok r) : ∀ st ∈ r.body, st.Legal site (.object m) := by
  obtain ⟨assigned, hassigned, h⟩ := Steps.bind_eq_ok.1 h
  cases h
  have hsettable := hvetted.settable (.inr (by rw [hname]; rfl))
  have hlegal := legal_assignments hvetted hagree hassigned fun c hc => ⟨hc, hsettable c hc⟩
  simp only [List.cons_append, List.forall_mem_cons, List.forall_mem_append]
  exact ⟨trivial, ⟨legal_beforeHook hvetted, hlegal⟩, legal_afterHook hvetted⟩

theorem legal_projection {name : String} :
    ∀ st ∈ (site.projection name m).body, st.Legal site (.object m) := by
  simp only [Site.projection, List.forall_mem_cons]
  refine ⟨trivial, fun q hq => ?_, fun _ h => absurd h List.not_mem_nil⟩
  obtain ⟨c, hc, rfl⟩ := List.mem_map.1 hq
  refine (hasMember hvetted hagree (hvetted.projected c hc)).imp fun t ht => ⟨ht.keyword.symm, ht.init.symm, ?_⟩
  exact Bool.or_eq_true_iff.1 ht.writable

/-- **The routines of a vetted mapping are legal.** -/
theorem legal_objectRoutines {isPublic : Bool} {rs : List Routine}
    (h : site.objectRoutines isPublic m = .ok rs) : Legal site (.object m) rs := by
  obtain ⟨first, hfirst, h⟩ := Steps.bind_eq_ok.1 h
  obtain ⟨hlegal, hbuilt⟩ := legal_forward hvetted hagree hfirst
  have hname : first.name = m.routine.name := (forward_eq_ok hfirst).1
  cases isPublic with
  | false =>
    cases h
    exact ⟨List.forall_mem_singleton.2 hlegal,
      fun hb => ⟨first, List.mem_singleton_self _, hname, hbuilt hb⟩⟩
  | true =>
    obtain ⟨updates, hupdates, h⟩ := Steps.bind_eq_ok.1 h
    cases h
    refine ⟨?_, fun hb => ⟨first, by simp, hname, hbuilt hb⟩⟩
    simp only [List.cons_append, List.forall_mem_cons, List.forall_mem_append, List.forall_mem_map]
    refine ⟨hlegal, fun r hr => ?_, fun name _ => legal_projection hvetted hagree⟩
    obtain ⟨name, hname, hupdate⟩ := Steps.exists_of_mem_right (Steps.mapM_eq_ok.1 hupdates) hr
    exact legal_update hvetted hagree (Option.mem_toList.1 hname) hupdate

end Vetted

theorem legal_enumRoutine {isPublic : Bool} {m : EnumMapping} {rs : List Routine}
    (h : site.routines isPublic (.enum m) = .ok rs) : Legal site (.enum m) rs := by
  obtain ⟨r, hr, h⟩ := Steps.bind_eq_ok.1 h
  cases h
  obtain ⟨cases', -, hr⟩ := Steps.bind_eq_ok.1 hr
  cases hr
  refine ⟨List.forall_mem_singleton.2 ?_, fun hbuilt => hbuilt.elim⟩
  cases isPublic <;> simp [Statement.Legal, Site.pairWords]

end Emission

namespace Generation

open Emission Planning Program

variable {config : Config} {g : TypeGraph} {cache : Cache} {r : PassResult}

/-- **Is a unit legal?** It is written from legal routines, those of the mappings of its plans. -/
def LegalUnit (config : Config) (plans : List Plan) (u : GeneratedUnit) : Prop :=
  ∃ rendered : List (List Routine),
    List.Forall₂ (fun (isPublic, m) rs => Site.routines ⟨config, u.ns⟩ isPublic m = .ok rs ∧
      Legal ⟨config, u.ns⟩ m rs) (unitMappings (sortPlans (plansOf plans u.ns))) rendered ∧
    ∃ above names, u.source = above ++ Layout.render (rendered.flatten.flatMap (·.layout names))

/-- **Every unit of a pass over types that are read from a program is legal.** -/
theorem legal (hg : IsRead g) (hcache : Used cache) (h : (runPass config g cache).1 = .ok r) :
    ∀ u ∈ r.units, LegalUnit config r.plans u := by
  intro u hu
  obtain ⟨entries, hhanded, hfinish⟩ := exists_handed hcache h
  obtain ⟨-, -, -, -, hunits, -⟩ := finish_eq_ok hfinish
  obtain ⟨accounts, haccounts, hplans, -⟩ := exists_accounts_of_finish hhanded hfinish
  obtain ⟨routines, hunit⟩ := unitOf_of_mem hunits hu
  obtain ⟨rendered, hrendered, heq⟩ := Steps.bind_eq_ok.1 hunit.routines_eq
  cases heq
  refine ⟨rendered, ?_, hunit.written⟩
  have hlegal : ∀ bm ∈ unitMappings (sortPlans (plansOf r.plans u.ns)), ∀ rs,
      Site.routines ⟨config, u.ns⟩ bm.1 bm.2 = .ok rs → Legal ⟨config, u.ns⟩ bm.2 rs := by
    rintro ⟨isPublic, m⟩ hm rs hrs
    obtain ⟨p, hp, hpart⟩ := exists_part (List.mem_map_of_mem hm)
    have hmem := (mem_plansOf.1 hp).1
    rw [hplans] at hmem
    obtain ⟨d, haccepted⟩ := exists_accepted haccounts hmem
    cases m with
    | enum m => exact legal_enumRoutine hrs
    | object m =>
      obtain ⟨hvetted, htarget⟩ := haccepted.vetted hpart
      exact legal_objectRoutines hvetted (orderly_of_isRead hg htarget).agree hrs
  refine ((List.forall₂_and_left _ _).2 ⟨hlegal, Steps.mapM_eq_ok.1 hrendered⟩).imp ?_
  rintro ⟨isPublic, m⟩ rs ⟨hall, hrs⟩
  exact ⟨hrs, hall rs hrs⟩

/-- A program with orders that are mapped to bills. Both have a customer, of a class of its own, and the
note of a bill is not taken by the constructor. -/
def shop : Memory :=
  let text : Object := .cls (.library .text)
  let customer (index : Nat) : String × DataclassField := ("customer", { type := .cls (.program index) })
  let made (module path : String) (index : Nat) (fields : List (String × DataclassField))
      (nodup : (fields.map (·.1)).Nodup) : ClassObject :=
    { module, path, line := [.program index, .library (.builtin "object")], isProtocol := some false
      annotations := fields.map fun (name, f) => (name, f.type)
      dataclass := some { fields, frozen := false, nodup } }
  { classes := [
      { made "shop" "Order" 0 [customer 1, ("note", { type := text })] (by decide) with
        attributes := [("begin", .function { module := 0 })]
        declared := { directives := [{ source := "shop.Order", target := "dto.Bill"
                                       update := { value := .bool true }, beforeMap := some "begin" }] }
        references := [.program 2] },
      made "shop" "Customer" 1 [("name", { type := text })] (by decide),
      made "dto" "Bill" 2 [customer 3, ("note", { type := text, inConstructor := false })] (by decide),
      made "dto" "Customer" 3 [("name", { type := text })] (by decide)]
    modules := [
      { name := "shop", names := [("Order", .cls (.program 0)), ("Customer", .cls (.program 1))] },
      { name := "dto", names := [("Bill", .cls (.program 2)), ("Customer", .cls (.program 3))] }]
    registry := [("shop", 0), ("dto", 1)]
    typeVariables := [] }

theorem legal_shop : ∃ g r, IsRead g ∧ (runPass {} g { capacity := 0 }).1 = .ok r ∧
    r.units.map (·.routines) = [["map_order_to_bill", "update_bill_from_order"]] ∧
    ∀ u ∈ r.units, LegalUnit {} r.plans u := by
  obtain ⟨g, hg, hpass⟩ : ∃ g, (Read.graphOf [.cls (.program 0)] { memory := shop }).1 = .ok g ∧
      ((runPass {} g { capacity := 0 }).1.toOption.any fun r =>
        decide (r.units.map (·.routines) = [["map_order_to_bill", "update_bill_from_order"]])) = true :=
    Steps.exists_of_any (by decide +kernel)
  obtain ⟨r, hr, hunits⟩ := Steps.exists_of_any hpass
  have hread : IsRead g := ⟨_, _, rfl, hg⟩
  exact ⟨g, r, hread, hr, hunits, legal hread (.new 0) hr⟩

end Generation

end Mapsmith
