import Mapsmith.Proofs.Links

/-!
# Which members take part

Members can be left out of every mapping, and private members only take part where a directive asks for
them. The search filters in many places: members with a declared target, members found by name, members
inside other members, members of the target. Whatever way a correspondence is found, in the declared
direction of a plan, on its way back or in a private mapping, it reads along members that may be read
and fills a member that may be filled, under the choice of the directive of that very mapping
(`Mapsmith.Planning.proper_of_plan`). A private mapping never reads or fills private members: its
directive is made by planning, which does not ask for them.
-/

namespace Mapsmith

open Matching

/-! ### Proper correspondences -/

/-- Does a directive let a member take part: is it not left out, and not private unless the directive
asks for private members? -/
def Directive.Admits (d : Directive) (m : Member) : Prop :=
  m.ignored = false ∧ (m.isPrivate = true → d.includePrivate.isOn = true)

/-- **Does a path lead along members that may be read**, each inside the type of the one before? -/
inductive ReadsAlong (g : TypeGraph) (d : Directive) : TypeDescriptor → List String → Prop
  /-- The last member is the one whose value is read. -/
  | last {t m a} (hm : t.member? a = some m) (hreadable : m.readable = true) (h : d.Admits m) :
    ReadsAlong g d t [a]
  /-- The path goes on inside the type of a member. -/
  | step {t m a u path} (hm : t.member? a = some m) (hreadable : m.readable = true) (h : d.Admits m)
      (hu : g.get? m.type.name = some u) (hrest : ReadsAlong g d u path) : ReadsAlong g d t (a :: path)

/-- **Is a correspondence of a mapping proper?** It reads along members of the source that may be read,
and fills a member of the target that may be filled. -/
structure Proper (g : TypeGraph) (o : ObjectMapping) (c : PropertyMapping) : Prop where
  reads : ReadsAlong g o.directive o.source c.sourcePath
  fills : ∃ m, o.target.member? c.targetMember = some m ∧ m.writable = true ∧ o.directive.Admits m

/-- Have the members of every type distinct names? -/
def TypeGraph.NamesMembers (g : TypeGraph) : Prop :=
  ∀ t ∈ g.types, (t.members.map (·.name)).Nodup

instance (g : TypeGraph) : Decidable g.NamesMembers :=
  inferInstanceAs (Decidable (∀ t ∈ g.types, _))

section Members

variable {g : TypeGraph} {t : TypeDescriptor} {m : Member} {d : Directive} {inverse : Bool}

theorem TypeGraph.NamesMembers.member?_eq (hg : g.NamesMembers) (ht : t ∈ g.types)
    (hm : m ∈ t.members) : t.member? m.name = some m :=
  (TypeGraph.find?_eq_some_of_nodup (hg t ht)).2 ⟨hm, rfl⟩

theorem Directive.Admits.of_options (hignored : m.ignored = false)
    (h : (Planning.options inverse d).admits m = true) : d.Admits m := by
  refine ⟨hignored, fun hprivate => ?_⟩
  simpa [Options.admits, Planning.options, hprivate] using h

/-- What a search finds is read along members that may be read. -/
theorem Matching.Found.readsAlong {source : TypeDescriptor} {b : Binding} {target : Member}
    {conversion : Conversion} (hg : g.NamesMembers) (hsource : source ∈ g.types)
    (h : Found g (Planning.options inverse d) source b) :
    ReadsAlong g d source (b.toMapping target conversion).sourcePath := by
  cases h with
  | own hm hreads =>
    obtain ⟨hreadable, hignored, hadmits⟩ := hreads
    exact .last (hg.member?_eq hsource hm) hreadable (.of_options hignored hadmits)
  | inner houter hreads hnested hm hinner =>
    obtain ⟨hreadable, hignored, hadmits⟩ := hreads
    obtain ⟨hreadable', hignored', hadmits'⟩ := hinner
    refine .step (hg.member?_eq hsource houter) hreadable (.of_options hignored hadmits) hnested ?_
    exact .last (hg.member?_eq (TypeGraph.get?_eq_some.1 hnested).1 hm) hreadable'
      (.of_options hignored' hadmits')

end Members

namespace Planning

variable {p : Planning} {d : Directive} {source target : TypeDescriptor} {plan : Plan}
  {o : ObjectMapping} {c : PropertyMapping}

/-! ### Mappings that are planned -/

/-- **Is a mapping between object types a planned one?** Its correspondences are those under settled
answers, for its own directive and between its own types, and its projection keeps some of them. -/
structure IsPlanned (p : Planning) (o : ObjectMapping) : Prop where
  source : p.graph.get? o.directive.source = some o.source
  target : p.graph.get? o.directive.target = some o.target
  mappings : ∃ home inverse routine,
    o.mappings = (p.mappingWith home inverse o.directive routine o.source o.target).mappings
  projection : o.projection ⊆ o.mappings

theorem isPlanned_mappingWith {home : String} {inverse : Bool} {routine : RoutineRef}
    (hs : p.graph.get? d.source = some source) (ht : p.graph.get? d.target = some target) :
    p.IsPlanned (p.mappingWith home inverse d routine source target) := by
  refine ⟨?_, ?_, ⟨home, inverse, routine, ?_⟩, ?_⟩
  · rwa [directive_mappingWith, source_mappingWith]
  · rwa [directive_mappingWith, target_mappingWith]
  · rw [directive_mappingWith, source_mappingWith, target_mappingWith]
  · rw [projection_mappingWith]
    exact List.nil_subset _

theorem isPlanned_forwardMapping {entries : List DispatchEntry}
    (hs : p.graph.get? d.source = some source) (ht : p.graph.get? d.target = some target) :
    p.IsPlanned (p.forwardMapping d source target entries) := by
  have hplanned : p.IsPlanned (p.mappingWith target.module false d
      (routineBetween source target target.module) source target) := isPlanned_mappingWith hs ht
  obtain ⟨hsource, htarget, hmappings, -⟩ := hplanned
  refine ⟨hsource, htarget, hmappings, ?_⟩
  simp only [forwardMapping]
  split
  · exact List.filter_subset_self _
  · exact List.nil_subset _

/-- **Every part of a plan between object types is planned**: the declared direction, the way back and
the private mappings. -/
theorem PlanOf.isPlanned (hplan : PlanOf p d source target plan) (ho : .object o ∈ plan.parts) :
    p.IsPlanned o := by
  by_cases hkind : source.kind = .enum
  · obtain ⟨forward, reverse, rfl⟩ := hplan.enum hkind
    cases reverse <;>
      simp [Plan.parts, Plan.publicMappings, Plan.forward, Plan.reverse?, Plan.helpers] at ho
  · obtain ⟨⟨entries, helpers, -, rfl⟩, hhelpers⟩ := hplan.object hkind
    rcases Generation.mem_parts_object ho with heq | ⟨back, hback, heq⟩ | hmem
    · cases heq
      exact isPlanned_forwardMapping hplan.hs hplan.ht
    · cases heq
      unfold reverseMapping? at hback
      split at hback
      · cases hback
        exact isPlanned_mappingWith hplan.ht hplan.hs
      · cases hback
    · obtain ⟨request, name, -, -, hserves⟩ := hhelpers.made _ hmem
      cases hserves with
      | nested hs ht => exact isPlanned_mappingWith hs ht

/-! ### Plans -/

/-- The correspondences of a planned mapping are proper. -/
theorem IsPlanned.proper (hg : p.graph.NamesMembers) (h : p.IsPlanned o)
    (hc : c ∈ o.mappings ++ o.projection) : Proper p.graph o c := by
  have hmem : c ∈ o.mappings := (List.mem_append.1 hc).elim id fun hc => h.projection hc
  obtain ⟨home, inverse, routine, hmappings⟩ := h.mappings
  rw [hmappings] at hmem
  obtain ⟨-, t, b, hout, rfl, -⟩ := mem_mappings_mappingWith.1 hmem
  obtain ⟨hignored, hfound⟩ := found_of_mem_outcomes hout
  obtain ⟨ht, hfilled⟩ := List.mem_filter.1 (mem_targetMembers hout)
  obtain ⟨hwritable, hadmits⟩ := Bool.and_eq_true_iff.1 hfilled
  have hsource : o.source ∈ p.graph.types := (TypeGraph.get?_eq_some.1 h.source).1
  have htarget : o.target ∈ p.graph.types := (TypeGraph.get?_eq_some.1 h.target).1
  exact ⟨hfound.readsAlong hg hsource,
    t, hg.member?_eq htarget ht, hwritable, .of_options hignored hadmits⟩

/-- **Only members that may take part do.** In every part of the plan of a directive, every
correspondence, be it flattened or not, reads along members that may be read and fills a member that may
be filled. -/
theorem proper_of_plan (hg : p.graph.NamesMembers) (hd : d ∈ p.index.directives)
    (h : p.plan d = .ok plan) :
    ∀ o : ObjectMapping, .object o ∈ plan.parts → ∀ c ∈ o.mappings ++ o.projection,
      Proper p.graph o c := by
  intro o ho c hc
  obtain ⟨source, target, hplan⟩ := plan_eq_ok hd h
  exact (hplan.isPlanned ho).proper hg hc

/-- Accounts with a password that is left out, a private pin, an address and a pet. A two-way directive
maps them to logins, and may read from inside the address; nobody maps the pets. -/
def accounts : TypeGraph :=
  let text (name : String) : Member := { name, type := .mk "str" .scalar [] none false }
  let object (name type : String) : Member := { name, type := .mk type .object [] none false }
  let pin : Member := { text "pin" with isPrivate := true }
  let directive : Directive :=
    { source := "a.Account", target := "b.Login", bidirectional := ⟨.bool true⟩, flattening := ⟨.bool true⟩ }
  { types := [
      { name := "Account", module := "a", kind := .cls, directives := [directive]
        members := [text "user", { text "password" with ignored := true }, pin,
          object "address" "a.Address", object "pet" "a.Pet"] },
      { name := "Address", module := "a", kind := .cls, members := [text "street", pin] },
      { name := "Pet", module := "a", kind := .cls, members := [text "name", pin] },
      { name := "Login", module := "b", kind := .cls
        members := [text "user", text "password", pin, text "address_street", text "address_pin",
          object "pet" "b.Animal"] },
      { name := "Animal", module := "b", kind := .cls, members := [text "name", pin] }]
    nodup := by decide +kernel }

/-- The address is read into; neither the password nor any pin goes anywhere. -/
theorem proper_accounts : ∃ plan : Plan,
    plan.parts.map (fun m => m.correspondences.map fun c => (c.sourcePath, c.targetMember)) =
      [[(["user"], "user"), (["address", "street"], "address_street"), (["pet"], "pet")],
        [(["user"], "user"), (["pet"], "pet")], [(["name"], "name")], [(["name"], "name")]] ∧
      ∀ o : ObjectMapping, .object o ∈ plan.parts → ∀ c ∈ o.mappings ++ o.projection,
        Proper accounts o c := by
  let p : Planning := (Generation.settingOf {} accounts).planning
  obtain ⟨d, hd, hplan⟩ : ∃ d ∈ p.index.directives, (p.plan d).toOption.any (fun plan => decide
      (plan.parts.map (fun m => m.correspondences.map fun c => (c.sourcePath, c.targetMember)) =
        [[(["user"], "user"), (["address", "street"], "address_street"), (["pet"], "pet")],
          [(["user"], "user"), (["pet"], "pet")], [(["name"], "name")], [(["name"], "name")]])) = true := by
    decide +kernel
  obtain ⟨plan, hplan, hparts⟩ := Steps.exists_of_any hplan
  exact ⟨plan, hparts, proper_of_plan (p := p) (by decide +kernel) hd hplan⟩

end Planning

end Mapsmith
