import Mapsmith.Proofs.Erasure
import Mapsmith.Proofs.PrivateRoutines

/-!
# Private mappings, wherever planning starts

A private mapping is planned where it is called for first: for some directive, on some path of pairs
that are under way, with some private mappings in the table. None of this is left in it but the place of
that directive. The path and the table decide what is planned on the spot
(`Mapsmith.Planning.Supplied`), while every request is answered in the same way, so a mapping that comes
out of a run is the one under settled answers, whatever the run started from
(`Mapsmith.Planning.objectMapping_anywhere`). Unlike the mappings of an emitted plan, this asks nothing
of the directive: it need not be one of the pass.

So two plans of one namespace agree on a private mapping under a name between two types, up to places, if
both map these as objects or both as enums. A unit keeps the first mapping of every name, and loses
nothing by it exactly if a name tells the types and the kind of the conversion
(`Mapsmith.Planning.indifferent_to_start`).
-/

namespace Mapsmith

open Matching

/-! ### Mappings without places -/

namespace Mapping

/-- A mapping without the place of what asked for it. -/
def unplaced : Mapping → Mapping
  | .object m => .object { m with directive := m.directive.erase }
  | .enum m => .enum { m with directive := m.directive.erase }

variable (m : Mapping)

@[simp] theorem routine_unplaced : m.unplaced.routine = m.routine := by cases m <;> rfl
@[simp] theorem source_unplaced : m.unplaced.source = m.source := by cases m <;> rfl
@[simp] theorem target_unplaced : m.unplaced.target = m.target := by cases m <;> rfl

@[simp] theorem conversionKind_unplaced : m.unplaced.conversionKind = m.conversionKind := by
  cases m <;> rfl

/-- What is rendered for a mapping does not depend on places. -/
@[simp] theorem routines_unplaced (site : Emission.Site) (isPublic : Bool) :
    site.routines isPublic m.unplaced = site.routines isPublic m := by
  cases m <;> rfl

/-- Two mappings that go by one name between the same types. -/
structure Alike (m m' : Mapping) : Prop where
  name : m.routine.name = m'.routine.name
  source : m.source.qualifiedName = m'.source.qualifiedName
  target : m.target.qualifiedName = m'.target.qualifiedName

instance (m m' : Mapping) : Decidable (m.Alike m') :=
  decidable_of_iff (m.routine.name = m'.routine.name ∧
      m.source.qualifiedName = m'.source.qualifiedName ∧
      m.target.qualifiedName = m'.target.qualifiedName)
    ⟨fun ⟨name, source, target⟩ => ⟨name, source, target⟩,
      fun h => ⟨h.name, h.source, h.target⟩⟩

end Mapping

namespace Planning

open Generation

variable {p : Planning} {d : Directive}

theorem unplaced_mappingWith {home : String} {inverse : Bool} {routine : RoutineRef}
    {source target : TypeDescriptor} :
    (Mapping.object (p.mappingWith home inverse d routine source target)).unplaced =
      .object (p.mappingWith home inverse d.erase routine source target) := by
  unfold mappingWith
  split <;> rfl

theorem unplaced_enumMapping {ref : RoutineRef} {e : EnumMapping} (h : p.enumMapping d ref = .ok e) :
    p.enumMapping d.erase ref = .ok { e with directive := d.erase } := by
  obtain ⟨source, hs, hrest⟩ := Steps.bind_eq_ok.1 h
  obtain ⟨target, ht, hpure⟩ := Steps.bind_eq_ok.1 hrest
  cases hpure
  exact Steps.bind_eq_ok.2 ⟨source, hs, Steps.bind_eq_ok.2 ⟨target, ht, rfl⟩⟩

/-- **What serves a request under a name is settled**, up to the place of what asked for it. -/
theorem Serves.unplaced_eq {owner owner' : Owner} {strategy strategy' : NamingStrategy}
    {request : Request} {ref : RoutineRef} {name : String} {m m' : Mapping}
    (hhome : owner.home = owner'.home) (hname : p.privateName? strategy request = some name)
    (hname' : p.privateName? strategy' request = some name)
    (h : Serves p owner strategy request ref m) (h' : Serves p owner' strategy' request ref m') :
    m.unplaced = m'.unplaced := by
  cases h with
  | nested hs ht =>
    -- the name tells the strategy, by which the members are compared
    obtain rfl := eq_of_privateName?_nested hname hname'
    cases h' with
    | nested hs' ht' =>
      obtain rfl := Option.some.inj (hs.symm.trans hs')
      obtain rfl := Option.some.inj (ht.symm.trans ht')
      rw [unplaced_mappingWith, unplaced_mappingWith, hhome]
      rfl
  | enum h =>
    cases h' with
    | enum h' =>
      have hsettled := unplaced_enumMapping h
      have hsettled' := unplaced_enumMapping h'
      have hdirective := (enumMapping_eq_ok h).2.2.2
      have hdirective' := (enumMapping_eq_ok h').2.2.2
      rw [Mapping.unplaced, Mapping.unplaced, hdirective, hdirective']
      exact congrArg Mapping.enum (Except.ok.inj (hsettled.symm.trans hsettled'))

/-! ### Runs from anywhere -/

section Run

variable {owner : Owner} {strategy : NamingStrategy} {levels : Nat} {path : List (String × String)}
  {inverse : Bool} {routine : RoutineRef} {table table' : HelperTable} {m : ObjectMapping}

/-- Is every mapping that is planned with some levels left the one under settled answers, and does a
table that serves stay one? -/
def PlansAnywhere (p : Planning) (owner : Owner) (levels : Nat) : Prop :=
  ∀ {path inverse d routine table m table'},
    (p.objectMapping owner levels path inverse d routine).run table = .ok (m, table') →
    (∃ source target, p.graph.get? d.source = some source ∧ p.graph.get? d.target = some target ∧
      m = p.mappingWith owner.home inverse d routine source target) ∧
    (Served p owner d.strategy (Originates p.graph) table →
      Served p owner d.strategy (Originates p.graph) table')

/-- Supplying a routine keeps a table that serves, whatever stood in it at the start. -/
theorem supplies_served {start : HelperTable} {request : Request} (hrec : PlansAnywhere p owner levels)
    (horigin : Originates p.graph request) :
    Supplies (p.supplier owner levels path strategy) (p.answer owner.home strategy)
      (fun table => Served p owner strategy (Originates p.graph) start →
        Served p owner strategy (Originates p.graph) table)
      (fun _ _ => True) (fun _ _ => True) request := by
  intro table r table' htable hrun
  obtain ⟨hanswer, hsupplied⟩ := supplied_of_run hrun
  refine ⟨hanswer, fun hstart => ?_, trivial, trivial⟩
  cases hsupplied with
  | settled hnone => exact htable hstart
  | awaited hname hawaited => exact htable hstart
  | enum hname hm => exact (htable hstart).insert horigin hname (.enum hm)
  | nested hname hm =>
    obtain ⟨⟨source, target, hs, ht, rfl⟩, hkeeps⟩ := hrec hm
    exact (hkeeps (htable hstart)).insert horigin hname (.nested hs ht)

/-- **Planning from anywhere** makes the mapping under settled answers, whatever pairs are under way
and whatever stands in the table. -/
theorem objectMapping_anywhere : ∀ levels, PlansAnywhere p owner levels := by
  intro levels
  -- on the levels left, for all paths and tables at once
  induction levels with
  | zero =>
    intro path inverse d routine table m table' hrun
    cases hrun
  | succ levels ih =>
    intro path inverse d routine table m table' hrun
    have hgrowth : Growth (fun _ _ : HelperTable => True) (fun (_ : Request) _ => True) :=
      ⟨fun _ => trivial, fun _ _ => trivial, fun _ _ => trivial⟩
    obtain ⟨hmapping, hserved, -⟩ := objectMapping_succ_run hgrowth
      (fun request hasked => supplies_served ih (origin_of_asked hasked)) id hrun
    exact ⟨hmapping, hserved⟩

end Run

/-- Do any two runs for one directive in one namespace come to the same mapping, whatever pairs are
under way, whatever stands in the table and however many levels are left? -/
def RunsAgree (p : Planning) : Prop :=
  ∀ {owner owner' levels levels' path path' inverse d routine start start' m m' table table'},
    owner.home = owner'.home →
    (p.objectMapping owner levels path inverse d routine).run start = .ok (m, table) →
    (p.objectMapping owner' levels' path' inverse d routine).run start' = .ok (m', table') →
    m = m'

theorem runsAgree : RunsAgree p := by
  intro _ _ _ _ _ _ _ _ _ _ _ _ _ _ _ hhome h h'
  obtain ⟨⟨source, target, hs, ht, rfl⟩, -⟩ := objectMapping_anywhere _ h
  obtain ⟨⟨source', target', hs', ht', rfl⟩, -⟩ := objectMapping_anywhere _ h'
  obtain rfl := Option.some.inj (hs.symm.trans hs')
  obtain rfl := Option.some.inj (ht.symm.trans ht')
  rw [hhome]

/-! ### The private mappings of a plan -/

/-- Does a mapping serve a request that members of types make, for a plan into some namespace? -/
structure Made (p : Planning) (home : String) (strategy : NamingStrategy) (request : Request)
    (m : Mapping) : Prop where
  origin : Originates p.graph request
  name : p.privateName? strategy request = some m.routine.name
  serves : ∃ owner : Owner, owner.home = home ∧
    Serves p owner strategy request (privateRef home request m.routine.name) m

theorem made_of_mem_sorted {owner : Owner} {strategy : NamingStrategy} {table : HelperTable}
    {m : Mapping} (h : Served p owner strategy (Originates p.graph) table) (hm : m ∈ table.sorted) :
    ∃ request, Made p owner.home strategy request m := by
  obtain ⟨⟨name, m⟩, he, rfl⟩ := List.mem_map.1 (HelperTable.sorted_perm.mem_iff.1 hm)
  obtain ⟨request, horigin, hname, hserves⟩ := h _ he
  obtain rfl : m.routine.name = name := by rw [hserves.routine_eq, privateRef]
  exact ⟨request, horigin, hname, owner, rfl, hserves⟩

/-- Both directions of a directive leave a table that serves. -/
theorem served_of_objectMappings {source target : TypeDescriptor} {forward : ObjectMapping}
    {reverse : Option ObjectMapping} {table : HelperTable}
    (hrun : (p.objectMappings d source target).run [] = .ok ((forward, reverse), table)) :
    p.graph.get? d.target = some forward.target ∧
      Served p (ownerOf d target) d.strategy (Originates p.graph) table := by
  obtain ⟨forward, table₁, hforward, hrun⟩ := Steps.run_bind_eq_ok.1 hrun
  obtain ⟨⟨_, t, -, ht, rfl⟩, hahead⟩ := objectMapping_anywhere _ hforward
  have htable₁ := hahead (fun _ he => by cases he)
  split at hrun
  · -- the way back goes on with that table, under the same strategy
    obtain ⟨reverse, table₂, hreverse, hrun⟩ := Steps.run_bind_eq_ok.1 hrun
    cases hrun
    obtain ⟨-, hback⟩ := objectMapping_anywhere _ hreverse
    rw [d.strategy_reversed] at hback
    exact ⟨by rw [ht, target_mappingWith], hback htable₁⟩
  · cases hrun
    exact ⟨by rw [ht, target_mappingWith], htable₁⟩

/-- **Every private mapping of a plan is made for a request**, whatever directive is planned. -/
theorem made_of_plan {plan : Plan} {m : Mapping} (h : p.plan d = .ok plan) (hm : m ∈ plan.helpers) :
    ∃ request, Made p plan.target.module d.strategy request m := by
  obtain ⟨source, hs, h⟩ := Steps.bind_eq_ok.1 h
  obtain ⟨target, ht, h⟩ := Steps.bind_eq_ok.1 h
  rw [getType_eq_ok] at ht
  split at h
  · -- a plan between enums has no private mappings
    obtain ⟨forward, -, h⟩ := Steps.bind_eq_ok.1 h
    split at h
    · obtain ⟨reverse, -, h⟩ := Steps.bind_eq_ok.1 h
      cases h
      cases hm
    · cases h
      cases hm
  · obtain ⟨⟨⟨forward, reverse⟩, table⟩, hrun, h⟩ := Steps.bind_eq_ok.1 h
    obtain ⟨entries, -, h⟩ := Steps.bind_eq_ok.1 h
    obtain ⟨ht', hserved⟩ := served_of_objectMappings hrun
    have htarget : target = forward.target := Option.some.inj (ht.symm.trans ht')
    cases h
    obtain ⟨request, hmade⟩ := made_of_mem_sorted hserved hm
    rw [ownerOf, htarget] at hmade
    exact ⟨request, hmade⟩

section Made

variable {home : String} {strategy strategy' : NamingStrategy} {request request' : Request}
  {m m' : Mapping}

theorem Made.fits (h : Made p home strategy request m) : m.Fits request := by
  obtain ⟨owner, -, hserves⟩ := h.serves
  exact hserves.fits

/-- Alike mappings for one kind of conversion serve one request. -/
theorem Made.request_eq (h : Made p home strategy request m) (h' : Made p home strategy' request' m')
    (halike : m.Alike m') (hkind : m.conversionKind = m'.conversionKind) : request = request' :=
  h.fits.unique ⟨halike.source.trans h'.fits.source, halike.target.trans h'.fits.target,
    hkind.trans h'.fits.kind⟩

/-- Alike mappings are the same up to places exactly if they serve one kind of conversion. -/
theorem Made.unplaced_eq_iff (h : Made p home strategy request m)
    (h' : Made p home strategy' request' m') (halike : m.Alike m') :
    m.unplaced = m'.unplaced ↔ m.conversionKind = m'.conversionKind := by
  constructor
  · intro heq
    rw [← m.conversionKind_unplaced, heq, m'.conversionKind_unplaced]
  · intro hkind
    obtain rfl := h.request_eq h' halike hkind
    obtain ⟨owner, hhome, hserves⟩ := h.serves
    obtain ⟨owner', hhome', hserves'⟩ := h'.serves
    have hname' := h'.name
    rw [← halike.name] at hname' hserves'
    exact hserves.unplaced_eq (hhome.trans hhome'.symm) h.name hname' hserves'

/-- Where enum references name enums as such, a pair of types tells the kind of its conversion. -/
theorem Made.conversionKind_eq (henums : EnumsNamedAsSuch p.graph)
    (h : Made p home strategy request m) (h' : Made p home strategy' request' m')
    (halike : m.Alike m') : m.conversionKind = m'.conversionKind := by
  obtain rfl := eq_of_pair henums h.origin h'.origin
    (h.fits.source.symm.trans (halike.source.trans h'.fits.source))
    (h.fits.target.symm.trans (halike.target.trans h'.fits.target))
  exact h.fits.kind.trans h'.fits.kind.symm

end Made

/-! ### The private mappings of a unit -/

/-- The private mappings of some plans. -/
def privateMappings (plans : List Plan) : List Mapping :=
  plans.flatMap (·.helpers)

/-- Does the name of a private mapping tell its two types, among those of some plans? -/
def TellsPair (plans : List Plan) : Prop :=
  ∀ m ∈ privateMappings plans, ∀ m' ∈ privateMappings plans,
    m.routine.name = m'.routine.name → m.Alike m'

/-- Does the name of a private mapping tell its types and the kind of its conversion? -/
def Tells (plans : List Plan) : Prop :=
  ∀ m ∈ privateMappings plans, ∀ m' ∈ privateMappings plans,
    m.routine.name = m'.routine.name → m.Alike m' ∧ m.conversionKind = m'.conversionKind

instance (plans : List Plan) : Decidable (Tells plans) :=
  inferInstanceAs (Decidable (∀ m ∈ privateMappings plans, _))

/-- Is nothing lost by keeping the first mapping of every name? For each there is then one that is
kept, that differs from it in places at most and is rendered in the same way. -/
def LosesNothing (plans : List Plan) : Prop :=
  ∀ m ∈ privateMappings plans, ∃ k ∈ keptMappings plans, k.unplaced = m.unplaced ∧
    ∀ site : Emission.Site, site.routines false k = site.routines false m

section Unit

variable {plans : List Plan} {home : String}
  (hplans : ∀ q ∈ plans, q.target.module = home ∧ ∃ d, p.plan d = .ok q)
include hplans

theorem made_of_mem {m : Mapping} (hm : m ∈ privateMappings plans) :
    ∃ strategy request, Made p home strategy request m := by
  obtain ⟨q, hq, hm⟩ := List.mem_flatMap.1 hm
  obtain ⟨rfl, d, hd⟩ := hplans q hq
  obtain ⟨request, hmade⟩ := made_of_plan hd hm
  exact ⟨_, request, hmade⟩

omit hplans in
theorem mem_of_mem_kept {k : Mapping} (hk : k ∈ keptMappings plans) :
    k ∈ privateMappings plans := by
  obtain ⟨q, hq, hmem⟩ := mem_of_mem_helperMappings hk
  exact List.mem_flatMap.2 ⟨q, Text.mem_sortByKey.1 hq, hmem⟩

omit hplans in
theorem exists_kept {m : Mapping} (hm : m ∈ privateMappings plans) :
    ∃ k ∈ keptMappings plans, k.routine.name = m.routine.name := by
  obtain ⟨q, hq, hm⟩ := List.mem_flatMap.1 hm
  exact exists_kept_of_mem_helpers hq hm

/-- Keeping the first mapping of every name loses nothing exactly if names tell what is mapped. -/
theorem losesNothing_iff : LosesNothing plans ↔ Tells plans := by
  constructor
  · intro hkeeps m hm m' hm' hname
    obtain ⟨k, hk, heq, -⟩ := hkeeps m hm
    obtain ⟨k', hk', heq', -⟩ := hkeeps m' hm'
    -- one mapping is kept for the name of both
    have hkname : k.routine.name = k'.routine.name := by
      rw [← k.routine_unplaced, ← k'.routine_unplaced, heq, heq', m.routine_unplaced,
        m'.routine_unplaced, hname]
    obtain rfl := eq_of_mem_keptMappings hk hk' hkname
    have hsame : m.unplaced = m'.unplaced := heq.symm.trans heq'
    refine ⟨⟨hname, ?_, ?_⟩, ?_⟩
    · rw [← m.source_unplaced, hsame, m'.source_unplaced]
    · rw [← m.target_unplaced, hsame, m'.target_unplaced]
    · rw [← m.conversionKind_unplaced, hsame, m'.conversionKind_unplaced]
  · intro htells m hm
    obtain ⟨k, hk, hname⟩ := exists_kept hm
    have hmem := mem_of_mem_kept hk
    obtain ⟨_, _, hmade⟩ := made_of_mem hplans hm
    obtain ⟨_, _, hmade'⟩ := made_of_mem hplans hmem
    obtain ⟨halike, hkind⟩ := htells k hmem m hm hname
    have heq := (hmade'.unplaced_eq_iff hmade halike).2 hkind
    refine ⟨k, hk, heq, fun site => ?_⟩
    rw [← k.routines_unplaced, heq, m.routines_unplaced]

end Unit

/-- **Private mappings do not depend on where planning starts.** Two runs for one directive in one
namespace come to the same mapping, whatever they start from. So private mappings of plans of any
directives into one namespace, under one name between the same types, are the same up to places exactly
if both map objects or both map enums; where the enum references of the graph name no object type, they
always are. Keeping the first mapping of every name loses nothing exactly if a name tells the types and
the kind of the conversion, for which it is enough that it tells the types where enum references name no
object type. -/
theorem indifferent_to_start {plans : List Plan} {home : String}
    (hplans : ∀ q ∈ plans, q.target.module = home ∧ ∃ d, p.plan d = .ok q) :
    RunsAgree p ∧
    (∀ m ∈ privateMappings plans, ∀ m' ∈ privateMappings plans, m.Alike m' →
      (m.unplaced = m'.unplaced ↔ m.conversionKind = m'.conversionKind) ∧
        (EnumsNamedAsSuch p.graph → m.unplaced = m'.unplaced)) ∧
    (LosesNothing plans ↔ Tells plans) ∧
    (EnumsNamedAsSuch p.graph → TellsPair plans → LosesNothing plans) := by
  have hpairs : ∀ m ∈ privateMappings plans, ∀ m' ∈ privateMappings plans, m.Alike m' →
      (m.unplaced = m'.unplaced ↔ m.conversionKind = m'.conversionKind) ∧
        (EnumsNamedAsSuch p.graph → m.conversionKind = m'.conversionKind) := by
    intro m hm m' hm' halike
    obtain ⟨_, _, hmade⟩ := made_of_mem hplans hm
    obtain ⟨_, _, hmade'⟩ := made_of_mem hplans hm'
    exact ⟨hmade.unplaced_eq_iff hmade' halike, fun henums =>
      hmade.conversionKind_eq henums hmade' halike⟩
  refine ⟨runsAgree, fun m hm m' hm' halike => ?_, losesNothing_iff hplans, fun henums htells => ?_⟩
  · obtain ⟨hiff, hkind⟩ := hpairs m hm m' hm' halike
    exact ⟨hiff, fun henums => hiff.2 (hkind henums)⟩
  · refine (losesNothing_iff hplans).2 fun m hm m' hm' hname => ?_
    have halike := htells m hm m' hm' hname
    exact ⟨halike, (hpairs m hm m' hm' halike).2 henums⟩

/-- A type of a module with one member. -/
def holding (module name member type : String) : TypeDescriptor :=
  { name, module, kind := .cls, members := [objectMember member type] }

/-- Teams led by people, who have jobs, under bosses; firms lead into the same cycle at a job. -/
def firms : TypeGraph where
  types := ["shop", "dto"].flatMap fun module =>
    let person := module ++ ".Person"
    let job := module ++ ".Job"
    [holding module "Person" "job" job, holding module "Job" "boss" person,
      holding module "Team" "lead" person, holding module "Firm" "first" job]
  nodup := by decide +kernel

/-- A directive of the shop, at its source. -/
def shopDirective (name : String) : Directive :=
  { source := "shop." ++ name, target := "dto." ++ name, location := some ⟨name, none, none⟩ }

/-- The planning of teams and firms. -/
def staffing : Planning :=
  ⟨⟨[shopDirective "Team", shopDirective "Firm"], firms⟩, []⟩

/-- The cycle of people and jobs is entered at either. -/
theorem indifferent_to_start_firms :
    ∃ team firm, staffing.plan (shopDirective "Team") = .ok team ∧
      staffing.plan (shopDirective "Firm") = .ok firm ∧
      (∃ m ∈ team.helpers, ∃ m' ∈ firm.helpers, m.Alike m' ∧ m ≠ m' ∧ m.unplaced = m'.unplaced) ∧
      LosesNothing [team, firm] := by
  obtain ⟨team, hteam, hfirm⟩ : ∃ team, staffing.plan (shopDirective "Team") = .ok team ∧
      (staffing.plan (shopDirective "Firm")).toOption.any (fun firm =>
        decide ((∀ q ∈ [team, firm], q.target.module = "dto") ∧ Tells [team, firm] ∧
          ∃ m ∈ team.helpers, ∃ m' ∈ firm.helpers, m.Alike m' ∧ m ≠ m' ∧
            m.conversionKind = m'.conversionKind)) = true :=
    Steps.exists_of_any (by decide +kernel)
  obtain ⟨firm, hfirm, hhome, htells, m, hm, m', hm', halike, hne, hkind⟩ := Steps.exists_of_any hfirm
  have hplans : ∀ q ∈ [team, firm], q.target.module = "dto" ∧ ∃ d, staffing.plan d = .ok q := by
    intro q hq
    refine ⟨hhome q hq, ?_⟩
    rcases List.mem_pair.1 hq with rfl | rfl
    · exact ⟨_, hteam⟩
    · exact ⟨_, hfirm⟩
  obtain ⟨-, hpairs, hloses, -⟩ := indifferent_to_start hplans
  have hmem : m ∈ privateMappings [team, firm] := List.mem_flatMap.2 ⟨team, by simp, hm⟩
  have hmem' : m' ∈ privateMappings [team, firm] := List.mem_flatMap.2 ⟨firm, by simp, hm'⟩
  exact ⟨team, firm, hteam, hfirm, ⟨m, hm, m', hm', halike, hne,
    (hpairs m hmem m' hmem' halike).1.2 hkind⟩, hloses.2 htells⟩

/-- The requests that a one-way plan wants are among those that are closed under what is planned. -/
theorem Wanted.mem_of_closed {closed : List Request} {request : Request} (h : Wanted p d request)
    (honeWay : d.bidirectional.isOn = false) (hahead : ∀ r ∈ p.asked false d, r ∈ closed)
    (hinside : ∀ outer ∈ closed, ∀ r ∈ p.inside d.strategy outer, r ∈ closed) : request ∈ closed := by
  induction h with
  | ahead hasked _ => exact hahead _ hasked
  | back _ _ hback _ _ =>
    simp only [goesBack, honeWay, Bool.false_and] at hback
    cases hback
  | inside _ hasked _ ih => exact hinside _ ih _ hasked

/-- Walls have a colour that is an object, and the colour of paints is an enum of the same name. -/
def coloured : TypeGraph where
  types := ["shop", "dto"].flatMap fun module =>
    let colour := module ++ ".Colour"
    [{ name := "Colour", module, kind := .cls, members := [textMember "name"] },
      holding module "Wall" "tone" colour,
      { name := "Paint", module, kind := .cls
        members := [{ name := "tone", type := .mk colour .enum [] none false }] }]
  nodup := by decide +kernel

/-- The planning of paints and walls. -/
def decorating : Planning :=
  ⟨⟨[shopDirective "Paint", shopDirective "Wall"], coloured⟩, []⟩

/-- Either build meets the pair of colours alone, and their private mappings differ in kind. -/
theorem not_indifferent_to_start :
    ∃ paint wall, decorating.plan (shopDirective "Paint") = .ok paint ∧
      decorating.plan (shopDirective "Wall") = .ok wall ∧ paint.target.module = wall.target.module ∧
      (∀ request, Wanted decorating (shopDirective "Paint") request ∨
        Wanted decorating (shopDirective "Wall") request →
        request.source = "shop.Colour" ∧ request.target = "dto.Colour") ∧
      ∃ m ∈ paint.helpers, ∃ m' ∈ wall.helpers, m.Alike m' ∧ m.unplaced ≠ m'.unplaced := by
  obtain ⟨paint, hpaint, hwall⟩ : ∃ paint, decorating.plan (shopDirective "Paint") = .ok paint ∧
      (decorating.plan (shopDirective "Wall")).toOption.any (fun wall =>
        decide (paint.target.module = wall.target.module ∧
          ∃ m ∈ paint.helpers, ∃ m' ∈ wall.helpers, m.Alike m' ∧ m.unplaced ≠ m'.unplaced)) = true :=
    Steps.exists_of_any (by decide +kernel)
  obtain ⟨wall, hwall, hhome, hdiffer⟩ := Steps.exists_of_any hwall
  refine ⟨paint, wall, hpaint, hwall, hhome, ?_, hdiffer⟩
  rintro request (h | h)
  · have hmem : request ∈ [Request.enum "shop.Colour" "dto.Colour"] :=
      h.mem_of_closed rfl (by decide +kernel) (by decide +kernel)
    obtain rfl := List.mem_singleton.1 hmem
    exact ⟨rfl, rfl⟩
  · have hmem : request ∈ [Request.nested "shop.Colour" "dto.Colour"] :=
      h.mem_of_closed rfl (by decide +kernel) (by decide +kernel)
    obtain rfl := List.mem_singleton.1 hmem
    exact ⟨rfl, rfl⟩

end Planning

end Mapsmith
