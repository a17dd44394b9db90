import Mapsmith.Proofs.Tiers

/-!
# One place for every target member

A result has five places for target members: among those left out, those that correspond to a source
member, those bound to one without a conversion, those that several feed, and those that nothing feeds.
Whoever supplies the routines, every member that may be filled stands in one of them and in no other, the
one that the search through the tiers decides, and the members of a place stand in order of declaration
(`Mapsmith.Matching.accounted_of_run`).
-/

namespace Mapsmith.Matching

variable {β : Type} {g : TypeGraph} {o : Options} {source target : TypeDescriptor} {t : Member}

/-! ### Places -/

/-- The places in a result where a target member can stand. -/
inductive Place
  /-- Among the members left out. -/
  | ignored
  /-- Among the correspondences. -/
  | mapped
  /-- Among the members bound without a conversion. -/
  | unconvertible
  /-- Among the members that several feed. -/
  | ambiguous
  /-- Among the members that nothing feeds. -/
  | unmatched
  deriving DecidableEq, Repr

/-- The target members that stand in a place, given those that are left out. -/
def Place.names (r : MatchResult) (leftOut : List String) : Place → List String
  | ignored => leftOut
  | mapped => r.mappings.map (·.targetMember)
  | unconvertible => r.unconvertible.map (·.targetMember)
  | ambiguous => r.ambiguous.map (·.targetMember)
  | unmatched => r.unmatched

/-- The place where a finding puts its member. -/
def Finding.place : Finding → Place
  | .ignored => .ignored
  | .ambiguous _ => .ambiguous
  | .unmatched => .unmatched
  | .bound m => if m.conversion.kind = .unconvertible then .unconvertible else .mapped

/-- What can be found for a member once it is decided what feeds it: the conversion is left to the
supplier of routines. -/
inductive Settles (t : Member) : Outcome → Finding → Prop
  | ignored : Settles t .ignored .ignored
  | ambiguous {sources : List String} : Settles t (.ambiguous sources) (.ambiguous sources)
  | unmatched : Settles t .unmatched .unmatched
  | bound {b : Binding} {c : Conversion} : Settles t (.bound b) (.bound (b.toMapping t c))

section Run

variable {σ : Type} {supply : Supplier σ} {st st' : σ} {os : List (Member × Outcome)}
  {fs : List (Member × Finding)}

theorem settles_of_run {out : Outcome} {f : Finding}
    (h : (settle g supply t out).run st = .ok (f, st')) : Settles t out f := by
  cases out with
  | ignored =>
    obtain ⟨rfl, -⟩ := Steps.run_pure_eq_ok.1 h
    exact .ignored
  | ambiguous =>
    obtain ⟨rfl, -⟩ := Steps.run_pure_eq_ok.1 h
    exact .ambiguous
  | unmatched =>
    obtain ⟨rfl, -⟩ := Steps.run_pure_eq_ok.1 h
    exact .unmatched
  | bound b =>
    obtain ⟨c, _, -, hpure⟩ := Steps.run_bind_eq_ok.1 h
    obtain ⟨rfl, -⟩ := Steps.run_pure_eq_ok.1 hpure
    exact .bound

theorem forall₂_of_settleAll_run (h : (settleAll g supply os).run st = .ok (fs, st')) :
    List.Forall₂ (fun mo e => mo.1 = e.1 ∧ Settles mo.1 mo.2 e.2) os fs := by
  induction os generalizing st fs with
  | nil =>
    obtain ⟨rfl, -⟩ := Steps.run_pure_eq_ok.1 h
    exact .nil
  | cons mo os ih =>
    obtain ⟨f, _, hf, hrest⟩ := Steps.run_bind_eq_ok.1 h
    obtain ⟨fs', _, hfs, hpure⟩ := Steps.run_bind_eq_ok.1 hrest
    obtain ⟨rfl, rfl⟩ := Steps.run_pure_eq_ok.1 hpure
    exact .cons ⟨rfl, settles_of_run hf⟩ (ih hfs)

/-- What a result is made of: one finding for every target member, in order. -/
structure Findings (g : TypeGraph) (o : Options) (source target : TypeDescriptor)
    (fs : List (Member × Finding)) : Prop where
  members : fs.map (·.1) = targetMembers o target
  settles : ∀ e ∈ fs, Settles e.1 (outcome g o source e.1) e.2

theorem findings_of_run {r : MatchResult}
    (h : (matchMembers g supply o source target).run st = .ok (r, st')) :
    ∃ fs, Findings g o source target fs ∧ r = assemble o source target fs := by
  obtain ⟨fs, _, hfs, hpure⟩ := Steps.run_bind_eq_ok.1 h
  obtain ⟨rfl, -⟩ := Steps.run_pure_eq_ok.1 hpure
  have hall := forall₂_of_settleAll_run hfs
  rw [outcomes, List.forall₂_map_left_iff] at hall
  refine ⟨fs, ⟨?_, fun e he => ?_⟩, rfl⟩
  · have hmembers : List.Forall₂ (· = ·) (targetMembers o target) (fs.map (·.1)) :=
      List.forall₂_map_right_iff.2 (hall.imp fun _ _ h => h.1)
    rw [List.forall₂_eq_eq_eq] at hmembers
    exact hmembers.symm
  · obtain ⟨m, -, hm, hsettles⟩ := Steps.exists_of_mem_right hall he
    subst hm
    exact hsettles

end Run

/-- The findings under settled answers are findings. -/
theorem findings_settled {answer : Request → Option RoutineRef} : Findings g o source target
    ((outcomes g o source target).map fun (t, out) => (t, findingWith g answer t out)) := by
  refine ⟨?_, fun e he => ?_⟩
  · rw [List.map_map, outcomes, List.map_map]
    exact List.map_id _
  · obtain ⟨⟨t, out⟩, hout, rfl⟩ := List.mem_map.1 he
    obtain ⟨t, -, heq⟩ := List.mem_map.1 hout
    cases heq
    cases outcome g o source t with
    | ignored => exact .ignored
    | ambiguous => exact .ambiguous
    | unmatched => exact .unmatched
    | bound => exact .bound

/-- The target members that findings leave out. -/
def leftOut (fs : List (Member × Finding)) : List String :=
  fs.filterMap fun (m, f) => if f = .ignored then some m.name else none

section Findings

variable {fs : List (Member × Finding)} {f : Finding}

theorem Finding.mapping?_eq_some {c : PropertyMapping} :
    f.mapping? = some c ↔ f.place = .mapped ∧ f = .bound c := by
  cases f with
  | ignored | ambiguous | unmatched => simp [Finding.mapping?]
  | bound c' =>
    simp only [Finding.mapping?, Finding.place]
    split <;> simp

/-- The entry for a correspondence that cannot be converted. -/
def asUnconvertible (c : PropertyMapping) : UnconvertibleMember :=
  ⟨".".intercalate c.sourcePath, c.sourceType, c.targetMember, c.targetType, c.targetRequired⟩

theorem Finding.unconvertible?_eq_some {u : UnconvertibleMember} : f.unconvertible? = some u ↔
    ∃ c, f.place = .unconvertible ∧ f = .bound c ∧ u = asUnconvertible c := by
  cases f with
  | ignored | ambiguous | unmatched => simp [Finding.unconvertible?]
  | bound c' =>
    simp only [Finding.unconvertible?, Finding.place]
    split <;> simp [asUnconvertible, eq_comm]

/-- **The members in a place** are those whose findings put them there. -/
theorem names_assemble (hfs : Findings g o source target fs) (place : Place) :
    place.names (assemble o source target fs) (leftOut fs) =
      (fs.filter fun e => e.2.place = place).map (·.1.name) := by
  have hlist : place.names (assemble o source target fs) (leftOut fs) = fs.filterMap fun e =>
      if e.2.place = place then some e.1.name else none := by
    have hplace : ∀ f : Finding, (f = .ignored ↔ f.place = .ignored) ∧
        (f = .unmatched ↔ f.place = .unmatched) := by
      rintro (_ | _ | _ | m)
      · simp [Finding.place]
      · simp [Finding.place]
      · simp [Finding.place]
      · simp only [Finding.place]
        split <;> simp
    cases place with
    | ignored =>
      simp only [Place.names, leftOut, (hplace _).1]
    | unmatched =>
      simp only [Place.names, assemble, (hplace _).2]
    | mapped | unconvertible | ambiguous =>
      -- an entry goes by the name of the member that it is made for
      simp only [Place.names, assemble, List.map_filterMap]
      refine List.filterMap_congr fun e he => ?_
      obtain ⟨m, f⟩ := e
      have hsettles : Settles m _ f := hfs.settles _ he
      generalize outcome g o source m = out at hsettles
      cases hsettles with
      | ignored | ambiguous | unmatched => rfl
      | bound =>
        simp only [Finding.mapping?, Finding.unconvertible?, Finding.place]
        split <;> rfl
  rw [hlist, ← List.filterMap_eq_map, List.filterMap_filter]
  refine List.filterMap_congr fun e _ => ?_
  simp

/-- Correspondences stand in the order of the target's members. -/
theorem sublist_mappings (hfs : Findings g o source target fs) :
    ((assemble o source target fs).mappings.map (·.targetMember)).Sublist
      (target.members.map (·.name)) := by
  have hnames := names_assemble hfs .mapped
  rw [Place.names] at hnames
  have hmembers : (fs.map fun e => e.1.name) = (targetMembers o target).map (·.name) := by
    rw [← hfs.members, List.map_map]
    rfl
  rw [hnames]
  refine (List.filter_sublist.map _).trans ?_
  rw [hmembers]
  exact List.filter_sublist.map _

/-- Is a finding the one of a target member, no other going by its name? -/
structure Sole (fs : List (Member × Finding)) (t : Member) (f : Finding) : Prop where
  mem : (t, f) ∈ fs
  only : ∀ e ∈ fs, e.1.name = t.name → e = (t, f)

/-- Every target member has a finding to itself. -/
theorem exists_sole (hfs : Findings g o source target fs)
    (hnodup : (target.members.map (·.name)).Nodup) (ht : t ∈ targetMembers o target) :
    ∃ f, Sole fs t f := by
  obtain ⟨⟨t', f⟩, hf, rfl⟩ := List.mem_map.1 (hfs.members ▸ ht)
  have hnames : (fs.map fun e => e.1.name).Nodup := by
    have heq : fs.map (fun e => e.1.name) = (targetMembers o target).map (·.name) := by
      rw [← hfs.members, List.map_map]
      rfl
    rw [heq]
    exact hnodup.sublist (List.filter_sublist.map _)
  exact ⟨f, hf, fun e he hname => List.inj_on_of_nodup_map hnames he hf hname⟩

/-- A target member stands in the place of its finding, and in no other. -/
theorem Sole.mem_names_iff (hsole : Sole fs t f) (hfs : Findings g o source target fs) (place : Place) :
    t.name ∈ place.names (assemble o source target fs) (leftOut fs) ↔ f.place = place := by
  rw [names_assemble hfs, List.mem_map]
  constructor
  · rintro ⟨e, he, hname⟩
    obtain ⟨he, hplace⟩ := List.mem_filter.1 he
    rw [hsole.only e he hname] at hplace
    exact of_decide_eq_true hplace
  · exact fun hplace => ⟨(t, f), List.mem_filter.2 ⟨hsole.mem, decide_eq_true hplace⟩, rfl⟩

/-- The entries that go by the name of a target member are those of its finding. -/
theorem Sole.eq_of_mem_filterMap {entry : Finding → Option β} {name : β → String} (hsole : Sole fs t f)
    (hname : ∀ e ∈ fs, ∀ x, entry e.2 = some x → name x = e.1.name) {x : β}
    (hx : x ∈ fs.filterMap fun e => entry e.2) (hxt : name x = t.name) : entry f = some x := by
  obtain ⟨e, he, hentry⟩ := List.mem_filterMap.1 hx
  rw [hsole.only e he ((hname e he x hentry).symm.trans hxt)] at hentry
  exact hentry

theorem Settles.bound_name {out : Outcome} {c : PropertyMapping} (h : Settles t out (.bound c)) :
    c.targetMember = t.name := by
  cases h
  rfl

theorem Sole.eq_of_mem_mappings (hsole : Sole fs t f) (hfs : Findings g o source target fs)
    {c : PropertyMapping} (hc : c ∈ (assemble o source target fs).mappings)
    (hname : c.targetMember = t.name) : f = .bound c := by
  refine (Finding.mapping?_eq_some.1 (hsole.eq_of_mem_filterMap (fun e he c hc => ?_) hc hname)).2
  exact ((Finding.mapping?_eq_some.1 hc).2 ▸ hfs.settles e he).bound_name

theorem Sole.eq_of_mem_unconvertible (hsole : Sole fs t f) (hfs : Findings g o source target fs)
    {u : UnconvertibleMember} (hu : u ∈ (assemble o source target fs).unconvertible)
    (hname : u.targetMember = t.name) : ∃ c, f = .bound c ∧ u = asUnconvertible c := by
  have hentry : f.unconvertible? = some u := by
    refine hsole.eq_of_mem_filterMap (fun e he u hu => ?_) hu hname
    obtain ⟨c, -, hc, rfl⟩ := Finding.unconvertible?_eq_some.1 hu
    exact (hc ▸ hfs.settles e he).bound_name
  obtain ⟨c, -, hc, hu⟩ := Finding.unconvertible?_eq_some.1 hentry
  exact ⟨c, hc, hu⟩

theorem Sole.eq_of_mem_ambiguous (hsole : Sole fs t f) {a : Ambiguity}
    (ha : a ∈ (assemble o source target fs).ambiguous) (hname : a.targetMember = t.name) :
    f = .ambiguous a.sourceMembers := by
  obtain ⟨⟨m, d⟩, he, hentry⟩ := List.mem_filterMap.1 ha
  dsimp only at hentry
  split at hentry
  next sources =>
    cases hentry
    cases hsole.only _ he hname
    rfl
  · cases hentry

/-- The entry of a member that is bound without a conversion. -/
def Binding.unconvertible (b : Binding) (t : Member) : UnconvertibleMember :=
  ⟨".".intercalate (if b.path.isEmpty then [b.read.name] else b.path), b.read.type, t.name, t.type,
    t.required⟩

/-- **What a result says of a target member**, given the members that are left out. -/
structure Accounted (g : TypeGraph) (o : Options) (source : TypeDescriptor) (r : MatchResult)
    (left : List String) (t : Member) : Prop where
  once : ∃! place : Place, t.name ∈ place.names r left
  ignored : t.name ∈ left ↔ t.ignored = true
  ambiguous : t.name ∈ r.ambiguous.map (·.targetMember) ↔ t.ignored = false ∧
    ∃ (k : Tier) (s s' : Member), k.IsFirst o source t ∧ k.Finds o source t s ∧
      k.Finds o source t s' ∧ s ≠ s'
  sources : ∀ a ∈ r.ambiguous, a.targetMember = t.name → ∃ k : Tier, k.IsFirst o source t ∧
    a.sourceMembers.Sublist (source.members.map (·.name)) ∧
      ∀ s ∈ source.members, s.name ∈ a.sourceMembers ↔ k.Finds o source t s
  bound : (t.name ∈ r.mappings.map (·.targetMember) ∨
    t.name ∈ r.unconvertible.map (·.targetMember)) ↔ t.ignored = false ∧ ∃ b, Due g o source t b
  due : ∀ b, Due g o source t b →
    (∀ c ∈ r.mappings, c.targetMember = t.name → ∃ conversion, c = b.toMapping t conversion) ∧
      ∀ u ∈ r.unconvertible, u.targetMember = t.name → u = b.unconvertible t
  unmatched : t.name ∈ r.unmatched ↔ t.ignored = false ∧
    (∀ (k : Tier) s, ¬ k.Finds o source t s) ∧
      (o.flatten = true → ∀ outer ∈ source.members, ∀ inner, ¬ Inside g o t outer inner)

/-- Where a finding puts its member is where the decision does. -/
theorem Settles.place_iff {out : Outcome} (h : Settles t out f) :
    (f.place = .ignored ↔ out = .ignored) ∧
    (f.place = .ambiguous ↔ ∃ sources, out = .ambiguous sources) ∧
    (f.place = .mapped ∨ f.place = .unconvertible ↔ ∃ b, out = .bound b) ∧
    (f.place = .unmatched ↔ out = .unmatched) := by
  cases h with
  | ignored | ambiguous | unmatched => simp [Finding.place]
  | bound =>
    simp only [Finding.place]
    split <;> simp

/-- An ambiguous member is fed by the members that the first tier finds. -/
theorem Decides.exists_tier {sources : List String} (hsource : (source.members.map (·.name)).Nodup)
    (h : Decides g o source t (.ambiguous sources)) : ∃ k : Tier, k.IsFirst o source t ∧
      sources.Sublist (source.members.map (·.name)) ∧
        ∀ s ∈ source.members, s.name ∈ sources ↔ k.Finds o source t s := by
  cases h with
  | @ambiguous k _ _ _ hfirst =>
    refine ⟨k, hfirst, k.hits_sublist.map _, fun s hs => ?_⟩
    rw [← Tier.mem_hits]
    refine ⟨fun h => ?_, List.mem_map_of_mem⟩
    obtain ⟨s', hs', hname⟩ := List.mem_map.1 h
    exact List.inj_on_of_nodup_map hsource (k.hits_sublist.subset hs') hs hname ▸ hs'

/-- What is found for a bound member is made from the binding that is due. -/
theorem Settles.eq_toMapping {out : Outcome} {b : Binding} {c : PropertyMapping}
    (h : Settles t out (.bound c)) (hdecides : Decides g o source t out) (hdue : Due g o source t b) :
    ∃ conversion, c = b.toMapping t conversion := by
  cases h with
  | @bound b' conversion =>
    cases hdecides with
    | bound _ hdue' => exact ⟨conversion, by rw [hdue.unique hdue']⟩

/-- **A target member is accounted for** by its finding. -/
theorem accounted_of_findings (hfs : Findings g o source target fs)
    (hsource : (source.members.map (·.name)).Nodup) (htarget : (target.members.map (·.name)).Nodup)
    (ht : t ∈ targetMembers o target) :
    Accounted g o source (assemble o source target fs) (leftOut fs) t := by
  obtain ⟨f, hsole⟩ := exists_sole hfs htarget ht
  obtain ⟨out, hdecides, hsettles⟩ : ∃ out, Decides g o source t out ∧ Settles t out f :=
    ⟨_, decides_outcome hsource, hfs.settles _ hsole.mem⟩
  have hplace := hsole.mem_names_iff hfs
  have hout : ∀ out', out = out' ↔ Decides g o source t out' := fun out' =>
    ⟨fun h => h ▸ hdecides, hdecides.unique⟩
  obtain ⟨hignored, hambiguous, hbound, hunmatched⟩ := hsettles.place_iff
  refine ⟨⟨f.place, (hplace _).2 rfl, fun p hp => ((hplace p).1 hp).symm⟩, ?_, ?_, ?_, ?_, ?_, ?_⟩
  · refine (hplace .ignored).trans (hignored.trans ((hout _).trans ⟨?_, .ignored⟩))
    rintro ⟨h⟩
    exact h
  · refine (hplace .ambiguous).trans (hambiguous.trans ⟨?_, ?_⟩)
    · rintro ⟨sources, rfl⟩
      cases hdecides with
      | ambiguous h hfirst hs hs' hne => exact ⟨h, _, _, _, hfirst, hs, hs', hne⟩
    · rintro ⟨h, k, s, s', hfirst, hs, hs', hne⟩
      exact ⟨_, (hout _).2 (.ambiguous h hfirst hs hs' hne)⟩
  · intro a ha hname
    obtain rfl := hsole.eq_of_mem_ambiguous ha hname
    cases hsettles
    exact hdecides.exists_tier hsource
  · refine (or_congr (hplace .mapped) (hplace .unconvertible)).trans (hbound.trans ⟨?_, ?_⟩)
    · rintro ⟨b, rfl⟩
      cases hdecides with
      | bound h hdue => exact ⟨h, b, hdue⟩
    · rintro ⟨h, b, hdue⟩
      exact ⟨b, (hout _).2 (.bound h hdue)⟩
  · intro b hdue
    refine ⟨fun c hc hname => ?_, fun u hu hname => ?_⟩
    · obtain rfl := hsole.eq_of_mem_mappings hfs hc hname
      exact hsettles.eq_toMapping hdecides hdue
    · obtain ⟨c, rfl, rfl⟩ := hsole.eq_of_mem_unconvertible hfs hu hname
      obtain ⟨conversion, rfl⟩ := hsettles.eq_toMapping hdecides hdue
      cases b with
      | mk read kind path outerNullable =>
        cases path <;> rfl
  · refine (hplace .unmatched).trans (hunmatched.trans ((hout _).trans ⟨?_, ?_⟩))
    · intro h
      cases h with
      | unmatched h hnone hflat => exact ⟨h, hnone, hflat⟩
    · rintro ⟨h, hnone, hflat⟩
      exact .unmatched h hnone hflat

end Findings

/-- **Every target member is accounted for once.** Whoever supplies the routines, and in whatever state,
if matching gives a result for two types whose members have names of their own, then the target members
that may be filled are spread over five places, in order of declaration in each of them; every one
stands in exactly one place, the one that the search through the tiers puts it in, and no other member
of the target stands in any. -/
theorem accounted_of_run {σ : Type} {supply : Supplier σ} {st st' : σ} {r : MatchResult}
    (hsource : (source.members.map (·.name)).Nodup) (htarget : (target.members.map (·.name)).Nodup)
    (hrun : (matchMembers g supply o source target).run st = .ok (r, st')) :
    ∃ left, r.ignored = ((sourceMembers o source).filter (·.ignored)).map (·.name) ++ left ∧
      (∀ place : Place, (place.names r left).Sublist ((targetMembers o target).map (·.name))) ∧
      (∀ t ∈ target.members, (∃ place : Place, t.name ∈ place.names r left) →
        t.writable = true ∧ o.admits t = true) ∧
      ∀ t ∈ target.members, t.writable = true → o.admits t = true →
        Accounted g o source r left t := by
  obtain ⟨fs, hfs, rfl⟩ := findings_of_run hrun
  have hsublist : ∀ place : Place, (place.names (assemble o source target fs) (leftOut fs)).Sublist
      ((targetMembers o target).map (·.name)) := by
    intro place
    rw [names_assemble hfs, ← hfs.members, List.map_map]
    exact List.filter_sublist.map _
  refine ⟨leftOut fs, rfl, hsublist, ?_, ?_⟩
  · rintro t ht ⟨place, hplace⟩
    obtain ⟨t', ht', hname⟩ := List.mem_map.1 ((hsublist place).subset hplace)
    obtain ⟨hmem, hfilled⟩ := List.mem_filter.1 ht'
    obtain rfl := List.inj_on_of_nodup_map htarget hmem ht hname
    exact Bool.and_eq_true_iff.1 hfilled
  · intro t ht hwritable hadmits
    exact accounted_of_findings hfs hsource htarget
      (List.mem_filter.2 ⟨ht, Bool.and_eq_true_iff.2 ⟨hwritable, hadmits⟩⟩)

/-- An order, with a member of every sort. -/
def order : TypeDescriptor :=
  { name := "Order", module := "shop", kind := .cls
    members := [
      { name := "number", type := .mk "int" .scalar [] none false, renameTo := some "code" },
      { name := "total", type := .mk "int" .scalar [] none false },
      { name := "Total", type := .mk "int" .scalar [] none false },
      { name := "address", type := .mk "shop.Address" .object [] none false },
      { name := "placed", type := .mk "str" .scalar [] none false },
      { name := "draft", type := .mk "bool" .scalar [] none false, ignored := true }] }

/-- What it is mapped to, with a member of every sort. -/
def orderDto : TypeDescriptor :=
  { name := "OrderDto", module := "dto", kind := .cls
    members := [
      { name := "code", type := .mk "int" .scalar [] none false },
      { name := "TOTAL", type := .mk "int" .scalar [] none false },
      { name := "addressCity", type := .mk "str" .scalar [] none false },
      { name := "placed", type := .mk "bytes" .scalar [] none false },
      { name := "secret", type := .mk "str" .scalar [] none false, ignored := true },
      { name := "note", type := .mk "str" .scalar [] none false },
      { name := "label", type := .mk "str" .scalar [] none false, init := false, settable := false }] }

/-- The two of them, with the addresses inside orders. -/
def orders : TypeGraph :=
  { types := [order, orderDto, { name := "Address", module := "shop", kind := .cls, members := [
      { name := "city", type := .mk "str" .scalar [] none false }] }]
    nodup := by decide +kernel }

/-- Of the members of an order, every place gets one, and the one that cannot be filled gets none. -/
theorem accounted_orders : ∃ r left,
    (∀ place : Place, place.names r left = match place with
      | .ignored => ["secret"]
      | .mapped => ["code", "addressCity"]
      | .unconvertible => ["placed"]
      | .ambiguous => ["TOTAL"]
      | .unmatched => ["note"]) ∧
    ∀ t ∈ orderDto.members, t.writable = true → Accounted orders { flatten := true } order r left t := by
  obtain ⟨⟨r, _⟩, hrun, hignored, hmapped, hunconvertible, hambiguous, hunmatched⟩ :
      ∃ x, (matchMembers orders (directSupplier orders) { flatten := true } order orderDto).run () =
        .ok x ∧ x.1.ignored = ["draft", "secret"] ∧
        x.1.mappings.map (·.targetMember) = ["code", "addressCity"] ∧
        x.1.unconvertible.map (·.targetMember) = ["placed"] ∧
        x.1.ambiguous.map (·.targetMember) = ["TOTAL"] ∧ x.1.unmatched = ["note"] :=
    Steps.exists_of_any (by decide +kernel)
  obtain ⟨left, hleft, -, -, haccounted⟩ :=
    accounted_of_run (by decide +kernel) (by decide +kernel) hrun
  obtain rfl : left = ["secret"] := by
    rw [hignored] at hleft
    exact (List.cons.inj hleft).2.symm
  refine ⟨r, ["secret"], ?_, fun t ht hwritable => haccounted t ht hwritable ?_⟩
  · rintro (_ | _ | _ | _ | _)
    · rfl
    · exact hmapped
    · exact hunconvertible
    · exact hambiguous
    · exact hunmatched
  · revert t
    decide +kernel

end Mapsmith.Matching
