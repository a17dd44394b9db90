import Mapsmith.EnumMatching
import Mapsmith.Proofs.RoundTrips

/-!
# Tiers of the search

What the search decides for a target member is said here without the search: which source members a tier
finds (`Mapsmith.Matching.Tier.Finds`), which tier is the first to find any, and which member inside
another one comes first (`Mapsmith.Matching.FirstInside`). Of what the first tier finds one is due to the
target member, if it is alone; several are an ambiguity; and only where no tier finds any does the search
look inside (`Mapsmith.Matching.decides_outcome`).

Enum values have tiers of their own, and their counterparts are told in the same manner
(`Mapsmith.EnumMatching.Counterpart`): the value itself, the first target value equal to it up to case, or
else what the first group has to offer that names it and offers anything. Whether a value has a counterpart
at all is a question of one symmetric relation only, to be equal up to case or named by one group
(`Mapsmith.EnumMatching.Related`); so a two-way enum mapping that relates two values one way relates them
the other way.
-/

namespace Mapsmith.Matching

variable {α β : Type} {g : TypeGraph} {o : Options} {source target : TypeDescriptor} {s t : Member}

/-! ### The first of several -/

/-- Is an element the first one of a list that has a property? -/
structure FirstOf (P : α → Prop) (xs : List α) (x : α) : Prop where
  holds : P x
  earliest : ∃ before after, xs = before ++ x :: after ∧ ∀ y ∈ before, ¬ P y

namespace FirstOf

variable {P Q : α → Prop} {xs : List α} {x y : α}

theorem mem (h : FirstOf P xs x) : x ∈ xs := by
  obtain ⟨before, after, rfl, -⟩ := h.earliest
  exact List.mem_append_cons_self

theorem unique (hx : FirstOf P xs x) (hy : FirstOf P xs y) : x = y := by
  classical
  have hfind : ∀ {z}, FirstOf P xs z → xs.find? (fun z => decide (P z)) = some z := by
    rintro z ⟨hz, before, after, hxs, hbefore⟩
    exact List.find?_eq_some_iff_append.2 ⟨by simpa using hz, before, after, hxs, by simpa using hbefore⟩
  exact Option.some.inj ((hfind hx).symm.trans (hfind hy))

theorem congr (h : FirstOf P xs x) (hPQ : ∀ y ∈ xs, P y ↔ Q y) : FirstOf Q xs x := by
  have hmem := h.mem
  obtain ⟨hx, before, after, rfl, hbefore⟩ := h
  refine ⟨(hPQ x hmem).1 hx, before, after, rfl, fun y hy hQ => hbefore y hy ?_⟩
  exact (hPQ y (List.mem_append_left _ hy)).2 hQ

/-- What comes first among those that pass a test is the first that passes it as well. -/
theorem of_filter {p : α → Bool} (h : FirstOf P (xs.filter p) x) :
    FirstOf (fun y => p y = true ∧ P y) xs x := by
  obtain ⟨hx, before, after, hsplit, hbefore⟩ := h
  obtain ⟨front, back, rfl, hfront, hback⟩ := List.filter_eq_append_iff.1 hsplit
  obtain ⟨mid, rest, rfl, hmid, hpx, -⟩ := List.filter_eq_cons_iff.1 hback
  refine ⟨⟨hpx, hx⟩, front ++ mid, rest, by rw [List.append_assoc], fun y hy hboth => ?_⟩
  rcases List.mem_append.1 hy with hy | hy
  · exact hbefore y (hfront ▸ List.mem_filter.2 ⟨hy, hboth.1⟩) hboth.2
  · exact hmid y hy hboth.1

theorem of_find? {p : α → Bool} (h : xs.find? p = some x) : FirstOf (fun y => p y = true) xs x := by
  obtain ⟨hx, before, after, hxs, hbefore⟩ := List.find?_eq_some_iff_append.1 h
  exact ⟨hx, before, after, hxs, by simpa using hbefore⟩

theorem of_findSome? {f : α → Option β} {b : β} (h : xs.findSome? f = some b) :
    ∃ x, FirstOf (fun y => (f y).isSome = true) xs x ∧ f x = some b := by
  obtain ⟨before, x, after, hxs, hx, hbefore⟩ := List.findSome?_eq_some_iff.1 h
  refine ⟨x, ⟨hx ▸ rfl, before, after, hxs, fun y hy hsome => ?_⟩, hx⟩
  rw [hbefore y hy] at hsome
  cases hsome

end FirstOf

/-! ### Tiers -/

/-- The tiers in which whole source members are looked for. -/
inductive Tier
  /-- A source member declares the target member for its own. -/
  | declared
  /-- The target member declares a source member for its own, and that counts. -/
  | inverse
  /-- The names agree. -/
  | named
  deriving DecidableEq, Repr

/-- Does a name, respelled, give that of a target member or the keyword of its constructor? -/
def Agrees (strategy : NamingStrategy) (name : String) (t : Member) : Prop :=
  Text.casefold (strategy.convert name) = Text.casefold t.name ∨
    Text.casefold (strategy.convert name) = Text.casefold t.keyword

theorem feeds_iff {strategy : NamingStrategy} {name : String} :
    feeds strategy name t = true ↔ Agrees strategy name t := by
  by_cases hkeyword : t.keyword = t.name
  · simp [feeds, Agrees, NamingStrategy.agree, hkeyword]
  · simp [feeds, Agrees, NamingStrategy.agree, hkeyword]

namespace Tier

/-- The tiers in the order in which they are gone through. -/
def all : List Tier := [declared, inverse, named]

/-- How a member that is found in a tier is said to be found. -/
def kind : Tier → MatchKind
  | declared | inverse => .directive
  | named => .name

/-- What a tier asks of a source member. -/
def Asks (o : Options) (t s : Member) : Tier → Prop
  | declared => ∃ rename, s.rename? = some rename ∧ Text.casefold rename = Text.casefold t.name
  | inverse => o.inverseRenames = true ∧ s.rename? = none ∧
    ∃ rename, t.rename? = some rename ∧ Text.casefold s.name = Text.casefold rename
  | named => s.rename? = none ∧ Agrees o.strategy s.name t

/-- **Does a tier find a source member** for a target member? -/
structure Finds (k : Tier) (o : Options) (source : TypeDescriptor) (t s : Member) : Prop where
  mem : s ∈ source.members
  reads : o.Reads s
  asks : k.Asks o t s

/-- **Is a tier the first one that finds any member?** -/
def IsFirst (k : Tier) (o : Options) (source : TypeDescriptor) (t : Member) : Prop :=
  FirstOf (fun k => ∃ s, Finds k o source t s) all k

/-- The source members that a tier finds, in order of declaration. -/
def hits (o : Options) (source : TypeDescriptor) (t : Member) : Tier → List Member
  | declared => declaredHits o source t
  | inverse => inverseHits o source t
  | named => namedHits o source t

variable {k k' : Tier}

theorem mem_sourceMembers_and : s ∈ sourceMembers o source ∧ s.ignored = false ↔
    s ∈ source.members ∧ o.Reads s := by
  simp only [sourceMembers, List.mem_filter, Bool.and_eq_true, Options.Reads]
  tauto

theorem mem_hits : s ∈ k.hits o source t ↔ k.Finds o source t s := by
  have hfinds : k.Finds o source t s ↔
      (s ∈ sourceMembers o source ∧ s.ignored = false) ∧ k.Asks o t s := by
    rw [mem_sourceMembers_and]
    exact ⟨fun h => ⟨⟨h.mem, h.reads⟩, h.asks⟩, fun h => ⟨h.1.1, h.1.2, h.2⟩⟩
  rw [hfinds]
  cases k with
  | declared =>
    simp only [hits, mem_declaredHits, Asks, NamingStrategy.agree_identity, and_assoc]
  | inverse =>
    simp only [hits, mem_inverseHits, mem_plainMembers, Asks, NamingStrategy.agree_identity]
    tauto
  | named =>
    simp only [hits, mem_namedHits, mem_plainMembers, feeds_iff, Asks]
    tauto

theorem hits_sublist (k : Tier) : (k.hits o source t).Sublist source.members := by
  -- every tier only filters the source's members
  have hplain : (plainMembers o source).Sublist source.members :=
    List.filter_sublist.trans List.filter_sublist
  cases k with
  | declared =>
    exact List.filter_sublist.trans (List.filter_sublist.trans List.filter_sublist)
  | inverse =>
    rw [hits, inverseHits]
    split
    · exact List.filter_sublist.trans hplain
    · exact List.nil_sublist _
  | named => exact List.filter_sublist.trans hplain

theorem hits_eq_nil : k.hits o source t = [] ↔ ¬ ∃ s, k.Finds o source t s := by
  rw [List.eq_nil_iff_forall_not_mem, not_exists]
  exact forall_congr' fun s => not_congr mem_hits

/-- The search looks at what the first tier finds that finds any. -/
theorem hits_eq : (∃ k, IsFirst k o source t ∧ Matching.hits o source t = (k.hits o source t, k.kind)) ∨
    (∀ k s, ¬ Finds k o source t s) ∧ (Matching.hits o source t).1 = [] := by
  have hfinds : ∀ {k : Tier} {s ss}, k.hits o source t = s :: ss → ∃ s, k.Finds o source t s :=
    fun hk => ⟨_, mem_hits.1 (hk ▸ List.mem_cons_self)⟩
  unfold Matching.hits
  cases hdeclared : declaredHits o source t with
  | cons s ss =>
    refine .inl ⟨declared, ⟨hfinds hdeclared, [], [inverse, named], rfl, nofun⟩, ?_⟩
    rw [hits, hdeclared]
    rfl
  | nil =>
    have hno : ¬ ∃ s, declared.Finds o source t s := hits_eq_nil.1 hdeclared
    cases hinverse : inverseHits o source t with
    | cons s ss =>
      refine .inl ⟨inverse, ⟨hfinds hinverse, [declared], [named], rfl, ?_⟩, by rw [hits, hinverse]; rfl⟩
      rintro k' (_ | ⟨_, hnil⟩)
      · exact hno
      · cases hnil
    | nil =>
      have hno' : ¬ ∃ s, inverse.Finds o source t s := hits_eq_nil.1 hinverse
      by_cases hnamed : ∃ s, named.Finds o source t s
      · refine .inl ⟨named, ⟨hnamed, [declared, inverse], [], rfl, ?_⟩, rfl⟩
        rintro k' (_ | ⟨_, _ | ⟨_, hnil⟩⟩)
        · exact hno
        · exact hno'
        · cases hnil
      · refine .inr ⟨?_, hits_eq_nil.2 hnamed⟩
        rintro (_ | _ | _) s hs
        · exact hno ⟨s, hs⟩
        · exact hno' ⟨s, hs⟩
        · exact hnamed ⟨s, hs⟩

end Tier

/-! ### Inside other members -/

/-- **Does a member inside a source member feed the target member?** -/
structure Inside (g : TypeGraph) (o : Options) (t outer inner : Member) : Prop where
  reads : o.Reads outer
  plain : outer.rename? = none
  object : outer.type.kind = .object
  mem : ∃ nested, g.get? outer.type.name = some nested ∧ nested.kind.isObject = true ∧
    inner ∈ nested.members
  readsInner : o.Reads inner
  agrees : Agrees o.strategy (outer.name ++ inner.name) t ∨
    Agrees o.strategy (outer.name ++ "_" ++ inner.name) t

/-- **Is it the first to do so**: inside the first source member in which one does, and the first one
inside that? -/
structure FirstInside (g : TypeGraph) (o : Options) (source : TypeDescriptor) (t outer inner : Member) :
    Prop where
  outerFirst : FirstOf (fun outer => ∃ inner, Inside g o t outer inner) source.members outer
  innerFirst : ∃ nested, g.get? outer.type.name = some nested ∧
    FirstOf (Inside g o t outer) nested.members inner

/-- The binding to a member inside a source member. -/
def insideBinding (outer inner : Member) : Binding :=
  ⟨inner, .flattened, [outer.name, inner.name], outer.type.nullable⟩

variable {outer inner : Member} {b : Binding}

theorem FirstInside.unique {outer' inner' : Member} (h : FirstInside g o source t outer inner)
    (h' : FirstInside g o source t outer' inner') : outer = outer' ∧ inner = inner' := by
  obtain rfl := h.outerFirst.unique h'.outerFirst
  obtain ⟨nested, hnested, hinner⟩ := h.innerFirst
  obtain ⟨nested', hnested', hinner'⟩ := h'.innerFirst
  obtain rfl := Option.some.inj (hnested.symm.trans hnested')
  exact ⟨rfl, hinner.unique hinner'⟩

theorem joinedFeeds_iff : joinedFeeds o outer inner t = true ↔
    Agrees o.strategy (outer.name ++ inner.name) t ∨
      Agrees o.strategy (outer.name ++ "_" ++ inner.name) t := by
  rw [joinedFeeds, Bool.or_eq_true, feeds_iff, feeds_iff]

/-- The first find inside a source member is the first member that may be read and feeds the target
member. -/
theorem firstOf_of_find? (hreads : o.Reads outer) (hplain : outer.rename? = none)
    (h : (innerMembers g o outer).find? (fun inner => joinedFeeds o outer inner t) = some inner) :
    ∃ nested, g.get? outer.type.name = some nested ∧
      FirstOf (Inside g o t outer) nested.members inner := by
  unfold innerMembers at h
  split at h
  next hobject =>
    split at h
    next nested hnested =>
      split at h
      next hkind =>
        refine ⟨nested, hnested, (FirstOf.of_find? h).of_filter.congr fun m hm => ?_⟩
        rw [joinedFeeds_iff]
        simp only [Bool.and_eq_true, Bool.not_eq_true']
        constructor
        · rintro ⟨⟨⟨hreadable, hignored⟩, hadmits⟩, hagrees⟩
          exact ⟨hreads, hplain, hobject, ⟨nested, hnested, hkind, hm⟩,
            ⟨hreadable, hignored, hadmits⟩, hagrees⟩
        · rintro ⟨-, -, -, -, ⟨hreadable, hignored, hadmits⟩, hagrees⟩
          exact ⟨⟨⟨hreadable, hignored⟩, hadmits⟩, hagrees⟩
      · cases h
    · cases h
  · cases h

theorem Inside.mem_innerMembers (h : Inside g o t outer inner) : inner ∈ innerMembers g o outer := by
  obtain ⟨nested, hnested, hkind, hm⟩ := h.mem
  unfold innerMembers
  rw [if_pos h.object]
  simp only [hnested]
  rw [if_pos hkind]
  obtain ⟨hreadable, hignored, hadmits⟩ := h.readsInner
  exact List.mem_filter.2 ⟨hm, by simp only [hreadable, hignored, hadmits, Bool.not_false, Bool.and_self]⟩

theorem isSome_find?_iff (hreads : o.Reads outer) (hplain : outer.rename? = none) :
    ((innerMembers g o outer).find? (fun inner => joinedFeeds o outer inner t)).isSome = true ↔
      ∃ inner, Inside g o t outer inner := by
  constructor
  · intro h
    obtain ⟨inner, hinner⟩ := Option.isSome_iff_exists.1 h
    obtain ⟨nested, -, hfirst⟩ := firstOf_of_find? hreads hplain hinner
    exact ⟨inner, hfirst.holds⟩
  · rintro ⟨inner, h⟩
    exact List.find?_isSome.2 ⟨inner, h.mem_innerMembers, joinedFeeds_iff.2 h.agrees⟩

theorem firstInside_of_flattenedBinding (h : flattenedBinding g o source t = some b) :
    ∃ outer inner, FirstInside g o source t outer inner ∧ b = insideBinding outer inner := by
  have hplain : ∀ {m}, (m.rename?.isNone && !m.ignored && (m.readable && o.admits m)) = true ↔
      o.Reads m ∧ m.rename? = none := by
    intro m
    simp only [Bool.and_eq_true, Bool.not_eq_true', Option.isNone_iff_eq_none, Options.Reads]
    tauto
  unfold flattenedBinding plainMembers sourceMembers at h
  rw [List.filter_filter] at h
  obtain ⟨outer, hfirst, hb⟩ := FirstOf.of_findSome? h
  obtain ⟨inner, hinner, rfl⟩ := Option.map_eq_some_iff.1 hb
  obtain ⟨hreads, hrename⟩ := hplain.1 (List.mem_filter.1 hfirst.mem).2
  have hinnerFirst := firstOf_of_find? hreads hrename hinner
  refine ⟨outer, inner, ⟨hfirst.of_filter.congr fun m _ => ?_, hinnerFirst⟩, rfl⟩
  rw [hplain, Option.isSome_map]
  constructor
  · rintro ⟨⟨hreads, hrename⟩, hsome⟩
    exact (isSome_find?_iff hreads hrename).1 hsome
  · rintro ⟨inner, h⟩
    exact ⟨⟨h.reads, h.plain⟩, (isSome_find?_iff h.reads h.plain).2 ⟨inner, h⟩⟩

theorem not_inside_of_flattenedBinding (h : flattenedBinding g o source t = none)
    (houter : outer ∈ source.members) : ¬ Inside g o t outer inner := by
  intro hinside
  obtain ⟨hreadable, hignored, hadmits⟩ := hinside.reads
  have hmem : outer ∈ plainMembers o source := mem_plainMembers.2
    ⟨List.mem_filter.2 ⟨houter, Bool.and_eq_true_iff.2 ⟨hreadable, hadmits⟩⟩, hinside.plain, hignored⟩
  have hnone := List.findSome?_eq_none_iff.1 h outer hmem
  rw [Option.map_eq_none_iff] at hnone
  have hsome := (isSome_find?_iff hinside.reads hinside.plain).2 ⟨inner, hinside⟩
  rw [hnone] at hsome
  cases hsome

/-! ### What the search decides -/

/-- **The source member that a target member is due**: the only find of the first tier that finds any,
or, where none does and members may be read from inside others, the first one inside. -/
inductive Due (g : TypeGraph) (o : Options) (source : TypeDescriptor) (t : Member) : Binding → Prop
  /-- A whole member. -/
  | alone {k : Tier} {s : Member} (hfirst : k.IsFirst o source t)
    (honly : ∀ s', k.Finds o source t s' ↔ s' = s) : Due g o source t ⟨s, k.kind, [], false⟩
  /-- A member inside another one. -/
  | inside {outer inner : Member} (hnone : ∀ (k : Tier) s, ¬ k.Finds o source t s)
    (hflatten : o.flatten = true) (hfirst : FirstInside g o source t outer inner) :
    Due g o source t (insideBinding outer inner)

/-- What is decided for a target member. -/
inductive Decides (g : TypeGraph) (o : Options) (source : TypeDescriptor) (t : Member) : Outcome → Prop
  /-- It is left out. -/
  | ignored (h : t.ignored = true) : Decides g o source t .ignored
  /-- The first tier finds several. -/
  | ambiguous {k : Tier} {s s' : Member} (h : t.ignored = false) (hfirst : k.IsFirst o source t)
    (hs : k.Finds o source t s) (hs' : k.Finds o source t s') (hne : s ≠ s') :
    Decides g o source t (.ambiguous ((k.hits o source t).map (·.name)))
  /-- A source member is due. -/
  | bound {b : Binding} (h : t.ignored = false) (hdue : Due g o source t b) :
    Decides g o source t (.bound b)
  /-- Nothing feeds it. -/
  | unmatched (h : t.ignored = false) (hnone : ∀ (k : Tier) s, ¬ k.Finds o source t s)
    (hflat : o.flatten = true → ∀ outer ∈ source.members, ∀ inner, ¬ Inside g o t outer inner) :
    Decides g o source t .unmatched

/-- **The search decides so.** -/
theorem decides_outcome (hnodup : (source.members.map (·.name)).Nodup) :
    Decides g o source t (outcome g o source t) := by
  unfold outcome
  cases hignored : t.ignored with
  | true =>
    rw [if_pos rfl]
    exact .ignored hignored
  | false =>
    rw [if_neg Bool.false_ne_true]
    rcases @Tier.hits_eq o source t with ⟨k, hfirst, hhits⟩ | ⟨hnone, hhits⟩
    · rw [hhits]
      cases hfound : k.hits o source t with
      | nil => exact absurd hfirst.holds (Tier.hits_eq_nil.1 hfound)
      | cons s rest =>
        cases rest with
        | nil =>
          refine .bound hignored (.alone hfirst fun s' => ?_)
          rw [← Tier.mem_hits, hfound, List.mem_singleton]
        | cons s' rest =>
          have hfinds : ∀ {m}, m ∈ s :: s' :: rest → k.Finds o source t m := fun hm =>
            Tier.mem_hits.1 (hfound ▸ hm)
          have hdistinct : (s :: s' :: rest).Nodup := hfound ▸ (hnodup.of_map _).sublist (k.hits_sublist)
          have hne : s ≠ s' := fun h =>
            (List.nodup_cons.1 hdistinct).1 (h ▸ List.mem_cons_self)
          have hdecides := Decides.ambiguous (g := g) hignored hfirst (hfinds List.mem_cons_self)
            (hfinds (List.mem_cons_of_mem _ List.mem_cons_self)) hne
          rwa [hfound] at hdecides
    · generalize Matching.hits o source t = found at hhits
      obtain ⟨found, kind⟩ := found
      obtain rfl : found = [] := hhits
      dsimp only
      split
      next hflatten =>
        split
        next b hflat =>
          obtain ⟨outer, inner, hfirst, rfl⟩ := firstInside_of_flattenedBinding hflat
          exact .bound hignored (.inside hnone hflatten hfirst)
        next hflat =>
          exact .unmatched hignored hnone fun _ outer houter inner =>
            not_inside_of_flattenedBinding hflat houter
      next hflatten =>
        exact .unmatched hignored hnone fun h => absurd h hflatten

/-- A tier that finds several leaves no member due. -/
theorem Due.eq_of_finds {k : Tier} {s' : Member} (h : Due g o source t b) (hfirst : k.IsFirst o source t)
    (hs : k.Finds o source t s) (hs' : k.Finds o source t s') : s = s' := by
  cases h with
  | alone hfirst' honly =>
    obtain rfl := hfirst.unique hfirst'
    rw [(honly s).1 hs, (honly s').1 hs']
  | inside hnone _ _ => exact absurd hs (hnone k s)

theorem Due.unique {b' : Binding} (h : Due g o source t b) (h' : Due g o source t b') : b = b' := by
  cases h with
  | alone hfirst honly =>
    cases h' with
    | alone hfirst' honly' =>
      obtain rfl := hfirst.unique hfirst'
      obtain rfl := (honly' _).1 ((honly _).2 rfl)
      rfl
    | inside hnone _ _ => exact absurd hfirst.holds (not_exists.2 (hnone _))
  | inside hnone _ hinside =>
    cases h' with
    | alone hfirst' _ => exact absurd hfirst'.holds (not_exists.2 (hnone _))
    | inside _ _ hinside' =>
      obtain ⟨rfl, rfl⟩ := hinside.unique hinside'
      rfl

/-- Where a source member is due, something is found. -/
theorem Due.not_unmatched (h : Due g o source t b) (hnone : ∀ (k : Tier) s, ¬ k.Finds o source t s)
    (hflat : o.flatten = true → ∀ outer ∈ source.members, ∀ inner, ¬ Inside g o t outer inner) :
    False := by
  cases h with
  | alone hfirst => exact absurd hfirst.holds (not_exists.2 (hnone _))
  | inside _ hflatten hinside =>
    obtain ⟨inner, h⟩ := hinside.outerFirst.holds
    exact hflat hflatten _ hinside.outerFirst.mem _ h

theorem Decides.unique {out out' : Outcome} (h : Decides g o source t out)
    (h' : Decides g o source t out') : out = out' := by
  have hkept : t.ignored = true → t.ignored = false → False := fun h h' => by
    rw [h] at h'
    cases h'
  cases h with
  | ignored h =>
    cases h' with
    | ignored => rfl
    | ambiguous h' | bound h' | unmatched h' => exact (hkept h h').elim
  | ambiguous h hfirst hs hs' hne =>
    cases h' with
    | ignored h' => exact (hkept h' h).elim
    | ambiguous _ hfirst' =>
      obtain rfl := hfirst.unique hfirst'
      rfl
    | bound _ hdue => exact absurd (hdue.eq_of_finds hfirst hs hs') hne
    | unmatched _ hnone => exact absurd hs (hnone _ _)
  | bound h hdue =>
    cases h' with
    | ignored h' => exact (hkept h' h).elim
    | ambiguous _ hfirst hs hs' hne => exact absurd (hdue.eq_of_finds hfirst hs hs') hne
    | bound _ hdue' => rw [hdue.unique hdue']
    | unmatched _ hnone hflat => exact (hdue.not_unmatched hnone hflat).elim
  | unmatched h hnone hflat =>
    cases h' with
    | ignored h' => exact (hkept h' h).elim
    | ambiguous _ _ hs => exact absurd hs (hnone _ _)
    | bound _ hdue => exact (hdue.not_unmatched hnone hflat).elim
    | unmatched => rfl

end Mapsmith.Matching

namespace Mapsmith.EnumMatching

open Matching (FirstOf)

/-! ### What a counterpart is -/

/-- Does a group name a value, up to case? -/
def Names (group : List String) (v : String) : Prop :=
  Text.casefold v ∈ group.map Text.casefold

/-- **Are two values related**: equal up to case, or named by one group? -/
def Related (groups : List (List String)) (a b : String) : Prop :=
  Text.casefold a = Text.casefold b ∨ ∃ group ∈ groups, Names group a ∧ Names group b

/-- Does a member of a group offer another value in place of `v`, one that the target has up to case? -/
def Offers (targets : List String) (v other : String) : Prop :=
  Text.casefold other ≠ Text.casefold v ∧ ∃ t ∈ targets, Text.casefold t = Text.casefold other

/-- **The entry that a value is due in the table.** -/
inductive Counterpart (groups : List (List String)) (targets : List String) (v : String) :
    EnumValueMapping → Prop
  /-- The target has the value itself. -/
  | same (hmem : v ∈ targets) : Counterpart groups targets v ⟨v, some v, some .exact⟩
  /-- The first target value that is equal to it up to case. -/
  | folded {t : String} (hnot : v ∉ targets)
    (hfirst : FirstOf (fun t => Text.casefold t = Text.casefold v) targets t) :
    Counterpart groups targets v ⟨v, some t, some .caseInsensitive⟩
  /-- The first target value that is equal, up to case, to the first member that offers one, in the first
  group that names the value and has such a member. -/
  | grouped {group : List String} {other t : String}
    (hnone : ∀ t ∈ targets, Text.casefold t ≠ Text.casefold v)
    (hgroup : FirstOf (fun group => Names group v ∧ ∃ other ∈ group, Offers targets v other) groups group)
    (hother : FirstOf (Offers targets v) group other)
    (hfirst : FirstOf (fun t => Text.casefold t = Text.casefold other) targets t) :
    Counterpart groups targets v ⟨v, some t, some .equivalence⟩
  /-- Nothing in the target is related to it. -/
  | none (hnone : ∀ t ∈ targets, ¬ Related groups v t) : Counterpart groups targets v ⟨v, none, none⟩

variable {groups : List (List String)} {group sources targets : List String} {v w t folded : String}
  {m m' : EnumValueMapping}

theorem Related.symm (h : Related groups v w) : Related groups w v := by
  rcases h with h | ⟨group, hgroup, hv, hw⟩
  · exact .inl h.symm
  · exact .inr ⟨group, hgroup, hw, hv⟩

theorem names_of_mem {other : String} (h : other ∈ group) (heq : Text.casefold v = Text.casefold other) :
    Names group v :=
  List.mem_map.2 ⟨other, h, heq.symm⟩

/-- A target value that is related to another one, but not equal to it up to case, is on offer in a
group. -/
theorem offers_of_related (ht : t ∈ targets) (hnot : Text.casefold t ≠ Text.casefold v)
    (h : Related groups v t) : ∃ group ∈ groups, Names group v ∧ ∃ other ∈ group, Offers targets v other := by
  rcases h with h | ⟨group, hgroup, hv, hnames⟩
  · exact absurd h.symm hnot
  · obtain ⟨other, hother, heq⟩ := List.mem_map.1 hnames
    exact ⟨group, hgroup, hv, other, hother, heq ▸ hnot, t, ht, heq.symm⟩

/-- What is on offer is related. -/
theorem related_of_offers {other : String} (hgroup : group ∈ groups) (hv : Names group v)
    (hother : other ∈ group) (heq : Text.casefold t = Text.casefold other) : Related groups v t :=
  .inr ⟨group, hgroup, hv, names_of_mem hother heq⟩

/-! ### The search -/

theorem firstFolded_eq_some (h : firstFolded targets folded = some t) :
    FirstOf (fun t => Text.casefold t = folded) targets t :=
  (FirstOf.of_find? h).congr fun _ _ => beq_iff_eq

theorem isSome_firstFolded :
    (firstFolded targets folded).isSome = true ↔ ∃ t ∈ targets, Text.casefold t = folded := by
  simp only [firstFolded, List.find?_isSome, beq_iff_eq]

/-- What a group offers in place of a value, member by member. -/
def offer (targets : List String) (v : String) (group : List String) : Option String :=
  group.findSome? fun other =>
    if Text.casefold other = Text.casefold v then none else firstFolded targets (Text.casefold other)

theorem equivalent_eq : equivalent groups targets v = groups.findSome? fun group =>
    if Text.casefold v ∈ group.map Text.casefold then offer targets v group else none := by
  simp only [equivalent, offer, List.findSome?_map, Function.comp_def]

theorem isSome_offer_member {other : String} :
    (if Text.casefold other = Text.casefold v then none
      else firstFolded targets (Text.casefold other)).isSome = true ↔ Offers targets v other := by
  split
  next heq => exact ⟨nofun, fun h => absurd heq h.1⟩
  next hne => exact isSome_firstFolded.trans ⟨fun h => ⟨hne, h⟩, fun h => h.2⟩

theorem isSome_offer : (offer targets v group).isSome = true ↔ ∃ other ∈ group, Offers targets v other := by
  simp only [offer, List.findSome?_isSome_iff, isSome_offer_member]

theorem offer_eq_some (h : offer targets v group = some t) : ∃ other,
    FirstOf (Offers targets v) group other ∧
      FirstOf (fun t => Text.casefold t = Text.casefold other) targets t := by
  obtain ⟨other, hfirst, hvalue⟩ := FirstOf.of_findSome? h
  have hother := hfirst.congr fun other _ => isSome_offer_member
  rw [if_neg hother.holds.1] at hvalue
  exact ⟨other, hother, firstFolded_eq_some hvalue⟩

/-- A group counts if it names the value and offers anything. -/
theorem isSome_offer_group :
    (if Text.casefold v ∈ group.map Text.casefold then offer targets v group else none).isSome = true ↔
      Names group v ∧ ∃ other ∈ group, Offers targets v other := by
  split
  next hnames => exact isSome_offer.trans ⟨fun h => ⟨hnames, h⟩, fun h => h.2⟩
  next hnot => exact ⟨nofun, fun h => absurd h.1 hnot⟩

theorem equivalent_eq_some (h : equivalent groups targets v = some t) : ∃ group other,
    FirstOf (fun group => Names group v ∧ ∃ other ∈ group, Offers targets v other) groups group ∧
      FirstOf (Offers targets v) group other ∧
      FirstOf (fun t => Text.casefold t = Text.casefold other) targets t := by
  rw [equivalent_eq] at h
  obtain ⟨group, hfirst, hvalue⟩ := FirstOf.of_findSome? h
  have hgroup := hfirst.congr fun group _ => isSome_offer_group
  have hnames : Text.casefold v ∈ group.map Text.casefold := hgroup.holds.1
  rw [if_pos hnames] at hvalue
  obtain ⟨other, hother, hvalue⟩ := offer_eq_some hvalue
  exact ⟨group, other, hgroup, hother, hvalue⟩

theorem equivalent_eq_none (h : equivalent groups targets v = none) (hgroup : group ∈ groups) :
    ¬ (Names group v ∧ ∃ other ∈ group, Offers targets v other) := by
  rw [equivalent_eq] at h
  rw [← isSome_offer_group, List.findSome?_eq_none_iff.1 h group hgroup]
  exact Bool.false_ne_true

/-- **The search finds the entry that a value is due.** -/
theorem counterpart_matchValue : Counterpart groups targets v (matchValue groups targets v) := by
  unfold matchValue
  split
  next hmem => exact .same hmem
  next hnot =>
    cases hfolded : firstFolded targets (Text.casefold v) with
    | some t => exact .folded hnot (firstFolded_eq_some hfolded)
    | none =>
      have hnone : ∀ t ∈ targets, Text.casefold t ≠ Text.casefold v := by
        intro t ht heq
        have hsome := isSome_firstFolded.2 ⟨t, ht, heq⟩
        rw [hfolded] at hsome
        cases hsome
      cases hgrouped : equivalent groups targets v with
      | some t =>
        obtain ⟨group, other, hgroup, hother, hfirst⟩ := equivalent_eq_some hgrouped
        exact .grouped hnone hgroup hother hfirst
      | none =>
        refine .none fun t ht hrelated => ?_
        obtain ⟨group, hgroup, hnames, hoffers⟩ := offers_of_related ht (hnone t ht) hrelated
        exact equivalent_eq_none hgrouped hgroup ⟨hnames, hoffers⟩

namespace Counterpart

theorem sourceValue_eq (h : Counterpart groups targets v m) : m.sourceValue = v := by
  cases h <;> rfl

/-- A value has a counterpart exactly if something in the target is related to it. -/
theorem matched_iff (h : Counterpart groups targets v m) :
    m.matched = true ↔ ∃ t ∈ targets, Related groups v t := by
  cases h with
  | same hmem => exact iff_of_true rfl ⟨v, hmem, .inl rfl⟩
  | folded hnot hfirst => exact iff_of_true rfl ⟨_, hfirst.mem, .inl hfirst.holds.symm⟩
  | grouped hnone hgroup hother hfirst =>
    refine iff_of_true rfl ⟨_, hfirst.mem, ?_⟩
    exact related_of_offers hgroup.mem hgroup.holds.1 hother.mem hfirst.holds
  | none hnone => exact iff_of_false nofun fun ⟨t, ht, h⟩ => hnone t ht h

/-- The rule leaves no choice. -/
theorem unique (h : Counterpart groups targets v m) (h' : Counterpart groups targets v m') : m = m' := by
  cases h with
  | same hmem =>
    cases h' with
    | same => rfl
    | folded hnot => exact absurd hmem hnot
    | grouped hnone => exact absurd rfl (hnone v hmem)
    | none hnone => exact absurd (.inl rfl) (hnone v hmem)
  | folded hnot hfirst =>
    cases h' with
    | same hmem => exact absurd hmem hnot
    | folded _ hfirst' => rw [hfirst.unique hfirst']
    | grouped hnone => exact absurd hfirst.holds (hnone _ hfirst.mem)
    | none hnone => exact absurd (.inl hfirst.holds.symm) (hnone _ hfirst.mem)
  | grouped hnone hgroup hother hfirst =>
    cases h' with
    | same hmem => exact absurd rfl (hnone v hmem)
    | folded _ hfirst' => exact absurd hfirst'.holds (hnone _ hfirst'.mem)
    | grouped _ hgroup' hother' hfirst' =>
      obtain rfl := hgroup.unique hgroup'
      obtain rfl := hother.unique hother'
      rw [hfirst.unique hfirst']
    | none hnone' =>
      have hrelated := related_of_offers hgroup.mem hgroup.holds.1 hother.mem hfirst.holds
      exact absurd hrelated (hnone' _ hfirst.mem)
  | none hnone =>
    cases h' with
    | same hmem => exact absurd (.inl rfl) (hnone v hmem)
    | folded _ hfirst => exact absurd (.inl hfirst.holds.symm) (hnone _ hfirst.mem)
    | grouped _ hgroup hother hfirst =>
      have hrelated := related_of_offers hgroup.mem hgroup.holds.1 hother.mem hfirst.holds
      exact absurd hrelated (hnone _ hfirst.mem)
    | none => rfl

end Counterpart

/-! ### The table -/

theorem forall₂_counterpart (sources : List String) :
    List.Forall₂ (Counterpart groups targets) sources (matchValues groups sources targets) := by
  rw [matchValues, List.forall₂_map_right_iff, List.forall₂_same]
  exact fun _ _ => counterpart_matchValue

/-- **The table of counterparts follows the rule exactly.** It has one entry for every source value, in
order, and each is the entry that the value is due; no other table does this. A value has a counterpart
exactly if some target value is related to it, and so of two values either both find each other or neither
does. -/
theorem matchValues_exact (groups : List (List String)) (sources targets : List String) :
    (∀ table, List.Forall₂ (Counterpart groups targets) sources table ↔
      table = matchValues groups sources targets) ∧
    List.Forall₂ (fun v m => m.sourceValue = v ∧ (m.matched = true ↔ ∃ t ∈ targets, Related groups v t))
      sources (matchValues groups sources targets) ∧
    ∀ v t, (matchValues groups [v] [t]).map (·.matched) = (matchValues groups [t] [v]).map (·.matched) := by
  refine ⟨fun table => ⟨fun h => ?_, ?_⟩, ?_, fun v t => ?_⟩
  · have hentries : List.Forall₂ (fun m v => m = matchValue groups targets v) table sources :=
      h.flip.imp fun _ _ hm => hm.unique counterpart_matchValue
    rwa [matchValues, ← List.forall₂_eq_eq_eq, List.forall₂_map_right_iff]
  · rintro rfl
    exact forall₂_counterpart sources
  · exact (forall₂_counterpart sources).imp fun v m h => ⟨h.sourceValue_eq, h.matched_iff⟩
  · have hmatched : ∀ {v t}, (matchValue groups [t] v).matched = true ↔ Related groups v t := by
      intro v t
      rw [counterpart_matchValue.matched_iff]
      simp only [List.mem_singleton, exists_eq_left]
    have hsame : (matchValue groups [t] v).matched = (matchValue groups [v] t).matched := by
      rw [Bool.eq_iff_iff, hmatched, hmatched]
      exact ⟨.symm, .symm⟩
    simp only [matchValues, List.map_cons, List.map_nil, hsame]

end Mapsmith.EnumMatching
