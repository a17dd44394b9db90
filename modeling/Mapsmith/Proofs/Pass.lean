import Mapsmith.Generation
import Mapsmith.Proofs.PlanParts

/-!
# A pass without its cache

A pass looks every plan up before it plans it, and tells what it does. What it tells does not show:
the result and the cache that is left are those of `Mapsmith.Generation.Setting.entriesIn`, which
looks up and plans one directive after another. Nor does the cache show as long as it holds nothing
wrong: an entry under a key is what planning a directive with that key yields
(`Mapsmith.Generation.Faithful`), for every directive of every setting that comes across the cache,
and there is one such entry (`Mapsmith.Generation.Coherent`). Then a pass yields what
`Mapsmith.Generation.uncached` describes, which plans every directive anew, and leaves the cache
faithful. A new cache holds nothing, and the directives of one pass that share a key yield one entry,
so `Mapsmith.Generation.generate` is `Mapsmith.Generation.uncached`.

A cache forgets an entry only for want of room. With room for as many entries as are still to come,
nothing that it holds is lost or replaced: what a pass is handed for a directive is what the cache
holds under its key afterwards, whoever stored it (`Mapsmith.Generation.entriesIn_keeps`).
-/

namespace Mapsmith

/-! ### What a cache holds -/

namespace PlanCache

variable {κ ν : Type} [DecidableEq κ] {cache : PlanCache κ ν} {key : κ} {value : ν} {e : κ × ν}

theorem peek_eq_some (h : cache.peek key = some value) : (key, value) ∈ cache.entries := by
  obtain ⟨e, he, rfl⟩ := Option.map_eq_some_iff.1 h
  have hkey : e.1 = key := by simpa using List.find?_some he
  exact hkey ▸ List.mem_of_find?_eq_some he

theorem mem_of_mem_without {entries : List (κ × ν)} (h : e ∈ without entries key) : e ∈ entries :=
  (List.mem_filter.1 h).1

theorem get_fst : (cache.get key).1 = cache.peek key := by
  unfold get
  split
  next h => exact h.symm
  next h => exact h.symm

/-- A look-up brings nothing new into a cache. -/
theorem mem_of_mem_get (h : e ∈ (cache.get key).2.entries) : e ∈ cache.entries := by
  unfold get at h
  split at h
  next value hvalue =>
    rcases List.mem_append.1 h with h | h
    · exact mem_of_mem_without h
    · exact List.mem_singleton.1 h ▸ peek_eq_some hvalue
  · exact h

/-- Storing an entry brings nothing else into a cache. -/
theorem mem_of_mem_put (h : e ∈ (cache.put key value).entries) :
    e ∈ cache.entries ∨ e = (key, value) := by
  unfold put at h
  split at h
  · exact .inl h
  · rcases List.mem_append.1 (List.mem_of_mem_drop h) with h | h
    · exact .inl (mem_of_mem_without h)
    · exact .inr (List.mem_singleton.1 h)

end PlanCache

namespace Generation

/-! ### Steps of a pass -/

section Steps

variable {α β : Type}

/-- What a step does in a state. -/
def runStep (x : PassM α) (state : PassState) : Except PassError α × PassState :=
  x.run.run state

theorem runStep_bind (x : PassM α) (f : α → PassM β) (state : PassState) :
    runStep (x >>= f) state = match runStep x state with
      | (.ok a, state') => runStep (f a) state'
      | (.error e, state') => (.error e, state') := by
  unfold runStep
  rw [ExceptT.run_bind, StateT.run_bind]
  show (match (x.run.run state) with | (r, state') => _) = _
  rcases x.run.run state with ⟨a | e, state'⟩
  · rfl
  · rfl

theorem runStep_get (state : PassState) : runStep get state = (.ok state, state) := rfl

theorem runStep_modify (f : PassState → PassState) (state : PassState) :
    runStep (modify f) state = (.ok (), f state) := rfl

theorem runStep_note (e : Event) (state : PassState) :
    runStep (note e) state = (.ok (), { state with events := state.events ++ [e] }) := rfl

/-- A step that gives a value and does nothing but tell something. -/
def Tells (x : PassM α) (a : α) : Prop :=
  ∀ state, ∃ events, runStep x state = (.ok a, { state with events })

theorem tells_note (e : Event) : Tells (note e) () :=
  fun state => ⟨_, runStep_note e state⟩

theorem tells_pure (a : α) : Tells (pure a) a :=
  fun state => ⟨state.events, rfl⟩

theorem Tells.bind {x : PassM α} {f : α → PassM β} {a : α} {b : β} (hx : Tells x a)
    (hf : Tells (f a) b) : Tells (x >>= f) b := by
  intro state
  obtain ⟨events, hevents⟩ := hx state
  obtain ⟨events', hevents'⟩ := hf { state with events }
  refine ⟨events', ?_⟩
  rw [runStep_bind, hevents]
  exact hevents'

/-- Telling something for every element of a list. -/
theorem tells_forIn {xs : List α} {f : α → PUnit → PassM (ForInStep PUnit)}
    (h : ∀ x, Tells (f x ⟨⟩) (.yield ⟨⟩)) : Tells (forIn xs ⟨⟩ f) ⟨⟩ := by
  induction xs with
  | nil => exact tells_pure _
  | cons x xs ih =>
    rw [List.forIn_cons]
    exact (h x).bind ih

/-- A step that comes to an outcome and leaves a cache, whatever it tells. -/
def Ends (run : Except PassError α × PassState) (outcome : Except PassError α) (cache : Cache) :
    Prop :=
  run.1 = outcome ∧ run.2.cache = cache

theorem ends_iff {run : Except PassError α × PassState} {outcome : Except PassError α}
    {cache : Cache} : Ends run outcome cache ↔ ∃ events, run = (outcome, ⟨cache, events⟩) := by
  constructor
  · rintro ⟨rfl, rfl⟩
    exact ⟨_, rfl⟩
  · rintro ⟨events, rfl⟩
    exact ⟨rfl, rfl⟩

/-- What is told first does not show. -/
theorem Tells.ends {x : PassM α} {f : α → PassM β} {a : α} {state : PassState}
    {outcome : Except PassError β} {cache : Cache} (hx : Tells x a)
    (hf : ∀ events, Ends (runStep (f a) ⟨state.cache, events⟩) outcome cache) :
    Ends (runStep (x >>= f) state) outcome cache := by
  obtain ⟨events, hevents⟩ := hx state
  rw [runStep_bind, hevents]
  exact hf events

theorem Ends.bind {x : PassM α} {f : α → PassM β} {a : α} {state : PassState}
    {outcome : Except PassError β} {cache cache' : Cache}
    (hx : Ends (runStep x state) (.ok a) cache)
    (hf : ∀ events, Ends (runStep (f a) ⟨cache, events⟩) outcome cache') :
    Ends (runStep (x >>= f) state) outcome cache' := by
  obtain ⟨events, hevents⟩ := ends_iff.1 hx
  rw [runStep_bind, hevents]
  exact hf events

theorem Ends.bind_error {x : PassM α} {f : α → PassM β} {e : PassError} {state : PassState}
    {cache : Cache} (hx : Ends (runStep x state) (.error e) cache) :
    Ends (runStep (x >>= f) state) (.error e) cache := by
  obtain ⟨events, hevents⟩ := ends_iff.1 hx
  rw [runStep_bind, hevents]
  exact ⟨rfl, rfl⟩

end Steps

/-! ### Entries and the cache -/

namespace Setting

variable (s : Setting)

/-- The entry of a directive that a cache has, or else that planning yields, and the cache
afterwards. -/
def entryIn (position : Nat) (d : Directive) (cache : Cache) : Except PlanningError Entry × Cache :=
  match cache.peek (s.key d) with
  | some entry => (.ok entry, (cache.get (s.key d)).2)
  | none =>
    match s.entry position d with
    | .error e => (.error e, (cache.get (s.key d)).2)
    | .ok entry => (.ok entry, (cache.get (s.key d)).2.put (s.key d) entry)

/-- The entries of directives from a position on, with a cache, and the cache afterwards. -/
def entriesIn : Nat → List Directive → Cache →
    Except PlanningError (List (Directive × Entry)) × Cache
  | _, [], cache => (.ok [], cache)
  | position, d :: ds, cache =>
    match s.entryIn position d cache with
    | (.error e, cache) => (.error e, cache)
    | (.ok entry, cache) =>
      let (rest, cache) := entriesIn (position + 1) ds cache
      (rest.map ((d, entry) :: ·), cache)

variable {s} {position : Nat} {d : Directive} {ds : List Directive} {state : PassState}
  {cache cache' : Cache} {entry : Entry} {e : PlanningError}

/-- The entry is found, or planned in vain, or planned and stored. -/
theorem entryIn_cases (s : Setting) (position : Nat) (d : Directive) (cache : Cache) :
    (∃ entry, cache.peek (s.key d) = some entry ∧
      s.entryIn position d cache = (.ok entry, (cache.get (s.key d)).2)) ∨
    cache.peek (s.key d) = none ∧
      ((∃ e, s.entry position d = .error e ∧
        s.entryIn position d cache = (.error e, (cache.get (s.key d)).2)) ∨
      ∃ entry, s.entry position d = .ok entry ∧
        s.entryIn position d cache = (.ok entry, (cache.get (s.key d)).2.put (s.key d) entry)) := by
  unfold entryIn
  cases cache.peek (s.key d) with
  | some entry => exact .inl ⟨entry, rfl, rfl⟩
  | none =>
    refine .inr ⟨rfl, ?_⟩
    cases s.entry position d with
    | error e => exact .inl ⟨e, rfl, rfl⟩
    | ok entry => exact .inr ⟨entry, rfl, rfl⟩

theorem entriesIn_of_error (h : s.entryIn position d cache = (.error e, cache')) :
    s.entriesIn position (d :: ds) cache = (.error e, cache') := by
  rw [entriesIn, h]

theorem entriesIn_of_ok (h : s.entryIn position d cache = (.ok entry, cache')) :
    s.entriesIn position (d :: ds) cache =
      ((s.entriesIn (position + 1) ds cache').1.map ((d, entry) :: ·),
        (s.entriesIn (position + 1) ds cache').2) := by
  rw [entriesIn, h]

theorem ends_cachedEntry : Ends (runStep (s.cachedEntry position d) state)
    ((s.entryIn position d state.cache).1.mapError .planning)
    (s.entryIn position d state.cache).2 := by
  unfold cachedEntry entryIn
  rw [runStep_bind, runStep_get]
  simp only
  rw [runStep_bind, runStep_modify]
  simp only
  have hget : (state.cache.get (s.key d)).1 = state.cache.peek (s.key d) := PlanCache.get_fst
  rcases hgot : state.cache.get (s.key d) with ⟨found, cache⟩
  rw [hgot] at hget
  rw [← hget]
  cases found with
  | some entry => exact (tells_note _).ends fun _ => ⟨rfl, rfl⟩
  | none =>
    refine (tells_note _).ends fun _ => ?_
    cases hentry : s.entry position d with
    | error e => exact ⟨rfl, rfl⟩
    | ok entry =>
      have hstore : ∀ events, Ends (runStep (do
            modify fun state => { state with cache := state.cache.put (s.key d) entry }
            pure entry) ⟨cache, events⟩) (.ok entry) (cache.put (s.key d) entry) :=
        fun events => ⟨rfl, rfl⟩
      simp only
      -- a plan that fails is told of, which does not show
      split
      · refine Tells.ends (tells_forIn fun diagnostic => ?_) hstore
        split
        · exact (tells_note _).bind (tells_pure _)
        · exact tells_pure _
      · exact hstore _

theorem ends_cachedEntries : Ends (runStep (s.cachedEntries position ds) state)
    ((s.entriesIn position ds state.cache).1.mapError .planning)
    (s.entriesIn position ds state.cache).2 := by
  induction ds generalizing position state with
  | nil => exact ⟨rfl, rfl⟩
  | cons d ds ih =>
    unfold cachedEntries
    have hentry : Ends (runStep (s.cachedEntry position d) state) _ _ := ends_cachedEntry
    rcases hin : s.entryIn position d state.cache with ⟨e | entry, cache⟩
    · rw [hin] at hentry
      rw [entriesIn_of_error hin]
      exact hentry.bind_error
    · rw [hin] at hentry
      rw [entriesIn_of_ok hin]
      refine hentry.bind fun events => ?_
      have hrest : Ends (runStep (s.cachedEntries (position + 1) ds) ⟨cache, events⟩) _ _ := ih
      cases hrests : (s.entriesIn (position + 1) ds cache).1 with
      | error e =>
        rw [hrests] at hrest
        exact hrest.bind_error
      | ok entries =>
        rw [hrests] at hrest
        exact hrest.bind fun events' => ⟨rfl, rfl⟩

end Setting

/-! ### Entries without a cache -/

namespace Setting

variable (s : Setting)

/-- The planning of a setting. -/
def planning : Planning :=
  ⟨s.index, s.config.equivalenceGroups⟩

/-- The entries of directives from a position on, every one of them planned. -/
def entriesFrom : Nat → List Directive → Except PlanningError (List (Directive × Entry))
  | _, [] => .ok []
  | position, d :: ds => do
    let entry ← s.entry position d
    return (d, entry) :: (← entriesFrom (position + 1) ds)

/-- Do some directives stand in the index from a position on? -/
def Placed (position : Nat) (ds : List Directive) : Prop :=
  ∀ i d, ds[i]? = some d → s.index.directives[position + i]? = some d

variable {s} {position : Nat} {d : Directive} {ds : List Directive}

theorem placed_directives : s.Placed 0 s.index.directives := fun i d hi => by
  rw [Nat.zero_add]
  exact hi

theorem Placed.head (h : s.Placed position (d :: ds)) : s.index.directives[position]? = some d :=
  h 0 d rfl

theorem Placed.tail (h : s.Placed position (d :: ds)) : s.Placed (position + 1) ds := fun i e hi => by
  rw [Nat.add_assoc, Nat.add_comm 1 i]
  exact h (i + 1) e hi

end Setting

/-- What planning a directive yields under a key, for the directives of some settings. -/
def Yields (settings : Setting → Prop) (key : PlanKey) (entry : Entry) : Prop :=
  ∃ s position d, settings s ∧ s.index.directives[position]? = some d ∧ s.key d = key ∧
    s.entry position d = .ok entry

/-- **The settings that share a cache are coherent** if directives with one key have one entry,
wherever they stand. -/
def Coherent (settings : Setting → Prop) : Prop :=
  ∀ s s', settings s → settings s' → ∀ i j d d', s.index.directives[i]? = some d →
    s'.index.directives[j]? = some d' → s.key d = s'.key d' → s.entry i d = s'.entry j d'

/-- A cache is faithful if every entry is what planning yields under its key. -/
def Faithful (settings : Setting → Prop) (cache : Cache) : Prop :=
  ∀ e ∈ cache.entries, Yields settings e.1 e.2

section Cached

variable {settings : Setting → Prop} {s : Setting} {position : Nat} {d : Directive}
  {cache : Cache}

theorem Faithful.get (h : Faithful settings cache) (key : PlanKey) :
    Faithful settings (cache.get key).2 :=
  fun e he => h e (PlanCache.mem_of_mem_get he)

theorem Faithful.put (h : Faithful settings cache) {key : PlanKey} {entry : Entry}
    (hyields : Yields settings key entry) : Faithful settings (cache.put key entry) := by
  intro e he
  rcases PlanCache.mem_of_mem_put he with he | rfl
  · exact h e he
  · exact hyields

theorem faithful_empty (capacity : Nat) : Faithful settings { capacity := capacity } :=
  fun _ he => absurd he List.not_mem_nil

variable {ds : List Directive} {entry : Entry} {entries : List (Directive × Entry)}

/-- A faithful cache hands out what planning yields under the key, and stays faithful. -/
theorem faithful_entryIn (hs : settings s) (hd : s.index.directives[position]? = some d)
    (hcache : Faithful settings cache) :
    Faithful settings (s.entryIn position d cache).2 ∧
      ∀ entry, (s.entryIn position d cache).1 = .ok entry → Yields settings (s.key d) entry := by
  have hcache' := hcache.get (s.key d)
  rcases s.entryIn_cases position d cache with
    ⟨found, hpeek, hin⟩ | ⟨-, ⟨e, -, hin⟩ | ⟨planned, hplanned, hin⟩⟩
  · rw [hin]
    refine ⟨hcache', fun entry heq => ?_⟩
    cases heq
    exact hcache _ (PlanCache.peek_eq_some hpeek)
  · rw [hin]
    exact ⟨hcache', fun entry heq => by cases heq⟩
  · have hyields : Yields settings (s.key d) planned := ⟨s, position, d, hs, hd, rfl, hplanned⟩
    rw [hin]
    refine ⟨hcache'.put hyields, fun entry heq => ?_⟩
    cases heq
    exact hyields

/-- Over coherent settings, what a faithful cache hands out is what planning yields. -/
theorem entryIn_eq (hcoherent : Coherent settings) (hs : settings s)
    (hd : s.index.directives[position]? = some d) (hcache : Faithful settings cache) :
    (s.entryIn position d cache).1 = s.entry position d := by
  rcases s.entryIn_cases position d cache with
    ⟨found, hpeek, hin⟩ | ⟨-, ⟨e, herror, hin⟩ | ⟨planned, hplanned, hin⟩⟩
  · -- the entry was planned for some directive under this key, which makes it that of `d`
    obtain ⟨s', j, d', hs', hd', hkey, hentry⟩ := hcache _ (PlanCache.peek_eq_some hpeek)
    rw [hin, hcoherent s s' hs hs' position j d d' hd hd' hkey.symm, hentry]
  · rw [hin, herror]
  · rw [hin, hplanned]

theorem faithful_entriesIn (hs : settings s) (hds : s.Placed position ds)
    (hcache : Faithful settings cache) : Faithful settings (s.entriesIn position ds cache).2 := by
  -- the cache stays faithful from one directive to the next
  induction ds generalizing position cache with
  | nil => exact hcache
  | cons d ds ih =>
    have hleft := (faithful_entryIn hs hds.head hcache).1
    rcases hin : s.entryIn position d cache with ⟨e | entry, cache'⟩
    · rw [hin] at hleft
      rw [Setting.entriesIn_of_error hin]
      exact hleft
    · rw [hin] at hleft
      rw [Setting.entriesIn_of_ok hin]
      exact ih hds.tail hleft

theorem entriesIn_eq (hcoherent : Coherent settings) (hs : settings s)
    (hds : s.Placed position ds) (hcache : Faithful settings cache) :
    (s.entriesIn position ds cache).1 = s.entriesFrom position ds := by
  induction ds generalizing position cache with
  | nil => rfl
  | cons d ds ih =>
    have hentry := entryIn_eq hcoherent hs hds.head hcache
    have hleft := (faithful_entryIn hs hds.head hcache).1
    rw [Setting.entriesFrom, ← hentry]
    rcases hin : s.entryIn position d cache with ⟨e | entry, cache'⟩
    · rw [Setting.entriesIn_of_error hin]
      rfl
    · rw [hin] at hleft
      rw [Setting.entriesIn_of_ok hin, ih hds.tail hleft]
      cases s.entriesFrom (position + 1) ds with
      | error e => rfl
      | ok rest => rfl

end Cached

/-! ### Passes without a cache -/

/-- The setting of a pass. -/
def settingOf (config : Config) (g : TypeGraph) : Setting :=
  ⟨config, (Directive.Resolution.ofGraph g).directives, g⟩

/-- What a pass makes of its entries. -/
def finish (config : Config) (g : TypeGraph) (entries : List (Directive × Entry)) :
    Except PassError PassResult :=
  let (kept, withheld) := withhold (validPlans entries)
  let plans := kept.map (·.plan)
  match Emission.generateUnits config (some g) plans with
  | .error e => .error (.emission e)
  | .ok units => .ok
    { units, plans, keys := kept.map fun v => (settingOf config g).key v.directive
      diagnostics := Diagnostic.sort ((Directive.Resolution.ofGraph g).diagnostics
        ++ entries.flatMap (·.2.diagnostics) ++ withheld) }

/-- A pass that plans every directive anew. -/
def uncached (config : Config) (g : TypeGraph) : Except PassError PassResult := do
  let s := settingOf config g
  finish config g (← (s.entriesFrom 0 s.index.directives).mapError .planning)

/-- **A pass** makes its result of the entries that it is handed. -/
theorem runPass_eq (config : Config) (g : TypeGraph) (cache : Cache) :
    (runPass config g cache).1 =
        (((settingOf config g).entriesIn 0 (settingOf config g).index.directives cache).1.mapError
          PassError.planning >>= finish config g) ∧
      (runPass config g cache).2.cache =
        ((settingOf config g).entriesIn 0 (settingOf config g).index.directives cache).2 := by
  have hrun : runPass config g cache = runStep (pass config g) ⟨cache, []⟩ := rfl
  rw [hrun]
  unfold pass
  refine (tells_note _).ends fun events => ?_
  have hentries : Ends (runStep ((settingOf config g).cachedEntries 0
      (settingOf config g).index.directives) ⟨cache, events⟩) _ _ := Setting.ends_cachedEntries
  cases hin : ((settingOf config g).entriesIn 0 (settingOf config g).index.directives cache).1 with
  | error e =>
    rw [hin] at hentries
    exact hentries.bind_error
  | ok entries =>
    rw [hin] at hentries
    refine hentries.bind fun events' => ?_
    show Ends _ (finish config g entries) _
    unfold finish
    generalize withhold (validPlans entries) = w
    obtain ⟨kept, withheld⟩ := w
    simp only
    refine Tells.ends (tells_forIn fun ns => (tells_note _).bind (tells_pure _)) fun events'' => ?_
    cases Emission.generateUnits config (some g) (kept.map (·.plan)) with
    | error e => exact ⟨rfl, rfl⟩
    | ok units => exact ⟨rfl, rfl⟩

/-- **A pass with a faithful cache** yields what it would without one, and leaves it faithful. -/
theorem runPass_eq_uncached {settings : Setting → Prop} (hcoherent : Coherent settings)
    {config : Config} {g : TypeGraph} (hs : settings (settingOf config g)) {cache : Cache}
    (hcache : Faithful settings cache) :
    (runPass config g cache).1 = uncached config g ∧
      Faithful settings (runPass config g cache).2.cache := by
  obtain ⟨hresult, hleft⟩ := runPass_eq config g cache
  rw [hresult, hleft, entriesIn_eq hcoherent hs Setting.placed_directives hcache]
  exact ⟨rfl, faithful_entriesIn hs Setting.placed_directives hcache⟩

/-- Directives of one setting under one key yield one entry: they are equal, and equal directives
have equal conflicts. -/
theorem coherent_single (s : Setting) : Coherent (· = s) := by
  rintro _ _ rfl rfl i j d d' hd hd' hkey
  obtain rfl : d = d' := congrArg PlanKey.directive hkey
  rw [Setting.entry, Setting.entry, DirectiveIndex.conflict_congr hd hd']

/-- **A pass on its own** plans every directive anew. -/
theorem generate_eq_uncached (config : Config) (g : TypeGraph) :
    generate config g = uncached config g :=
  (runPass_eq_uncached (coherent_single (settingOf config g)) rfl (faithful_empty _)).1

/-- **The parts of a result**: the plans that are kept, their units, and what was found, with a report
for every plan that is withheld. -/
theorem finish_eq_ok {config : Config} {g : TypeGraph} {entries : List (Directive × Entry)}
    {r : PassResult} (h : finish config g entries = .ok r) :
    ∃ kept withheld, withhold (validPlans entries) = (kept, withheld) ∧
      r.plans = kept.map (·.plan) ∧ Emission.generateUnits config (some g) r.plans = .ok r.units ∧
      r.diagnostics = Diagnostic.sort ((Directive.Resolution.ofGraph g).diagnostics
        ++ entries.flatMap (·.2.diagnostics) ++ withheld) := by
  unfold finish at h
  rcases hwithhold : withhold (validPlans entries) with ⟨kept, withheld⟩
  rw [hwithhold] at h
  simp only at h
  split at h
  · cases h
  next units hunits =>
    cases h
    exact ⟨kept, withheld, rfl, rfl, hunits, rfl⟩

end Generation

namespace PlanCache

variable {κ ν : Type} [DecidableEq κ] {cache cache' : PlanCache κ ν} {key k : κ} {value v : ν}

/-! ### Looking up after a step -/

theorem find?_without_append {entries : List (κ × ν)} :
    (without entries key ++ [(key, value)]).find? (·.1 = k) =
      if k = key then some (key, value) else entries.find? (·.1 = k) := by
  rw [List.find?_append, without, List.find?_filter]
  by_cases hk : k = key
  · subst hk
    have hnone : entries.find? (fun e => decide (decide (e.1 ≠ k) = true ∧ decide (e.1 = k) = true)) =
        none := by
      simp
    rw [if_pos rfl, hnone]
    simp
  · have hsame : (fun e : κ × ν => decide (decide (e.1 ≠ key) = true ∧ decide (e.1 = k) = true)) =
        fun e => decide (e.1 = k) := by
      funext e
      by_cases he : e.1 = k
      · simp [he, hk]
      · simp [he]
    rw [if_neg hk, hsame]
    simp [Ne.symm hk]

theorem peek_get : (cache.get key).2.peek k = cache.peek k := by
  unfold get
  split
  next value hvalue =>
    rw [peek, find?_without_append]
    split
    next hk => rw [hk, hvalue, Option.map_some]
    · rfl
  · rfl

theorem peek_put (hroom : cache.entries.length < cache.capacity) :
    (cache.put key value).peek k = if k = key then some value else cache.peek k := by
  have hpos : cache.capacity ≠ 0 := by omega
  have hlen : (without cache.entries key ++ [(key, value)]).length ≤ cache.capacity := by
    have hle : (without cache.entries key).length ≤ cache.entries.length :=
      List.length_filter_le _ _
    rw [List.length_append, List.length_singleton]
    omega
  unfold put
  rw [if_neg hpos]
  simp only [Nat.sub_eq_zero_of_le hlen, List.drop_zero]
  rw [peek, find?_without_append]
  split <;> rfl

/-! ### Room -/

/-- Has a cache room for so many entries more? -/
def Room (cache : PlanCache κ ν) (n : Nat) : Prop :=
  cache.entries.length + n ≤ cache.capacity

omit [DecidableEq κ] in
theorem Room.mono {m n : Nat} (h : cache.Room n) (hle : m ≤ n) : cache.Room m :=
  Nat.le_trans (Nat.add_le_add_left hle _) h

/-- Looking an entry up moves it and takes no room. -/
theorem Room.get {n : Nat} (h : cache.Room n) : (cache.get key).2.Room n := by
  unfold Room at h ⊢
  unfold PlanCache.get
  split
  next value hvalue =>
    have hlt : (without cache.entries key).length < cache.entries.length :=
      List.length_filter_lt_length_iff_exists.2 ⟨_, peek_eq_some hvalue, by simp⟩
    simp only [List.length_append, List.length_singleton]
    omega
  · exact h

theorem Room.put {n : Nat} (h : cache.Room (n + 1)) : (cache.put key value).Room n := by
  have hle : (without cache.entries key).length ≤ cache.entries.length :=
    List.length_filter_le _ _
  unfold Room at h ⊢
  unfold PlanCache.put
  split
  · omega
  · simp only [List.length_drop, List.length_append, List.length_singleton]
    omega

/-- What a cache holds stays under its key. -/
def Keeps (cache cache' : PlanCache κ ν) : Prop :=
  ∀ k v, cache.peek k = some v → cache'.peek k = some v

theorem Keeps.refl (cache : PlanCache κ ν) : cache.Keeps cache := fun _ _ h => h

theorem Keeps.trans {cache'' : PlanCache κ ν} (h : cache.Keeps cache') (h' : cache'.Keeps cache'') :
    cache.Keeps cache'' := fun k v hk => h' k v (h k v hk)

theorem keeps_get : cache.Keeps (cache.get key).2 := fun k v h => by
  rw [peek_get, h]

/-- With room for it, an entry of a new key replaces nothing. -/
theorem keeps_put (hroom : cache.Room 1) (hnew : cache.peek key = none) :
    cache.Keeps (cache.put key value) := by
  intro k v h
  rw [peek_put (Nat.lt_of_succ_le hroom), if_neg, h]
  rintro rfl
  rw [hnew] at h
  cases h

end PlanCache

namespace Generation

variable {s : Setting} {position n : Nat} {d : Directive} {ds : List Directive} {cache : Cache}
  {entry : Entry} {entries : List (Directive × Entry)}

/-! ### What a pass is handed -/

theorem entriesIn_cons : (s.entriesIn position (d :: ds) cache).1 = .ok entries ↔
    ∃ entry rest, (s.entryIn position d cache).1 = .ok entry ∧
      (s.entriesIn (position + 1) ds (s.entryIn position d cache).2).1 = .ok rest ∧
        entries = (d, entry) :: rest := by
  rcases hin : s.entryIn position d cache with ⟨e | entry, cache'⟩
  · rw [Setting.entriesIn_of_error hin]
    exact ⟨nofun, fun ⟨_, _, h, _⟩ => by cases h⟩
  · rw [Setting.entriesIn_of_ok hin]
    cases (s.entriesIn (position + 1) ds cache').1 with
    | error e => simp [Except.map]
    | ok rest => simp [Except.map, eq_comm]

theorem snd_entriesIn_cons (h : (s.entryIn position d cache).1 = .ok entry) :
    (s.entriesIn position (d :: ds) cache).2 =
      (s.entriesIn (position + 1) ds (s.entryIn position d cache).2).2 := by
  rcases hin : s.entryIn position d cache with ⟨e | entry, cache'⟩
  · rw [hin] at h
    cases h
  · rw [Setting.entriesIn_of_ok hin]

/-- With room for it, the entry that is handed out stands in the cache afterwards. -/
theorem entryIn_keeps (hroom : cache.Room (n + 1))
    (h : (s.entryIn position d cache).1 = .ok entry) :
    (s.entryIn position d cache).2.Room n ∧ cache.Keeps (s.entryIn position d cache).2 ∧
      (s.entryIn position d cache).2.peek (s.key d) = some entry := by
  rcases s.entryIn_cases position d cache with
    ⟨found, hpeek, hin⟩ | ⟨hnone, ⟨e, -, hin⟩ | ⟨planned, -, hin⟩⟩
  · rw [hin] at h ⊢
    cases h
    exact ⟨hroom.get.mono (Nat.le_succ n), PlanCache.keeps_get, PlanCache.peek_get.trans hpeek⟩
  · rw [hin] at h
    cases h
  · rw [hin] at h ⊢
    cases h
    have hroom' : (cache.get (s.key d)).2.Room (n + 1) := hroom.get
    have hone := hroom'.mono (Nat.le_add_left 1 n)
    refine ⟨hroom'.put, PlanCache.keeps_get.trans (PlanCache.keeps_put hone ?_), ?_⟩
    · rw [PlanCache.peek_get, hnone]
    · rw [PlanCache.peek_put (Nat.lt_of_succ_le hone), if_pos rfl]

/-- **With room for all of them**, the entries that are handed out stand in the cache afterwards, and
nothing else is lost. -/
theorem entriesIn_keeps (hroom : cache.Room (ds.length + n))
    (h : (s.entriesIn position ds cache).1 = .ok entries) :
    (s.entriesIn position ds cache).2.Room n ∧ cache.Keeps (s.entriesIn position ds cache).2 ∧
      ∀ (i : Nat) d, ds[i]? = some d → ∃ entry, entries[i]? = some (d, entry) ∧
        (s.entriesIn position ds cache).2.peek (s.key d) = some entry := by
  induction ds generalizing position cache entries with
  | nil =>
    rw [List.length_nil, Nat.zero_add] at hroom
    exact ⟨hroom, .refl _, fun i d hd => by simp at hd⟩
  | cons d ds ih =>
    obtain ⟨entry, rest, hentry, hrest, rfl⟩ := entriesIn_cons.1 h
    rw [List.length_cons, Nat.add_right_comm] at hroom
    obtain ⟨hroom', hkeeps, hpeek⟩ := entryIn_keeps hroom hentry
    obtain ⟨hleft, hkeeps', hhanded⟩ := ih hroom' hrest
    rw [snd_entriesIn_cons hentry]
    refine ⟨hleft, hkeeps.trans hkeeps', fun i e hi => ?_⟩
    cases i with
    | zero =>
      cases hi
      exact ⟨entry, rfl, hkeeps' _ _ hpeek⟩
    | succ i => exact hhanded i e hi

end Generation

end Mapsmith
