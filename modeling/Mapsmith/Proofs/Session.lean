import Mapsmith.Proofs.Staleness

/-!
# Passes that share a cache

Passes over changing graphs hand their cache on. A session in which every directive that keeps its
key keeps its conflict, or does not come to it, yields what every pass yields on its own, whatever
the cache has room for. In a session with room for everything this is the only way: whatever is
handed out stands in the cache at the end, and a result tells the entries that it is made of, so a
session that yields what its passes yield on their own has one entry for every key
(`Mapsmith.Generation.sessions`).
-/

namespace Mapsmith.Generation

variable {settings : Setting → Prop} {s : Setting} {cache cache' : Cache}

/-! ### Sessions -/

/-- The results of passes one after another, each over its own graph and settings, and each with the
cache that the one before leaves. -/
def session : List (Config × TypeGraph) → Cache → List (Except PassError PassResult)
  | [], _ => []
  | (config, g) :: rest, cache =>
    let (result, state) := runPass config g cache
    result :: session rest state.cache

theorem session_cons (config : Config) (g : TypeGraph) (passes : List (Config × TypeGraph))
    (cache : Cache) : session ((config, g) :: passes) cache =
      (runPass config g cache).1 :: session passes (runPass config g cache).2.cache := rfl

/-- The settings of the passes of a session. -/
def settingsOf (passes : List (Config × TypeGraph)) (s : Setting) : Prop :=
  ∃ pass ∈ passes, s = settingOf pass.1 pass.2

/-- How many directives the passes of a session have. -/
def directiveCount : List (Config × TypeGraph) → Nat
  | [] => 0
  | (config, g) :: rest => (settingOf config g).index.directives.length + directiveCount rest

/-- Does every pass of a session yield what it yields on its own, from an empty cache of some
capacity on? -/
def Transparent (passes : List (Config × TypeGraph)) (capacity : Nat) : Prop :=
  session passes { capacity := capacity } = passes.map fun pass => generate pass.1 pass.2

/-- A session over coherent settings, from a faithful cache on, yields what every pass yields on its
own. -/
theorem session_eq (hcoherent : Coherent settings) {passes : List (Config × TypeGraph)}
    (hpasses : ∀ pass ∈ passes, settings (settingOf pass.1 pass.2))
    (hcache : Faithful settings cache) :
    session passes cache = passes.map fun pass => generate pass.1 pass.2 := by
  induction passes generalizing cache with
  | nil => rfl
  | cons pass passes ih =>
    obtain ⟨config, g⟩ := pass
    obtain ⟨hpass, hrest⟩ := List.forall_mem_cons.1 hpasses
    obtain ⟨hresult, hleft⟩ := runPass_eq_uncached hcoherent hpass hcache
    rw [session_cons, List.map_cons, generate_eq_uncached, ← hresult, ih hrest hleft]

/-! ### What is left at the end -/

/-- Does a cache hold what planning yields for every directive of a setting? -/
def Held (cache : Cache) (s : Setting) : Prop :=
  ∀ (i : Nat) d, s.index.directives[i]? = some d →
    ∃ entry, s.entry i d = .ok entry ∧ cache.peek (s.key d) = some entry

theorem Held.mono (h : Held cache s) (hkeeps : cache.Keeps cache') : Held cache' s := by
  intro i d hd
  obtain ⟨entry, hentry, hpeek⟩ := h i d hd
  exact ⟨entry, hentry, hkeeps _ _ hpeek⟩

/-- Settings that one cache holds are coherent. -/
theorem coherent_of_held (h : ∀ s, settings s → Held cache s) : Coherent settings := by
  intro s s' hs hs' i j d d' hd hd' hkey
  obtain ⟨entry, hentry, hpeek⟩ := h s hs i d hd
  obtain ⟨entry', hentry', hpeek'⟩ := h s' hs' j d' hd'
  rw [hkey, hpeek'] at hpeek
  rw [hentry, hentry', Option.some.inj hpeek]

/-- **A pass that yields what it yields on its own** leaves its entries in a cache with room. -/
theorem held_of_runPass {config : Config} {g : TypeGraph} {n : Nat} {result : PassResult}
    (hs : settings (settingOf config g)) (hcache : Faithful settings cache)
    (hroom : cache.Room ((settingOf config g).index.directives.length + n))
    (halone : generate config g = .ok result) (h : (runPass config g cache).1 = .ok result) :
    Held (runPass config g cache).2.cache (settingOf config g) ∧
      cache.Keeps (runPass config g cache).2.cache ∧ (runPass config g cache).2.cache.Room n ∧
      Faithful settings (runPass config g cache).2.cache := by
  obtain ⟨hresult, hleft⟩ := runPass_eq config g cache
  rw [hresult] at h
  obtain ⟨handed, hhanded, hfinish⟩ := Steps.bind_eq_ok.1 h
  replace hhanded := Steps.mapError_eq_ok.1 hhanded
  rw [generate_eq_uncached] at halone
  obtain ⟨own, hown, hfinish'⟩ := Steps.bind_eq_ok.1 halone
  replace hown := Steps.mapError_eq_ok.1 hown
  obtain rfl : own = handed :=
    eq_of_finish hown (handed_of_entriesIn hs hcache hhanded) hfinish' hfinish
  obtain ⟨hroom', hkeeps, hstands⟩ := entriesIn_keeps hroom hhanded
  rw [hleft]
  refine ⟨fun i d hd => ?_, hkeeps, hroom', faithful_entriesIn hs Setting.placed_directives hcache⟩
  obtain ⟨entry, hget, hpeek⟩ := hstands i d hd
  obtain ⟨entry', hentry', hget'⟩ := getElem?_entriesFrom hown hd
  rw [hget] at hget'
  cases hget'
  rw [Nat.zero_add] at hentry'
  exact ⟨entry, hentry', hpeek⟩

/-- A session that yields what its passes yield on their own leaves all their entries in a cache with
room for them. -/
theorem held_of_session {passes : List (Config × TypeGraph)}
    (hpasses : ∀ pass ∈ passes, settings (settingOf pass.1 pass.2))
    (hresults : ∀ pass ∈ passes, ∃ result, generate pass.1 pass.2 = .ok result)
    (hcache : Faithful settings cache) (hroom : cache.Room (directiveCount passes))
    (h : session passes cache = passes.map fun pass => generate pass.1 pass.2) :
    ∃ cache' : Cache, cache.Keeps cache' ∧
      ∀ pass ∈ passes, Held cache' (settingOf pass.1 pass.2) := by
  induction passes generalizing cache with
  | nil => exact ⟨cache, .refl _, nofun⟩
  | cons pass passes ih =>
    obtain ⟨config, g⟩ := pass
    obtain ⟨hpass, hpasses⟩ := List.forall_mem_cons.1 hpasses
    obtain ⟨⟨result, halone⟩, hresults⟩ := List.forall_mem_cons.1 hresults
    rw [session_cons, List.map_cons, List.cons.injEq] at h
    obtain ⟨hheld, hkeeps, hroom', hcache'⟩ :=
      held_of_runPass hpass hcache hroom halone (h.1.trans halone)
    obtain ⟨cache', hkeeps', hrest⟩ := ih hpasses hresults hcache' hroom' h.2
    exact ⟨cache', hkeeps.trans hkeeps', List.forall_mem_cons.2 ⟨hheld.mono hkeeps', hrest⟩⟩

/-- **Sessions are transparent exactly where conflicts are steady.** Every pass of a session yields
what it yields on its own with an empty cache, whatever the capacity of the shared cache, if a
directive that keeps its key keeps its conflict or the conflict does not show. If all passes yield a
result on their own, then with a capacity for all directives they do so in the session only then. One
key stands for one entry exactly then, too; and keys are equal exactly if directives, closures, all
directives and settings are. -/
theorem sessions (passes : List (Config × TypeGraph)) :
    (Steady (settingsOf passes) → ∀ capacity, Transparent passes capacity) ∧
    ((∀ pass ∈ passes, ∃ result, generate pass.1 pass.2 = .ok result) →
      ∀ capacity, directiveCount passes ≤ capacity →
        (Transparent passes capacity ↔ Steady (settingsOf passes))) ∧
    (Coherent (settingsOf passes) ↔ Steady (settingsOf passes)) ∧
    ∀ (s s' : Setting) (d d' : Directive), s.key d = s'.key d' ↔ d = d' ∧
      s.index.graph.closure d.typeNames = s'.index.graph.closure d'.typeNames ∧
        s.index.directives = s'.index.directives ∧ s.config = s'.config := by
  have hpasses : ∀ pass ∈ passes, settingsOf passes (settingOf pass.1 pass.2) :=
    fun pass hpass => ⟨pass, hpass, rfl⟩
  have htransparent : Steady (settingsOf passes) → ∀ capacity, Transparent passes capacity :=
    fun hsteady capacity => session_eq (coherent_iff.2 hsteady) hpasses (faithful_empty capacity)
  refine ⟨htransparent, fun hresults capacity hcapacity => ⟨fun h => ?_, fun hsteady =>
    htransparent hsteady capacity⟩, coherent_iff, fun s s' d d' => key_eq_iff⟩
  have hroom : PlanCache.Room ({ capacity := capacity } : Cache) (directiveCount passes) := by
    unfold PlanCache.Room
    rw [List.length_nil, Nat.zero_add]
    exact hcapacity
  obtain ⟨cache, -, hheld⟩ := held_of_session hpasses hresults (faithful_empty capacity) hroom h
  have hall : ∀ s, settingsOf passes s → Held cache s := by
    rintro s ⟨pass, hpass, rfl⟩
    exact hheld pass hpass
  exact coherent_iff.1 (coherent_of_held hall)

/-- Orders and notes, of which only the orders are declared to be mapped. -/
def ordersAndNotes (noteKind : TypeKind) : TypeGraph :=
  { types := [
      { name := "Order", module := "shop", kind := .cls
        directives := [{ source := "shop.Order", target := "dto.Order" }] },
      { name := "Order", module := "dto", kind := .cls },
      { name := "Note", module := "shop", kind := noteKind }]
    nodup := by cases noteKind <;> decide +kernel }

/-- A session in which the note becomes an enum. -/
def noteChanges : List (Config × TypeGraph) :=
  [({}, ordersAndNotes .cls), ({}, ordersAndNotes .enum)]

theorem sessions_ordersAndNotes :
    session noteChanges { capacity := 1 } =
        [generate {} (ordersAndNotes .cls), generate {} (ordersAndNotes .enum)] ∧
      directiveCount noteChanges = 2 ∧ Transparent noteChanges 2 ∧ Steady (settingsOf noteChanges) := by
  have hfree : ∀ kind, ∀ i < 1, (settingOf {} (ordersAndNotes kind)).index.conflict i = none := by
    intro kind
    cases kind <;> decide +kernel
  have hlength : ∀ kind, (settingOf {} (ordersAndNotes kind)).index.directives.length = 1 := by
    intro kind
    cases kind <;> decide +kernel
  have hresults : ∀ pass ∈ noteChanges, ∃ result, generate pass.1 pass.2 = .ok result := by
    have hok : ∀ pass ∈ noteChanges,
        (generate pass.1 pass.2).toOption.any (fun _ => decide True) = true := by
      decide +kernel
    intro pass hpass
    obtain ⟨result, hresult, -⟩ := Steps.exists_of_any (hok pass hpass)
    exact ⟨result, hresult⟩
  have hsteady : Steady (settingsOf noteChanges) := by
    refine steady_of_conflict_eq_none fun s hs i d hd => ?_
    obtain ⟨pass, hpass, rfl⟩ := hs
    have hlt := (List.getElem?_eq_some_iff.1 hd).1
    simp only [noteChanges, List.mem_cons, List.not_mem_nil, or_false] at hpass
    rcases hpass with rfl | rfl
    · exact hfree _ i (hlength _ ▸ hlt)
    · exact hfree _ i (hlength _ ▸ hlt)
  have hcount : directiveCount noteChanges = 2 := by decide +kernel
  have htransparent : Transparent noteChanges 2 := (sessions noteChanges).1 hsteady 2
  exact ⟨(sessions noteChanges).1 hsteady 1, hcount, htransparent,
    ((sessions noteChanges).2.1 hresults 2 hcount.le).1 htransparent⟩

/-- Two directives with routines for updating, both of one name unless they map enums. -/
def updates (kind : TypeKind) : TypeGraph :=
  { types := [
      { name := "BFromC", module := "m", kind := .cls
        directives := [{ source := "m.BFromC", target := "h.A", update := ⟨.bool true⟩ }] },
      { name := "C", module := "n", kind
        directives := [{ source := "n.C", target := "h.AFromB", update := ⟨.bool true⟩ }] },
      { name := "A", module := "h", kind := .cls },
      { name := "AFromB", module := "h", kind }]
    nodup := by cases kind <;> decide +kernel }

/-- The first directive keeps its key when the types of the other become enums, and with it the
conflict that is gone. -/
theorem not_transparent_updates :
    ¬ Transparent [({}, updates .cls), ({}, updates .enum)] 256 := by
  intro heq
  have hne : (session [({}, updates .cls), ({}, updates .enum)] { capacity := 256 }).map
        (fun r => r.toOption.map (·.diagnostics)) ≠
      [generate {} (updates .cls), generate {} (updates .enum)].map
        (fun r => r.toOption.map (·.diagnostics)) := by
    decide +kernel
  exact hne (congrArg _ heq)

end Mapsmith.Generation
