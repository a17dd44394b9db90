import Mapsmith.Proofs.Pass
import Mapsmith.Workers
import Mathlib.Algebra.BigOperators.Fin

/-!
# Workers agree with one another

However the steps of several workers follow one another, every position yields what planning its
directive yields, so the pass yields what it yields with one worker and no cache
(`Mapsmith.Generation.workers_agree`). The invariant is `Mapsmith.Generation.Crew.Sound`: the cache is
faithful, what a worker is about to store is what planning yields, and so is what has been yielded.
A look-up may find what another worker has stored for the same key at another position, and it may
miss what was forgotten in the meantime; neither shows, since a key stands for one entry within a
setting.

Nor do workers get stuck: a directive that was taken has yielded or is at some worker
(`Mapsmith.Generation.Crew.Tended`), so as long as the outcome is open, somebody has a step to do; and
every step makes the work that is left smaller (`Mapsmith.Generation.Crew.left`), until the outcome is
there (`Mapsmith.Generation.Crew.exists_outcome`). The pass with one worker is one of the schedules
(`Mapsmith.Generation.Crew.exists_serial`).
-/

namespace Mapsmith.Generation

theorem Setting.workers_pos (s : Setting) : 0 < s.workers := by
  unfold workers
  split
  next h => omega
  next => exact Nat.one_pos

namespace Task

variable {s : Setting}

/-- The position that a task is about. -/
def position? : Task s → Option s.Position
  | .idle => none
  | .seeking i => some i
  | .planning i => some i
  | .storing i _ => some i

theorem eq_idle {task : Task s} (h : task.position? = none) : task = .idle := by
  cases task with
  | idle => rfl
  | seeking i => cases h
  | planning i => cases h
  | storing i entry => cases h

/-- The greatest number of steps until a task is done. -/
def steps : Task s → Nat
  | .idle => 0
  | .seeking _ => 3
  | .planning _ => 2
  | .storing _ _ => 1

end Task

namespace Crew

variable {s : Setting} {n : Nat} {c c' : Crew s n} {w : Fin n}

/-! ### What a step does -/

/-- Everything that a step of a worker can do. -/
inductive Step (c : Crew s n) (w : Fin n) : Crew s n → Prop
  /-- It takes the next directive. -/
  | take (hw : c.tasks w = .idle) (h : c.taken < s.index.directives.length) :
    Step c w (c.take w h)
  /-- It finds the entry in the cache. -/
  | find {i : s.Position} {entry : Entry} (hw : c.tasks w = .seeking i)
    (h : c.cache.peek (s.key (s.directive i)) = some entry) :
    Step c w ({ c with cache := (c.cache.get (s.key (s.directive i))).2 }.deliver w i
      (.ok entry))
  /-- It does not find it. -/
  | miss {i : s.Position} (hw : c.tasks w = .seeking i)
    (h : c.cache.peek (s.key (s.directive i)) = none) :
    Step c w ({ c with cache := (c.cache.get (s.key (s.directive i))).2 }.assign w
      (.planning i))
  /-- It plans the directive. -/
  | plan {i : s.Position} {entry : Entry} (hw : c.tasks w = .planning i)
    (h : s.entry i (s.directive i) = .ok entry) : Step c w (c.assign w (.storing i entry))
  /-- It plans the directive in vain. -/
  | fail {i : s.Position} {e : PlanningError} (hw : c.tasks w = .planning i)
    (h : s.entry i (s.directive i) = .error e) : Step c w (c.deliver w i (.error e))
  /-- It stores the entry. -/
  | store {i : s.Position} {entry : Entry} (hw : c.tasks w = .storing i entry) :
    Step c w ({ c with cache := c.cache.put (s.key (s.directive i)) entry }.deliver w i
      (.ok entry))

theorem step_eq_some : c.step w = some c' ↔ Step c w c' := by
  constructor
  · intro h
    unfold step at h
    split at h
    next hw =>
      split at h
      next hlt =>
        cases h
        exact .take hw hlt
      next => cases h
    next i hw =>
      have hpeek : (c.cache.get (s.key (s.directive i))).1 =
          c.cache.peek (s.key (s.directive i)) := PlanCache.get_fst
      simp only at h
      split at h
      next entry hfound =>
        cases h
        exact .find hw (hpeek ▸ hfound)
      next hfound =>
        cases h
        exact .miss hw (hpeek ▸ hfound)
    next i hw =>
      split at h
      next entry hentry =>
        cases h
        exact .plan hw hentry
      next e hentry =>
        cases h
        exact .fail hw hentry
    next i entry hw =>
      cases h
      exact .store hw
  · intro h
    cases h with
    | take hw hlt => simp only [step, hw, hlt, ↓reduceDIte]
    | @find i entry hw hpeek =>
      rw [← PlanCache.get_fst] at hpeek
      simp only [step, hw, hpeek]
    | @miss i hw hpeek =>
      rw [← PlanCache.get_fst] at hpeek
      simp only [step, hw, hpeek]
    | plan hw hentry => simp only [step, hw, hentry]
    | fail hw hentry => simp only [step, hw, hentry]
    | store hw => simp only [step, hw]

theorem run_cons {schedule : List (Fin n)} : run (w :: schedule) c = some c' ↔
    ∃ c₁, Step c w c₁ ∧ run schedule c₁ = some c' := by
  rw [run, Option.bind_eq_some_iff]
  exact exists_congr fun c₁ => and_congr_left' step_eq_some

/-- A property that every step keeps is kept by every run. -/
theorem run_induction {P : Crew s n → Prop} (hstep : ∀ {c w c'}, P c → Step c w c' → P c')
    {schedule : List (Fin n)} (hc : P c) (h : run schedule c = some c') : P c' := by
  induction schedule generalizing c with
  | nil =>
    cases h
    exact hc
  | cons w schedule ih =>
    obtain ⟨c₁, hmove, hrest⟩ := run_cons.1 h
    exact ih (hstep hc hmove) hrest

/-! ### Every position yields what planning yields -/

/-- Nothing wrong is in the cache, at a worker or among what was yielded. -/
structure Sound (c : Crew s n) : Prop where
  /-- The cache holds what planning yields. -/
  cache : Faithful (· = s) c.cache
  /-- So do the workers. -/
  storing : ∀ w i entry, c.tasks w = .storing i entry →
    s.entry i (s.directive i) = .ok entry
  /-- What was yielded is what planning yields. -/
  yields : ∀ i : s.Position, ∀ r, c.yields i = some r → r = s.entry i (s.directive i)

theorem sound_start {cache : Cache} (h : Faithful (· = s) cache) : (start s n cache).Sound where
  cache := h
  storing _ _ _ hw := nomatch hw
  yields _ _ hr := nomatch hr

/-- What the workers are about to store stays right when one of them gets a task that is. -/
theorem storing_update {tasks : Fin n → Task s} {task : Task s}
    (h : ∀ v i entry, tasks v = .storing i entry → s.entry i (s.directive i) = .ok entry)
    (htask : ∀ i entry, task = .storing i entry → s.entry i (s.directive i) = .ok entry)
    (v : Fin n) (i : s.Position) (entry : Entry)
    (hv : Function.update tasks w task v = .storing i entry) :
    s.entry i (s.directive i) = .ok entry := by
  by_cases hvw : v = w
  · rw [hvw, Function.update_self] at hv
    exact htask i entry hv
  · rw [Function.update_of_ne hvw] at hv
    exact h v i entry hv

theorem Sound.assign (h : c.Sound) {task : Task s}
    (htask : ∀ i entry, task = .storing i entry → s.entry i (s.directive i) = .ok entry) :
    (c.assign w task).Sound :=
  ⟨h.cache, storing_update h.storing htask, h.yields⟩

theorem Sound.deliver (h : c.Sound) {i : s.Position} {r : Except PlanningError Entry}
    (hr : r = s.entry i (s.directive i)) : (c.deliver w i r).Sound := by
  refine ⟨h.cache, storing_update h.storing (fun _ _ heq => nomatch heq), fun j r' hr' => ?_⟩
  rw [yields_deliver] at hr'
  by_cases hji : (j : Nat) = i
  · obtain rfl : j = i := Fin.ext hji
    rw [Function.update_self] at hr'
    exact Option.some.inj hr' ▸ hr
  · rw [Function.update_of_ne hji] at hr'
    exact h.yields j r' hr'

theorem Sound.withCache (h : c.Sound) {cache : Cache} (hcache : Faithful (· = s) cache) :
    { c with cache }.Sound :=
  ⟨hcache, h.storing, h.yields⟩

/-- What a faithful cache has for the directive at a position is what planning it yields, whichever
position it was stored for. -/
theorem entry_of_peek {cache : Cache} (hcache : Faithful (· = s) cache) {i : s.Position}
    {entry : Entry} (h : cache.peek (s.key (s.directive i)) = some entry) :
    s.entry i (s.directive i) = .ok entry := by
  obtain ⟨s', j, d, hs', hd, hkey, hentry⟩ := hcache _ (PlanCache.peek_eq_some h)
  obtain rfl : s' = s := hs'
  have hi : s'.index.directives[(i : Nat)]? = some (s'.directive i) :=
    List.getElem?_eq_getElem i.isLt
  rw [← hentry]
  exact coherent_single s' s' s' rfl rfl i j _ d hi hd hkey.symm

/-- **A step of a worker** keeps the crew sound. -/
theorem Sound.step (h : c.Sound) (hstep : Step c w c') : c'.Sound := by
  cases hstep with
  | take hw hlt =>
    exact ⟨h.cache, storing_update h.storing (fun _ _ heq => nomatch heq), h.yields⟩
  | find hw hpeek =>
    exact (h.withCache (h.cache.get _)).deliver (entry_of_peek h.cache hpeek).symm
  | miss hw hpeek => exact (h.withCache (h.cache.get _)).assign fun _ _ heq => nomatch heq
  | plan hw hentry =>
    refine h.assign fun j entry heq => ?_
    cases heq
    exact hentry
  | fail hw hentry => exact h.deliver hentry.symm
  | @store i entry hw =>
    have hentry := h.storing w i entry hw
    have hyields : Yields (· = s) (s.key (s.directive i)) entry :=
      ⟨s, i, _, rfl, List.getElem?_eq_getElem i.isLt, rfl, hentry⟩
    exact (h.withCache (h.cache.put hyields)).deliver hentry.symm

/-- Whatever the schedule, workers that start with a faithful cache stay sound. -/
theorem sound_of_run {cache : Cache} (hcache : Faithful (· = s) cache) {schedule : List (Fin n)}
    (h : (start s n cache).run schedule = some c) : c.Sound :=
  run_induction (fun hc hstep => hc.step hstep) (sound_start hcache) h

/-! ### What is collected -/

/-- Entries are collected up to the first position that has yielded nothing or an error. What is known
then is what planning one directive after another yields. -/
theorem collect_eq {yields : Nat → Option (Except PlanningError Entry)} {position : Nat}
    {ds : List Directive} {r : Except PlanningError (List (Directive × Entry))}
    (hds : s.Placed position ds)
    (hyields : ∀ i d r, s.index.directives[i]? = some d → yields i = some r → r = s.entry i d)
    (h : collect yields position ds = some r) : r = s.entriesFrom position ds := by
  induction ds generalizing position r with
  | nil => exact (Option.some.inj h).symm
  | cons d ds ih =>
    rw [Setting.entriesFrom]
    rw [collect] at h
    cases hposition : yields position with
    | none =>
      rw [hposition] at h
      cases h
    | some yielded =>
      rw [hposition] at h
      rw [← hyields position d yielded hds.head hposition]
      cases yielded with
      | error e => exact (Option.some.inj h).symm
      | ok entry =>
        obtain ⟨rest, hrest, rfl⟩ := Option.map_eq_some_iff.1 h
        rw [← ih hds.tail hrest]
        cases rest with
        | error e => rfl
        | ok entries => rfl

/-- What is known of the outcome is what planning one directive after another yields. -/
theorem Sound.outcome_eq (h : c.Sound) {r : Except PlanningError (List (Directive × Entry))}
    (hr : c.outcome = some r) : r = s.entriesFrom 0 s.index.directives := by
  refine collect_eq Setting.placed_directives (fun i d r hd hi => ?_) hr
  obtain ⟨hlt, rfl⟩ := List.getElem?_eq_some_iff.1 hd
  exact h.yields ⟨i, hlt⟩ r hi

/-- As soon as all positions have yielded, the outcome is known. -/
theorem isSome_collect {yields : Nat → Option (Except PlanningError Entry)} {position : Nat}
    {ds : List Directive}
    (h : ∀ i < position + ds.length, position ≤ i → (yields i).isSome) :
    (collect yields position ds).isSome := by
  induction ds generalizing position with
  | nil => rfl
  | cons d ds ih =>
    have hhead : (yields position).isSome :=
      h position (by rw [List.length_cons]; omega) le_rfl
    obtain ⟨yielded, hyielded⟩ := Option.isSome_iff_exists.1 hhead
    rw [collect, hyielded]
    cases yielded with
    | error e => rfl
    | ok entry =>
      have hrest : (collect yields (position + 1) ds).isSome := by
        refine ih fun i hi hle => h i ?_ (by omega)
        rw [List.length_cons]
        omega
      simpa using hrest

/-! ### Workers do not get stuck -/

/-- Every directive that was taken has yielded, or some worker is at it. -/
def Tended (c : Crew s n) : Prop :=
  ∀ i : s.Position, i < c.taken →
    (c.yields i).isSome ∨ ∃ w, (c.tasks w).position? = some i

theorem tended_start {cache : Cache} : (start s n cache).Tended :=
  fun _ hi => absurd hi (Nat.not_lt_zero _)

/-- A worker that goes on with its directive tends to it. -/
theorem Tended.assign (h : c.Tended) {i : s.Position} {task : Task s}
    (hw : (c.tasks w).position? = some i) (htask : task.position? = some i) :
    (c.assign w task).Tended := by
  intro j hj
  rcases h j hj with hyields | ⟨v, hv⟩
  · exact .inl hyields
  · by_cases hvw : v = w
    · subst hvw
      rw [hw] at hv
      refine .inr ⟨v, ?_⟩
      rw [tasks_assign, Function.update_self, htask, hv]
    · refine .inr ⟨v, ?_⟩
      rw [tasks_assign, Function.update_of_ne hvw, hv]

/-- A worker that hands in what its directive yields is done with it. -/
theorem Tended.deliver (h : c.Tended) {i : s.Position} {r : Except PlanningError Entry}
    (hw : (c.tasks w).position? = some i) : (c.deliver w i r).Tended := by
  intro j hj
  by_cases hji : j = i
  · subst hji
    refine .inl ?_
    rw [yields_deliver, Function.update_self]
    rfl
  · rcases h j hj with hyields | ⟨v, hv⟩
    · refine .inl ?_
      rw [yields_deliver, Function.update_of_ne (mt Fin.ext hji)]
      exact hyields
    · have hvw : v ≠ w := by
        rintro rfl
        exact hji (Option.some.inj (hv.symm.trans hw))
      refine .inr ⟨v, ?_⟩
      rw [tasks_deliver, Function.update_of_ne hvw, hv]

/-- An idle worker that takes the next directive tends to it. -/
theorem Tended.take (h : c.Tended) (hw : c.tasks w = .idle)
    (hlt : c.taken < s.index.directives.length) :
    (c.take w hlt).Tended := by
  intro j hj
  by_cases hjt : (j : Nat) = c.taken
  · refine .inr ⟨w, ?_⟩
    rw [tasks_take, Function.update_self]
    exact congrArg some (Fin.ext hjt.symm)
  · have hlt' : (j : Nat) < c.taken := by
      have : (j : Nat) < c.taken + 1 := hj
      omega
    rcases h j hlt' with hyields | ⟨v, hv⟩
    · exact .inl hyields
    · have hvw : v ≠ w := by
        rintro rfl
        rw [hw] at hv
        cases hv
      refine .inr ⟨v, ?_⟩
      rw [tasks_take, Function.update_of_ne hvw, hv]

theorem Tended.step (h : c.Tended) (hstep : Step c w c') : c'.Tended := by
  have hcache : ∀ cache, Tended { c with cache } := fun _ => h
  have hposition : ∀ {i : s.Position} {task : Task s}, c.tasks w = task → task.position? = some i →
      (c.tasks w).position? = some i := fun hw htask => hw ▸ htask
  cases hstep with
  | take hw hlt => exact h.take hw hlt
  | find hw _ => exact (hcache _).deliver (hposition hw rfl)
  | miss hw _ => exact (hcache _).assign (hposition hw rfl) rfl
  | plan hw _ => exact h.assign (hposition hw rfl) rfl
  | fail hw _ => exact h.deliver (hposition hw rfl)
  | store hw => exact (hcache _).deliver (hposition hw rfl)

/-- A worker with a directive has a step to do. -/
theorem exists_step_of_position {i : s.Position} (h : (c.tasks w).position? = some i) :
    ∃ c', Step c w c' := by
  cases hw : c.tasks w with
  | idle =>
    rw [hw] at h
    cases h
  | seeking j =>
    cases hpeek : c.cache.peek (s.key (s.directive j)) with
    | some entry => exact ⟨_, .find hw hpeek⟩
    | none => exact ⟨_, .miss hw hpeek⟩
  | planning j =>
    cases hentry : s.entry j (s.directive j) with
    | ok entry => exact ⟨_, .plan hw hentry⟩
    | error e => exact ⟨_, .fail hw hentry⟩
  | storing j entry => exact ⟨_, .store hw⟩

/-- **As long as the outcome is open, some worker has a step to do.** -/
theorem Tended.exists_step (h : c.Tended) (hn : 0 < n) (hopen : c.outcome = none) :
    ∃ w c', Step c w c' := by
  by_contra hstuck
  -- then all workers are idle and the queue is empty, so every position has yielded
  have hidle : ∀ w, c.tasks w = .idle := by
    intro w
    cases hposition : (c.tasks w).position? with
    | none => exact Task.eq_idle hposition
    | some i => exact absurd ⟨w, exists_step_of_position hposition⟩ hstuck
  have htaken : s.index.directives.length ≤ c.taken := by
    by_contra hlt
    exact hstuck ⟨⟨0, hn⟩, _, .take (hidle _) (Nat.lt_of_not_le hlt)⟩
  have hall : (collect c.yields 0 s.index.directives).isSome := by
    refine isSome_collect fun i hi _ => ?_
    rw [Nat.zero_add] at hi
    rcases h ⟨i, hi⟩ (Nat.lt_of_lt_of_le hi htaken) with hyields | ⟨w, hw⟩
    · exact hyields
    · rw [hidle w] at hw
      cases hw
  rw [show collect c.yields 0 s.index.directives = none from hopen] at hall
  cases hall

/-! ### Workers come to an end -/

/-- The greatest number of steps until all directives are done. -/
def left (c : Crew s n) : Nat :=
  4 * (s.index.directives.length - c.taken) + ∑ w, (c.tasks w).steps

/-- A new task of one worker changes the work at hand by that task. -/
theorem sum_update (tasks : Fin n → Task s) (w : Fin n) (task : Task s) :
    ∑ v, (Function.update tasks w task v).steps + (tasks w).steps =
      ∑ v, (tasks v).steps + task.steps := by
  have hupdate : ∀ v, (Function.update tasks w task v).steps =
      Function.update (fun v => (tasks v).steps) w task.steps v := by
    intro v
    by_cases hvw : v = w
    · rw [hvw, Function.update_self, Function.update_self]
    · rw [Function.update_of_ne hvw, Function.update_of_ne hvw]
  have hsplit := Finset.sum_sdiff (f := fun v => (tasks v).steps) (Finset.subset_univ {w})
  rw [Finset.sum_singleton] at hsplit
  rw [Finset.sum_congr rfl fun v _ => hupdate v, Finset.sum_update_of_mem (Finset.mem_univ w)]
  omega

/-- A task that takes fewer steps than the one before leaves less to do. -/
theorem left_lt_of_tasks {task : Task s} (htaken : c'.taken = c.taken)
    (htasks : c'.tasks = Function.update c.tasks w task) (h : task.steps < (c.tasks w).steps) :
    c'.left < c.left := by
  have hsum := sum_update c.tasks w task
  unfold left
  rw [htaken, htasks]
  omega

/-- **Every step leaves less to do.** -/
theorem Step.left_lt (h : Step c w c') : c'.left < c.left := by
  cases h with
  | take hw hlt =>
    have hsum := sum_update c.tasks w (.seeking ⟨c.taken, hlt⟩)
    have hidle : (c.tasks w).steps = 0 := by rw [hw, Task.steps]
    have hseeking : (Task.seeking ⟨c.taken, hlt⟩ : Task s).steps = 3 := rfl
    rw [hidle, hseeking] at hsum
    unfold left
    rw [tasks_take, taken_take]
    omega
  | find hw _ => exact left_lt_of_tasks rfl rfl (by rw [hw]; exact Nat.zero_lt_succ 2)
  | miss hw _ => exact left_lt_of_tasks rfl rfl (by rw [hw]; exact Nat.lt_succ_self 2)
  | plan hw _ => exact left_lt_of_tasks rfl rfl (by rw [hw]; exact Nat.lt_succ_self 1)
  | fail hw _ => exact left_lt_of_tasks rfl rfl (by rw [hw]; exact Nat.zero_lt_succ 1)
  | store hw => exact left_lt_of_tasks rfl rfl (by rw [hw]; exact Nat.zero_lt_succ 0)

theorem left_start {cache : Cache} : (start s n cache).left = 4 * s.index.directives.length := by
  simp [left, start, Task.steps]

theorem length_le_of_run {schedule : List (Fin n)} (h : run schedule c = some c') :
    schedule.length ≤ c.left := by
  induction schedule generalizing c with
  | nil => exact Nat.zero_le _
  | cons w schedule ih =>
    obtain ⟨c₁, hstep, hrest⟩ := run_cons.1 h
    have hlt := hstep.left_lt
    have hle := ih hrest
    rw [List.length_cons]
    omega

/-- **A run can always be finished**, however far it has come. -/
theorem Tended.exists_outcome (h : c.Tended) (hn : 0 < n) :
    ∃ schedule c', run schedule c = some c' ∧ c'.outcome.isSome := by
  -- on the work that is left: while the outcome is open, some worker makes it less
  induction hleft : c.left using Nat.strong_induction_on generalizing c with
  | _ left ih =>
    cases hopen : c.outcome with
    | some r => exact ⟨[], c, rfl, by rw [hopen, Option.isSome_some]⟩
    | none =>
      obtain ⟨w, c₁, hstep⟩ := h.exists_step hn hopen
      obtain ⟨schedule, c', hrun, houtcome⟩ := ih c₁.left (hleft ▸ hstep.left_lt) (h.step hstep) rfl
      exact ⟨w :: schedule, c', run_cons.2 ⟨c₁, hstep, hrun⟩, houtcome⟩

/-- A pass has enough workers to come to an end. -/
theorem exists_outcome (s : Setting) (cache : Cache) :
    ∃ schedule c, (start s s.workers cache).run schedule = some c ∧ c.outcome.isSome :=
  tended_start.exists_outcome s.workers_pos

/-! ### One worker -/

/-- One worker that does one directive yields what looking up and planning it does. -/
theorem exists_serial_entry {d : Directive} (hd : s.index.directives[c.taken]? = some d)
    (hidle : c.tasks w = .idle) :
    ∃ schedule c', run schedule c = some c' ∧ c'.tasks w = .idle ∧ c'.taken = c.taken + 1 ∧
      c'.cache = (s.entryIn c.taken d c.cache).2 ∧
      c'.yields = Function.update c.yields c.taken (some (s.entryIn c.taken d c.cache).1) := by
  obtain ⟨hlt, rfl⟩ := List.getElem?_eq_some_iff.1 hd
  have htake : Step c w (c.take w hlt) := .take hidle hlt
  let i : s.Position := ⟨c.taken, hlt⟩
  have hseek : (c.take w hlt).tasks w = .seeking i := by
    rw [tasks_take, Function.update_self]
  rcases s.entryIn_cases c.taken s.index.directives[c.taken] c.cache with
    ⟨entry, hpeek, hin⟩ | ⟨hpeek, ⟨e, herror, hin⟩ | ⟨entry, hentry, hin⟩⟩
  · rw [hin]
    refine ⟨[w, w], _, run_cons.2 ⟨_, htake, run_cons.2 ⟨_, .find hseek hpeek, rfl⟩⟩, ?_⟩
    exact ⟨Function.update_self .., rfl, rfl, rfl⟩
  · have hmiss := Step.miss hseek hpeek
    have hfail : s.entry i (s.directive i) = .error e := herror
    rw [hin]
    refine ⟨[w, w, w], _, run_cons.2 ⟨_, htake, run_cons.2 ⟨_, hmiss, run_cons.2
      ⟨_, .fail (tasks_assign_self _ w _) hfail, rfl⟩⟩⟩, ?_⟩
    exact ⟨Function.update_self .., rfl, rfl, rfl⟩
  · have hmiss := Step.miss hseek hpeek
    have hplanned : s.entry i (s.directive i) = .ok entry := hentry
    rw [hin]
    refine ⟨[w, w, w, w], _, run_cons.2 ⟨_, htake, run_cons.2 ⟨_, hmiss, run_cons.2
      ⟨_, .plan (tasks_assign_self _ w _) hplanned, run_cons.2
        ⟨_, .store (tasks_assign_self _ w _), rfl⟩⟩⟩⟩, ?_⟩
    exact ⟨Function.update_self .., rfl, rfl, rfl⟩

theorem run_append {first second : List (Fin n)} {c₁ c₂ : Crew s n} (h₁ : run first c = some c₁)
    (h₂ : run second c₁ = some c₂) : run (first ++ second) c = some c₂ := by
  induction first generalizing c with
  | nil =>
    cases h₁
    exact h₂
  | cons w first ih =>
    obtain ⟨c', hstep, hrest⟩ := run_cons.1 h₁
    exact run_cons.2 ⟨c', hstep, ih hrest⟩

/-- **One worker that does everything** yields what the pass with one worker does, and leaves the
cache that it leaves. -/
theorem exists_serial {ds : List Directive} (hds : s.Placed c.taken ds)
    (hidle : c.tasks w = .idle) :
    ∃ schedule c', run schedule c = some c' ∧
      collect c'.yields c.taken ds = some (s.entriesIn c.taken ds c.cache).1 ∧
      c'.cache = (s.entriesIn c.taken ds c.cache).2 ∧ ∀ i < c.taken, c'.yields i = c.yields i := by
  -- one directive after another; what was yielded before stays
  induction ds generalizing c with
  | nil => exact ⟨[], c, rfl, rfl, rfl, fun _ _ => rfl⟩
  | cons d ds ih =>
    obtain ⟨first, c₁, hrun, hidle', htaken, hcache, hyields⟩ := exists_serial_entry hds.head hidle
    have hbefore : ∀ i < c.taken, c₁.yields i = c.yields i := by
      intro i hi
      rw [hyields, Function.update_of_ne hi.ne]
    rcases hin : s.entryIn c.taken d c.cache with ⟨e | entry, cache'⟩
    · rw [hin] at hcache hyields
      rw [Setting.entriesIn_of_error hin]
      refine ⟨first, c₁, hrun, ?_, hcache, hbefore⟩
      rw [collect, hyields, Function.update_self]
    · rw [hin] at hcache hyields
      rw [Setting.entriesIn_of_ok hin]
      obtain ⟨second, c₂, hrun', hcollect, hcache', hkept⟩ := ih (htaken ▸ hds.tail) hidle'
      rw [htaken, hcache] at hcollect hcache'
      refine ⟨first ++ second, c₂, run_append hrun hrun', ?_, hcache', fun i hi => ?_⟩
      · have hhere : c₂.yields c.taken = some (.ok entry) := by
          rw [hkept c.taken (by omega), hyields, Function.update_self]
        rw [collect, hhere, hcollect]
        rfl
      · rw [hkept i (by omega), hbefore i hi]

/-! ### A pass -/

/-- What a pass yields with several workers, as soon as it is known. -/
def result? {config : Config} {g : TypeGraph} (c : Crew (settingOf config g) n) :
    Option (Except PassError PassResult) :=
  c.outcome.map fun r => r.mapError .planning >>= finish config g

end Crew

/-- A cache that is new, or that workers of earlier passes over the same types with the same settings
have left, wherever their pass ended. -/
inductive Warm (s : Setting) : Cache → Prop
  /-- A new cache. -/
  | new (capacity : Nat) : Warm s { capacity := capacity }
  /-- The cache that a pass leaves. -/
  | pass {n : Nat} {cache : Cache} {schedule : List (Fin n)} {c : Crew s n} (h : Warm s cache)
    (hrun : (Crew.start s n cache).run schedule = some c) : Warm s c.cache

theorem Warm.faithful {s : Setting} {cache : Cache} (h : Warm s cache) :
    Faithful (· = s) cache := by
  induction h with
  | new capacity => exact faithful_empty capacity
  | pass _ hrun ih => exact (Crew.sound_of_run ih hrun).cache

/-- The cache that a pass with one worker leaves is one of these. -/
theorem Warm.runPass {config : Config} {g : TypeGraph} {cache : Cache}
    (h : Warm (settingOf config g) cache) :
    Warm (settingOf config g) (runPass config g cache).2.cache := by
  have hidle : (Crew.start (settingOf config g) 1 cache).tasks 0 = .idle := rfl
  obtain ⟨schedule, c, hrun, -, hcache, -⟩ := Crew.exists_serial Setting.placed_directives hidle
  rw [(runPass_eq config g cache).2]
  exact hcache ▸ h.pass hrun

/-- **Workers agree.** However many workers a pass has and whatever the order of their steps, with a
cache of any size that is new or was left by earlier passes over the same types with the same
settings: as soon as the outcome of the pass is known, its entries are those of planning one
directive after another without a cache, and so is its result. As long as the outcome is open, some
worker has a step to do, and no worker has more to do after four steps for every directive. -/
theorem workers_agree (config : Config) (g : TypeGraph) (n : Nat) {cache : Cache}
    (hcache : Warm (settingOf config g) cache) {schedule : List (Fin n)}
    {c : Crew (settingOf config g) n} (hrun : (Crew.start _ n cache).run schedule = some c) :
    (∀ r, c.outcome = some r →
      r = (settingOf config g).entriesFrom 0 (settingOf config g).index.directives) ∧
    (∀ result, c.result? = some result →
      result = (runPass config g { capacity := 0 }).1) ∧
    (0 < n → c.outcome = none → ∃ w, (c.step w).isSome) ∧
    schedule.length ≤ 4 * (settingOf config g).index.directives.length := by
  have hsound := Crew.sound_of_run hcache.faithful hrun
  have htended : c.Tended :=
    Crew.run_induction (fun hc hstep => hc.step hstep) Crew.tended_start hrun
  have halone : (runPass config g { capacity := 0 }).1 = uncached config g :=
    (runPass_eq_uncached (coherent_single (settingOf config g)) rfl (faithful_empty 0)).1
  refine ⟨fun r hr => hsound.outcome_eq hr, fun result hresult => ?_, fun hn hopen => ?_, ?_⟩
  · obtain ⟨r, hr, rfl⟩ := Option.map_eq_some_iff.1 hresult
    rw [halone, hsound.outcome_eq hr]
    rfl
  · obtain ⟨w, c', hstep⟩ := htended.exists_step hn hopen
    exact ⟨w, Option.isSome_iff_exists.2 ⟨c', Crew.step_eq_some.2 hstep⟩⟩
  · have hle := Crew.length_le_of_run hrun
    rwa [Crew.left_start] at hle

/-- Two equal directives, and a third one. -/
def twins : TypeGraph :=
  { types := [
      { name := "Order", module := "shop", kind := .cls
        directives := [{ source := "shop.Order", target := "dto.Order" },
          { source := "shop.Order", target := "dto.Order" }] },
      { name := "Parcel", module := "shop", kind := .cls
        directives := [{ source := "shop.Parcel", target := "dto.Parcel" }] },
      { name := "Order", module := "dto", kind := .cls },
      { name := "Parcel", module := "dto", kind := .cls }]
    nodup := by decide +kernel }

/-- The setting of two workers and a cache with room for one entry. -/
def pairSetting : Setting :=
  settingOf { maxWorkers := 2, cacheSize := 1 } twins

/-- Both workers look for the entry of the twins in vain, plan it and store it, and the third
directive drives it out. In a second pass one worker stores the entry and the other finds it. -/
theorem workers_agree_twins : pairSetting.workers = 2 ∧
    ∃ c₁ c₂ : Crew pairSetting 2,
      (Crew.start _ 2 { capacity := 1 }).run [0, 1, 0, 1, 0, 1, 0, 1, 0, 0, 0, 0] = some c₁ ∧
      (Crew.start _ 2 c₁.cache).run [0, 0, 0, 0, 1, 1, 1, 1, 1, 1] = some c₂ ∧
      c₁.cache.hits = 0 ∧ c₂.cache.hits = 1 ∧
      c₂.outcome = some (pairSetting.entriesFrom 0 pairSetting.index.directives) ∧
      Crew.result? c₂ = some (runPass pairSetting.config twins { capacity := 0 }).1 := by
  have hruns : ((Crew.start pairSetting 2 { capacity := 1 }).run
      [0, 1, 0, 1, 0, 1, 0, 1, 0, 0, 0, 0]).any (fun c₁ => c₁.cache.hits == 0 &&
        ((Crew.start pairSetting 2 c₁.cache).run [0, 0, 0, 0, 1, 1, 1, 1, 1, 1]).any fun c₂ =>
          c₂.cache.hits == 1 && c₂.outcome.isSome) = true := by
    decide +kernel
  obtain ⟨c₁, hrun₁, hruns⟩ := (Option.any_eq_true _ _).1 hruns
  rw [Bool.and_eq_true, beq_iff_eq] at hruns
  obtain ⟨c₂, hrun₂, hends⟩ := (Option.any_eq_true _ _).1 hruns.2
  rw [Bool.and_eq_true, beq_iff_eq] at hends
  obtain ⟨r, hr⟩ := Option.isSome_iff_exists.1 hends.2
  have hwarm : Warm pairSetting c₁.cache := .pass (.new 1) hrun₁
  obtain ⟨hentries, hresult, -, -⟩ := workers_agree _ twins 2 hwarm hrun₂
  refine ⟨by decide +kernel, c₁, c₂, hrun₁, hrun₂, hruns.1, hends.1, hr.trans ?_, ?_⟩
  · exact congrArg some (hentries r hr)
  · have hknown : Crew.result? c₂ = some _ := congrArg (Option.map _) hr
    exact hknown.trans (congrArg some (hresult _ hknown))

end Mapsmith.Generation
