import Mapsmith.Generation
import Mathlib.Logic.Function.Basic

/-!
# Planning with several workers

A pass may plan its directives side by side. Its workers take the positions of the directives from
one queue, in order, and share one cache. A worker looks the entry of its directive up, plans the
directive if the cache has none, and stores what it has planned; each of these is one step, and
between two steps of a worker the others may do anything. What the positions yield is collected in
the order of the directives, up to the first error.
-/

namespace Mapsmith.Generation

/-- The number of workers of a pass. A single directive needs no second worker. -/
def Setting.workers (s : Setting) : Nat :=
  if 1 < s.config.maxWorkers ∧ 1 < s.index.directives.length then s.config.maxWorkers else 1

/-- The position of a directive. -/
abbrev Setting.Position (s : Setting) := Fin s.index.directives.length

/-- The directive at a position. -/
abbrev Setting.directive (s : Setting) (i : s.Position) : Directive := s.index.directives.get i

/-- What a worker is at. -/
inductive Task (s : Setting)
  /-- It has nothing to do. -/
  | idle
  /-- It has taken a directive, and looks its entry up next. -/
  | seeking (i : s.Position)
  /-- The cache had no entry, and it plans the directive next. -/
  | planning (i : s.Position)
  /-- It has planned the directive, and stores the entry next. -/
  | storing (i : s.Position) (entry : Entry)

/-- So many workers at the directives of a pass. -/
structure Crew (s : Setting) (n : Nat) where
  /-- The cache they share. -/
  cache : Cache
  /-- What each of them is at. -/
  tasks : Fin n → Task s
  /-- The number of directives that were taken from the queue. -/
  taken : Nat
  /-- What the positions have yielded so far. -/
  yields : Nat → Option (Except PlanningError Entry)

namespace Crew

variable {s : Setting} {n : Nat} {c : Crew s n} {w : Fin n}

/-- The workers at the beginning of a pass. -/
def start (s : Setting) (n : Nat) (cache : Cache) : Crew s n :=
  { cache, tasks := fun _ => .idle, taken := 0, yields := fun _ => none }

/-- Gives a worker its next task. -/
def assign (c : Crew s n) (w : Fin n) (task : Task s) : Crew s n :=
  { c with tasks := Function.update c.tasks w task }

@[simp] theorem tasks_assign (task : Task s) :
    (c.assign w task).tasks = Function.update c.tasks w task := rfl

theorem tasks_assign_self (c : Crew s n) (w : Fin n) (task : Task s) :
    (c.assign w task).tasks w = task :=
  Function.update_self ..

/-- Gives a worker the next directive of the queue. -/
def take (c : Crew s n) (w : Fin n) (h : c.taken < s.index.directives.length) : Crew s n :=
  { c.assign w (.seeking ⟨c.taken, h⟩) with taken := c.taken + 1 }

@[simp] theorem taken_take (h : c.taken < s.index.directives.length) :
    (c.take w h).taken = c.taken + 1 := rfl

@[simp] theorem tasks_take (h : c.taken < s.index.directives.length) :
    (c.take w h).tasks = Function.update c.tasks w (.seeking ⟨c.taken, h⟩) := rfl

/-- Hands in what a worker's position yields. -/
def deliver (c : Crew s n) (w : Fin n) (i : s.Position) (yielded : Except PlanningError Entry) :
    Crew s n :=
  { c.assign w .idle with yields := Function.update c.yields i (some yielded) }

@[simp] theorem tasks_deliver (i : s.Position) (r : Except PlanningError Entry) :
    (c.deliver w i r).tasks = Function.update c.tasks w .idle := rfl

@[simp] theorem yields_deliver (i : s.Position) (r : Except PlanningError Entry) :
    (c.deliver w i r).yields = Function.update c.yields i (some r) := rfl

/-- The next step of a worker, if there is anything for it to do. -/
def step (c : Crew s n) (w : Fin n) : Option (Crew s n) :=
  match c.tasks w with
  | .idle =>
    if h : c.taken < s.index.directives.length then
      some (c.take w h)
    else none
  | .seeking i =>
    let (found, cache) := c.cache.get (s.key (s.directive i))
    match found with
    | some entry => some ({ c with cache }.deliver w i (.ok entry))
    | none => some ({ c with cache }.assign w (.planning i))
  | .planning i =>
    match s.entry i (s.directive i) with
    | .ok entry => some (c.assign w (.storing i entry))
    | .error e => some (c.deliver w i (.error e))
  | .storing i entry =>
    let cache := c.cache.put (s.key (s.directive i)) entry
    some ({ c with cache }.deliver w i (.ok entry))

/-- The steps of workers one after another, in the order in which a schedule names the workers. -/
def run : List (Fin n) → Crew s n → Option (Crew s n)
  | [], c => some c
  | w :: schedule, c => (c.step w).bind (run schedule)

/-- What directives from a position on have yielded, as soon as it is known: their entries, or the
first error. -/
def collect (yields : Nat → Option (Except PlanningError Entry)) :
    Nat → List Directive → Option (Except PlanningError (List (Directive × Entry)))
  | _, [] => some (.ok [])
  | position, d :: ds =>
    match yields position with
    | none => none
    | some (.error e) => some (.error e)
    | some (.ok entry) => (collect yields (position + 1) ds).map (·.map ((d, entry) :: ·))

/-- What the directives of the pass have yielded, as soon as it is known. -/
def outcome (c : Crew s n) : Option (Except PlanningError (List (Directive × Entry))) :=
  collect c.yields 0 s.index.directives

end Crew

end Mapsmith.Generation
