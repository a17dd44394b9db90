import Mapsmith.Program.Arithmetic
import Mapsmith.Program.OwnMethod
import Mapsmith.Program.SetOrder

/-!
# What counts as the same

Two objects are one if they have one place, or cannot be told apart. They count as the same if they are one among
the things of a collection, or if their kind says so: numbers are by their values, collections by what is in them,
the values of dataclasses and of models by their members, and everything else only if it is one.
-/

namespace Mapsmith.Program

/-- Are two objects one? -/
def Object.isOne (a b : Object) : Bool :=
  match a, b with
  | .cell p, .cell q => p = q
  | .view "globals" (.module i), .view "globals" (.module j) => i = j
  | .view "vars" (.cell p), .view "vars" (.cell q) => p = q
  | .cell _, _ | _, .cell _ | .list _, _ | .set _, _ | .table _, _ | .view .., _ | .method .., _ => false
  | .row [], .row [] => true
  | .datum a, .datum b => a = b
  | .constant (.float x), .constant (.float y) => x = y
  | .made p .., .made q .. => p = q
  | a, b => a.sameType b && a.same b

namespace Memory

variable (m : Memory)

/-- The entries of a table, or of a view of one. -/
def entries? (o : Object) : Option (List Object) :=
  match m.plain o with
  | .table entries => some entries
  | .constant (.dict es) => some (es.map fun (key, v) => .row [.text key, .constant v])
  | .view "mappingproxy" o => match m.plain o with
    | .table entries => some entries
    | _ => none
  | _ => none

/-- The first thing of each entry. -/
def keysOf (entries : List Object) : List Object :=
  entries.map fun e => (e.items.head?).getD e

/-- The second thing of each entry. -/
def valuesOf (entries : List Object) : List Object :=
  entries.map fun e => (e.items[1]?).getD .none

/-- The things of a view. -/
def viewed (kind : String) (o : Object) : List Object :=
  let entries := (m.entries? o).getD []
  if kind = "dict_values" then valuesOf entries
  else if kind = "dict_items" then entries else keysOf entries

/-- The things of a set, or of a view that counts as one. -/
def setItems? (o : Object) : Option (List Object) :=
  match m.plain o with
  | .set items | .frozenSet items => some items
  | .view kind o => if kind ∈ ["dict_keys", "dict_items"] then some (m.viewed kind o) else none
  | _ => none

/-- Are values of a class the same if their members are? -/
def isByValue (c : ClassId) : Bool :=
  (m.dataclass? c).isSome || (m.model? c).isSome

/-- The members by which the values of a class are told apart. -/
def tellingMembers (c : ClassId) (members : List (String × Object)) : List (String × Object) :=
  match m.dataclass? c with
  | some shape =>
    (shape.fields.filter fun (_, f) => f.role = FieldRole.member).filterMap fun (name, _) =>
      (members.lookup name).map (name, ·)
  | none => members

end Memory

namespace Run

/-- Does a condition hold for one of some things? -/
def anyOf (p : Object → Run Bool) : List Object → Run Bool
  | [] => return false
  | o :: os => do if ← p o then return true else anyOf p os

/-- Does a condition hold for all of some things? -/
def allOf (p : Object → Run Bool) : List Object → Run Bool
  | [] => return true
  | o :: os => do if ← p o then allOf p os else return false

/-- Does a condition hold between the things of two rows, one after the other? -/
def allPairs (p : Object → Object → Run Bool) : List Object → List Object → Run Bool
  | [], [] => return true
  | a :: as, b :: bs => do if ← p a b then allPairs p as bs else return false
  | _, _ => return false

/-- Does a class of the library tell how things are kept? -/
def isKeeper (l : LibraryClass) : Bool :=
  l.module = "collections" || l = .builtin "bytearray" || l = .builtin "memoryview"

/-- The class of the library that tells how the things of an object are kept, if a class has made it. -/
def keeper? (m : Memory) (o : Object) : Option String :=
  match m.seen o with
  | .made _ c _ _ _ => (m.line c).findSome? fun a => match a with
    | .library l => if isKeeper l then some l.name else none
    | .program _ => none
  | _ => none

/-- What a value keeps as the collection or the text that it works on, or the object itself. -/
def workedOn (m : Memory) (o : Object) : Object :=
  (keptUnder? m o "data").getD o

/-- Is each entry of a table one of another one? -/
def entriesAmong (p : Object → Object → Run Bool) (others : List Object) : List Object → Run Bool
  | [] => return true
  | .row [key, value] :: es => do
    let isHere ← anyOf (fun e => match e with
      | .row [k, v] => do if ← p key k then p value v else return false
      | _ => return false) others
    if isHere then entriesAmong p others es else return false
  | _ :: es => entriesAmong p others es

/-- Do two objects count as the same, as deep as is told? -/
def equalWithin : Nat → Object → Object → Run Bool
  | 0, _, _ => throw .tooDeep
  | levels + 1, a, b => do
    let alike (x y : Object) : Run Bool :=
      if Object.isOne x y then return true else equalWithin levels x y
    let m ← get
    let (a, b) := (workedOn m a, workedOn m b)
    let (p, q) := (m.plain a, m.plain b)
    match p, q with
    | .row as, .row bs => allPairs alike as bs
    | .list as, .list bs =>
      if (keeper? m a = some "deque") ≠ (keeper? m b = some "deque") then return false
      allPairs alike as bs
    | .table es, .table fs =>
      let isOrdered := m.isOrderedTable a && m.isOrderedTable b
      if keeper? m a = some "Counter" && keeper? m b = some "Counter" then
        let counts (es : List Object) : List Object := es.filter fun e =>
          !((e.items[1]?).any (·.same (.constant (.int 0))))
        let (es, fs) := (counts es, counts fs)
        if es.length ≠ fs.length then return false
        entriesAmong alike fs es
      else if es.length ≠ fs.length then return false
      else if isOrdered then allPairs alike (es.flatMap Object.items) (fs.flatMap Object.items)
      else entriesAmong alike fs es
    | .view "mappingproxy" o, q => match m.entries? o, m.entries? q with
      | some es, some fs => if es.length ≠ fs.length then return false else entriesAmong alike fs es
      | _, _ => return false
    | .made p c [] as _, .made q d [] bs _ =>
      if p = q then return true
      else if c = d && m.isByValue c then
        let (as, bs) := (m.tellingMembers c as, m.tellingMembers d bs)
        if as.map (·.1) ≠ bs.map (·.1) then return false
        allPairs alike (as.map (·.2)) (bs.map (·.2))
      else return false
    | .slice a b c, .slice d e f => allPairs alike [a, b, c] [d, e, f]
    | .method o n, .method p k => return n = k && o.isOne p
    | .view k o, .view l p =>
      if k = "dict_values" || l = "dict_values" then return false
      let (as, bs) := (m.viewed k o, m.viewed l p)
      if as.length ≠ bs.length then return false
      allOf (fun x => anyOf (alike x) bs) as
    | p, q => match m.setItems? p, m.setItems? q with
      | some as, some bs =>
        if as.length ≠ bs.length then return false
        allOf (fun x => anyOf (alike x) bs) as
      | _, _ => match p, q with
        | .datum (.decimal (.notANumber ..)), _ | _, .datum (.decimal (.notANumber ..)) => return false
        | p, q => return p.same q

/-- Do two objects count as the same? -/
def equal (a b : Object) : Run Bool :=
  equalWithin 900 a b

/-- Do two things of collections count as the same? -/
def alike (a b : Object) : Run Bool := do
  if a.isOne b then return true else equal a b

/-- Is an object among others? -/
def isIn (os : List Object) (o : Object) : Run Bool :=
  anyOf (alike o) os

/-- The first of every group of objects that count as the same. -/
def distinct (os : List Object) : Run (List Object) :=
  os.foldlM (fun kept o => do if ← isIn kept o then return kept else return kept ++ [o]) []

/-! ### Hashes -/

/-- The number by which an object is looked up in a table, if it is the same whenever the program runs. -/
def hashWithin : Nat → Object → Run (Option Int)
  | 0, _ => throw .tooDeep
  | levels + 1, o => do
    let m ← get
    match m.plain o with
    | .row items => do
      let hashes ← items.mapM (hashWithin levels)
      return (hashes.mapM id).map Hash.ofRow
    | .frozenSet items => do
      let hashes ← items.mapM (hashWithin levels)
      return (hashes.mapM id).map Hash.ofSet
    | .datum (.range first last step) =>
      let n := (Datum.integers first last step).length
      if n = 0 then return none
      if n = 1 then return none
      return some (Hash.ofRow ([Int.ofNat n, first, step].map Hash.ofInt))
    | .made _ c [] members _ =>
      if m.isByValue c then do
        let hashes ← (m.tellingMembers c members).mapM fun (_, o) => hashWithin levels o
        return (hashes.mapM id).map Hash.ofRow
      else return none
    | p => return Hash.ofValue? p

/-- The number by which an object is looked up in a table, if it is the same whenever the program runs. -/
def hash? (o : Object) : Run (Option Int) :=
  hashWithin 900 o

/-- The type of something in the object that cannot be looked up in a table. -/
def unhashable? (o : Object) : Run (Option String) := do
  let m ← get
  return m.unhashable? (m.whole o)

/-- Refuses what cannot be looked up in a table. -/
def checkLookUp (o : Object) : Run Unit := do
  match ← unhashable? o with
  | some type => refuse (.unhashable type)
  | none => return

/-- Things of a set in the order in which one goes through them. -/
def inSetOrder (items : List Object) : Run (List Object) := do
  let hashes ← items.mapM hash?
  match hashes.mapM id with
  | some hashes => return SetOrder.ofList (hashes.zip items)
  | none => return items

/-- A set of things, each once. -/
def setOf (items : List Object) : Run (List Object) := do
  for o in items do checkLookUp o
  inSetOrder (← distinct items)

end Run

end Mapsmith.Program
