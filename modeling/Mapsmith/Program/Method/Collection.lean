import Mapsmith.Program.Construction.Collection
import Mapsmith.Program.Method.Bytes

/-!
# What can be called on collections

The methods of rows, lists, sets, tables and ranges, and of what yields things. Whoever holds a collection sees what
a method changes about it. Tables that count, that have an order or that are looked up one after the other have
methods of their own.
-/

namespace Mapsmith.Program

namespace Run

/-! ### Rows and lists -/

/-- The place that a bound of a search tells; nothing is no bound. -/
def firmBound (o : Object) : Run Object := do
  match ← integer? o with
  | some _ => return o
  | none => refuse (.other "slice indices must be integers or have an __index__ method")

/-- Where a thing stands first among others, between bounds. -/
def indexIn (items : List Object) (args : List (Option Object)) : Run Object := do
  let o := argOr args 0
  let first ← (argAt args 1).mapM firmBound
  let last ← (argAt args 2).mapM firmBound
  let (first, last) ← searchBounds items.length first last
  let rec search (place : Nat) : List Object → Run Object
    | [] => throw .badValue
    | item :: items => do
      if first ≤ place && place < last then
        if ← alike item o then return intOf (Int.ofNat place)
      search (place + 1) items
  search 0 items

/-- How often a thing is among others. -/
def countIn (items : List Object) (o : Object) : Run Object := do
  return intOf (Int.ofNat (← items.filterM (alike · o)).length)

/-- A method that rows, lists and ranges have alike. -/
def rowMethod (items : List Object) (name : String) (args : List (Option Object)) : Run Object := do
  match name with
  | "index" => indexIn items args
  | "count" => countIn items (argOr args 0)
  | "__getnewargs__" => return .row [.row items]
  | _ => fail "NotImplementedError"

/-- Things without the first one that counts as the same as another one. -/
def withoutOne (o : Object) : List Object → Run (List Object)
  | [] => throw .badValue
  | item :: items => do
    if ← alike item o then return items else return item :: (← withoutOne o items)

/-- Things put in order, each before those that it does not come after. -/
def insertSorted (precedes : Object → Object → Run Bool) (o : Object × Object) :
    List (Object × Object) → Run (List (Object × Object))
  | [] => return [o]
  | p :: ps => do
    if ← precedes o.1 p.1 then return o :: p :: ps
    else return p :: (← insertSorted precedes o ps)

/-- Things in order of what a function makes of them. -/
def sortedBy (ev : Evaluator) (s : Scope) (items : List Object) (key isReversed : Option Object) :
    Run (List Object) := do
  let isReversed ← match isReversed with
    | some o => do pure (decide ((← integer o) ≠ 0))
    | none => pure false
  let keyed ← items.mapM fun o => do
    match key.filter (!·.same .none) with
    | some f => return (← ev.call s f (.ofItems [o]), o)
    | none => return (o, o)
  let keyed := if isReversed then keyed.reverse else keyed
  let precedes (a b : Object) : Run Bool := do isTrue ev (← compared ev "<" a b)
  let sorted ← keyed.foldlM (fun done o => insertSorted precedes o done) []
  let items := sorted.map (·.2)
  return if isReversed then items.reverse else items

/-- Things with another one at a place, which is counted from the end if it is negative. -/
def insertedAt {α : Type} (items : List α) (place : Int) (o : α) : List α :=
  let count := Int.ofNat items.length
  let at_ := (max 0 (min count (if place < 0 then place + count else place))).toNat
  items.take at_ ++ o :: items.drop at_

/-- What a method of lists yields. -/
def listMethod (ev : Evaluator) (s : Scope) (o : Object) (items : List Object) (name : String)
    (args : List (Option Object)) : Run Object := do
  let first := argOr args 0
  let change (os : List Object) : Run Object := do
    become o (.list os)
    return .none
  match name with
  | "append" => change (items ++ [first])
  | "extend" => change (items ++ (← parts ev first))
  | "insert" => change (insertedAt items (← integer first) (argOr args 1))
  | "remove" => change (← withoutOne first items)
  | "pop" =>
    let place := intOf (← integer ((argAt args 0).getD (intOf (-1))))
    let i ← placeAmong "list" items.length place
    let _ ← change (items.eraseIdx i)
    return items.getD i .none
  | "clear" => change []
  | "reverse" => change items.reverse
  | "copy" => newList items
  | "sort" => change (← sortedBy ev s items (argAt args 0) (argAt args 1))
  | "__reversed__" => reversedOf ev o
  | "__sizeof__" => return intOf (Int.ofNat (40 + 8 * items.length))
  | name => rowMethod items name args

/-- Things as many as a list may have: those at one end are left out. -/
def keptWithin (most : Option Int) (dropsFirst : Bool) (items : List Object) : List Object :=
  match most with
  | some n =>
    let excess := items.length - n.toNat
    if dropsFirst then items.drop excess else items.take (items.length - excess)
  | none => items

/-- What a method of lists with two ends yields. -/
def endedListMethod (ev : Evaluator) (o : Object) (items : List Object) (name : String)
    (args : List (Option Object)) : Run Object := do
  let m ← get
  let first := argOr args 0
  let most := (keptUnder? m o "maxlen").bind fun n => Outcome.count? n
  let change (os : List Object) : Run Object := do
    become o (.list os)
    return .none
  match name with
  | "append" => change (keptWithin most true (items ++ [first]))
  | "appendleft" => change (keptWithin most false (first :: items))
  | "extend" => change (keptWithin most true (items ++ (← parts ev first)))
  | "extendleft" => change (keptWithin most false ((← parts ev first).reverse ++ items))
  | "insert" =>
    if most.any (· ≤ Int.ofNat items.length) then throw .noPlace
    change (insertedAt items (← integer first) (argOr args 1))
  | "remove" => change (← withoutOne first items)
  | "pop" => match items.getLast? with
    | some item =>
      let _ ← change items.dropLast
      return item
    | none => throw .noPlace
  | "popleft" => match items with
    | item :: rest =>
      let _ ← change rest
      return item
    | [] => throw .noPlace
  | "rotate" =>
    let n ← integer ((argAt args 0).getD (intOf 1))
    if items.isEmpty then return .none
    let k := (Int.emod (-n) (Int.ofNat items.length)).toNat
    change (items.drop k ++ items.take k)
  | "clear" => change []
  | "reverse" => change items.reverse
  | "copy" | "__copy__" => keptLike o (.list items)
  | "__reversed__" => reversedOf ev o
  | name => rowMethod items name args

/-! ### Sets -/

/-- The things of another object, each once. -/
def othersOf (ev : Evaluator) (o : Object) : Run (List Object) := do
  match (← get).setItems? o with
  | some items => return items
  | none => setOf (← parts ev o)

/-- What is looked for in a set: a set that can change is looked for as one that cannot. -/
def soughtInSet (o : Object) : Run Object := do
  match (← get).plain o with
  | .set items => return .frozenSet items
  | _ =>
    checkLookUp o
    return o

/-- What a method of sets yields. -/
def setMethod (ev : Evaluator) (o : Object) (items : List Object) (isFrozen : Bool) (name : String)
    (args : List (Option Object)) : Run Object := do
  let first := argOr args 0
  let given := args.filterMap id
  let make (os : List Object) : Run Object := if isFrozen then return .frozenSet os else newSet os
  let change (os : List Object) : Run Object := do
    become o (.set os)
    return .none
  let combined (operator : String) : Run (List Object) :=
    given.foldlM (fun items o => do
      return (← ofSets? operator items (← othersOf ev o)).getD items) items
  match name with
  | "union" => make (← combined "|")
  | "intersection" => make (← combined "&")
  | "difference" => make (← combined "-")
  | "symmetric_difference" => make (← combined "^")
  | "update" => change (← combined "|")
  | "intersection_update" => change (← combined "&")
  | "difference_update" => change (← combined "-")
  | "symmetric_difference_update" => change (← combined "^")
  | "isdisjoint" =>
    let others ← othersOf ev first
    return truth (!(← anyOf (isIn items) others))
  | "issubset" =>
    let others ← othersOf ev first
    return truth (← allOf (isIn others) items)
  | "issuperset" =>
    let others ← othersOf ev first
    return truth (← allOf (isIn items) others)
  | "copy" => make items
  | "pop" => match items with
    | item :: rest =>
      let _ ← change rest
      return item
    | [] => throw .noEntry
  | "add" =>
    checkLookUp first
    if ← isIn items first then return .none
    change (← inSetOrder (items ++ [first]))
  | "discard" =>
    let sought ← soughtInSet first
    change (← items.filterM fun item => do return !(← alike item sought))
  | "remove" =>
    let sought ← soughtInSet first
    if !(← isIn items sought) then throw .noEntry
    change (← items.filterM fun item => do return !(← alike item sought))
  | "clear" => change []
  | "__contains__" =>
    let sought ← soughtInSet first
    return truth (← isIn items sought)
  | "__sizeof__" => return intOf 200
  | _ => fail "NotImplementedError"

/-! ### Tables -/

/-- A table with one value at each of some keys. -/
def entriesFrom (ev : Evaluator) (args : List (Option Object)) : Run (List Object) := do
  (← parts ev (argOr args 0)).foldlM (fun es key => do
    checkLookUp key
    entered es key (argOr args 1)) []

/-- The class of the library that a table of a kind is one of. -/
def likeTable (o : Object) (entries : List Object) : Run Object := do
  match keeper? (← get) o with
  | some _ => keptLike o (.table entries)
  | none => newTable entries

/-- A value at a key that is taken out of a table, or what is given in its place. -/
def poppedFrom (o : Object) (entries : List Object) (key : Object) (usual : Option Object) : Run Object := do
  checkLookUp key
  match ← valueAt? entries key, usual with
  | some value, _ =>
    become o (.table (← without entries key))
    return value
  | none, some value => return value
  | none, none => throw .noEntry

/-- What a method of tables yields. -/
def tableMethod (ev : Evaluator) (s : Scope) (o : Object) (entries : List Object) (name : String)
    (args : List (Option Object)) : Run Object := do
  let first := argOr args 0
  match name with
  | "get" =>
    checkLookUp first
    return (← valueAt? entries first).getD (argOr args 1)
  | "__getitem__" => valueWith ev s o first
  | "__contains__" =>
    checkLookUp first
    return truth (← valueAt? entries first).isSome
  | "__missing__" => valueForMissing ev s o first
  | "setdefault" =>
    checkLookUp first
    match ← valueAt? entries first with
    | some value => return value
    | none =>
      become o (.table (← entered entries first (argOr args 1)))
      return argOr args 1
  | "pop" => poppedFrom o entries first (argAt args 1)
  | "popitem" =>
    let isLast ← match argAt args 0 with
      | some o => isTrue ev o
      | none => pure true
    match if isLast then entries.getLast? else entries.head? with
    | some e =>
      become o (.table (if isLast then entries.dropLast else entries.tail))
      return e
    | none => throw .noEntry
  | "move_to_end" =>
    checkLookUp first
    let isLast ← match argAt args 1 with
      | some o => isTrue ev o
      | none => pure true
    match ← valueAt? entries first with
    | none => throw .noEntry
    | some value =>
      let rest ← without entries first
      let moved := Object.row [first, value]
      become o (.table (if isLast then rest ++ [moved] else moved :: rest))
      return .none
  | "keys" | "values" | "items" => return .view ("dict_" ++ name) o
  | "copy" | "__copy__" => likeTable o entries
  | "clear" =>
    become o (.table [])
    return .none
  | "__reversed__" => reversedOf ev o
  | "__sizeof__" => return intOf 64
  | _ => fail "NotImplementedError"

/-- The entries of a table by their values, the greatest first. -/
def byCount (entries : List Object) : Run (List Object) := do
  let precedes (a b : Object) : Run Bool := ordered "<" a b
  let keyed := (entries.map fun e => ((e.items[1]?).getD .none, e)).reverse
  let sorted ← keyed.foldlM (fun done e => insertSorted precedes e done) []
  return (sorted.map (·.2)).reverse

/-- What a method of tables that count yields, if it is one of their own. -/
def countMethod? (ev : Evaluator) (o : Object) (entries : List Object) (name : String) (given : Arguments) :
    Run (Option Object) := do
  let given' (words : String) : Run (List (Option Object)) := takenBy ("Counter." ++ name ++ "()") words given
  let changed (isLess : Bool) : Run (Option Object) := do
    let n := given.inPlace.length
    if n > 1 then refusePlaces ("Counter." ++ name ++ "()") 1 2 (n + 1)
    become o (.table (← countedWith ev isLess entries given))
    return some .none
  match name with
  | "update" => changed false
  | "subtract" => changed true
  | "total" =>
    let _ ← given' ""
    return some (← (Memory.valuesOf entries).foldlM (operated ev "+") (intOf 0))
  | "elements" =>
    let _ ← given' ""
    let all ← entries.mapM fun e => match e with
      | .row [key, n] => do return List.replicate (← integer n).toNat key
      | _ => return []
    return some (← newItems "itertools.chain" all.flatten)
  | "most_common" =>
    let sorted ← byCount entries
    match (argAt (← given' "n?") 0).filter (!·.same .none) with
    | none => return some (← newList sorted)
    | some n => return some (← newList (sorted.take (← integer n).toNat))
  | "copy" =>
    let _ ← given' ""
    return some (← likeTable o entries)
  | _ => return none

/-- What a method of tables that are looked up one after the other yields, if it is one of their own. -/
def chainMethod? (ev : Evaluator) (s : Scope) (o : Object) (maps : List Object) (name : String)
    (given : Arguments) : Run (Option Object) := do
  let refreshed (result : Object) : Run (Option Object) := do
    become o (.table (← chained (← get) maps))
    return some result
  let made (maps : List Object) : Run (Option Object) := do
    let all ← newList maps
    return some (← newMade (.library ⟨"collections", "ChainMap"⟩) [.table (← chained (← get) maps)]
      [("maps", all)] [("maps", all)])
  let first := maps.headD .none
  match name with
  | "pop" | "popitem" | "clear" | "setdefault" =>
    refreshed (← ev.call s (.method first name) given)
  | "update" =>
    let entries := ((← get).entries? first).getD []
    become first (.table (← updatedBy ev false entries given))
    refreshed .none
  | "copy" | "__copy__" =>
    let _ ← takenBy "ChainMap.copy()" "" given
    let copy ← ev.call s (.method first "copy") {}
    made (copy :: maps.tail)
  | "new_child" => match given.inPlace.head?.filter (!·.same .none) with
    | some o =>
      become o (.table (← updatedNames (((← get).entries? o).getD []) given.byName))
      made (o :: maps)
    | none => made ((← newTableOf given.byName) :: maps)
  | _ => return none

/-! ### What yields things -/

/-- The next thing, or the failure that says that there is none. -/
def nextOf (ev : Evaluator) (o : Object) : Run Object := do
  match ← ev.next o with
  | some item => return item
  | none => fail "StopIteration"

/-- How many things are left of what yields known ones. -/
def leftOf (m : Memory) (o : Object) : Option Nat :=
  match o with
  | .iterator index => match (m.iterators[index]?).map IteratorObject.flow with
    | some (.items left _) => some left.length
    | some (.places owner next) => some (((sequence? m owner).getD []).length - next)
    | some (.back _ next) => some next
    | some (.entries _ _ next count _) => some (count - next)
    | _ => none
  | _ => none

/-- What a method of what yields things yields. -/
def iteratorMethod (ev : Evaluator) (s : Scope) (o : Object) (name : String) (given : Arguments) :
    Run Object := do
  let index := match o with
    | .iterator index => index
    | _ => 0
  match name with
  | "__next__" =>
    let _ ← slotted name 0 0 given
    nextOf ev o
  | "__iter__" => return o
  | "__length_hint__" => match leftOf (← get) o with
    | some n => return intOf (Int.ofNat n)
    | none => fail "NotImplementedError"
  | "send" =>
    let args ← received .one "generator.send" "send" given
    if !(argOr args 0).same .none then
      refuse (.other "can't send non-None value to a just-started generator")
    nextOf ev o
  | "throw" =>
    modify (·.changeFlow index (.items [] none))
    let args ← received (.places 1 3) "generator.throw" "throw" given
    match argOr args 0 with
    | .cls c =>
      if (← get).inherits c (.library (.builtin "BaseException")) then
        let e ← ev.call s (.cls c) (.ofItems ((args.drop 1).filterMap id))
        throw (.raised (match (← get).classOf e with
          | .library l => l
          | .program _ => .builtin "Exception"))
      else refuse (.other ("exceptions must be classes or instances deriving from BaseException, not "
        ++ (← get).typeName (.cls c)))
    | e =>
      if (← get).isValueOf e (.library (.builtin "BaseException")) then
        throw (.raised (match (← get).classOf e with
          | .library l => l
          | .program _ => .builtin "Exception"))
      else refuse (.other ("exceptions must be classes or instances deriving from BaseException, not "
        ++ (← get).typeName e))
  | "close" =>
    let _ ← received .nothing "generator.close" "close" given
    modify (·.changeFlow index (.items [] none))
    return .none
  | _ => fail "NotImplementedError"

end Run

end Mapsmith.Program
