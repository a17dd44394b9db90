import Mapsmith.Program.Operators

/-!
# Things at places

What is at a place of a thing with others in a row, between two places by a step, or at a key of a table; and what
becomes of such a thing when something else is put there or what is there is taken away.
-/

namespace Mapsmith.Program

namespace Run

/-- The bound of a slice, if there is one. -/
def boundOf (o : Object) : Run (Option Int) := do
  match (← get).plain o with
  | .constant .null => return none
  | .constant v => match v.count? with
    | some n => return some n
    | none => refuse (.other "slice indices must be integers or None or have an __index__ method")
  | _ => refuse (.other "slice indices must be integers or None or have an __index__ method")

/-- The places from a first one on up to a last one that is left out, by a step, among so many; each of both
is counted from the end if it is negative. -/
def placesBetween (first last : Option Int) (step : Int) (count : Nat) : Int × Int :=
  let n := Int.ofNat count
  let within (low high x : Int) : Int := max low (min high (if x < 0 then x + n else x))
  if step > 0 then
    ((first.map (within 0 n)).getD 0, (last.map (within 0 n)).getD n)
  else
    ((first.map (within (-1) (n - 1))).getD (n - 1), (last.map (within (-1) (n - 1))).getD (-1))

/-- The bounds and the step of a slice among so many things. -/
def sliceOf (first last step : Object) (count : Nat) : Run (Int × Int × Int) := do
  let step := (← boundOf step).getD 1
  if step = 0 then throw .badValue
  let (first, last) := placesBetween (← boundOf first) (← boundOf last) step count
  return (first, last, step)

/-- The things of a slice of things in a row. -/
def sliced {α : Type} (items : List α) (first last step : Object) : Run (List α) := do
  let (first, last, step) ← sliceOf first last step items.length
  return (Datum.integers first last step).filterMap fun i => items[i.toNat]?

/-- Refuses what is no place of a kind of thing. -/
def notAPlace {α : Type} (what : String) (place : Object) : Run α := do
  let type := (← get).typeName place
  refuse (.other (
    if what = "string" then "string indices must be integers, not " ++ Text.quote type
    else if what = "deque" then "sequence index must be integer, not " ++ Text.quote type
    else if what = "memoryview" then "memoryview: invalid slice key"
    else what ++ " indices must be integers or slices, not " ++ type))

/-- The place among so many things that an object tells, counted from the end if it is negative. -/
def placeAmong (what : String) (count : Nat) (place : Object) : Run Nat := do
  match (← get).plain place with
  | .constant v => match v.count? with
    | some n =>
      let i := if n < 0 then n + Int.ofNat count else n
      if i < 0 || Int.ofNat count ≤ i then throw .noPlace
      return i.toNat
    | none => notAPlace what place
  | _ => notAPlace what place

/-- The thing at a place of things in a row, counted from the end if the place is negative; or those of a
slice. -/
def itemAt {α : Type} (what : String) (one : α → Object) (many : List α → Run Object) (items : List α)
    (place : Object) : Run Object := do
  match (← get).plain place with
  | .slice first last step =>
    if what = "deque" then notAPlace what place
    many (← sliced items first last step)
  | _ =>
    let i ← placeAmong what items.length place
    match items[i]? with
    | some o => return one o
    | none => throw .noPlace

/-- The integer at a place of a range, or the range of a slice. -/
def rangeAt (first last step : Int) (place : Object) : Run Object := do
  let items := Datum.integers first last step
  match (← get).plain place with
  | .slice a b c => do
    let (a, b, c) ← sliceOf a b c items.length
    return .datum (.range (first + a * step) (first + b * step) (step * c))
  | _ => itemAt "range" (fun n => .constant (.int n)) (fun _ => return .none) items place

/-- What the class of a table says of a key that is missing: a value, if it has one for such keys. -/
def valueForMissing (ev : Evaluator) (s : Scope) (owner key : Object) : Run Object := do
  let m ← get
  if keeper? m owner = some "Counter" then return .constant (.int 0)
  if let some answer ← said? ev owner "__missing__" [key] then return answer
  match keptUnder? m owner "default_factory" with
  | some factory =>
    if factory.same .none then throw .noEntry
    let value ← ev.call s factory {}
    let entries := ((← get).entries? owner).getD []
    become owner (.table (← entered entries key value))
    return value
  | none => throw .noEntry

/-- The value at a key of a table. -/
def valueAtKey (ev : Evaluator) (s : Scope) (owner : Object) (entries : List Object) (key : Object) :
    Run Object := do
  checkLookUp key
  match ← valueAt? entries key with
  | some o => return o
  | none => valueForMissing ev s owner key

/-- A view of bytes of an object. -/
def newBytesView (of : Object) (isFixed : Bool) (values : List Nat) : Run Object :=
  let number (n : Nat) : Object := .constant (.int (Int.ofNat n))
  let truth (b : Bool) : Object := .constant (.bool b)
  newMade (.library (.builtin "memoryview")) [.datum (.bytes values)] []
    [("obj", of), ("nbytes", number values.length), ("format", .text "B"), ("itemsize", number 1),
      ("shape", .row [number values.length]), ("strides", .row [number 1]), ("suboffsets", .row []),
      ("ndim", number 1), ("readonly", truth isFixed), ("contiguous", truth true),
      ("c_contiguous", truth true), ("f_contiguous", truth true), (Memory.shownName, .text "<memory>")]

/-- Bytes of the kind that an object is. -/
def bytesLike (owner : Object) (values : List Nat) : Run Object := do
  let m ← get
  match keeper? m owner with
  | some "bytearray" => newMade (.library (.builtin "bytearray")) [.datum (.bytes values)] [] []
  | some "memoryview" =>
    let isFixed := (keptUnder? m owner "readonly").any (·.same (.constant (.bool true)))
    newBytesView ((keptUnder? m owner "obj").getD .none) isFixed values
  | _ => return .datum (.bytes values)

/-- What a value has at a place or a key. -/
def valueWith (ev : Evaluator) (s : Scope) (owner index : Object) : Run Object := do
  let m ← get
  if let some inner := keptUnder? m owner "data" then
    return ← ev.call s (.method inner "__getitem__") (.ofItems [index])
  if let some answer ← said? ev owner "__getitem__" [index] then return answer
  match m.plain owner with
  | .row items => itemAt "tuple" id (fun os => return .row os) items index
  | .list items =>
    itemAt (if keeper? m owner = some "deque" then "deque" else "list") id (newList ·) items index
  | .constant (.list vs) =>
    itemAt "list" Object.constant (fun vs => newList (vs.map .constant)) vs index
  | .table entries => valueAtKey ev s owner entries index
  | .view "mappingproxy" o => valueAtKey ev s o ((m.entries? o).getD []) index
  | .constant (.dict es) =>
    valueAtKey ev s owner (es.map fun (key, v) => .row [.text key, .constant v]) index
  | .constant (.str t) =>
    itemAt "string" (fun c => .text (String.singleton c)) (fun cs => return .text (String.ofList cs))
      t.toList index
  | .datum (.bytes values) =>
    itemAt ((keeper? m owner).getD "byte")
      (fun n => .constant (.int (Int.ofNat n))) (bytesLike owner) values index
  | .datum (.range first last step) => rangeAt first last step index
  | _ => refuse (.notSubscriptable (Text.quote (m.typeName owner) ++ " object"))

/-! ### Changes -/

/-- Things in a row with others at the places of a slice. -/
def replacedBetween {α : Type} (items new : List α) (first last step : Object) : Run (List α) := do
  let (first, last, step) ← sliceOf first last step items.length
  let places := (Datum.integers first last step).map Int.toNat
  if step = 1 then
    return items.take first.toNat ++ new ++ items.drop (max first last).toNat
  else if places.length ≠ new.length then throw .badValue
  else return (places.zip new).foldl (fun items (i, o) => items.set i o) items

/-- Things in a row without those at the places of a slice. -/
def withoutBetween {α : Type} (items : List α) (first last step : Object) : Run (List α) := do
  let (first, last, step) ← sliceOf first last step items.length
  let places := (Datum.integers first last step).map Int.toNat
  return (items.zipIdx.filter fun (_, i) => !places.contains i).map (·.1)

/-- A byte that is to be put somewhere. -/
def byteOf (o : Object) : Run Nat := do
  match (← get).plain o with
  | .constant v => match v.count? with
    | some n => if 0 ≤ n && n < 256 then return n.toNat else throw .badValue
    | none => refuse (.other (Text.quote ((← get).typeName o) ++ " object cannot be interpreted as an integer"))
  | _ => refuse (.other (Text.quote ((← get).typeName o) ++ " object cannot be interpreted as an integer"))

/-- The entries of what counts as a table. -/
def mappingOf? (m : Memory) (o : Object) : Option (List Object) :=
  match keptUnder? m o "data" with
  | some inner => m.entries? inner
  | none => m.entries? o

/-- The entries of tables that are looked up one after the other. -/
def chained (m : Memory) (maps : List Object) : Run (List Object) := do
  let all := maps.reverse.filterMap fun o => mappingOf? m o
  all.foldlM enteredAll []

/-- The first of the tables that an object looks up one after the other, and all of them, if it is such an object. -/
def chain? (m : Memory) (o : Object) : Option (Object × List Object) :=
  match (keptUnder? m o "maps").map m.plain with
  | some (.list (first :: rest)) => some (first, first :: rest)
  | _ => none

/-- Puts a thing at a place or at a key of another one. -/
def putAt (ev : Evaluator) (owner index value : Object) : Run Unit := do
  let m ← get
  if let some (first, maps) := chain? m owner then
    checkLookUp index
    become first (.table (← entered ((m.entries? first).getD []) index value))
    return ← become owner (.table (← chained (← get) maps))
  if (← said? ev owner "__setitem__" [index, value]).isSome then return
  let isSlice := m.plain index matches .slice ..
  match m.plain owner, m.plain index with
  | .list items, .slice first last step =>
    if keeper? m owner = some "deque" then notAPlace "deque" index
    let new ← tryCatch (parts ev value) fun e => match e with
      | .misuse _ => refuse (.other (if step.same .none then "can only assign an iterable"
          else "must assign iterable to extended slice"))
      | e => throw e
    become owner (.list (← replacedBetween items new first last step))
  | .list items, _ =>
    let i ← placeAmong (if keeper? m owner = some "deque" then "deque" else "list") items.length index
    become owner (.list (items.set i value))
  | .datum (.bytes values), _ =>
    if isSlice then
      match m.plain index, m.plain value with
      | .slice first last step, .datum (.bytes new) =>
        become owner (.datum (.bytes (← replacedBetween values new first last step)))
      | .slice first last step, _ =>
        let new ← (← parts ev value).mapM byteOf
        become owner (.datum (.bytes (← replacedBetween values new first last step)))
      | _, _ => return
    else
      let i ← placeAmong "bytearray" values.length index
      become owner (.datum (.bytes (values.set i (← byteOf value))))
  | .table entries, _ =>
    checkLookUp index
    become owner (.table (← entered entries index value))
  | _, _ =>
    refuse (.other (Text.quote (m.typeName owner) ++ " object does not support item assignment"))

/-- Takes away what is at a place or at a key of an object. -/
def removeAt (ev : Evaluator) (owner index : Object) : Run Unit := do
  let m ← get
  if let some (first, maps) := chain? m owner then
    checkLookUp index
    let entries := (m.entries? first).getD []
    if (← valueAt? entries index).isNone then throw .noEntry
    become first (.table (← without entries index))
    return ← become owner (.table (← chained (← get) maps))
  if (← said? ev owner "__delitem__" [index]).isSome then return
  match m.plain owner, m.plain index with
  | .list items, .slice first last step =>
    if keeper? m owner = some "deque" then notAPlace "deque" index
    become owner (.list (← withoutBetween items first last step))
  | .list items, _ =>
    let i ← placeAmong (if keeper? m owner = some "deque" then "deque" else "list") items.length index
    become owner (.list (items.eraseIdx i))
  | .datum (.bytes values), .slice first last step =>
    become owner (.datum (.bytes (← withoutBetween values first last step)))
  | .datum (.bytes values), _ =>
    let i ← placeAmong "bytearray" values.length index
    become owner (.datum (.bytes (values.eraseIdx i)))
  | .table entries, _ =>
    checkLookUp index
    match ← valueAt? entries index with
    | some _ => become owner (.table (← without entries index))
    | none => if keeper? m owner = some "Counter" then return else throw .noEntry
  | _, _ =>
    refuse (.other (Text.quote (m.typeName owner) ++ " object doesn't support item deletion"))

end Run

end Mapsmith.Program
