import Mapsmith.Program.Arguments
import Mapsmith.Program.Showing
import Mapsmith.Text.Part

/-!
# Operators on values

What operators between objects yield: numbers are worked with as such, texts, bytes, rows and lists are joined
and repeated, sets and tables are united and so on, points in time and spans of it are added, and values are
compared. What does not go together is refused. A class of the program that declares what stands behind an operator
yields nothing by it.
-/

namespace Mapsmith.Program

/-! ### Points in time -/

namespace Outcome

/-- A span of time, if it can be told. -/
def span (n : Int) : Outcome :=
  if Duration.isPossible n then datum (.duration n) else overflow

/-- The day of a number. -/
def day (n : Int) : Outcome :=
  match Date.ofOrdinal? n with
  | some d => datum (.date d)
  | none => overflow

/-- The time on a day that is so many microseconds after the beginning, as clocks of a zone show it. -/
def ofInstant (n : Int) (zone : Option TimeZone) : Outcome :=
  match Date.ofOrdinal? (Int.fdiv n Duration.perDay) with
  | some d => datum (.moment d { TimeOfDay.ofMicroseconds (Int.fmod n Duration.perDay).toNat with zone })
  | none => overflow

/-- The span between two times on days. -/
def between (d : Date) (t : TimeOfDay) (e : Date) (u : TimeOfDay) : Outcome :=
  if Datum.areAlikeTold t u then span (Datum.instant d t - t.offset - (Datum.instant e u - u.offset))
  else failed (.ofWording "can't subtract offset-naive and offset-aware datetimes")

/-- The integer nearest to a fraction, a tie to the even one. -/
def nearestInt (num : Int) (den : Nat) : Int :=
  let n := Int.ofNat (Binary64.roundQuotient num.natAbs den)
  if num < 0 then -n else n

/-- A span of time with an operator and a number after it. -/
def ofSpan (operator : String) (n : Int) (x : Number) : Outcome :=
  match x with
  | .int k =>
    if operator = "*" then span (n * k)
    else if operator = "//" then if k = 0 then undefined else span (Int.fdiv n k)
    else if operator = "/" then
      if k = 0 then undefined else span (nearestInt (if k < 0 then -n else n) k.natAbs)
    else unsupported
  | .real x => match x.fraction? with
    | some (num, den) =>
      if operator = "*" then span (nearestInt (n * num) den)
      else if operator = "/" then
        if num = 0 then undefined
        else span (nearestInt (if num < 0 then -(n * Int.ofNat den) else n * Int.ofNat den) num.natAbs)
      else unsupported
    | none => if operator ∈ ["*", "/"] then failed .badValue else unsupported
  | _ => unsupported

/-- An operator between points in time and spans of it. -/
def ofMoments (operator : String) (a b : Datum) : Outcome :=
  match a, b with
  | .date d, .date e =>
    if operator = "-" then span ((Int.ofNat d.ordinal - Int.ofNat e.ordinal) * Duration.perDay)
    else unsupported
  | .moment d t, .moment e u =>
    if operator = "-" then between d t e u else unsupported
  | .date d, .duration n =>
    if operator = "+" then day (Int.ofNat d.ordinal + Duration.days n)
    else if operator = "-" then day (Int.ofNat d.ordinal - Duration.days n)
    else unsupported
  | .duration n, .date d =>
    if operator = "+" then day (Int.ofNat d.ordinal + Duration.days n) else unsupported
  | .moment d t, .duration n =>
    if operator = "+" then ofInstant (Datum.instant d t + n) t.zone
    else if operator = "-" then ofInstant (Datum.instant d t - n) t.zone
    else unsupported
  | .duration n, .moment d t =>
    if operator = "+" then ofInstant (Datum.instant d t + n) t.zone else unsupported
  | .duration m, .duration n =>
    if operator = "+" then span (m + n)
    else if operator = "-" then span (m - n)
    else if operator ∈ ["/", "//", "%"] && n = 0 then undefined
    else if operator = "/" then real (.nearest (if n < 0 then -m else m) n.natAbs)
    else if operator = "//" then int (Int.fdiv m n)
    else if operator = "%" then span (Int.fmod m n)
    else unsupported
  | _, _ => unsupported

/-! ### Collections -/

/-- Things so many times in a row. -/
def repeated {α : Type} (n : Int) (items : List α) (make : List α → Object) : Outcome :=
  if items.length * n.toNat > maxBits then failed (.failure "MemoryError")
  else value (make (List.replicate n.toNat items).flatten)

/-- The integer that an object is. -/
def count? : Object → Option Int
  | .constant v => v.count?
  | _ => none

end Outcome

namespace Run

/-! ### Entries of tables -/

/-- The value at a key of a table. -/
def valueAt? (entries : List Object) (key : Object) : Run (Option Object) := do
  match entries with
  | [] => return none
  | .row [k, value] :: es => do if ← alike k key then return some value else valueAt? es key
  | _ :: es => valueAt? es key

/-- Entries with another one, which takes the place of one with its key. -/
def entered (entries : List Object) (key value : Object) : Run (List Object) := do
  match entries with
  | [] => return [.row [key, value]]
  | .row [k, held] :: es => do
    if ← alike k key then return .row [k, value] :: es
    else return .row [k, held] :: (← entered es key value)
  | e :: es => return e :: (← entered es key value)

/-- Entries without the one of a key. -/
def without (entries : List Object) (key : Object) : Run (List Object) := do
  match entries with
  | [] => return []
  | .row [k, held] :: es => do
    if ← alike k key then return es else return .row [k, held] :: (← without es key)
  | e :: es => return e :: (← without es key)

/-- Entries with others. -/
def enteredAll (entries others : List Object) : Run (List Object) :=
  others.foldlM (fun es e => match e with
    | .row [key, held] => entered es key held
    | _ => return es) entries

/-! ### Sets -/

/-- Those of some things that are among others, or those that are not. -/
def keptOf (isWanted : Bool) (items others : List Object) : Run (List Object) :=
  items.filterM fun o => do return (← isIn others o) = isWanted

/-- An operator between the things of two sets. -/
def ofSets? (operator : String) (items others : List Object) : Run (Option (List Object)) := do
  match operator with
  | "|" => return some (← inSetOrder (items ++ (← keptOf false others items)))
  | "&" =>
    let (fewer, more) := if others.length > items.length then (items, others) else (others, items)
    return some (← inSetOrder (← keptOf true fewer more))
  | "-" => return some (← inSetOrder (← keptOf false items others))
  | "^" =>
    return some (← inSetOrder ((← keptOf false items others) ++ (← keptOf false others items)))
  | _ => return none

/-! ### What classes declare -/

/-- The names of what stands behind operators. -/
def operatorNames : List (String × String) :=
  [("+", "add"), ("-", "sub"), ("*", "mul"), ("/", "truediv"), ("//", "floordiv"), ("%", "mod"),
    ("**", "pow"), ("&", "and"), ("|", "or"), ("^", "xor"), ("<<", "lshift"), (">>", "rshift"),
    ("@", "matmul")]

/-- What the classes of two objects say of an operator between them, if one of them does: that of the first one
is asked first, and that of the second one if it is another class. -/
def saidOfOperator? (ev : Evaluator) (operator : String) (a b : Object) : Run (Option Object) := do
  let m ← get
  match operatorNames.lookup operator with
  | none => return none
  | some word =>
    if let some o ← settled? ev a ("__" ++ word ++ "__") [b] then return some o
    if makerOf? m a = makerOf? m b then return none
    settled? ev b ("__r" ++ word ++ "__") [a]

/-- Refuses an operator between two objects. -/
def unsupported {α : Type} (operator : String) (a b : Object) : Run α := do
  let m ← get
  let shown := if operator = "**" then "** or pow()" else operator
  refuse (.operands shown (m.typeName a) (m.typeName b))

/-! ### Operators -/

/-- What comes of an operator between two values that are no collections. -/
def outcome (operator : String) (a b : Object) : Outcome :=
  match a, b with
  | .constant (.bool p), .constant (.bool q) => Number.ofTruths operator p q
  | a, b => match Number.of? a, Number.of? b, a, b with
    | some x, some y, _, _ => Number.operated operator x y
    | none, some y, .datum (.duration n), _ => .ofSpan operator n y
    | some x, none, _, .datum (.duration n) =>
      if operator = "*" then .ofSpan operator n x else .unsupported
    | none, none, .datum c, .datum d => .ofMoments operator c d
    | _, _, _, _ => .unsupported

/-- A collection like another one, with other things. -/
def keptLike (o : Object) (new : Object) : Run Object := do
  let m ← get
  match m.seen o with
  | .made _ c (_ :: _) _ state => match (m.line c).find? fun a => a matches .library _ with
    | some (.library l) =>
      if isKeeper l then newMade (.library l) [new] [] (state.filter
        fun (name, _) => name = "maxlen" || name = "default_factory")
      else alloc new
    | _ => alloc new
  | _ => match new with
    | .list _ | .set _ | .table _ => alloc new
    | new => return new

/-- How a kind of collection tells that another object cannot be joined to it. -/
def notJoined {α : Type} (m : Memory) (a b : Object) : Run α :=
  let type := m.typeName b
  let named := match keeper? m a, m.plain a with
    | some "deque", _ => some "deque"
    | _, .constant (.str _) => some "str"
    | _, .row _ => some "tuple"
    | _, .list _ => some "list"
    | _, _ => none
  match named with
  | some name =>
    refuse (.other ("can only concatenate " ++ name ++ " (not \"" ++ type ++ "\") to " ++ name))
  | none =>
    refuse (.other ("can't concat " ++ type ++ " to " ++ m.typeName a))

/-- Two collections joined. -/
def joined (a b : Object) : Run Object := do
  let m ← get
  match m.plain a, m.plain b with
  | .constant (.str s), .constant (.str t) => return .text (s ++ t)
  | .row items, .row others => return .row (items ++ others)
  | .list items, .list others =>
    let isDeque (o : Object) : Bool := keeper? m o = some "deque"
    if isDeque a ≠ isDeque b then notJoined m a b
    keptLike a (.list (items ++ others))
  | .datum (.bytes vs), .datum (.bytes ws) => keptLike a (.datum (.bytes (vs ++ ws)))
  | _, _ => notJoined m a b

/-- The things of a collection so many times. -/
def times (o : Object) (n : Int) : Run Object := do
  let done (out : Outcome) : Run Object := match out with
    | .value new => keptLike o new
    | .failed e => throw e
    | .unsupported => return .none
  match (← get).plain o with
  | .constant (.str s) => done (Outcome.repeated n s.toList fun cs => .text (String.ofList cs))
  | .row items => done (Outcome.repeated n items .row)
  | .list items => done (Outcome.repeated n items .list)
  | .datum (.bytes values) => done (Outcome.repeated n values fun vs => .datum (.bytes vs))
  | _ => return .none

/-- Does an object keep its things in a row that can be joined to others? -/
def isJoinable (p : Object) : Bool :=
  p matches .constant (.str _) | .row _ | .list _ | .datum (.bytes _)

/-- The number that an entry of a count tells. -/
def countAt (entries : List Object) (key : Object) : Run Object := do
  return (← valueAt? entries key).getD (.constant (.int 0))

/-- An operator between two counts: what is at the keys of either, as far as it is more than nothing. -/
def ofCounts? (operator : String) (es fs : List Object) : Run (Option (List Object)) := do
  let combined (f : Int → Int → Int) (keys : List Object) : Run (List Object) := do
    let rows ← keys.mapM fun key => do
      let a ← integer (← countAt es key)
      let b ← integer (← countAt fs key)
      return (key, f a b)
    return (rows.filter (·.2 > 0)).map fun (key, n) => .row [key, .constant (.int n)]
  let all ← distinct (Memory.keysOf es ++ Memory.keysOf fs)
  match operator with
  | "+" => return some (← combined (· + ·) all)
  | "-" => return some (← combined (· - ·) all)
  | "&" => return some (← combined min (Memory.keysOf es))
  | "|" => return some (← combined max all)
  | _ => return none

/-- Two collections with an operator between them, if they go together. -/
def ofCollections? (ev : Evaluator) (operator : String) (a b : Object) : Run (Option Object) := do
  let m ← get
  match m.plain a, m.plain b with
  | .table es, .table fs =>
    if keeper? m a = some "Counter" && keeper? m b = some "Counter" then
      match ← ofCounts? operator es fs with
      | some entries => return some (← newMade (.library ⟨"collections", "Counter"⟩) [.table entries] [] [])
      | none => return none
    else if operator = "|" then
      let like := if (keeper? m a).isSome || !(keeper? m b).any (· ∈ ["OrderedDict", "defaultdict"]) then a else b
      return some (← keptLike like (.table (← enteredAll es fs)))
    else return none
  | p, q => match m.setItems? p, m.setItems? q with
    | some items, some others => match ← ofSets? operator items others with
      | some os => return some (← if p matches .frozenSet _ then pure (.frozenSet os) else newSet os)
      | none => return none
    | some items, none =>
      if p matches .view .. then
        match ← tryCatch (do return some (← iteratorOf ev b)) (fun _ => return none) with
        | some _ => match m.setItems? b, sequence? m b with
          | none, some others => match ← ofSets? operator items (← setOf others) with
            | some os => return some (← newSet os)
            | none => return none
          | _, _ => return none
        | none => return none
      else return none
    | none, _ => match m.entries? p, m.entries? q, operator with
      | some es, some fs, "|" => return some (← newTable (← enteredAll es fs))
      | _, _, _ => return none

/-- Two objects with an operator other than a bar between types, or nothing if they do not go together. -/
def operated? (ev : Evaluator) (operator : String) (a b : Object) : Run (Option Object) := do
  let m ← get
  if let some o ← saidOfOperator? ev operator a b then return some o
  if let some o ← ofFlags? operator a b then return some o
  let (p, q) := (m.plain a, m.plain b)
  match outcome operator p q with
  | .value o => return some o
  | .failed e => throw e
  | .unsupported =>
    match ← ofCollections? ev operator a b with
    | some o => return some o
    | none => match operator with
      | "+" => if isJoinable p then return some (← joined a b) else return none
      | "*" =>
        let notCount {α : Type} (o : Object) : Run α := do
          refuse (.other ("can't multiply sequence by non-int of type " ++ Text.quote (m.typeName o)))
        if isJoinable p then match Outcome.count? q with
          | some n => return some (← times a n)
          | none => notCount b
        else if isJoinable q then match Outcome.count? p with
          | some n => return some (← times b n)
          | none => notCount a
        else return none
      | _ => return none

/-- A value of the class of another one that works on a collection or a text, which works on a given one. -/
def workingOn (like new : Object) : Run Object := do
  match (← get).seen like with
  | .made _ c .. => newMade c [] [("data", new)] [("data", new)]
  | _ => return new

/-- Two objects with an operator other than a bar between types. -/
def operated (ev : Evaluator) (operator : String) (a b : Object) : Run Object := do
  let m ← get
  let (p, q) := (workedOn m a, workedOn m b)
  match ← operated? ev operator p q with
  | some o =>
    if (keptUnder? m a "data").isSome then workingOn a o
    else if (keptUnder? m b "data").isSome then workingOn b o
    else return o
  | none => unsupported operator a b

/-- An object with a sign in front of it. -/
def signed (ev : Evaluator) (sign : String) (o : Object) : Run Object := do
  let m ← get
  let word := if sign = "-" then "__neg__" else if sign = "+" then "__pos__" else "__invert__"
  let refused {α : Type} : Run α :=
    refuse (.other ("bad operand type for unary " ++ sign ++ ": " ++ Text.quote (m.typeName o)))
  if let some answer ← said? ev o word [] then return answer
  match m.flagNumber? o, sign with
  | some (index, n), "~" => return ← flagValue index (-n - 1)
  | _, _ => pure ()
  let outcome : Option Object := match m.plain o, sign with
    | .constant (.float x), "-" => some (.constant (.float x.neg))
    | .constant (.float x), "+" => some (.constant (.float x))
    | .constant v, sign => v.count?.map fun n =>
      .constant (.int (if sign = "-" then -n else if sign = "~" then -n - 1 else n))
    | .datum (.complex re im), "-" => some (.datum (.complex re.neg im.neg))
    | .datum (.fraction num den), "-" => some (.datum (.fraction (-num) den))
    | .datum (.duration n), "-" => some (.datum (.duration (-n)))
    | .datum d, "+" => if d matches .complex .. | .fraction .. | .duration _ then some (.datum d) else none
    | _, _ => none
  match outcome, m.plain o with
  | some o, _ => return o
  | none, .datum (.decimal d) =>
    match Outcome.decimal (if sign = "-" then d.neg else d.plus) with
    | .value new => if sign = "~" then refused else return new
    | .failed e => throw e
    | .unsupported => refused
  | none, .table entries =>
    if keeper? m o = some "Counter" && sign ≠ "~" then
      let kept := entries.filterMap fun e => match e with
        | .row [key, .constant (.int n)] =>
          let n := if sign = "-" then -n else n
          if n > 0 then some (.row [key, .constant (.int n)]) else none
        | _ => none
      newMade (.library ⟨"collections", "Counter"⟩) [.table kept] [] []
    else refused
  | none, _ => refused

/-! ### Comparing -/

/-- The order of lists of numbers: the first difference counts, or else the length. -/
def orderOfNumbers : List Nat → List Nat → Ordering
  | [], [] => .eq
  | [], _ => .lt
  | _, [] => .gt
  | a :: as, b :: bs => (compare a b).then (orderOfNumbers as bs)

/-- The order of two values of classes of the library; nothing if they have none. -/
def orderOfData? (a b : Datum) : Option Ordering :=
  match a, b with
  | .bytes vs, .bytes ws => some (orderOfNumbers vs ws)
  | .date d, .date e => some (compare d.ordinal e.ordinal)
  | .time t, .time u =>
    if Datum.areAlikeTold t u then
      some (compare (Int.ofNat t.microseconds - t.offset) (Int.ofNat u.microseconds - u.offset))
    else none
  | .moment d t, .moment e u =>
    if Datum.areAlikeTold t u then
      some (compare (Datum.instant d t - t.offset) (Datum.instant e u - u.offset))
    else none
  | .duration m, .duration n => some (compare m n)
  | .identifier m, .identifier n => some (compare m n)
  | _, _ => none

/-- Does an order fit an operator? -/
def fits (operator : String) (o : Option Ordering) : Bool :=
  match o with
  | some .lt => operator = "<" || operator = "<="
  | some .gt => operator = ">" || operator = ">="
  | some .eq => operator = "<=" || operator = ">="
  | none => false

/-- The first things of two rows that differ, or the order of their lengths. -/
def firstDifference : List Object → List Object → Run (Except Ordering (Object × Object))
  | [], [] => return .error .eq
  | [], _ => return .error .lt
  | _, [] => return .error .gt
  | a :: as, b :: bs => do if ← alike a b then firstDifference as bs else return .ok (a, b)

/-- Refuses to put two objects in order. -/
def unordered {α : Type} (operator : String) (a b : Object) : Run α := do
  let m ← get
  refuse (.other (Text.quote operator ++ " not supported between instances of "
    ++ Text.quote (m.typeName a) ++ " and " ++ Text.quote (m.typeName b)))

/-- Are two objects in the order that an operator asks for, as deep as is told? Sets are by what is among
what. -/
def orderedWithin (operator : String) : Nat → Object → Object → Run Bool
  | 0, _, _ => throw .tooDeep
  | levels + 1, a, b => do
    let m ← get
    let (a, b) := (workedOn m a, workedOn m b)
    let (p, q) := (m.plain a, m.plain b)
    let rows (as bs : List Object) : Run Bool := do
      match ← firstDifference as bs with
      | .error order => return fits operator (some order)
      | .ok (x, y) => orderedWithin operator levels x y
    match p, q with
    | .row as, .row bs => rows as bs
    | .table es, .table fs =>
      if keeper? m a ≠ some "Counter" || keeper? m b ≠ some "Counter" then unordered operator a b
      let among (es fs : List Object) : Run Bool :=
        allOf (fun key => do
          return (← integer (← countAt es key)) ≤ (← integer (← countAt fs key)))
          (Memory.keysOf es ++ Memory.keysOf fs)
      let (isSmaller, isGreater) := (← among es fs, ← among fs es)
      return fits operator <|
        if isSmaller && isGreater then some .eq
        else if isSmaller then some .lt else if isGreater then some .gt else none
    | .list as, .list bs =>
      if (keeper? m a = some "deque") ≠ (keeper? m b = some "deque") then unordered operator a b
      rows as bs
    | .constant (.str s), .constant (.str t) =>
      return fits operator (some (orderOfNumbers (s.toList.map Char.toNat) (t.toList.map Char.toNat)))
    | p, q => match m.setItems? p, m.setItems? q with
      | some items, some others =>
        let isSmaller ← allOf (isIn others) items
        let isGreater ← allOf (isIn items) others
        return fits operator <|
          if isSmaller && isGreater then some .eq
          else if isSmaller then some .lt else if isGreater then some .gt else none
      | _, _ => match (Number.of? p).bind Number.standing?, (Number.of? q).bind Number.standing?, p, q with
        | some x, some y, p, q =>
          let isUndefined (o : Object) : Bool := o matches .datum (.decimal (.notANumber ..))
          if isUndefined p || isUndefined q then throw (.raised ⟨"decimal", "InvalidOperation"⟩)
          return fits operator (x.compare? y)
        | _, _, .datum c, .datum d => match orderOfData? c d with
          | some order => return fits operator (some order)
          | none => match c, d with
            | .date _, .moment .. | .moment .., .date _ =>
              refuse (.other "can't compare datetime.datetime to datetime.date")
            | .moment .., .moment .. => refuse (.other "can't compare offset-naive and offset-aware datetimes")
            | .time _, .time _ => refuse (.other "can't compare offset-naive and offset-aware times")
            | _, _ => unordered operator a b
        | _, _, .datum (.date _), _ | _, _, .datum (.moment ..), _ | _, _, _, _ => unordered operator a b

/-- Are two objects in the order that an operator asks for? -/
def ordered (operator : String) (a b : Object) : Run Bool :=
  orderedWithin operator 900 a b

/-- Is a thing among those that something yields? -/
def isYielded (ev : Evaluator) (a it : Object) : Nat → Run Bool
  | 0 => throw (.failure "MemoryError")
  | steps + 1 => do
    match ← ev.next it with
    | some o => if ← alike o a then return true else isYielded ev a it steps
    | none => return false

/-- Is an object among the things of another one? -/
def isAmong (ev : Evaluator) (a b : Object) : Run Bool := do
  let m ← get
  let looked (items : List Object) : Run Bool := do
    checkLookUp a
    isIn items a
  let refused {α : Type} : Run α :=
    refuse (.other ("argument of type " ++ Text.quote (m.typeName b) ++ " is not iterable"))
  if let some answer ← said? ev b "__contains__" [a] then return ← isTrue ev answer
  match m.flagNumber? a, m.flagNumber? b with
  | some (i, x), some (j, y) => if i = j then return x.toNat &&& y.toNat = x.toNat
  | _, _ => pure ()
  match m.plain a, m.plain b with
  | _, .set items | _, .frozenSet items => match m.plain a with
    | .set others => isIn items (.frozenSet others)
    | _ => looked items
  | _, .table entries => looked (Memory.keysOf entries)
  | _, .view kind o =>
    if kind = "dict_values" || kind = "dict_items" then isIn (m.viewed kind o) a
    else looked (m.viewed kind o)
  | .constant (.str s), .constant (.str t) => return Text.isWithin s.toList t.toList
  | _, .constant (.str _) =>
    refuse (.other ("'in <string>' requires string as left operand, not " ++ m.typeName a))
  | p, .cls c => match valuesOfEnum? m c with
    | some _ => match p with
      | .enumValue owner _ => return .program owner = c
      | _ =>
        refuse (.other ("unsupported operand type(s) for 'in': " ++ Text.quote (m.typeName a) ++ " and "
          ++ Text.quote (m.typeName b)))
    | none => refused
  | .constant v, .datum (.bytes values) => match v.count? with
    | some n =>
      if n < 0 || 255 < n then throw .badValue
      return values.any fun k => Int.ofNat k = n
    | none => refuse (.other ("a bytes-like object is required, not " ++ Text.quote (m.typeName a)))
  | .datum (.bytes part), .datum (.bytes values) =>
    return Text.isWithin (part.map Char.ofNat) (values.map Char.ofNat)
  | _, .datum (.bytes _) =>
    refuse (.other ("a bytes-like object is required, not " ++ Text.quote (m.typeName a)))
  | _, .row items | _, .list items => isIn items a
  | _, .datum (.range first last step) => isIn (integers (Datum.integers first last step)) a
  | _, .made .. =>
    let it ← tryCatch (iteratorOf ev b) fun e => match e with
      | .misuse _ => refused
      | e => throw e
    isYielded ev a it maxItems
  | _, .iterator _ => isYielded ev a b maxItems
  | _, _ => refused

/-- Two objects compared. -/
def compared (ev : Evaluator) (operator : String) (a b : Object) : Run Object := do
  let truth (b : Bool) : Object := .constant (.bool b)
  let words : List (String × String × String) := [("==", "__eq__", "__eq__"), ("!=", "__ne__", "__ne__"),
    ("<", "__lt__", "__gt__"), (">", "__gt__", "__lt__"), ("<=", "__le__", "__ge__"), (">=", "__ge__", "__le__")]
  match words.lookup operator with
  | some (left, right) =>
    if let some answer ← settled? ev a left [b] then return answer
    if let some answer ← settled? ev b right [a] then return answer
    if operator = "!=" then
      if let some answer ← settled? ev a "__eq__" [b] then return truth !(← isTrue ev answer)
      if let some answer ← settled? ev b "__eq__" [a] then return truth !(← isTrue ev answer)
  | none => pure ()
  if operator = "==" then return truth (← equal a b)
  else if operator = "!=" then return truth (!(← equal a b))
  else if operator = "is" then return truth (a.isOne b)
  else if operator = "is not" then return truth (!a.isOne b)
  else if operator = "in" then return truth (← isAmong ev a b)
  else if operator = "not in" then return truth (!(← isAmong ev a b))
  else return truth (← ordered operator a b)

end Run

end Mapsmith.Program
