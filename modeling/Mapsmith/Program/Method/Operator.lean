import Mapsmith.Program.Function.Records
import Mapsmith.Program.Method.Number

/-!
# The methods behind operators

The methods that stand behind the operators, called by their own names. Where an operator does not go between
two objects as far as the method of one of them can tell, the method says so by a value of its own and leaves
the operator to the other object. A method that changes what it belongs to yields that.
-/

namespace Mapsmith.Program

namespace Run

/-- The words in the names of the methods of the operators between two objects. -/
def operatorWords : List (String × String) :=
  [("add", "+"), ("sub", "-"), ("mul", "*"), ("truediv", "/"), ("floordiv", "//"), ("mod", "%"),
    ("pow", "**"), ("and", "&"), ("or", "|"), ("xor", "^"), ("lshift", "<<"), ("rshift", ">>"),
    ("matmul", "@")]

/-- The words in the names of the methods of the ways to compare two objects. -/
def comparisonWords : List (String × String) :=
  [("eq", "=="), ("ne", "!="), ("lt", "<"), ("le", "<="), ("gt", ">"), ("ge", ">=")]

/-- The words in the names of the methods of the signs. -/
def signWords : List (String × String) :=
  [("neg", "-"), ("pos", "+"), ("invert", "~")]

/-- The word between the underscores of a name that the language keeps for itself. -/
def keptWord? (name : String) : Option String :=
  if isKept name then some (String.ofList ((name.toList.drop 2).take (name.length - 4))) else none

/-- What is given in places to what stands behind a form of the language that stores something; what it is told
begins with a blank. -/
def slottedApart (name : String) (least most : Nat) (given : Arguments) : Run (List Object) := do
  let args ← tryCatch (slotted name least most given) fun e => match e with
    | .misuse (.other text) =>
      if text.startsWith "expected" then refuse (.other (" " ++ text)) else throw e
    | e => throw e
  return args.filterMap id

/-- What is given in places to what stands behind an operator or a form of the language. -/
def inSlots (name : String) (least most : Nat) (given : Arguments) : Run (List Object) := do
  return (← slotted name least most given).filterMap id

/-- Is an object a number of the language other than a complex one, and is it whole? -/
def realKind? (o : Object) : Option Bool :=
  match o with
  | .constant (.float _) => some false
  | .constant v => v.count?.map fun _ => true
  | _ => none

/-- Does an operator go between a value and another object as far as the first one's own method is asked? -/
def isOperand (operator : String) (p q : Object) : Bool :=
  match p with
  | .constant (.float _) => (realKind? q).isSome
  | .constant (.str _) => operator ∈ ["%", "+", "*"]
  | .constant .null => true
  | .constant (.list _) | .constant (.dict _) => true
  | .constant _ => realKind? q = some true
  | .datum (.complex ..) => (realKind? q).isSome || (q matches .datum (.complex ..))
  | .datum (.fraction ..) =>
    (realKind? q).isSome || (q matches .datum (.complex ..) | .datum (.fraction ..))
  | .datum (.decimal _) => realKind? q = some true || (q matches .datum (.decimal _))
  | .datum (.duration _) =>
    if operator ∈ ["+", "-"] then (q matches .datum (.duration _))
    else (realKind? q).isSome || (q matches .datum (.duration _))
  | .set _ | .frozenSet _ => (q matches .set _ | .frozenSet _)
  | .table _ => (q matches .table _)
  | _ => true

/-- What the method of an operator yields. -/
def operatorMethod (ev : Evaluator) (s : Scope) (operator : String) (o other : Object) : Run Object := do
  let m ← get
  let (p, q) := (m.plain o, m.plain other)
  if !isOperand operator p q then return leftOpen
  match operator, p with
  | "%", .constant (.str _) | "%", .datum (.bytes _) => operatedWith ev s operator o other
  | "*", p =>
    if isJoinable p then times o (← integer other)
    else return (← operated? ev operator o other).getD leftOpen
  | "|", .cls _ | "|", .formed .. | "|", .annotated .. | "|", .typeVariable _ | "|", .forward ..
  | "|", .special _ | "|", .named _ =>
    tryCatch (barred p q) fun e => match e with
      | .misuse (.operands ..) => return leftOpen
      | e => throw e
  | operator, _ => return (← operated? ev operator o other).getD leftOpen

/-- What the method of an operator yields that is asked after the one of the object in front. -/
def reflectedMethod (ev : Evaluator) (s : Scope) (operator : String) (o other : Object) : Run Object := do
  let m ← get
  let (p, q) := (m.plain o, m.plain other)
  match operator, p with
  | "%", .constant (.str _) | "%", .datum (.bytes _) =>
    if q matches .constant (.str _) | .datum (.bytes _) then operatedWith ev s operator other o
    else return leftOpen
  | "*", p =>
    if isJoinable p then times o (← integer other)
    else if isOperand operator p q then return (← operated? ev operator other o).getD leftOpen
    else return leftOpen
  | "|", .cls _ | "|", .formed .. | "|", .annotated .. | "|", .typeVariable _ | "|", .forward ..
  | "|", .special _ | "|", .named _ => operatorMethod ev s operator other o
  | operator, p =>
    if isOperand operator p q || (p matches .datum (.date _) | .datum (.moment ..)) then
      return (← operated? ev operator other o).getD leftOpen
    else return leftOpen

/-- What the method of an operator yields that changes what stands in front of it. Only things that can be changed
have such methods. -/
def changingMethod (ev : Evaluator) (s : Scope) (operator : String) (o other : Object) : Run Object := do
  let m ← get
  let data := (m.seen o) |> fun seen => match seen with
    | .made _ _ _ _ state => state.lookup "data"
    | _ => none
  let owner := data.getD o
  let changed (new : Object) : Run Object := do
    become owner new
    return o
  match m.plain owner, operator with
  | .list items, "+" =>
    let more ← parts ev (match m.seen other with
      | .made _ _ _ _ state => (state.lookup "data").getD other
      | _ => other)
    changed (.list (items ++ more))
  | .list _, "*" =>
    let new ← times owner (← integer other)
    match (← get).plain new with
    | .list items => changed (.list items)
    | _ => return o
  | .datum (.bytes values), "+" => match ← bytes? other with
    | some more => changed (.datum (.bytes (values ++ more)))
    | none => refuse (.other ("can't concat " ++ m.typeName other ++ " to " ++ m.typeName o))
  | .datum (.bytes _), "*" =>
    let new ← times owner (← integer other)
    match (← get).plain new with
    | .datum (.bytes values) => changed (.datum (.bytes values))
    | _ => return o
  | .set items, operator => match m.plain other with
    | .set others | .frozenSet others => match ← ofSets? operator items others with
      | some items => changed (.set items)
      | none => return leftOpen
    | _ => return leftOpen
  | .table entries, operator =>
    if keeper? m o = some "Counter" then
      match m.entries? other with
      | some others => match ← ofCounts? operator entries others with
        | some entries => changed (.table entries)
        | none => return leftOpen
      | none => operatorMethod ev s operator o other
    else if operator = "|" then
      changed (.table (← updatedWith ev (m.isOrderedTable owner) entries other))
    else return leftOpen
  | _, operator => operatorMethod ev s operator o other

/-! ### Comparing -/

/-- Does the method of a way to compare say anything of a value and another object? -/
def isComparable (m : Memory) (isOrder : Bool) (o other : Object) : Bool :=
  let (p, q) := (m.plain o, m.plain other)
  let isAnyOf (ks : List String) : Bool := m.typeName other ∈ ks
  match p with
  | .constant (.float _) => (realKind? q).isSome
  | .constant (.str _) => (q matches .constant (.str _))
  | .constant .null => !isOrder && (q matches .constant .null)
  | .constant _ => realKind? q = some true
  | .datum (.complex ..) => !isOrder && ((realKind? q).isSome || (q matches .datum (.complex ..)))
  | .datum (.fraction ..) =>
    (realKind? q).isSome || (q matches .datum (.fraction ..))
      || (!isOrder && (q matches .datum (.complex ..)))
  | .datum (.decimal _) =>
    (realKind? q).isSome || (q matches .datum (.fraction ..) | .datum (.decimal _))
      || (!isOrder && (q matches .datum (.complex ..)))
  | .datum (.bytes _) => (q matches .datum (.bytes _))
      && (m.typeName o ≠ "bytes" || m.typeName other = "bytes") && (m.typeName o ≠ "memoryview" || !isOrder)
  | .datum (.range ..) => !isOrder && (q matches .datum (.range ..))
  | .datum (.date _) => (q matches .datum (.date _) | .datum (.moment ..))
  | .datum (.moment ..) => (q matches .datum (.moment ..))
  | .datum (.zone _) => !isOrder && (q matches .datum (.zone _))
  | .datum (.duration _) => (q matches .datum (.duration _))
  | .datum (.time _) => (q matches .datum (.time _))
  | .datum (.identifier _) => (q matches .datum (.identifier _))
  | .row _ => (q matches .row _)
  | .list _ => (q matches .list _) && (keeper? m o = some "deque") = (keeper? m other = some "deque")
  | .table _ =>
    if isOrder && keeper? m o ≠ some "Counter" then false
    else if keeper? m o = some "Counter" then keeper? m other = some "Counter"
    else (q matches .table _)
  | .set _ | .frozenSet _ => (m.setItems? q).isSome && !isAnyOf ["dict_values", "dict_items", "dict_keys"]
  | .view kind _ =>
    if kind = "dict_keys" || kind = "dict_items" then (m.setItems? q).isSome
    else kind = "mappingproxy" && (m.entries? q).isSome
  | .slice .. => (q matches .slice ..)
  | .formed former _ => !isOrder && (match q with
      | .formed other _ => former.isTyping = other.isTyping
      | _ => false)
  | .annotated .. => !isOrder && (q matches .annotated ..)
  | .forward .. => !isOrder && (q matches .forward ..)
  | .made .. =>
    !isOrder && m.classOf o = m.classOf other && m.isByValue (m.classOf o)
  | _ => false

/-- Is one object found to be another one by the method that all objects have? -/
def identityMethod (operator : String) (o other : Object) : Object :=
  let isOne := o.isOne other
  if operator = "==" && isOne then truth true
  else if operator = "!=" && isOne then truth false
  else leftOpen

/-- What the method of a way to compare yields. -/
def comparisonMethod (ev : Evaluator) (operator : String) (o other : Object) : Run Object := do
  let m ← get
  let isOrder := operator ≠ "==" && operator ≠ "!="
  if isComparable m isOrder o other then compared ev operator o other
  else match m.plain o with
    | .constant .null | .cls _ | .function _ | .builtinFunction _ | .module _ | .libraryModule _ | .ellipsis
    | .lambda _ | .iterator _ | .typeVariable _ | .special _ | .enumValue .. | .other .. | .view .. =>
      return identityMethod operator o other
    | .made .. =>
      return if m.isByValue (m.classOf o) then leftOpen else identityMethod operator o other
    | _ => return leftOpen

end Run

end Mapsmith.Program
