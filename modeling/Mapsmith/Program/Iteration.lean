import Mapsmith.Program.Cell
import Mapsmith.Program.Sameness

/-!
# Going through things

What one goes through yields its things one after the other, each when it is asked for. A list yields what is at
its places then; a table or a set has to keep its size meanwhile; what works with other such things asks these.

A kind of enum numbers its values by the powers of two, and any sum of these is a value of it, too: the one that
they make up together. Such a value comes into being when it is asked for, and is known by the names of those that
make it up; going through it yields these.
-/

namespace Mapsmith.Program

/-! ### Values that others make up together -/

namespace Memory

/-- Do the values of an enum make up others? -/
def isFlag (m : Memory) (index : Nat) : Bool :=
  m.inherits (.program index) (.library ⟨"enum", "Flag"⟩)

/-- The number of a value of an enum whose values make up others. -/
def flagNumber? (m : Memory) (o : Object) : Option (Nat × Int) :=
  match m.seen o with
  | .enumValue index name =>
    if m.isFlag index then match (m.class? index).bind (·.keptAt? name) with
      | some (.constant v) => v.count?.map (index, ·)
      | _ => none
    else none
  | _ => none

/-- The values of such an enum that stand for one power of two, with their numbers. -/
def flagParts (m : Memory) (index : Nat) : List (String × Nat) :=
  (((m.class? index).map (·.values)).getD []).filterMap fun (name, o) => match o with
    | .constant v => match v.count? with
      | some (.ofNat n) => if n ≠ 0 && n &&& (n - 1) = 0 then some (name, n) else none
      | _ => none
    | _ => none

/-- The values of such an enum that make up a number. -/
def flagsIn (m : Memory) (index : Nat) (n : Nat) : List (String × Nat) :=
  (m.flagParts index).filter fun (_, k) => n &&& k ≠ 0

end Memory

namespace Run

/-- Has the value of an enum no name? The place of its name is taken by its number then. -/
def isNameless (name : String) : Bool :=
  name.toList.head?.all (·.isDigit)

/-- The value of an enum whose values make up others that has a number. A number below zero leaves out what it
would be made up of. -/
def flagValue (index : Nat) (n : Int) : Run Object := do
  let m ← get
  let some c := m.class? index | throw .badValue
  let mask := (m.flagParts index).foldl (fun all (_, k) => all ||| k) 0
  let bound := Nat.pow 2 (if mask = 0 then 0 else mask.log2 + 1)
  let keeps := m.inherits (.program index) (.library ⟨"enum", "IntFlag"⟩)
  let isOutside := n < -(Int.ofNat bound) || Int.ofNat bound ≤ n
  if isOutside && !keeps then throw .badValue
  let size := if isOutside then Nat.pow 2 (n.natAbs.log2 + 1) else bound
  let k := (if n < 0 then Int.ofNat size + n else n).toNat
  let isIt (e : String × Object) : Bool := match e.2 with
    | .constant v => v.count? = some (Int.ofNat k)
    | _ => false
  match c.values.find? isIt, c.unions.find? isIt with
  | some (name, _), _ | none, some (name, _) => return .enumValue index name
  | none, none =>
    let known := m.flagsIn index k
    let rest := k - known.foldl (fun all (_, p) => all + p) 0
    if rest ≠ 0 && !keeps then throw .badValue
    let names := known.map (·.1) ++ if rest = 0 then [] else [toString rest]
    let name := if known.isEmpty then toString k else "|".intercalate names
    modify (·.changeClass index fun c =>
      { c with unions := c.unions ++ [(name, .constant (.int (Int.ofNat k)))] })
    return .enumValue index name

/-- The bits that are in one number, in both, or in one of both. -/
def joinedBits (operator : String) (a b : Nat) : Option Nat :=
  match operator with
  | "|" => some (a ||| b)
  | "&" => some (a &&& b)
  | "^" => some (a ^^^ b)
  | _ => none

/-- Two values of an enum whose values make up others with an operator between them, if they go together. -/
def ofFlags? (operator : String) (a b : Object) : Run (Option Object) := do
  let m ← get
  let whole (o : Object) : Option Int := match m.plain o with
    | .constant v => v.count?
    | _ => none
  let takes (index : Nat) : Bool := m.inherits (.program index) (.library ⟨"enum", "IntFlag"⟩)
  let pair : Option (Nat × Int × Int) := match m.flagNumber? a, m.flagNumber? b with
    | some (i, x), some (j, y) => if i = j then some (i, x, y) else none
    | some (i, x), none => if takes i then (whole b).map (i, x, ·) else none
    | none, some (i, y) => if takes i then (whole a).map (i, ·, y) else none
    | none, none => none
  match pair with
  | some (index, .ofNat x, .ofNat y) => match joinedBits operator x y with
    | some n => return some (← flagValue index (Int.ofNat n))
    | none => return none
  | _ => return none

end Run

/-! ### What things yield -/

namespace Run

/-- Characters of a text, each as a text. -/
def characters (s : String) : List Object :=
  s.toList.map fun c => .text (String.singleton c)

/-- The integers of a list, each as a value. -/
def integers (ns : List Int) : List Object :=
  ns.map fun n => .constant (.int n)

/-- Refuses what one cannot go through. -/
def notIterable {α : Type} (o : Object) : Run α := do
  refuse (.other (Text.quote ((← get).typeName o) ++ " object is not iterable"))

/-- The values that an enum is a choice between. -/
def valuesOfEnum? (m : Memory) (c : ClassId) : Option (List Object) :=
  match c with
  | .program index => match m.class? index with
    | some o => if o.metaclass = .enum then some (o.values.map fun (name, _) => .enumValue index name) else none
    | none => none
  | .library l => if l.isEnumeration then some [] else none

/-- The things at the places of an object that keeps them in a row. -/
def sequence? (m : Memory) (o : Object) : Option (List Object) :=
  match m.plain o with
  | .row items | .list items => some items
  | .constant (.list vs) => some (vs.map .ofValue)
  | .constant (.str s) => some (characters s)
  | .datum (.bytes values) => some (integers (values.map Int.ofNat))
  | .datum (.range first last step) => some (integers (Datum.integers first last step))
  | _ => none

/-- The kind of what goes through an object that keeps its things in a row. -/
def sequenceKind (m : Memory) (o : Object) : String :=
  match m.seen o, m.plain o with
  | .made _ c _ _ _, _ =>
    if m.inherits c (.library ⟨"collections", "deque"⟩) then "_collections._deque_iterator"
    else if m.inherits c (.library (.builtin "bytearray")) then "bytearray_iterator"
    else if m.inherits c (.library .tuple) then "tuple_iterator"
    else if m.inherits c (.library (.builtin "list")) then "list_iterator" else "iterator"
  | _, .row _ => "tuple_iterator"
  | _, .list _ | _, .constant (.list _) => "list_iterator"
  | _, .constant (.str s) =>
    if s.toList.all fun c => c.toNat < 128 then "str_ascii_iterator" else "str_iterator"
  | _, .datum (.bytes _) => "bytes_iterator"
  | _, .datum (.range first last step) =>
    let isLong (n : Int) : Bool := n.natAbs ≥ Nat.pow 2 63
    if isLong first || isLong last || isLong step then "longrange_iterator" else "range_iterator"
  | _, _ => "iterator"

/-- The things of a table or a set in order, and the kind of what goes through them. -/
def pooled? (m : Memory) (o : Object) : Option (String × List Object) :=
  let isCounted := match m.seen o with
    | .made _ c _ _ _ => m.inherits c (.library ⟨"collections", "OrderedDict"⟩)
    | _ => false
  let kind (usual : String) : String := if isCounted then "odict_iterator" else usual
  match m.plain o with
  | .set items | .frozenSet items => some ("set_iterator", items)
  | .table entries => some (kind "dict_keyiterator", Memory.keysOf entries)
  | .constant (.dict es) => some (kind "dict_keyiterator", es.map fun (key, _) => .text key)
  | .view "mappingproxy" o => some ("dict_keyiterator", m.viewed "dict_keys" o)
  | .view "dict_values" o => some ("dict_valueiterator", m.viewed "dict_values" o)
  | .view "dict_items" o => some ("dict_itemiterator", m.viewed "dict_items" o)
  | .view "dict_keys" o => some ("dict_keyiterator", m.viewed "dict_keys" o)
  | _ => none

/-- What goes through things in a way. -/
def newIterator (kind : String) (flow : Flow) : Run Object := do
  let index := (← get).iterators.length
  modify (·.addIterator { kind, flow })
  return .iterator index

/-- What goes through things that are known. -/
def newItems (kind : String) (items : List Object) : Run Object :=
  newIterator kind (.items items none)

/-- Does an object yield things itself? -/
def isIterator (m : Memory) (o : Object) : Bool :=
  match m.seen o with
  | .iterator _ => true
  | .made _ c _ _ _ => (ownAttribute? m c "__next__").isSome
  | _ => false

/-- What goes through the things that an object consists of. It is the object if that does so itself. -/
def iteratorOf (ev : Evaluator) (o : Object) : Run Object := do
  let m ← get
  match m.seen o with
  | .iterator _ => return o
  | .cls c => match valuesOfEnum? m c with
    | some values => newItems "generator" values
    | none => notIterable o
  | .typeVariable index =>
    if m.variableKind index = .several then newItems "generator" [.formed (.special "Unpack") [o]]
    else notIterable o
  | .formed (.subscripted _) _ | .formed (.named _) _ | .formed (.generic _) _ =>
    newItems "generator" [.formed (.special "Unpack") [o]]
  | .enumValue index _ => match m.flagNumber? o with
    | some (_, n) => newItems "generator" ((m.flagsIn index n.toNat).map fun (name, _) => .enumValue index name)
    | none => ofPlain m
  | .made _ c _ members state =>
    match state.lookup "data" with
    | some inner => match sequence? m inner, pooled? m inner with
      | some _, _ => newIterator (sequenceKind m inner) (.places inner 0)
      | none, some (kind, items) => newIterator kind (.entries kind inner 0 items.length false)
      | none, none => notIterable o
    | none =>
      if (m.model? c).isSome then
        newItems "generator" (members.map fun (name, o) => .row [.text name, o])
      else match ← said? ev o "__iter__" [] with
        | some answer =>
          if isIterator (← get) answer then return answer
          refuse (.other ("iter() returned non-iterator of type " ++ Text.quote (m.typeName answer)))
        | none => match sequence? m o, pooled? m o, ownAttribute? m c "__getitem__" with
          | some _, _, _ => newIterator (sequenceKind m o) (.places o 0)
          | none, some (kind, items), _ => newIterator kind (.entries kind o 0 items.length false)
          | none, none, some _ => newIterator "iterator" (.answers o 0)
          | none, none, none => notIterable o
  | _ => ofPlain m
where
  /-- What goes through the things of a row, a table or a set. -/
  ofPlain (m : Memory) : Run Object :=
    match sequence? m o, pooled? m o with
    | some _, _ => newIterator (sequenceKind m o) (.places o 0)
    | none, some (kind, items) => newIterator kind (.entries kind o 0 items.length false)
    | none, none => notIterable o

/-- The next thing that something yields, for each of several, up to the first that has none. -/
def nextOfEach (ev : Evaluator) : List Object → Run (List Object)
  | [] => return []
  | o :: os => do
    match ← ev.next o with
    | some item => return item :: (← nextOfEach ev os)
    | none => return []

/-- What goes through things as far as it is asked, up to so many. -/
def drained (ev : Evaluator) (it : Object) : Nat → List Object → Run (List Object)
  | 0, _ => throw (.failure "MemoryError")
  | steps + 1, items => do
    match ← ev.next it with
    | some item => drained ev it steps (item :: items)
    | none => return items.reverse

/-- The most things that something may yield. -/
def maxItems : Nat := 300000

/-- The things that an object consists of. -/
def parts (ev : Evaluator) (o : Object) : Run (List Object) := do
  let m ← get
  match m.seen o with
  | .iterator index => match (m.iterators[index]?).map IteratorObject.flow with
    | some (.items items none) =>
      modify (·.changeFlow index (.items [] none))
      return items
    | _ => drained ev o maxItems []
  | .made .. => drained ev (← iteratorOf ev o) maxItems []
  | _ => match sequence? m o, pooled? m o with
    | some items, _ | none, some (_, items) => return items
    | none, none => drained ev (← iteratorOf ev o) maxItems []

/-! ### Targets -/

mutual

/-- The names that a target gives to an object or to its parts. -/
def names (ev : Evaluator) (target : Expr) (o : Object) : Run (List (String × Object)) := do
  match target with
  | .name name => return [(name, o)]
  | .row targets | .list targets =>
    let items ← tryCatch (parts ev o) fun e => match e with
      | .misuse (.other _) => do
        refuse (.other ("cannot unpack non-iterable " ++ (← get).typeName o ++ " object"))
      | e => throw e
    namesAll ev targets items
  | _ => return []

/-- The names that targets in a row give to objects in a row. One may take what is left. -/
def namesAll (ev : Evaluator) : List Expr → List Object → Run (List (String × Object))
  | [], [] => return []
  | [], _ :: _ => throw .badValue
  | .spread target :: ts, os => do
    if os.length < ts.length then throw .badValue
    let left := os.length - ts.length
    let first ← names ev target (← newList (os.take left))
    return first ++ (← namesAll ev ts (os.drop left))
  | _ :: _, [] => throw .badValue
  | t :: ts, o :: os => do
    let first ← names ev t o
    return first ++ (← namesAll ev ts os)

end

/-- Gives the names of a target a meaning in a frame. -/
def bindTarget (ev : Evaluator) (owner : String) (frame : Nat) (target : Expr) (o : Object) : Run Unit := do
  for (name, o) in ← names ev target o do
    modify fun m => m.bindIn frame (keptName owner name) o

/-! ### The next thing -/

/-- What loops yield next: the innermost one goes on, and what it does leads to a thing, to a loop within it or to
nothing. The loops that are left come with the thing. -/
def nextGathered (ev : Evaluator) (s : Scope) (frame : Nat) : Nat → List Loop → Run (Option Object × List Loop)
  | 0, _ => throw (.failure "MemoryError")
  | steps + 1, loops => do
    match loops with
    | [] => return (none, [])
    | loop :: outer =>
      match ← ev.next loop.source with
      | none => nextGathered ev s frame steps outer
      | some o =>
        bindTarget ev s.owner frame loop.target o
        let rec done : Expr → Run (Option Object × List Loop)
          | .given condition body => do
            let isTrue ← isTrue ev (← ev.evaluate s condition)
            if isTrue then done body else return (none, loops)
          | .each target things body => do
            let source ← iteratorOf ev (← ev.evaluate s things)
            return (none, { source, target, body } :: loops)
          | .list items => do
            match items with
            | [item] => return (some (← ev.evaluate s item), loops)
            | _ => return (none, loops)
          | _ => return (none, loops)
        match ← done loop.body with
        | (some item, loops) => return (some item, loops)
        | (none, loops) => nextGathered ev s frame steps loops

/-- Does a fault say that there is nothing more, by one of the failures of these names? -/
def isEnd (names : List String) : Fault → Bool
  | .raised c => c.module = "builtins" && c.name ∈ names
  | .noPlace => "IndexError" ∈ names
  | _ => false

/-- The next thing that a flow yields, with what is left of it. -/
def nextOfFlow (ev : Evaluator) (s : Scope) (f : Flow) : Run (Option (Object × Flow)) := do
  let m ← get
  match f with
  | .items (item :: items) fault => return some (item, .items items fault)
  | .items [] (some e) => throw e
  | .items [] none => return none
  | .places owner next => match ((sequence? m owner).getD [])[next]? with
    | some item => return some (item, .places owner (next + 1))
    | none => return none
  | .back _ 0 => return none
  | .back owner (next + 1) => match ((sequence? m owner).getD [])[next]? with
    | some item => return some (item, .back owner next)
    | none => return none
  | .entries kind owner next count isBack =>
    let items := ((pooled? m owner).map (·.2)).getD []
    if items.length ≠ count then throw (.failure "RuntimeError")
    let place := if isBack then items.length - 1 - next else next
    match if next < items.length then items[place]? else none with
    | some item => return some (item, .entries kind owner (next + 1) count isBack)
    | none => return none
  | .mapped function sources =>
    let args ← nextOfEach ev sources
    if args.length < sources.length then return none
    let o ← ev.call s function (.ofItems args)
    return some (o, f)
  | .filtered .. => return none
  | .together sources isStrict =>
    let args ← nextOfEach ev sources
    if args.isEmpty && !sources.isEmpty then
      if isStrict then
        for other in sources.drop 1 do
          if (← ev.next other).isSome then throw .badValue
      return none
    if args.length < sources.length then
      if isStrict then throw .badValue
      return none
    if sources.isEmpty then return none
    return some (.row args, f)
  | .numbered count source => match ← ev.next source with
    | some item => return some (.row [.constant (.int count), item], .numbered (count + 1) source)
    | none => return none
  | .answers owner next =>
    match ← attempt (said? ev owner "__getitem__" [.constant (.int next)]) with
    | .ok (some item) => return some (item, .answers owner (next + 1))
    | .ok none => return none
    | .error e => if isEnd ["IndexError", "StopIteration"] e then return none else throw e
  | .asked function last =>
    let o ← ev.call s function {}
    if ← alike o last then return none else return some (o, f)
  | .gathered scope frame loops =>
    match ← nextGathered ev scope frame maxItems loops with
    | (some item, loops) => return some (item, .gathered scope frame loops)
    | (none, _) => return none

/-- The next thing that a function says yes to. -/
def nextFiltered (ev : Evaluator) (s : Scope) (function source : Object) : Nat → Run (Option Object)
  | 0 => throw (.failure "MemoryError")
  | steps + 1 => do
    match ← ev.next source with
    | none => return none
    | some item =>
      let answer ← if function.same .none then pure item else ev.call s function (.ofItems [item])
      if ← isTrue ev answer then return some item else nextFiltered ev s function source steps

/-- The next thing that something yields, if there is one more. After a fault it yields nothing. -/
def nextWith (ev : Evaluator) (o : Object) : Run (Option Object) := do
  let m ← get
  match o with
  | .iterator index => match (m.iterators[index]?).map IteratorObject.flow with
    | none => return none
    | some flow =>
      let s : Scope := { near := .names [], far := .names [] }
      match flow with
      | .filtered function source => nextFiltered ev s function source maxItems
      | .mapped .. | .together .. | .numbered .. | .asked .. =>
        match ← nextOfFlow ev s flow with
        | some (item, left) =>
          modify (·.changeFlow index left)
          return some item
        | none => return none
      | flow =>
        modify (·.changeFlow index (.items [] none))
        match ← nextOfFlow ev s flow with
        | some (item, left) =>
          modify (·.changeFlow index left)
          return some item
        | none => return none
  | o => match ← attempt (said? ev o "__next__" []) with
    | .ok (some item) => return some item
    | .ok none => refuse (.other (Text.quote ((← get).typeName o) ++ " object is not an iterator"))
    | .error e => if isEnd ["StopIteration"] e then return none else throw e

end Run

end Mapsmith.Program
