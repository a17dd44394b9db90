import Mapsmith.Program.Construction

/-!
# Texts with values in the places of braces

Braces in a text ask for a value: the next one, one by its place, or one by its name, then for members and things in it.
A letter can tell how it is shown, and a layout how it is laid out, in which braces can stand once more. Values are
asked for either by their order or by their places, not by both.
-/

namespace Mapsmith.Program

/-- What braces in a text ask for. -/
structure Slot where
  /-- The value that is asked for. -/
  field : List Char
  /-- The letter that says how it is shown. -/
  way : Option Char
  /-- The layout. -/
  layout : List Char

namespace Slot

/-- The text of a field and what ends it, if braces around it end at all. -/
def fieldOf (isInBrackets : Bool) : List Char → Option (List Char × Char × List Char)
  | [] => none
  | c :: cs =>
    if c = '\x7b' then none
    else if !isInBrackets && (c = '\x7d' || c = ':' || c = '!') then some ([], c, cs)
    else
      (fieldOf (if c = '[' then true else if c = ']' then false else isInBrackets) cs).map
        fun (field, last, rest) => (c :: field, last, rest)

/-- What stands before the brace that closes a slot, and what is after it; so many are open. -/
def layoutOf : Nat → List Char → Option (List Char × List Char)
  | _, [] => none
  | depth, c :: cs =>
    if c = '\x7d' then
      match depth with
      | 0 | 1 => some ([], cs)
      | depth + 1 => (layoutOf depth cs).map fun (layout, rest) => (c :: layout, rest)
    else
      (layoutOf (if c = '\x7b' then depth + 1 else depth) cs).map fun (layout, rest) => (c :: layout, rest)

/-- The slot after an opening brace, and what is after it. -/
def ofText? (cs : List Char) : Option (Slot × List Char) := do
  let (field, last, rest) ← fieldOf false cs
  if last = '\x7d' then some (⟨field, none, []⟩, rest)
  else if last = ':' then
    let (layout, rest) ← layoutOf 1 rest
    some (⟨field, none, layout⟩, rest)
  else match rest with
    | way :: '\x7d' :: rest => some (⟨field, some way, []⟩, rest)
    | way :: ':' :: rest =>
      let (layout, rest) ← layoutOf 1 rest
      some (⟨field, some way, layout⟩, rest)
    | _ => none

end Slot

/-- How the values of slots have been asked for so far. -/
inductive Numbering
  /-- Neither by order nor by places. -/
  | open
  /-- By order; so many have been asked for. -/
  | inOrder (count : Nat)
  /-- By places. -/
  | byPlace

/-- What the values of slots are taken from. -/
inductive Values
  /-- What is given to a call. -/
  | given (a : Arguments)
  /-- A thing that is asked for values by their names. -/
  | table (o : Object)

namespace Run

/-- The number that a text of decimal digits alone tells. -/
def placeIn? (cs : List Char) : Option Nat :=
  if cs.isEmpty then none
  else cs.foldlM (fun n c => if Text.isDecimalDigit c then (Text.digit? c).map (10 * n + ·) else none) 0

/-- What is asked of an object: members after points, things in brackets. -/
def followed (ev : Evaluator) (s : Scope) : Nat → Object → List Char → Run Object
  | 0, o, _ => return o
  | _, o, [] => return o
  | fuel + 1, o, '.' :: cs => do
    let isEnd (c : Char) : Bool := c = '.' || c = '['
    let name := String.ofList (cs.takeWhile (!isEnd ·))
    if name = "" then throw .badValue
    followed ev s fuel (← memberSaid ev o name) (cs.dropWhile (!isEnd ·))
  | fuel + 1, o, '[' :: cs => do
    let key := cs.takeWhile (· ≠ ']')
    if key.length = cs.length || key.isEmpty then throw .badValue
    let index := match placeIn? key with
      | some n => intOf (Int.ofNat n)
      | none => textOf key
    followed ev s fuel (← valueWith ev s o index) (cs.drop (key.length + 1))
  | _, _, _ => throw .badValue

/-- What a slot asks for, and how slots have been asked for after it. -/
def slotValue (ev : Evaluator) (s : Scope) (values : Values) (numbering : Numbering) (field : List Char) :
    Run (Object × Numbering) := do
  let isEnd (c : Char) : Bool := c = '.' || c = '['
  let name := field.takeWhile (!isEnd ·)
  let rest := field.dropWhile (!isEnd ·)
  let inPlace (n : Nat) : Run Object := do
    match values with
    | .given a => match a.inPlace[n]? with
      | some o => return o
      | none => throw .noPlace
    | .table _ => throw .badValue
  let (o, numbering) ← match name.isEmpty, placeIn? name, numbering with
    | true, _, .open => do pure (← inPlace 0, Numbering.inOrder 1)
    | true, _, .inOrder n => do pure (← inPlace n, Numbering.inOrder (n + 1))
    | true, _, .byPlace => throw .badValue
    | false, some _, .inOrder _ => throw .badValue
    | false, some n, _ => do pure (← inPlace n, Numbering.byPlace)
    | false, none, numbering => match values with
      | .given a => match a.byName.lookup (String.ofList name) with
        | some o => pure (o, numbering)
        | none => throw .noEntry
      | .table o => do pure (← valueWith ev s o (textOf name), numbering)
  return (← followed ev s rest.length o rest, numbering)

/-- A text with values in the places of braces; layouts can hold braces as deep as is told. -/
def formatWithin (ev : Evaluator) (s : Scope) (values : Values) :
    Nat → Nat → Numbering → List Char → Run (List Char × Numbering)
  | 0, _, numbering, _ => return ([], numbering)
  | _, _, numbering, [] => return ([], numbering)
  | fuel + 1, levels, numbering, c :: cs => do
    if c ≠ '\x7b' && c ≠ '\x7d' then
      let (others, numbering) ← formatWithin ev s values fuel levels numbering cs
      return (c :: others, numbering)
    else if cs.head? = some c then
      let (others, numbering) ← formatWithin ev s values fuel levels numbering cs.tail
      return (c :: others, numbering)
    else if c = '\x7d' then throw .badValue
    else
      let some (slot, rest) := Slot.ofText? cs | throw .badValue
      let (o, numbering) ← slotValue ev s values numbering slot.field
      if slot.way.any fun way => way ∉ ['r', 's', 'a'] then throw .badValue
      let (layout, numbering) ←
        if slot.layout.contains '\x7b' then
          if levels ≤ 1 then throw .badValue
          else formatWithin ev s values fuel (levels - 1) numbering slot.layout
        else pure (slot.layout, numbering)
      let shown ← shownAs ev slot.way (String.ofList layout) o
      let (others, numbering) ← formatWithin ev s values fuel levels numbering rest
      return (shown.toList ++ others, numbering)

/-- A text with values in the places of braces. -/
def formatted (ev : Evaluator) (s : Scope) (t : String) (values : Values) : Run Object := do
  let (cs, _) ← formatWithin ev s values (t.length + 1) 2 .open t.toList
  return textOf cs

end Run

end Mapsmith.Program
