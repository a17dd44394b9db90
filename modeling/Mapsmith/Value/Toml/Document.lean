import Mapsmith.Value.Toml.Scalar

/-!
# TOML documents

A document is a row of statements: a key with its value, the header of a table, or the header of an
item of an array of tables. Statements are read and carried out one after another, and the first fault
ends the reading. What was declared once cannot be declared again: `Mapsmith.Value.Toml.Marks` remembers which keys are
tables that a header has opened and which are values written out in full.
-/

namespace Mapsmith.Value.Toml

/-! ### Tables -/

/-- The entries of a table. -/
abbrev Entries := List (String × Value)

/-- Replaces the value of a key that is there. -/
def setEntry (entries : Entries) (key : String) (v : Value) : Entries :=
  entries.map fun e => if e.1 = key then (key, v) else e

/-- Changes the table that a key leads to, making the tables on the way. Arrays of tables are
entered at their last item if that is allowed. -/
def changeTable (enterArrays : Bool) (change : Entries → Option Entries) :
    List String → Entries → Option Entries
  | [], entries => change entries
  | k :: ks, entries => match entries.lookup k with
    | none => do return entries ++ [(k, .dict (← changeTable enterArrays change ks []))]
    | some (.dict inner) => do
      return setEntry entries k (.dict (← changeTable enterArrays change ks inner))
    | some (.list items) => match enterArrays, items.getLast? with
      | true, some (.dict inner) => do
        return setEntry entries k
          (.list (items.dropLast ++ [.dict (← changeTable enterArrays change ks inner)]))
      | _, _ => none
    | some _ => none

/-- Adds an entry under a key that is free. -/
def addEntry (key : String) (v : Value) (entries : Entries) : Option Entries :=
  if entries.any (·.1 == key) then none else some (entries ++ [(key, v)])

/-- Adds an empty table to the array under a key. -/
def addItem (key : String) (entries : Entries) : Option Entries :=
  match entries.lookup key with
  | none => some (entries ++ [(key, .list [.dict []])])
  | some (.list items) => some (setEntry entries key (.list (items ++ [.dict []])))
  | some _ => none

/-! ### Marks -/

/-- The keys that are spoken for. -/
structure Marks where
  /-- The tables that were opened. -/
  opened : List (List String) := []
  /-- The tables that a dotted key has opened since the last header. -/
  opening : List (List String) := []
  /-- The values written out in full, with everything beneath them. -/
  frozen : List (List String) := []

namespace Marks

/-- Was the table opened? -/
def isOpened (marks : Marks) (key : List String) : Bool :=
  marks.opened.any (· = key)

/-- Does the key lead to or beneath a value written out in full? -/
def isFrozen (marks : Marks) (key : List String) : Bool :=
  marks.frozen.any fun k => k.isPrefixOf key

/-- Marks a table as opened. -/
def openTable (marks : Marks) (key : List String) : Marks :=
  { marks with opened := key :: marks.opened }

/-- Marks what dotted keys have opened. -/
def settle (marks : Marks) : Marks :=
  { marks with opened := marks.opening ++ marks.opened, opening := [] }

/-- Forgets everything at a key and beneath it. -/
def forget (marks : Marks) (key : List String) : Marks :=
  { marks with
    opened := marks.opened.filter fun k => !key.isPrefixOf k
    frozen := marks.frozen.filter fun k => !key.isPrefixOf k }

/-- Marks a value written out in full. -/
def freeze (marks : Marks) (key : List String) (v : Value) : Marks :=
  match v with
  | .list _ | .dict _ => { marks with frozen := key :: marks.frozen }
  | _ => marks

end Marks

/-- Every beginning of a key that is neither empty nor the whole. -/
def properStarts (key : List String) : List (List String) :=
  (List.range key.length).filterMap fun n => if n = 0 then none else some (key.take n)

/-! ### Values -/

/-- Blanks, line breaks and comments in front, dropped one line at a time. -/
def skipFiller : Nat → List Char → Option (List Char)
  | 0, cs => some cs
  | fuel + 1, cs => do
    let after ← skipComment (skipLines cs)
    if after.length = cs.length then return cs else skipFiller fuel after

/-- How deep values may nest, an array counting for two levels and a table within a line for three. -/
def maxNesting : Nat := 986

mutual

/-- Reads a value that stands so many levels deep. -/
def readValue (level : Nat) : Nat → Parser Value
  | 0, _ => .error .malformed
  | fuel + 1, cs =>
    if level > maxNesting then .error .tooDeep
    else match cs with
    | '[' :: rest => do
      let rest ← orMalformed (skipFiller rest.length rest)
      match rest with
      | ']' :: rest => return (.list [], rest)
      | _ =>
        let (items, rest) ← readItems (level + 2) fuel rest
        return (.list items, rest)
    | '\x7b' :: rest => match skipBlanks rest with
      | '\x7d' :: rest => return (.dict [], rest)
      | rest => do
        let (entries, rest) ← readInline (level + 3) fuel {} [] rest
        return (.dict entries, rest)
    | _ => readScalar cs

/-- Reads the items of an array up to its closing bracket. -/
def readItems (level : Nat) : Nat → Parser (List Value)
  | 0, _ => .error .malformed
  | fuel + 1, cs => do
    let (v, rest) ← readValue level fuel cs
    match ← orMalformed (skipFiller rest.length rest) with
    | ']' :: rest => return ([v], rest)
    | ',' :: rest =>
      match ← orMalformed (skipFiller rest.length rest) with
      | ']' :: rest => return ([v], rest)
      | rest =>
        let (vs, rest) ← readItems level fuel rest
        return (v :: vs, rest)
    | _ => .error .malformed

/-- Reads the entries of a table within a line up to its closing brace. -/
def readInline (level : Nat) : Nat → Marks → Entries → Parser Entries
  | 0, _, _, _ => .error .malformed
  | fuel + 1, marks, entries, cs => do
    let (key, rest) ← orMalformed (readKey (cs.length + 1) cs)
    let rest ← orMalformed (skipChar '=' rest)
    let (v, rest) ← readValue level fuel (skipBlanks rest)
    if marks.isFrozen key then .error .malformed
    else
      let last ← orMalformed key.getLast?
      let entries ← orMalformed (changeTable false (addEntry last v) key.dropLast entries)
      match skipBlanks rest with
      | '\x7d' :: rest => return (entries, rest)
      | ',' :: rest => readInline level fuel (marks.freeze key v) entries (skipBlanks rest)
      | _ => .error .malformed

end

/-! ### Statements -/

/-- A statement of a document. -/
inductive Statement
  /-- A key with its value. -/
  | entry (key : List String) (v : Value)
  /-- The header of a table. -/
  | table (key : List String)
  /-- The header of an item of an array of tables. -/
  | item (key : List String)

/-- Reads one statement. -/
def readStatement : Parser Statement
  | '[' :: '[' :: rest => orMalformed do
    let (key, rest) ← readKey (rest.length + 1) (skipBlanks rest)
    return (.item key, ← skipChar ']' (← skipChar ']' rest))
  | '[' :: rest => orMalformed do
    let (key, rest) ← readKey (rest.length + 1) (skipBlanks rest)
    return (.table key, ← skipChar ']' rest)
  | cs => do
    let (key, rest) ← orMalformed (readKey (cs.length + 1) cs)
    let rest ← orMalformed (skipChar '=' rest)
    let (v, rest) ← readValue 0 (rest.length + 1) (skipBlanks rest)
    return (.entry key v, rest)

/-- The end of a line, after a comment if there is one: what follows. -/
def endLine (cs : List Char) : Option (List Char) := do
  match ← skipComment (skipBlanks cs) with
  | '\n' :: rest => return rest
  | [] => return []
  | _ => none

/-! ### Carrying statements out -/

/-- A document as far as it was carried out. -/
structure State where
  /-- The tables so far. -/
  entries : Entries := []
  /-- The keys spoken for. -/
  marks : Marks := {}
  /-- The table that entries go to. -/
  header : List String := []

/-- Carries a statement out, if nothing is in its way. -/
def State.step (state : State) : Statement → Option State
  | .entry key v => do
    let starts := (properStarts key).map (state.header ++ ·)
    let parent := state.header ++ key.dropLast
    if starts.any state.marks.isOpened || (!parent.isEmpty && state.marks.isFrozen parent) then none
    else
      let last ← key.getLast?
      return { state with
        entries := ← changeTable true (addEntry last v) parent state.entries
        marks := { state.marks with opening := starts ++ state.marks.opening }.freeze
          (state.header ++ key) v }
  | .table key => do
    let marks := state.marks.settle
    if marks.isOpened key || marks.isFrozen key then none
    else
      return { entries := ← changeTable true some key state.entries
               marks := marks.openTable key, header := key }
  | .item key => do
    let marks := state.marks.settle
    if marks.isFrozen key then none
    else
      let last ← key.getLast?
      return { entries := ← changeTable true (addItem last) key.dropLast state.entries
               marks := (marks.forget key).openTable key, header := key }

/-- A text with carriage returns dropped where a line feed follows. -/
def unifyBreaks : List Char → List Char
  | '\r' :: '\n' :: rest => '\n' :: unifyBreaks rest
  | c :: rest => c :: unifyBreaks rest
  | [] => []

/-- Reads statements and carries them out, one line after another. -/
def runStatements : Nat → State → List Char → Except Fault State
  | 0, _, _ => .error .malformed
  | fuel + 1, state, cs =>
    match skipBlanks cs with
    | [] => .ok state
    | '\n' :: rest => runStatements fuel state rest
    | '#' :: rest => do runStatements fuel state (← orMalformed (endLine ('#' :: rest)))
    | rest => do
      let (statement, rest) ← readStatement rest
      let state ← orMalformed (state.step statement)
      runStatements fuel state (← orMalformed (endLine rest))

/-- The table that a document stands for. -/
def read (text : String) : Except Fault Value := do
  let cs := unifyBreaks text.toList
  return .dict (← runStatements (cs.length + 1) {} cs).entries

end Mapsmith.Value.Toml
