import Mapsmith.Calendar.Layout
import Mapsmith.Program.Iteration
import Mapsmith.Program.Layout

/-!
# Texts of objects

The text that an object is shown as, the one that is written for it, and the one that a layout asks for. A failure
is shown by what it was given, which some failures put in words of their own.
-/

namespace Mapsmith.Program

namespace Run

/-- The text that an object says of itself by a method, if its class has one of its own. Nothing else than a text
will do. -/
def textSaid? (ev : Evaluator) (o : Object) (name : String) : Run (Option String) := do
  match ← said? ev o name [] with
  | none => return none
  | some answer => match ((← get).plain answer).text? with
    | some shown => return some shown
    | none => do
      refuse (.other (name ++ " returned non-string (type " ++ (← get).typeName answer ++ ")"))

/-- How an object is written. -/
def representation (ev : Evaluator) (o : Object) : Run String := do
  match ← textSaid? ev o "__repr__" with
  | some shown => return shown
  | none =>
    let m ← get
    match m.seen o with
    | .made _ c _ members _ => match (m.dataclass? c).bind fun _ => m.shownNames? c with
      | some names =>
        let isMissing (n : String) : Bool := (members.lookup n).isNone && (m.attribute? c n).isNone
        match names.find? isMissing with
        | some n => throw (.noMember (Text.quote (m.typeName o) ++ " object has no attribute " ++ Text.quote n))
        | none => written o
      | none => written o
    | _ => written o

/-- Bytes in words, the first one of which is at a place: one byte by its value. -/
def undecodable (m : Memory) (encoding bytes first last reason : Object) : String :=
  let place (o : Object) : Int := match m.plain o with
    | .constant v => v.count?.getD 0
    | _ => 0
  let start := match (m.plain encoding).text? with
    | some name => Text.quote name ++ " codec can't encode"
    | none => "can't translate"
  let name := ((m.plain encoding).text?).getD ""
  let why := ((m.plain reason).text?).getD ""
  let (i, j) := (place first, place last)
  match m.plain bytes with
  | .datum (.bytes values) =>
    if j = i + 1 && 0 ≤ i && i.toNat < values.length then
      Text.quote name ++ " codec can't decode byte 0x"
        ++ String.ofList (Text.hexPadded 2 (values.getD i.toNat 0)) ++ " in position " ++ toString i ++ ": " ++ why
    else Text.quote name ++ " codec can't decode bytes in position " ++ toString i ++ "-" ++ toString (j - 1)
      ++ ": " ++ why
  | .constant (.str s) =>
    if j = i + 1 && 0 ≤ i && i.toNat < s.length then
      let n := ((s.toList[i.toNat]?).map Char.toNat).getD 0
      let shown := if n < 0x100 then "\\x" ++ String.ofList (Text.hexPadded 2 n)
        else if n < 0x10000 then "\\u" ++ String.ofList (Text.hexPadded 4 n)
        else "\\U" ++ String.ofList (Text.hexPadded 8 n)
      start ++ " character '" ++ shown ++ "' in position " ++ toString i ++ ": " ++ why
    else start ++ " characters in position " ++ toString i ++ "-" ++ toString (j - 1) ++ ": " ++ why
  | _ => ""

/-- Are the values of an enum shown as what is kept in them? -/
def isShownAsKept (m : Memory) (c : ClassId) : Bool :=
  ["ReprEnum", "IntEnum", "StrEnum", "IntFlag"].any fun name => m.inherits c (.library ⟨"enum", name⟩)

/-- The text that an object is shown as, as deep as is told. -/
def displayWithin (ev : Evaluator) : Nat → Object → Run String
  | 0, _ => throw .tooDeep
  | levels + 1, o => do
    let m ← get
    if let some shown ← textSaid? ev o "__str__" then return shown
    match m.seen o with
    | .constant v => return v.display
    | .datum d => return d.display
    | .enumValue owner name =>
      let kept := ((m.class? owner).bind (·.keptAt? name)).getD .none
      let named := m.nameOf (.program owner)
      if isShownAsKept m (.program owner) then displayWithin ev levels kept
      else if isNameless name then return named ++ "(" ++ name ++ ")"
      else return named ++ "." ++ name
    | .made _ c kept _ state =>
      let args : List Object := ((state.lookup Memory.argsName).map Object.items).getD []
      let isOf (name : String) : Bool := m.inherits c (.library (.builtin name))
      if !isOf "SyntaxError" then
        if let some shown := (state.lookup "text").bind (·.text?) then return shown
      if let some inner := state.lookup "data" then return ← displayWithin ev levels inner
      if isOf "BaseException" then
        let ofArgs : Run String := do
          match args with
          | [] => return ""
          | [o] => if isOf "KeyError" then representation ev o else displayWithin ev levels o
          | os => return Memory.rowSpelling (← writtenAll os)
        if isOf "OSError" then
          match state.lookup "errno", state.lookup "strerror", state.lookup "filename" with
          | some n, some why, some file =>
            if n.same .none && why.same .none then return ← ofArgs
            let start := "[Errno " ++ (← displayWithin ev levels n) ++ "] " ++ (← displayWithin ev levels why)
            if file.same .none then return start
            let other := (state.lookup "filename2").getD .none
            let more ← if other.same .none then pure "" else do pure (" -> " ++ (← written other))
            return start ++ ": " ++ (← written file) ++ more
          | _, _, _ => ofArgs
        else if isOf "BaseExceptionGroup" then
          let count := ((state.lookup "exceptions").map fun o => (m.plain o).parts.length).getD 0
          let why ← displayWithin ev levels ((state.lookup "message").getD .none)
          return why ++ " (" ++ toString count ++ " sub-exception" ++ (if count = 1 then ")" else "s)")
        else if isOf "ImportError" then
          match state.lookup "msg" with
          | some msg => if (m.plain msg).text?.isSome then displayWithin ev levels msg else ofArgs
          | none => ofArgs
        else if isOf "SyntaxError" then
          match state.lookup "msg", state.lookup "filename", state.lookup "lineno" with
          | some msg, some file, some line =>
            let start ← displayWithin ev levels msg
            let name := ((m.plain file).text?).map fun s => (s.splitOn "/").getLast?.getD s
            let number := match m.plain line with
              | .constant (.int n) => some n
              | _ => none
            match name, number with
            | some name, some n => return start ++ " (" ++ name ++ ", line " ++ toString n ++ ")"
            | some name, none => return start ++ " (" ++ name ++ ")"
            | none, some n => return start ++ " (line " ++ toString n ++ ")"
            | none, none => return start
          | _, _, _ => ofArgs
        else if isOf "UnicodeDecodeError" || isOf "UnicodeEncodeError" then
          match args with
          | [encoding, bytes, first, last, reason] =>
            return undecodable m encoding bytes first last reason
          | _ => ofArgs
        else if isOf "UnicodeTranslateError" then
          match args with
          | [text, first, last, reason] => return undecodable m .none text first last reason
          | _ => ofArgs
        else ofArgs
      else match kept with
        | .constant v :: _ => return v.display
        | .datum d :: _ =>
          if m.inherits c (.library (.builtin "bytearray")) then representation ev o
          else return d.display
        | _ => representation ev o
    | _ => representation ev o

/-- The text that an object is shown as. -/
def display (ev : Evaluator) (o : Object) : Run String :=
  displayWithin ev 200 o

/-- A text whose characters beyond the first ones are written by their numbers. -/
def asciiOnly (s : String) : String :=
  String.ofList <| s.toList.flatMap fun c =>
    let n := c.toNat
    if n < 0x80 then [c]
    else if n < 0x100 then '\\' :: 'x' :: Text.hexPadded 2 n
    else if n < 0x10000 then '\\' :: 'u' :: Text.hexPadded 4 n
    else '\\' :: 'U' :: Text.hexPadded 8 n

/-- Is a value of an enum laid out as what is kept in it? -/
def laysOutKept (m : Memory) (o : Object) : Bool :=
  match m.seen o with
  | .enumValue owner _ => isShownAsKept m (.program owner)
  | _ => true

/-- An object laid out as a text says. -/
def laidOut (ev : Evaluator) (layout : String) (o : Object) : Run String := do
  let m ← get
  match ← said? ev o "__format__" [.text layout] with
  | none => pure ()
  | some answer => match (m.plain answer).text? with
    | some shown => return shown
    | none => refuse (.other ("__format__ must return a str, not " ++ m.typeName answer))
  if layout = "" then return ← display ev o
  let p := if laysOutKept m o then m.plain o else m.seen o
  match p with
  | .datum (.date d) => return Calendar.laidOut d {} layout.toList
  | .datum (.moment d t) => return Calendar.laidOut d t layout.toList
  | .datum (.time t) => return Calendar.laidOut ⟨1900, 1, 1⟩ t layout.toList
  | .datum (.decimal d) => match Layout.ofDecimalText? layout with
    | some l => return l.ofDecimal d
    | none => throw .badValue
  | _ => pure ()
  let result (f : Layout → Option String) : Run String :=
    match (Layout.ofText? layout).bind f with
    | some s => return s
    | none => throw .badValue
  let ofInteger (n : Int) : Run String := do
    let isCharacter := (Layout.ofText? layout).any fun l => l.letter = some 'c'
    if isCharacter && (n < 0 || 0x110000 ≤ n) then throw (.failure "OverflowError")
    result (·.ofInt n)
  match p with
  | .constant (.str s) => result (·.ofString s)
  | .constant (.int n) => ofInteger n
  | .constant (.bool b) => ofInteger (if b then 1 else 0)
  | .constant (.float x) => result (·.ofFloat x)
  | .datum (.complex re im) => result (·.ofComplex re im)
  | .enumValue .. => do
    let shown ← display ev o
    result (·.ofString shown)
  | _ =>
    refuse (.other ("unsupported format string passed to " ++ m.typeName o ++ ".__format__"))

/-- An object as a text, by itself or as a letter says, laid out as a text says. -/
def shownAs (ev : Evaluator) (way : Option Char) (layout : String) (o : Object) : Run String := do
  match way with
  | none => laidOut ev layout o
  | some 's' => do laidOut ev layout (.text (← display ev o))
  | some 'a' => do laidOut ev layout (.text (asciiOnly (← representation ev o)))
  | some _ => do laidOut ev layout (.text (← representation ev o))

end Run

end Mapsmith.Program
