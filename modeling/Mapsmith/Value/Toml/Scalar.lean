import Mapsmith.Value.Json

/-!
# TOML: keys, texts, numbers and moments

The parts of a TOML document that hold no other values. Every reader takes the rest of a document
and yields what it read with what follows.
-/

namespace Mapsmith.Value.Toml

/-- Why a document cannot be read. -/
inductive Fault
  /-- It does not follow the rules. -/
  | malformed
  /-- An integer has too many digits. -/
  | tooLong
  /-- Values are nested too deeply. -/
  | tooDeep
  deriving DecidableEq, Repr

/-- What was found, or the fault of a text in which it should stand. -/
def orMalformed {α : Type} : Option α → Except Fault α
  | some x => .ok x
  | none => .error .malformed

/-- Reads something in front of a text, if it stands there. -/
abbrev Reader (α : Type) := List Char → Option (α × List Char)

/-- Reads something in front of a text, or says why the document is faulty. -/
abbrev Parser (α : Type) := List Char → Except Fault (α × List Char)

/-! ### Characters -/

/-- The blanks within a line. -/
def isBlank (c : Char) : Bool :=
  c = ' ' || c = '\t'

/-- Drops blanks in front. -/
def skipBlanks (cs : List Char) : List Char :=
  cs.dropWhile isBlank

/-- Drops blanks and line breaks in front. -/
def skipLines (cs : List Char) : List Char :=
  cs.dropWhile fun c => isBlank c || c = '\n'

/-- The control characters that no text and no comment may hold. -/
def isForbidden (c : Char) : Bool :=
  (c.toNat < 0x20 && c ≠ '\t') || c.toNat = 0x7F

/-- The same, line breaks being allowed. -/
def isForbiddenInLines (c : Char) : Bool :=
  isForbidden c && c ≠ '\n'

/-- The characters of a key without quotes. -/
def isBareKey (c : Char) : Bool :=
  (c.toNat < 0x80 && c.isAlphanum) || c = '-' || c = '_'

/-- Drops a comment in front, if there is one. -/
def skipComment : List Char → Option (List Char)
  | '#' :: rest =>
    if (rest.takeWhile (· ≠ '\n')).any isForbidden then none
    else some (rest.dropWhile (· ≠ '\n'))
  | cs => some cs

/-! ### Texts -/

/-- The character that so many hexadecimal digits stand for. -/
def readCodePoint (digits : Nat) : Reader Char := fun cs => do
  let hex := cs.take digits
  if hex.length ≠ digits then none
  else
    let n ← hex.foldlM (fun n c => (Json.hexDigit? c).map (n * 16 + ·)) 0
    if n < 0xD800 || (0xE000 ≤ n && n < 0x110000) then some (Char.ofNat n, cs.drop digits)
    else none

/-- What follows a backslash in a text. -/
def readEscape : Reader Char
  | 'u' :: rest => readCodePoint 4 rest
  | 'U' :: rest => readCodePoint 8 rest
  | 'b' :: rest => some ('\x08', rest)
  | 't' :: rest => some ('\t', rest)
  | 'n' :: rest => some ('\n', rest)
  | 'f' :: rest => some ('\x0c', rest)
  | 'r' :: rest => some ('\r', rest)
  | '"' :: rest => some ('"', rest)
  | '\\' :: rest => some ('\\', rest)
  | _ => none

/-- What follows a backslash that ends a line: everything up to the next character that is no blank
or line break. -/
def afterLineEnd? (cs : List Char) : Option (List Char) :=
  match skipBlanks cs with
  | '\n' :: rest => some (skipLines rest)
  | [] => some []
  | _ => none

/-- The rest of a text in double quotes. -/
def readBasic : Nat → Reader (List Char)
  | 0, _ => none
  | fuel + 1, cs => match cs with
    | '"' :: rest => some ([], rest)
    | '\\' :: rest => do
      let (c, rest) ← readEscape rest
      let (text, rest) ← readBasic fuel rest
      return (c :: text, rest)
    | c :: rest =>
      if isForbidden c then none
      else do
        let (text, rest) ← readBasic fuel rest
        return (c :: text, rest)
    | [] => none

/-- The rest of a text in three double quotes each, the closing ones included. -/
def readBasicLines : Nat → Reader (List Char)
  | 0, _ => none
  | fuel + 1, cs => match cs with
    | '"' :: '"' :: '"' :: rest => some ([], rest)
    | '\\' :: rest =>
      match rest.head?.any (fun c => isBlank c || c = '\n'), afterLineEnd? rest with
      | true, some rest => readBasicLines fuel rest
      | true, none => none
      | false, _ => do
        let (c, rest) ← readEscape rest
        let (text, rest) ← readBasicLines fuel rest
        return (c :: text, rest)
    | c :: rest =>
      if isForbiddenInLines c then none
      else do
        let (text, rest) ← readBasicLines fuel rest
        return (c :: text, rest)
    | [] => none

/-- The rest of a text in single quotes. -/
def readLiteral : Reader (List Char) := fun cs =>
  let text := cs.takeWhile (· ≠ '\'')
  match cs.dropWhile (· ≠ '\'') with
  | _ :: rest => if text.any isForbidden then none else some (text, rest)
  | [] => none

/-- The rest of a text in three single quotes each, the closing ones included. -/
def readLiteralLines : Reader (List Char)
  | '\'' :: '\'' :: '\'' :: rest => some ([], rest)
  | c :: rest =>
    if isForbiddenInLines c then none
    else do
      let (text, rest) ← readLiteralLines rest
      return (c :: text, rest)
  | [] => none

/-- Up to two more quotes right after the closing three belong to the text. -/
def takeExtraQuotes (quote : Char) (text : List Char) (cs : List Char) :
    List Char × List Char :=
  let extra := (cs.take 2).takeWhile (· = quote)
  (text ++ extra, cs.drop extra.length)

/-- Without a line break right after the opening quotes. -/
def dropFirstBreak : List Char → List Char
  | '\n' :: rest => rest
  | cs => cs

/-- A text over several lines, after its opening quotes. -/
def readLines (quote : Char) : Reader (List Char) := fun cs => do
  let cs := dropFirstBreak cs
  let (text, rest) ← if quote = '"' then readBasicLines (cs.length + 1) cs else readLiteralLines cs
  return takeExtraQuotes quote text rest

/-- A text of any form. -/
def readText : Reader (List Char)
  | '"' :: '"' :: '"' :: rest => readLines '"' rest
  | '\'' :: '\'' :: '\'' :: rest => readLines '\'' rest
  | '"' :: rest => readBasic (rest.length + 1) rest
  | '\'' :: rest => readLiteral rest
  | _ => none

/-! ### Keys -/

/-- One part of a key. -/
def readKeyPart : Reader String := fun cs => do
  match cs with
  | '"' :: rest =>
    let (text, rest) ← readBasic (rest.length + 1) rest
    return (String.ofList text, rest)
  | '\'' :: rest =>
    let (text, rest) ← readLiteral rest
    return (String.ofList text, rest)
  | _ =>
    let bare := cs.takeWhile isBareKey
    if bare.isEmpty then none else return (String.ofList bare, cs.dropWhile isBareKey)

/-- A key of parts with dots between them, and the blanks after it. -/
def readKey : Nat → Reader (List String)
  | 0, _ => none
  | fuel + 1, cs => do
    let (part, rest) ← readKeyPart cs
    match skipBlanks rest with
    | '.' :: rest =>
      let (parts, rest) ← readKey fuel (skipBlanks rest)
      return (part :: parts, rest)
    | rest => return ([part], rest)

/-! ### Numbers -/

/-- Digits of some kind with single low lines between them: the digits and what follows. -/
def readDigits (isDigit : Char → Bool) : List Char → List Char × List Char
  | '_' :: c :: rest =>
    if isDigit c then
      let (digits, rest) := readDigits isDigit rest
      (c :: digits, rest)
    else ([], '_' :: c :: rest)
  | c :: rest =>
    if isDigit c then
      let (digits, rest) := readDigits isDigit rest
      (c :: digits, rest)
    else ([], c :: rest)
  | [] => ([], [])

/-- Digits of some kind, at least one, the first without a low line before it. -/
def readDigits1 (isDigit : Char → Bool) : Reader (List Char)
  | c :: rest =>
    if isDigit c then
      let (digits, rest) := readDigits isDigit rest
      some (c :: digits, rest)
    else none
  | [] => none

/-- The number that digits to a base stand for. -/
def digitsValue (base : Nat) (digits : List Char) : Nat :=
  digits.foldl (fun n c => n * base + (Json.hexDigit? c).getD 0) 0

/-- An integer to the base sixteen, two or eight. -/
def readBased : Reader Value
  | '0' :: 'x' :: rest => do
    let (digits, rest) ← readDigits1 (fun c => (Json.hexDigit? c).isSome) rest
    return (.int (digitsValue 16 digits), rest)
  | '0' :: 'b' :: rest => do
    let (digits, rest) ← readDigits1 (fun c => c = '0' || c = '1') rest
    return (.int (digitsValue 2 digits), rest)
  | '0' :: 'o' :: rest => do
    let (digits, rest) ← readDigits1 (fun c => '0' ≤ c && c ≤ '7') rest
    return (.int (digitsValue 8 digits), rest)
  | _ => none

/-- The digits before the point: a zero, or digits that do not begin with one. -/
def readWhole : Reader (List Char)
  | '0' :: rest => some (['0'], rest)
  | cs => readDigits1 Char.isDigit cs

/-- The digits after the point, if there are any. -/
def readFraction : List Char → Option (List Char) × List Char
  | '.' :: rest => match readDigits1 Char.isDigit rest with
    | some (digits, after) => (some digits, after)
    | none => (none, '.' :: rest)
  | cs => (none, cs)

/-- A sign in front: is it a minus, and what follows. -/
def readSign : List Char → Bool × List Char
  | '-' :: rest => (true, rest)
  | '+' :: rest => (false, rest)
  | cs => (false, cs)

/-- The exponent, if there is one. -/
def readExponent (cs : List Char) : Option Int × List Char :=
  match cs with
  | c :: rest =>
    if c = 'e' || c = 'E' then
      let (negative, rest) := readSign rest
      match readDigits1 Char.isDigit rest with
      | some (digits, after) =>
        let n := Int.ofNat (digitsValue 10 digits)
        (some (if negative then -n else n), after)
      | none => (none, cs)
    else (none, cs)
  | [] => (none, [])

/-- How many digits an integer to the base ten may have. -/
def maxDecimalDigits : Nat := 4300

/-- A number to the base ten, if one stands there. -/
def readDecimal (cs : List Char) : Option (Except Fault Value × List Char) := do
  let (negative, cs) := readSign cs
  let (whole, rest) ← readWhole cs
  let (fraction, rest) := readFraction rest
  let (exponent, rest) := readExponent rest
  match fraction, exponent with
  | none, none =>
    let n := Int.ofNat (digitsValue 10 whole)
    return (if whole.length > maxDecimalDigits then .error .tooLong
      else .ok (.int (if negative then -n else n)), rest)
  | _, _ =>
    let digits := fraction.getD []
    return (.ok (.float (.ofDecimal negative (digitsValue 10 (whole ++ digits))
      (exponent.getD 0 - Int.ofNat digits.length))), rest)

/-- The numbers that are words. -/
def readSpecial : Reader Value := fun cs =>
  let (negative, rest) := readSign cs
  match rest with
  | 'i' :: 'n' :: 'f' :: rest => some (.float (.infinite negative), rest)
  | 'n' :: 'a' :: 'n' :: rest => some (.float .notANumber, rest)
  | _ => none

/-! ### Dates and times -/

/-- A number of exactly so many digits within bounds. -/
def readNumberOf (digits low high : Nat) : Reader Nat := fun cs =>
  let part := cs.take digits
  let n := digitsValue 10 part
  if part.length = digits && part.all Char.isDigit && low ≤ n && n ≤ high then
    some (n, cs.drop digits)
  else none

/-- A given character. -/
def skipChar (c : Char) (cs : List Char) : Option (List Char) :=
  match cs with
  | d :: rest => if d = c then some rest else none
  | [] => none

/-- A time of day: what follows it. -/
def skipTime (cs : List Char) : Option (List Char) := do
  let (_, cs) ← readNumberOf 2 0 23 cs
  let (_, cs) ← readNumberOf 2 0 59 (← skipChar ':' cs)
  let (_, cs) ← readNumberOf 2 0 59 (← skipChar ':' cs)
  match cs with
  | '.' :: rest => if rest.head?.any Char.isDigit then return rest.dropWhile Char.isDigit else return cs
  | _ => return cs

/-- The offset of a time, if one follows: what comes after it. -/
def skipOffset (cs : List Char) : List Char :=
  match cs with
  | c :: rest =>
    if c = 'Z' || c = 'z' then rest
    else if c = '+' || c = '-' then
      (do
        let (_, rest) ← readNumberOf 2 0 23 rest
        let (_, rest) ← readNumberOf 2 0 59 (← skipChar ':' rest)
        return rest : Option (List Char)).getD cs
    else cs
  | [] => []

/-- The days of a month. -/
def daysIn (year month : Nat) : Nat :=
  if month = 2 then
    if year % 4 = 0 && (year % 100 ≠ 0 || year % 400 = 0) then 29 else 28
  else if month = 4 || month = 6 || month = 9 || month = 11 then 30
  else 31

/-- A date in front of a text: is there such a day, and what follows. -/
def readDate : Reader Bool := fun cs => do
  let (year, cs) ← readNumberOf 4 0 9999 cs
  let (month, cs) ← readNumberOf 2 1 12 (← skipChar '-' cs)
  let (day, cs) ← readNumberOf 2 1 31 (← skipChar '-' cs)
  return (year ≥ 1 && day ≤ daysIn year month, cs)

/-- The time after a date, if one follows: what comes after it. -/
def skipTimeOfDate (cs : List Char) : List Char :=
  match cs with
  | c :: rest =>
    if c = 'T' || c = 't' || c = ' ' then
      match skipTime rest with
      | some after => skipOffset after
      | none => cs
    else cs
  | [] => []

/-- The text in front of what follows. -/
def textBefore (cs rest : List Char) : String :=
  String.ofList (cs.take (cs.length - rest.length))

/-- What can be read of a date or time. -/
inductive Moment
  /-- None stands there. -/
  | none
  /-- One that does not exist. -/
  | invalid
  /-- One, with what follows. -/
  | read (text : String) (rest : List Char)

/-- A date, a time or both. -/
def readMoment (cs : List Char) : Moment :=
  match readDate cs with
  | some (true, rest) =>
    let rest := skipTimeOfDate rest
    .read (textBefore cs rest) rest
  | some (false, _) => .invalid
  | Option.none => match skipTime cs with
    | some rest => .read (textBefore cs rest) rest
    | Option.none => .none

/-- A value that holds no other values. -/
def readScalar : Parser Value := fun cs =>
  match cs with
  | '"' :: _ | '\'' :: _ => orMalformed
    ((readText cs).map fun (text, rest) => (.str (String.ofList text), rest))
  | 't' :: 'r' :: 'u' :: 'e' :: rest => .ok (.bool true, rest)
  | 'f' :: 'a' :: 'l' :: 's' :: 'e' :: rest => .ok (.bool false, rest)
  | _ => match readMoment cs with
    | .read text rest => .ok (.moment text, rest)
    | .invalid => .error .malformed
    | .none => match readBased cs with
      | some read => .ok read
      | none => match readDecimal cs with
        | some (n, rest) => n.map (·, rest)
        | none => orMalformed (readSpecial cs)

end Mapsmith.Value.Toml
