import Mapsmith.Value

/-!
# The JSON form of values

Reading and writing one JSON text. `Mapsmith.Value.Json.read` keeps the order of entries and tells
integers from floating-point numbers by their spelling; `Mapsmith.Value.Json.write` is compact and
either keeps characters outside ASCII or escapes them.
-/

namespace Mapsmith.Value.Json

/-! ### Writing -/

/-- Which characters of a text are written as they are. -/
inductive Charset
  /-- Every character but the ones that have to be escaped. -/
  | unicode
  /-- ASCII characters only; the others are written as the UTF-16 units of their code points. -/
  | ascii
  deriving DecidableEq, Repr

/-- An escaped UTF-16 unit. -/
def escapeUnit (n : Nat) : List Char :=
  '\\' :: 'u' :: Text.hexPadded 4 n

/-- One character of a written text. -/
def escapeChar (charset : Charset) (c : Char) : List Char :=
  if c = '"' then ['\\', '"']
  else if c = '\\' then ['\\', '\\']
  else if c = '\x08' then ['\\', 'b']
  else if c = '\x0c' then ['\\', 'f']
  else if c = '\n' then ['\\', 'n']
  else if c = '\r' then ['\\', 'r']
  else if c = '\t' then ['\\', 't']
  else if c.toNat < 0x20 then escapeUnit c.toNat
  else if charset = .unicode || c.toNat < 0x7F then [c]
  else if c.toNat < 0x10000 then escapeUnit c.toNat
  else
    let n := c.toNat - 0x10000
    escapeUnit (0xD800 + n / 0x400) ++ escapeUnit (0xDC00 + n % 0x400)

/-- A text between quotation marks. -/
def writeString (charset : Charset) (s : String) : List Char :=
  '"' :: s.toList.flatMap (escapeChar charset) ++ ['"']

/-- A floating-point number; the three that are no decimals have words of their own. -/
def writeNumber : Binary64 → List Char
  | .notANumber => "NaN".toList
  | .infinite negative => (if negative then "-Infinity" else "Infinity").toList
  | x => x.text.toList

mutual

/-- The characters of a value. -/
def chars (charset : Charset) : Value → List Char
  | null => "null".toList
  | bool b => (if b then "true" else "false").toList
  | int n => (toString n).toList
  | float x => writeNumber x
  | str s => writeString charset s
  | moment s => writeString charset s
  | list [] => ['[', ']']
  | list (v :: vs) => '[' :: chars charset v ++ itemChars charset vs
  | dict [] => ['\x7b', '\x7d']
  | dict ((key, v) :: rest) =>
    '\x7b' :: writeString charset key ++ ':' :: chars charset v ++ entryChars charset rest

/-- The characters of the items after the first, with the closing bracket. -/
def itemChars (charset : Charset) : List Value → List Char
  | [] => [']']
  | v :: vs => ',' :: chars charset v ++ itemChars charset vs

/-- The characters of the entries after the first, with the closing brace. -/
def entryChars (charset : Charset) : List (String × Value) → List Char
  | [] => ['\x7d']
  | (key, v) :: rest =>
    ',' :: writeString charset key ++ ':' :: chars charset v ++ entryChars charset rest

end

/-- The JSON text of a value. -/
def write (charset : Charset) (v : Value) : String :=
  String.ofList (chars charset v)

/-! ### Reading -/

/-- The four blank characters of JSON. -/
def isSpace (c : Char) : Bool :=
  c = ' ' || c = '\t' || c = '\n' || c = '\r'

/-- Drops blanks in front. -/
def skipSpace (cs : List Char) : List Char :=
  cs.dropWhile isSpace

/-- The value of a hexadecimal digit. -/
def hexDigit? (c : Char) : Option Nat :=
  if '0' ≤ c && c ≤ '9' then some (c.toNat - 0x30)
  else if 'a' ≤ c && c ≤ 'f' then some (c.toNat - 0x57)
  else if 'A' ≤ c && c ≤ 'F' then some (c.toNat - 0x37)
  else none

/-- The number four hexadecimal digits stand for. -/
def unit? (a b c d : Char) : Option Nat := do
  return ((← hexDigit? a) * 16 + (← hexDigit? b)) * 256 + (← hexDigit? c) * 16 + (← hexDigit? d)

/-- The character a letter after a backslash stands for. -/
def escape? (c : Char) : Option Char :=
  match c with
  | '"' => some '"'
  | '\\' => some '\\'
  | '/' => some '/'
  | 'b' => some '\x08'
  | 'f' => some '\x0c'
  | 'n' => some '\n'
  | 'r' => some '\r'
  | 't' => some '\t'
  | _ => none

/-- What stands first in the rest of a text: a character or the closing mark. -/
inductive Piece
  /-- A character of the text. -/
  | char (c : Char)
  /-- The end of the text. -/
  | close

/-- Reads one piece of a text. A surrogate has to be followed by its partner. -/
def piece? : List Char → Option (Piece × List Char)
  | '"' :: rest => some (.close, rest)
  | '\\' :: 'u' :: a :: b :: c :: d :: rest => do
    let high ← unit? a b c d
    if 0xD800 ≤ high && high < 0xDC00 then
      match rest with
      | '\\' :: 'u' :: a :: b :: c :: d :: rest =>
        let low ← unit? a b c d
        if 0xDC00 ≤ low && low < 0xE000 then
          return (.char (Char.ofNat (0x10000 + (high - 0xD800) * 0x400 + (low - 0xDC00))), rest)
        else none
      | _ => none
    else if 0xDC00 ≤ high && high < 0xE000 then none
    else return (.char (Char.ofNat high), rest)
  | '\\' :: c :: rest => do return (.char (← escape? c), rest)
  | c :: rest => if c.toNat < 0x20 || c = '\\' then none else some (.char c, rest)
  | [] => none

/-- Reads a text up to its closing mark, the opening one being read. -/
def readChars : Nat → List Char → Option (List Char × List Char)
  | 0, _ => none
  | fuel + 1, cs => do
    match ← piece? cs with
    | (.close, rest) => return ([], rest)
    | (.char c, rest) =>
      let (text, rest) ← readChars fuel rest
      return (c :: text, rest)

/-- The number that decimal digits stand for. -/
def decimalValue (digits : List Char) : Nat :=
  digits.foldl (fun n c => n * 10 + (c.toNat - 0x30)) 0

/-- Splits off the decimal digits in front. -/
def takeDigits (cs : List Char) : List Char × List Char :=
  (cs.takeWhile Char.isDigit, cs.dropWhile Char.isDigit)

/-- The exponent in front, if one stands there: its value and what follows. -/
def readExponent : List Char → Option (Int × List Char)
  | e :: cs =>
    if e = 'e' || e = 'E' then
      let (negative, cs) := match cs with
        | '-' :: rest => (true, rest)
        | '+' :: rest => (false, rest)
        | _ => (false, cs)
      let (digits, rest) := takeDigits cs
      if digits.isEmpty then none
      else
        let n := Int.ofNat (decimalValue digits)
        some (if negative then -n else n, rest)
    else none
  | [] => none

/-- Reads a number. It is an integer when it has neither fraction nor exponent. -/
def readNumber (cs : List Char) : Option (Value × List Char) :=
  let (negative, cs) := match cs with
    | '-' :: rest => (true, rest)
    | _ => (false, cs)
  let (whole, rest) := takeDigits cs
  if whole.isEmpty || (whole.length > 1 && whole.head? == some '0') then none
  else
    let (fraction, rest) := match rest with
      | '.' :: tail =>
        let (digits, after) := takeDigits tail
        if digits.isEmpty then ([], rest) else (digits, after)
      | _ => ([], rest)
    match readExponent rest with
    | some (exponent, rest) =>
      some (.float (.ofDecimal negative (decimalValue (whole ++ fraction))
        (exponent - Int.ofNat fraction.length)), rest)
    | none =>
      if fraction.isEmpty then
        let n := Int.ofNat (decimalValue whole)
        some (.int (if negative then -n else n), rest)
      else
        some (.float (.ofDecimal negative (decimalValue (whole ++ fraction))
          (-Int.ofNat fraction.length)), rest)

/-- What follows a word in front of a text. -/
def afterWord? (word cs : List Char) : Option (List Char) :=
  if word.isPrefixOf cs then some (cs.drop word.length) else none

/-- Reads one of the words that are values. -/
def readWord (cs : List Char) : Option (Value × List Char) :=
  [("null", Value.null), ("true", .bool true), ("false", .bool false), ("NaN", .float .notANumber),
    ("Infinity", .float (.infinite false)), ("-Infinity", .float (.infinite true))].findSome?
    fun (word, v) => (afterWord? word.toList cs).map fun rest => (v, rest)

mutual

/-- Reads a value in front of a text; blanks before it are skipped. -/
def readValue : Nat → List Char → Option (Value × List Char)
  | 0, _ => none
  | fuel + 1, cs =>
    match skipSpace cs with
    | '"' :: rest => do
      let (text, rest) ← readChars (rest.length + 1) rest
      return (.str (String.ofList text), rest)
    | '[' :: rest =>
      match skipSpace rest with
      | ']' :: rest => some (.list [], rest)
      | _ => do
        let (items, rest) ← readItems fuel rest
        return (.list items, rest)
    | '\x7b' :: rest =>
      match skipSpace rest with
      | '\x7d' :: rest => some (.dict [], rest)
      | _ => do
        let (entries, rest) ← readEntries fuel rest
        return (.dict entries, rest)
    | cs => (readWord cs).or (readNumber cs)

/-- Reads the items of a list up to its closing bracket. -/
def readItems : Nat → List Char → Option (List Value × List Char)
  | 0, _ => none
  | fuel + 1, cs => do
    let (v, rest) ← readValue fuel cs
    match skipSpace rest with
    | ',' :: rest =>
      let (vs, rest) ← readItems fuel rest
      return (v :: vs, rest)
    | ']' :: rest => return ([v], rest)
    | _ => none

/-- Reads the entries of a table up to its closing brace. -/
def readEntries : Nat → List Char → Option (List (String × Value) × List Char)
  | 0, _ => none
  | fuel + 1, cs => do
    match skipSpace cs with
    | '"' :: rest =>
      let (key, rest) ← readChars (rest.length + 1) rest
      match skipSpace rest with
      | ':' :: rest =>
        let (v, rest) ← readValue fuel rest
        match skipSpace rest with
        | ',' :: rest =>
          let (vs, rest) ← readEntries fuel rest
          return ((String.ofList key, v) :: vs, rest)
        | '\x7d' :: rest => return ([(String.ofList key, v)], rest)
        | _ => none
      | _ => none
    | _ => none

end

/-- Reads a JSON text that holds one value and blanks around it. -/
def read (text : String) : Option Value :=
  let cs := text.toList
  match readValue (2 * cs.length + 2) cs with
  | some (v, rest) => if (skipSpace rest).isEmpty then some v else none
  | none => none

end Mapsmith.Value.Json
