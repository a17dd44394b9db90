import Mapsmith.Text.Identifier
import Mapsmith.Text.Normal
import Mapsmith.Value

/-!
# Tokens of expressions

The words, values and signs that the text of an expression is made of. Blanks stand between them,
and line breaks inside brackets; any other line break ends the expression. A text with holes is one
token, and the expressions in its holes are read later. A text that cannot be taken apart has no
tokens.
-/

namespace Mapsmith.Program

/-- A piece of a text with holes. -/
inductive Piece
  /-- Characters that stand for themselves. -/
  | plain (text : String)
  /-- A hole: the text of the expression in it, the letter for how that is shown, and the layout that is
  asked for. -/
  | hole (source : String) (way : Option Char) (layout : String)
  deriving DecidableEq, Repr, Inhabited

/-- A token of an expression. -/
inductive Token
  /-- A name, in its normal form. -/
  | name (text : String)
  /-- A word that is no name. -/
  | keyword (text : String)
  /-- A number. -/
  | number (value : Value)
  /-- An imaginary number. -/
  | imaginary (value : Binary64)
  /-- A text. -/
  | text (value : String)
  /-- Bytes. -/
  | bytes (values : List Nat)
  /-- A text with holes. -/
  | pieces (pieces : List Piece)
  /-- An operator or a bracket. -/
  | sign (text : String)
  deriving DecidableEq, Repr, Inhabited

namespace Token

/-- Words that are no names. -/
def keywords : List String :=
  ["False", "None", "True", "and", "as", "assert", "async", "await", "break", "class", "continue",
    "def", "del", "elif", "else", "except", "finally", "for", "from", "global", "if", "import", "in",
    "is", "lambda", "nonlocal", "not", "or", "pass", "raise", "return", "try", "while", "with",
    "yield"]

/-- Can the text be used as a name? -/
def isName (s : String) : Bool :=
  Text.isIdentifier s && s ∉ keywords

/-- Can things be given the name? One means the same everywhere. -/
def isGiven (name : String) : Bool :=
  name ≠ "__debug__"

/-- Can things be given the text as a name? -/
def isGivenName (s : String) : Bool :=
  isName s && isGiven (Text.normalized s)

/-- The token that a word is. Only a word as it is written can be a keyword. -/
def ofWord (s : String) : Token :=
  if s ∈ keywords then keyword s else name (Text.normalized s)

/-! ### Numbers -/

/-- The value of a digit of bases up to sixteen. -/
def digit? (c : Char) : Option Nat :=
  if '0' ≤ c && c ≤ '9' then some (c.toNat - '0'.toNat)
  else if 'a' ≤ c && c ≤ 'f' then some (c.toNat - 'a'.toNat + 10)
  else if 'A' ≤ c && c ≤ 'F' then some (c.toNat - 'A'.toNat + 10)
  else none

/-- Is the character a digit of a base? -/
def isDigitOf (base : Nat) (c : Char) : Bool :=
  (digit? c).any (· < base)

/-- The digits at the beginning of a text, with single underscores between them left out. -/
def digits (base : Nat) : List Char → List Char × List Char
  | '_' :: c :: cs =>
    if isDigitOf base c then
      let (taken, rest) := digits base cs
      (c :: taken, rest)
    else ([], '_' :: c :: cs)
  | c :: cs =>
    if isDigitOf base c then
      let (taken, rest) := digits base cs
      (c :: taken, rest)
    else ([], c :: cs)
  | [] => ([], [])

/-- The number that digits stand for. -/
def numberOf (base : Nat) (ds : List Char) : Nat :=
  ds.foldl (fun n c => n * base + (digit? c).getD 0) 0

/-- An integer in a base of its own, after its prefix. -/
def basedNumber (base : Nat) (cs : List Char) : Option (Value × List Char) :=
  match digits base (if cs.head? = some '_' then cs.tail else cs) with
  | ([], _) => none
  | (ds, rest) => some (.int (numberOf base ds), rest)

/-- The exponent of a decimal, if one follows. -/
def exponent (cs : List Char) : Option (Int × List Char) :=
  let signed (negative : Bool) (cs : List Char) : Option (Int × List Char) :=
    match digits 10 cs with
    | ([], _) => none
    | (ds, rest) =>
      let n := Int.ofNat (numberOf 10 ds)
      some (if negative then -n else n, rest)
  match cs with
  | e :: '-' :: cs => if e = 'e' || e = 'E' then signed true cs else none
  | e :: '+' :: cs => if e = 'e' || e = 'E' then signed false cs else none
  | e :: cs => if e = 'e' || e = 'E' then signed false cs else none
  | [] => none

/-- The most digits that a decimal integer may have. -/
def maxDigits : Nat := 4300

/-- A decimal number: an integer, unless it has a point or an exponent or is imaginary. -/
def decimalNumber (cs : List Char) : Option (Token × List Char) :=
  let (whole, rest) := digits 10 cs
  let (hasPoint, fraction, rest) := match rest with
    | '.' :: rest => let (fraction, rest) := digits 10 rest; (true, fraction, rest)
    | _ => (false, [], rest)
  let float (e : Int) : Binary64 :=
    .ofDecimal false (numberOf 10 (whole ++ fraction)) (e - Int.ofNat fraction.length)
  let (e, rest) := match exponent rest with
    | some (e, rest) => (some e, rest)
    | none => (none, rest)
  match rest with
  | 'j' :: rest | 'J' :: rest => some (.imaginary (float (e.getD 0)), rest)
  | rest =>
    if e.isSome || hasPoint then some (.number (.float (float (e.getD 0))), rest)
    else if whole.length > maxDigits || (whole.head? = some '0' && whole.any (· ≠ '0')) then none
    else some (.number (.int (numberOf 10 whole)), rest)

/-- Words that may follow a number at once, as they begin. -/
def followers : List String :=
  ["and", "else", "for", "if", "in", "is", "or", "not"]

/-- A number. No name may follow at once. -/
def number? (cs : List Char) : Option (Token × List Char) := do
  let based (base : Nat) (cs : List Char) : Option (Token × List Char) :=
    (basedNumber base cs).map fun (v, rest) => (.number v, rest)
  let (t, rest) ← match cs with
    | '0' :: 'x' :: cs | '0' :: 'X' :: cs => based 16 cs
    | '0' :: 'o' :: cs | '0' :: 'O' :: cs => based 8 cs
    | '0' :: 'b' :: cs | '0' :: 'B' :: cs => based 2 cs
    | cs => decimalNumber cs
  let isFollowed := followers.any fun w => w.toList.isPrefixOf rest
  if !isFollowed && rest.head?.any Text.isIdentifierContinue then none else some (t, rest)

/-! ### Texts -/

/-- Exactly so many hexadecimal digits, as a character. -/
def hexadecimal (count : Nat) (cs : List Char) : Option (Char × List Char) :=
  let ds := cs.take count
  let n := numberOf 16 ds
  if ds.length = count && ds.all (isDigitOf 16) && n.isValidChar then
    some (Char.ofNat n, cs.drop count)
  else none

/-- What follows a backslash in a text or in bytes: the characters it stands for. -/
def escape (isBytes : Bool) (cs : List Char) : Option (List Char × List Char) :=
  match cs with
  | [] => none
  | '\n' :: cs => some ([], cs)
  | '\\' :: cs => some (['\\'], cs)
  | '\'' :: cs => some (['\''], cs)
  | '"' :: cs => some (['"'], cs)
  | 'a' :: cs => some (['\x07'], cs)
  | 'b' :: cs => some (['\x08'], cs)
  | 'f' :: cs => some (['\x0c'], cs)
  | 'n' :: cs => some (['\n'], cs)
  | 'r' :: cs => some (['\r'], cs)
  | 't' :: cs => some (['\t'], cs)
  | 'v' :: cs => some (['\x0b'], cs)
  | 'x' :: cs => (hexadecimal 2 cs).map fun (c, cs) => ([c], cs)
  | c :: cs =>
    let ds := ((c :: cs).take 3).takeWhile (isDigitOf 8)
    let code := numberOf 8 ds
    if !ds.isEmpty then
      some ([Char.ofNat (if isBytes then code % 256 else code)], (c :: cs).drop ds.length)
    else if isBytes then some (['\\', c], cs)
    else if c = 'u' then (hexadecimal 4 cs).map fun (c, cs) => ([c], cs)
    else if c = 'U' then (hexadecimal 8 cs).map fun (c, cs) => ([c], cs)
    else if c = 'N' then none
    else some (['\\', c], cs)

/-- A text with what its backslashes stand for, within so many characters. -/
def unescapedWithin (isBytes : Bool) : Nat → List Char → Option (List Char)
  | 0, _ => none
  | _ + 1, [] => some []
  | fuel + 1, '\\' :: cs => do
    let (taken, rest) ← escape isBytes cs
    return taken ++ (← unescapedWithin isBytes fuel rest)
  | fuel + 1, c :: cs => (unescapedWithin isBytes fuel cs).map (c :: ·)

/-- A text with what its backslashes stand for. -/
def unescaped (isBytes : Bool) (cs : List Char) : Option (List Char) :=
  unescapedWithin isBytes (cs.length + 1) cs

/-- The inside of a text up to its closing marks, one or three, within so many characters. -/
def insideWithin (mark : Char) (isLong : Bool) : Nat → List Char → Option (List Char × List Char)
  | 0, _ => none
  | fuel + 1, cs =>
    let after (taken rest : List Char) : Option (List Char × List Char) :=
      (insideWithin mark isLong fuel rest).map fun (more, rest) => (taken ++ more, rest)
    match cs with
    | [] => none
    | '\\' :: c :: cs => after ['\\', c] cs
    | c :: cs =>
      if c = mark && !isLong then some ([], cs)
      else if c = mark && cs.take 2 = [mark, mark] then some ([], cs.drop 2)
      else if c = '\n' && !isLong then none
      else after [c] cs

/-- The inside of a text, from its opening marks on. -/
def inside? : List Char → Option (List Char × List Char)
  | [] => none
  | mark :: rest =>
    let isLong := rest.take 2 = [mark, mark]
    let inside := if isLong then rest.drop 2 else rest
    insideWithin mark isLong (inside.length + 1) inside

/-! ### Texts with holes -/

/-- Is the character a blank in a hole? -/
def isHoleBlank (c : Char) : Bool :=
  c ∈ [' ', '\t', '\n', '\x0b', '\x0c', '\r']

/-- The bracket that a bracket is closed by. -/
def closing? (c : Char) : Option Char :=
  if c = '(' then some ')' else if c = '[' then some ']' else if c = '\x7b' then some '\x7d' else none

/-- The expression in a hole, up to the sign that ends it: what is left open are a text, by its
marks, and brackets. -/
def holeWithin : Nat → List Char → List Char → List Char → Option (List Char × List Char)
  | 0, _, _, _ => none
  | fuel + 1, marks, brackets, cs =>
    let after (marks brackets taken rest : List Char) : Option (List Char × List Char) :=
      (holeWithin fuel marks brackets rest).map fun (more, rest) => (taken ++ more, rest)
    match cs with
    | [] => none
    | c :: rest =>
      if c = '\\' then none
      else if !marks.isEmpty then
        if marks.isPrefixOf cs then after [] brackets marks (cs.drop marks.length)
        else after marks brackets [c] rest
      else if c = '\'' || c = '"' then
        if rest.take 2 = [c, c] then after [c, c, c] brackets [c, c, c] (rest.drop 2)
        else after [c] brackets [c] rest
      else if c = '#' then none
      else match closing? c, brackets with
        | some close, _ => after [] (close :: brackets) [c] rest
        | none, close :: brackets =>
          if c = close then after [] brackets [c] rest
          else if c ∈ [')', ']', '\x7d'] then none
          else after [] (close :: brackets) [c] rest
        | none, [] =>
          if rest.head? = some '=' && c ∈ ['!', '=', '<', '>'] then
            after [] [] [c, '='] rest.tail
          else if c ∈ ['!', '=', ':', '\x7d'] then some ([], cs)
          else if c = ')' || c = ']' then none
          else after [] [] [c] rest

/-- The layout that a hole asks for, and what follows it; a layout may have holes of its own. -/
def layout? : Nat → List Char → Option (List Char × List Char)
  | _, [] => none
  | depth, c :: cs =>
    if c = '\x7d' && depth = 0 then some ([], cs)
    else
      let depth := if c = '\x7b' then depth + 1 else if c = '\x7d' then depth - 1 else depth
      (layout? depth cs).map fun (taken, rest) => (c :: taken, rest)

/-- A hole, from after its opening brace on: its pieces and what follows. -/
def hole? (cs : List Char) : Option (List Piece × List Char) := do
  let (source, rest) ← holeWithin (cs.length + 1) [] [] cs
  if source.all isHoleBlank then none
  let (echo, rest) := match rest with
    | '=' :: rest =>
      let blanks := rest.takeWhile isHoleBlank
      (some (source ++ '=' :: blanks), rest.drop blanks.length)
    | rest => (none, rest)
  let (way, rest) ← match rest with
    | '!' :: c :: rest => if c ∈ ['s', 'r', 'a'] then some (some c, rest) else none
    | rest => some (none, rest)
  let (layout, rest) ← match rest with
    | ':' :: rest => layout? 0 rest
    | '\x7d' :: rest => some ([], rest)
    | _ => none
  let way := if echo.isSome && way.isNone && layout.isEmpty then some 'r' else way
  let hole := Piece.hole (String.ofList source) way (String.ofList layout)
  return ((echo.map fun e => Piece.plain (String.ofList e)).toList ++ [hole], rest)

/-- The pieces of the inside of a text with holes, after characters in front of them. -/
def piecesWithin (isRaw : Bool) : Nat → List Char → List Char → Option (List Piece)
  | 0, _, _ => none
  | fuel + 1, front, cs =>
    let plain : Option Piece :=
      (if isRaw then some front.reverse else unescaped false front.reverse).map fun s =>
        .plain (String.ofList s)
    match cs with
    | [] => plain.map ([·])
    | '\x7b' :: '\x7b' :: cs => piecesWithin isRaw fuel ('\x7b' :: front) cs
    | '\x7d' :: '\x7d' :: cs => piecesWithin isRaw fuel ('\x7d' :: front) cs
    | '\x7d' :: _ => none
    | '\x7b' :: cs => do
      let (hole, rest) ← hole? cs
      return (← plain) :: hole ++ (← piecesWithin isRaw fuel [] rest)
    | '\\' :: c :: cs =>
      if !isRaw && c ≠ '\x7b' && c ≠ '\x7d' then piecesWithin isRaw fuel (c :: '\\' :: front) cs
      else piecesWithin isRaw fuel ((if isRaw then ['\\'] else ['\\', '\\']) ++ front) (c :: cs)
    | c :: cs => piecesWithin isRaw fuel (c :: front) cs

/-! ### Kinds of texts -/

/-- What the letters in front of a text say. -/
structure TextKind where
  /-- Do backslashes stand for themselves? -/
  isRaw : Bool := false
  /-- Are its characters bytes? -/
  isBytes : Bool := false
  /-- Can it have holes? -/
  hasHoles : Bool := false

/-- What letters in front of a text say, if they can stand there. -/
def textKind? (letters : String) : Option TextKind :=
  match letters.toLower with
  | "" | "u" => some {}
  | "r" => some { isRaw := true }
  | "b" => some { isBytes := true }
  | "f" => some { hasHoles := true }
  | "br" | "rb" => some { isRaw := true, isBytes := true }
  | "fr" | "rf" => some { isRaw := true, hasHoles := true }
  | _ => none

/-- A text of a kind, from its opening marks on. -/
def text? (kind : TextKind) (cs : List Char) : Option (Token × List Char) := do
  let (inside, rest) ← inside? cs
  if kind.hasHoles then
    return (.pieces (← piecesWithin kind.isRaw (inside.length + 1) [] inside), rest)
  if kind.isBytes && inside.any (·.toNat > 127) then none
  let value ← if kind.isRaw then some inside else unescaped kind.isBytes inside
  return (if kind.isBytes then .bytes (value.map (·.toNat)) else .text (String.ofList value), rest)

/-! ### Signs -/

/-- The signs, a longer one before those it begins with. -/
def signs : List String :=
  ["...", "**", "//", "<<", ">>", "<=", ">=", "==", "!=", "+", "-", "*", "/", "%", "@", "&", "|",
    "^", "~", "<", ">", "(", ")", "[", "]", "\x7b", "\x7d", ",", ":=", ":", ".", "="]

/-- The sign at the beginning of a text. -/
def sign? (cs : List Char) : Option (String × List Char) :=
  (signs.find? fun s => s.toList.isPrefixOf cs).map fun s => (s, cs.drop s.length)

/-- How a sign changes the number of brackets that are open. -/
def nesting (s : String) (brackets : Nat) : Nat :=
  if s ∈ ["(", "[", "\x7b"] then brackets + 1
  else if s ∈ [")", "]", "\x7d"] then brackets - 1
  else brackets

/-! ### Taking a text apart -/

/-- Is the character a blank inside a line? -/
def isBlank (c : Char) : Bool :=
  c = ' ' || c = '\t' || c = '\x0c'

/-- Does nothing follow but blank lines? -/
def isOver (cs : List Char) : Bool :=
  (cs.splitOn '\n').all fun line =>
    (line.dropWhile fun c => isBlank c || c = '\r').head?.all (· = '#')

/-- The most brackets that may be open. -/
def maxNesting : Nat := 200

/-- The tokens of a text inside so many brackets, within so many steps. -/
def allWithin : Nat → Nat → List Char → Option (List Token)
  | 0, _, _ => none
  | fuel + 1, brackets, cs =>
    match cs with
    | [] => some []
    | '\\' :: '\n' :: cs => allWithin fuel brackets cs
    | '#' :: cs => allWithin fuel brackets (cs.dropWhile (· ≠ '\n'))
    | c :: rest =>
      if isBlank c then allWithin fuel brackets rest
      else if c = '\n' || c = '\r' then
        if brackets > 0 then allWithin fuel brackets rest
        else if isOver rest then some []
        else none
      else if c = '\'' || c = '"' then do
        let (t, rest) ← text? {} cs
        return t :: (← allWithin fuel brackets rest)
      else if isDigitOf 10 c || (c = '.' && rest.head?.any (isDigitOf 10)) then do
        let (t, rest) ← number? cs
        return t :: (← allWithin fuel brackets rest)
      else if Text.isIdentifierStart c then do
        let word := String.ofList (cs.takeWhile Text.isIdentifierContinue)
        let after := cs.dropWhile Text.isIdentifierContinue
        let kind := if after.head?.any (fun c => c = '\'' || c = '"') then textKind? word else none
        match kind with
        | some kind =>
          let (t, rest) ← text? kind after
          return t :: (← allWithin fuel brackets rest)
        | none => return ofWord word :: (← allWithin fuel brackets after)
      else do
        let (s, rest) ← sign? cs
        let open_ := nesting s brackets
        if open_ > maxNesting then none
        return .sign s :: (← allWithin fuel open_ rest)

/-- A text without the blank lines at its beginning. -/
def withoutBlankLines (cs : List Char) : List Char :=
  let lines := cs.splitOn '\n'
  let isBlankLine (line : List Char) : Bool :=
    (line.dropWhile fun c => isBlank c || c = '\r').head?.all (· = '#')
  ['\n'].intercalate (lines.dropLast.dropWhile isBlankLine ++ lines.getLast?.toList)

/-- The tokens of an expression. It may not be indented. -/
def all? (s : String) : Option (List Token) :=
  let cs := withoutBlankLines s.toList
  if cs.head?.any fun c => c = ' ' || c = '\t' then none
  else allWithin (cs.length + 1) 0 cs

end Token

end Mapsmith.Program
