import Mapsmith.Program.Method.Braces
import Mapsmith.Text.Case
import Mapsmith.Text.Identifier

/-!
# What can be called on texts

The methods of texts: other cases of their letters, parts of them and where these stand, what they are made of,
and texts with values in the places of braces. Each is given its arguments in order; one that is left out is none.
-/

namespace Mapsmith.Program

/-- What is given for an argument in a place, if it is given. -/
def argAt (args : List (Option Object)) (place : Nat) : Option Object :=
  (args[place]?).join

/-- What is given for an argument in a place, or the missing value. -/
def argOr (args : List (Option Object)) (place : Nat) : Object :=
  (argAt args place).getD .none

namespace Run

/-- The characters of a text that is given; another object is refused in some words before its type. -/
def charactersOf (what : String) (o : Object) : Run (List Char) := do
  return (← textual what o).toList

/-- The characters of a text that is given without more words. -/
def plainCharacters (o : Object) : Run (List Char) := do
  match ← text? o with
  | some s => return s.toList
  | none => do refuse (.other ("must be str, not " ++ (← get).typeName o))

/-! ### Places -/

/-- The bounds between which something with so many parts is searched, from what is given. -/
def searchBounds (length : Nat) (first last : Option Object) : Run (Nat × Nat) := do
  let bound (o : Option Object) (usual : Nat) : Run Nat := do
    match o with
    | none => return usual
    | some o => match ← boundOf o with
      | none => return usual
      | some n => return (if n < 0 then n + length else n).toNat
  let first ← bound first 0
  return (first, min (← bound last length) length)

/-- The places where a row stands in another one between bounds. -/
def placesBounded {α : Type} [BEq α] (pat cs : List α) (first last : Nat) : List Nat :=
  if last < first then []
  else (Text.places pat ((cs.take last).drop first)).map (first + ·)

/-- Where a row stands first or last in another one. -/
def searched {α : Type} [BEq α] (isLast isStrict : Bool) (pat cs : List α) (first last : Option Object) :
    Run Object := do
  let (first, last) ← searchBounds cs.length first last
  let all := placesBounded pat cs first last
  match if isLast then all.getLast? else all.head? with
  | some place => return intOf (Int.ofNat place)
  | none => if isStrict then throw .badValue else return intOf (-1)

/-- Does a row begin or end with one of some others, between bounds? They are looked at up to the one that fits. -/
def bordered {α : Type} [BEq α] (isEnd : Bool) (pats : List (Run (List α))) (cs : List α)
    (first last : Option Object) : Run Object := do
  let (first, last) ← searchBounds cs.length first last
  let part := (cs.take last).drop first
  let fits (p : List α) : Bool :=
    first ≤ last && if isEnd then p.reverse.isPrefixOf part.reverse else p.isPrefixOf part
  return truth (← pats.anyM fun p => do return fits (← p))

/-! ### Taking apart -/

/-- How many occurrences count, if not all. -/
def mostOf (o : Option Object) : Run (Option Nat) := do
  match o with
  | none => return none
  | some o =>
    let n ← integer o
    return if n < 0 then none else some n.toNat

/-- The words of a row between things that a condition holds for, as many as are wanted. -/
def wordsOf {α : Type} (p : α → Bool) (isLast : Bool) (most : Option Nat) (cs : List α) : List (List α) :=
  let fuel := most.getD cs.length
  if isLast then ((Text.wordsBy p fuel cs.reverse).map List.reverse).reverse else Text.wordsBy p fuel cs

/-- The parts of a row between occurrences of another one, as many as are wanted. -/
def splitBy {α : Type} [BEq α] (sep : List α) (isLast : Bool) (most : Option Nat) (cs : List α) :
    Run (List (List α)) := do
  if sep.isEmpty then throw .badValue
  return if isLast then Text.splitAtLast sep most cs else Text.splitAt sep most cs

/-- What is before a row in another one, the row, and what is after it; if it is not there, the other one stands at
one end. -/
def partitioned {α : Type} [BEq α] (isLast : Bool) (sep cs : List α) : Run (List (List α)) := do
  match ← splitBy sep isLast (some 1) cs with
  | [before, after] => return [before, sep, after]
  | _ => return if isLast then [[], [], cs] else [cs, [], []]

/-- A row without those at its ends that a condition holds for. -/
def strippedBy {α : Type} (p : α → Bool) (atStart atEnd : Bool) (cs : List α) : List α :=
  let cs := if atStart then cs.dropWhile p else cs
  if atEnd then (cs.reverse.dropWhile p).reverse else cs

/-- A row filled up to a width with a thing. -/
def justified {α : Type} (align : Char) (fill : α) (width : Int) (cs : List α) : List α :=
  let missing := width.toNat - cs.length
  let before := if align = '<' then 0 else if align = '>' then missing
    else missing / 2 + (if missing % 2 = 1 && width.toNat % 2 = 1 then 1 else 0)
  List.replicate before fill ++ cs ++ List.replicate (missing - before) fill

/-- Refuses a width that leads to too long a text. -/
def checkWidth (n : Int) : Run Int := do
  if n ≥ Int.ofNat (Nat.pow 2 63) then fail "OverflowError"
  if n > maxBytes then fail "MemoryError"
  return n

/-- A width that is given. -/
def widthOf (o : Object) : Run Int := do
  checkWidth (← integer o)

/-- Characters filled up with zeros to a width, after their sign. -/
def zeroFilled {α : Type} (isSign : α → Bool) (zero : α) (width : Int) (cs : List α) : List α :=
  let zeros := List.replicate (width.toNat - cs.length) zero
  if (cs.head?).any isSign then cs.take 1 ++ zeros ++ cs.drop 1 else zeros ++ cs

/-! ### What a text is made of -/

/-- Is every character of a text one of some, and is there one? -/
def consists (p : Char → Bool) (cs : List Char) : Bool :=
  !cs.isEmpty && cs.all p

/-- Does every word of a text begin with a capital letter, and no other letter of it be one? -/
def isTitle (isUpper isLower : Char → Bool) (cs : List Char) : Bool :=
  let step (state : Bool × Bool × Bool) (c : Char) : Bool × Bool × Bool :=
    let (isGood, isInWord, isFound) := state
    if isUpper c then (isGood && !isInWord, true, true)
    else if isLower c then (isGood && isInWord, true, true)
    else (isGood, false, isFound)
  let (isGood, _, isFound) := cs.foldl step (true, false, false)
  isGood && isFound

/-- What a text is asked for that is a question or leads to another text, and takes nothing. -/
def plainTextMethod? (cs : List Char) (name : String) : Option Object :=
  match name with
  | "upper" => some (textOf (Text.upper cs))
  | "lower" => some (textOf (Text.lower cs))
  | "title" => some (textOf (Text.title cs))
  | "capitalize" => some (textOf (Text.capitalize cs))
  | "swapcase" => some (textOf (Text.swapcase cs))
  | "casefold" => some (.text (Text.casefold (String.ofList cs)))
  | "isalpha" => some (truth (consists Text.isLetter cs))
  | "isalnum" => some (truth (consists (fun c => Text.isLetter c || Text.isNumeral c) cs))
  | "isdecimal" => some (truth (consists Text.isDecimalDigit cs))
  | "isdigit" => some (truth (consists Text.isDigitChar cs))
  | "isnumeric" => some (truth (consists Text.isNumeral cs))
  | "isspace" => some (truth (consists Text.isBlank cs))
  | "isascii" => some (truth (cs.all fun c => c.toNat < 0x80))
  | "isprintable" => some (truth (cs.all Text.isPrintable))
  | "isidentifier" => some (truth (Text.isIdentifier (String.ofList cs)))
  | "isupper" =>
    some (truth (cs.any Text.isUpperChar && !cs.any fun c => Text.isLowerChar c || Text.isTitleChar c))
  | "islower" =>
    some (truth (cs.any Text.isLowerChar && !cs.any fun c => Text.isUpperChar c || Text.isTitleChar c))
  | "istitle" =>
    some (truth (isTitle (fun c => Text.isUpperChar c || Text.isTitleChar c) Text.isLowerChar cs))
  | _ => none

/-! ### Tables of characters -/

/-- What a table of characters has for one of them, by its number; nothing if it has none for it. -/
def imageOf? (ev : Evaluator) (s : Scope) (table : Object) (c : Char) : Run (Option Object) := do
  tryCatch (do return some (← valueWith ev s table (intOf (Int.ofNat c.toNat)))) fun e => match e with
    | .noPlace | .noEntry => return none
    | .raised failure =>
      if LibraryClass.builtin "LookupError" ∈ failure.line then return none else throw e
    | e => throw e

/-- A text with other characters in the places of some, as a table tells by their numbers. -/
def translated (ev : Evaluator) (s : Scope) (cs : List Char) (table : Object) : Run Object := do
  let images ← cs.mapM fun c => do
    match ← imageOf? ev s table c with
    | none => return [c]
    | some o => match (← get).plain o with
      | .constant .null => return []
      | .constant (.str s) => return s.toList
      | .constant v => match v.count? with
        | some n =>
          if n < 0 || 0x110000 ≤ n then throw .badValue
          return [Char.ofNat n.toNat]
        | none => refuse (.other "character mapping must return integer, None or str")
      | _ => refuse (.other "character mapping must return integer, None or str")
  return textOf images.flatten

/-- The table by which characters are put in the places of others. -/
def characterTable (args : List (Option Object)) : Run Object := do
  let m ← get
  let number (c : Char) : Object := intOf (Int.ofNat c.toNat)
  match argAt args 1 with
  | none => match m.plain (argOr args 0) with
    | .table entries =>
      let entries ← entries.foldlM (fun es e => match e with
        | .row [key, o] => match m.plain key with
          | .constant (.str key) => match key.toList with
            | [c] => entered es (number c) o
            | _ => throw .badValue
          | .constant v => if v.count?.isSome then entered es key o
            else refuse (.other "keys in translate table must be strings or integers")
          | _ => refuse (.other "keys in translate table must be strings or integers")
        | _ => return es) []
      newTable entries
    | _ => refuse (.other "if you give only one argument to maketrans it must be a dict")
  | some second =>
    let to_ ← charactersOf "maketrans() argument 2" second
    let without ← match argAt args 2 with
      | some o => charactersOf "maketrans() argument 3" o
      | none => pure []
    let from_ ← match ← text? (argOr args 0) with
      | some s => pure s.toList
      | none =>
        refuse (.other "first maketrans argument must be a string if there is a second argument")
    if from_.length ≠ to_.length then throw .badValue
    newTable (← enteredAll [] ((from_.zip to_).map (fun (a, b) => .row [number a, number b])
      ++ without.map fun c => .row [number c, .none]))

/-! ### All methods -/

/-- The texts that a text is asked to begin or to end with. -/
def borders (name : String) (o : Object) : Run (List (Run (List Char))) := do
  let m ← get
  match m.plain o with
  | .constant (.str s) => return [return s.toList]
  | .row items => return items.map fun o => do
    match ← text? o with
    | some s => return s.toList
    | none =>
      refuse (.other ("tuple for " ++ name ++ " must only contain str, not " ++ m.typeName o))
  | _ =>
    refuse (.other (name ++ " first arg must be str or a tuple of str, not " ++ m.typeName o))

/-- Texts of things with a text between them. -/
def joinedTexts (ev : Evaluator) (between : String) (o : Object) : Run Object := do
  let items ← tryCatch (parts ev o) fun e => match e with
    | .misuse (.other wording) =>
      if wording.endsWith "is not iterable" then refuse (.other "can only join an iterable") else throw e
    | e => throw e
  let texts ← items.zipIdx.mapM fun (o, i) => do
    match ← text? o with
    | some s => return s
    | none => do
      refuse (.other ("sequence item " ++ toString i ++ ": expected str instance, "
        ++ (← get).typeName o ++ " found"))
  return .text (between.intercalate texts)

/-- The character that a text is filled up with. -/
def fillOf (o : Option Object) : Run Char := do
  match o with
  | none => return ' '
  | some o => match ← text? o with
    | some s => match s.toList with
      | [c] => return c
      | _ => refuse (.other "The fill character must be exactly one character long")
    | none => do
      refuse (.other ("The fill character must be a unicode character, not " ++ (← get).typeName o))

/-- The number of bytes that a text takes: as many for each character as the last one in order takes. -/
def sizeInMemory (cs : List Char) : Nat :=
  let last := cs.foldl (fun n c => max n c.toNat) 0
  if last < 0x80 then 49 + cs.length
  else if last < 0x100 then 73 + cs.length
  else if last < 0x10000 then 74 + 2 * cs.length
  else 76 + 4 * cs.length

/-- What a method of texts yields. -/
def textMethod (ev : Evaluator) (s : Scope) (t name : String) (args : List (Option Object)) :
    Run Object := do
  let cs := t.toList
  let first := argOr args 0
  let split (isLast : Bool) : Run Object := do
    let most ← mostOf (argAt args 1)
    let parts ← match argAt args 0 |>.filter (!·.same .none) with
      | none => pure (wordsOf Text.isBlank isLast most cs)
      | some sep => match ← text? sep with
        | some sep => splitBy sep.toList isLast most cs
        | none => do refuse (.other ("must be str or None, not " ++ (← get).typeName sep))
    newList (parts.map textOf)
  let strip (atStart atEnd : Bool) : Run Object := do
    match argAt args 0 |>.filter (!·.same .none) with
    | none => return textOf (strippedBy Text.isBlank atStart atEnd cs)
    | some o => match ← text? o with
      | some set => return textOf (strippedBy (set.toList.contains ·) atStart atEnd cs)
      | none => refuse (.other (name ++ " arg must be None or str"))
  let justify (align : Char) : Run Object := do
    let width ← widthOf first
    return textOf (justified align (← fillOf (argAt args 1)) width cs)
  let search (isLast isStrict : Bool) : Run Object := do
    searched isLast isStrict (← plainCharacters first) cs (argAt args 1) (argAt args 2)
  match plainTextMethod? cs name with
  | some o => return o
  | none => match name with
    | "split" => split false
    | "rsplit" => split true
    | "splitlines" =>
      let keeps ← match argAt args 0 with
        | some o => do pure (decide ((← integer o) ≠ 0))
        | none => pure false
      newList ((Text.lines keeps [] cs).map textOf)
    | "partition" => return .row ((← partitioned false (← plainCharacters first) cs).map textOf)
    | "rpartition" => return .row ((← partitioned true (← plainCharacters first) cs).map textOf)
    | "strip" => strip true true
    | "lstrip" => strip true false
    | "rstrip" => strip false true
    | "center" => justify '^'
    | "ljust" => justify '<'
    | "rjust" => justify '>'
    | "zfill" => return textOf (zeroFilled (fun c => c = '-' || c = '+') '0' (← widthOf first) cs)
    | "find" => search false false
    | "rfind" => search true false
    | "index" => search false true
    | "rindex" => search true true
    | "count" =>
      let pat ← plainCharacters first
      let (first, last) ← searchBounds cs.length (argAt args 1) (argAt args 2)
      return intOf (Int.ofNat (Text.disjoint pat.length 0 (placesBounded pat cs first last)).length)
    | "startswith" => bordered false (← borders name first) cs (argAt args 1) (argAt args 2)
    | "endswith" => bordered true (← borders name first) cs (argAt args 1) (argAt args 2)
    | "removeprefix" =>
      let pat ← charactersOf "removeprefix() argument" first
      return textOf (if pat.isPrefixOf cs then cs.drop pat.length else cs)
    | "removesuffix" =>
      let pat ← charactersOf "removesuffix() argument" first
      let isAtEnd := !pat.isEmpty && pat.reverse.isPrefixOf cs.reverse
      return textOf (if isAtEnd then cs.take (cs.length - pat.length) else cs)
    | "replace" =>
      let from_ ← charactersOf "replace() argument 1" first
      let to_ ← charactersOf "replace() argument 2" (argOr args 1)
      return textOf (Text.replaced from_ to_ (← mostOf (argAt args 2)) cs)
    | "join" => joinedTexts ev t first
    | "expandtabs" =>
      let width ← match argAt args 0 with
        | some o => widthOf o
        | none => pure 8
      return textOf (Text.expanded width.toNat 0 cs)
    | "encode" =>
      let (encoding, errors) ← codingOf "encode" (argAt args 0) (argAt args 1)
      return .datum (.bytes (← encoded encoding errors t))
    | "translate" => translated ev s cs first
    | "maketrans" => characterTable args
    | "format_map" => formatted ev s t (.table first)
    | "__format__" =>
      return .text (← laidOut ev (← textual "__format__() argument" first) (.text t))
    | "__sizeof__" => return intOf (Int.ofNat (sizeInMemory cs))
    | "__getnewargs__" => return .row [.text t]
    | _ => fail "NotImplementedError"

end Run

end Mapsmith.Program
