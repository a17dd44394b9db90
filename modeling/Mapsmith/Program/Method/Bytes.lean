import Mapsmith.Program.Method.Text
import Mapsmith.Value.Json

/-!
# What can be called on bytes

The methods of bytes: those that texts have too, where only the letters, digits and blanks of the first 128
characters count as such, and those that spell bytes by digits or put others in their places. Bytes that can change
have more of them.
-/

namespace Mapsmith.Program

namespace Run

/-! ### What is given -/

/-- The bytes that an object is; another one is refused. -/
def bytesGiven (o : Object) : Run (List Nat) := do
  match ← bytes? o with
  | some values => return values
  | none => do
    refuse (.other ("a bytes-like object is required, not " ++ Text.quote ((← get).typeName o)))

/-- The bytes that are searched for: a byte by its number, or several. -/
def soughtBytes (o : Object) : Run (List Nat) := do
  match ← bytes? o, ← integer? o with
  | some values, _ => return values
  | none, some n => if 0 ≤ n && n < 256 then return [n.toNat] else throw .badValue
  | none, none => do
    refuse (.other ("argument should be integer or bytes-like object, not "
      ++ Text.quote ((← get).typeName o)))

/-- The bytes that bytes are asked to begin or to end with. -/
def bytesBorders (name : String) (o : Object) : Run (List (Run (List Nat))) := do
  let m ← get
  match m.plain o with
  | .row items => return items.map bytesGiven
  | _ => match ← bytes? o with
    | some values => return [return values]
    | none =>
      refuse (.other (name ++ " first arg must be bytes or a tuple of bytes, not " ++ m.typeName o))

/-- The byte that bytes are filled up with. -/
def fillByte (name : String) (o : Option Object) : Run Nat := do
  match o with
  | none => return 32
  | some o => match ← bytes? o with
    | some [n] => return n
    | _ => do
      refuse (.other (name ++ "() argument 2 must be a byte string of length 1, not " ++ (← get).typeName o))

/-! ### Letters, digits and blanks -/

/-- Is a byte a blank? -/
def isBlankByte (n : Nat) : Bool :=
  n = 32 || (9 ≤ n && n ≤ 13)

/-- Is a byte a capital letter? -/
def isCapitalByte (n : Nat) : Bool :=
  65 ≤ n && n ≤ 90

/-- Is a byte a small letter? -/
def isSmallByte (n : Nat) : Bool :=
  97 ≤ n && n ≤ 122

/-- Is a byte a digit? -/
def isDigitByte (n : Nat) : Bool :=
  48 ≤ n && n ≤ 57

/-- A byte as a small letter, if it is a letter. -/
def lowByte (n : Nat) : Nat :=
  if isCapitalByte n then n + 32 else n

/-- A byte as a capital letter, if it is a letter. -/
def highByte (n : Nat) : Nat :=
  if isSmallByte n then n - 32 else n

/-- Words with a capital letter first and small ones after it. -/
def titleBytes : Bool → List Nat → List Nat
  | _, [] => []
  | isInWord, n :: ns =>
    let isLetter := isCapitalByte n || isSmallByte n
    (if isInWord then lowByte n else highByte n) :: titleBytes isLetter ns

/-- Is there a byte, and does a condition hold for each? -/
def consistsBytes (p : Nat → Bool) (values : List Nat) : Bool :=
  !values.isEmpty && values.all p

/-- What bytes are asked for that is a question or leads to other bytes, and takes nothing: an answer, or the
bytes. -/
def plainBytesMethod? (values : List Nat) (name : String) : Option (Bool ⊕ List Nat) :=
  let isLetter (n : Nat) : Bool := isCapitalByte n || isSmallByte n
  match name with
  | "upper" => some (.inr (values.map highByte))
  | "lower" => some (.inr (values.map lowByte))
  | "swapcase" => some (.inr (values.map fun n => if isCapitalByte n then lowByte n else highByte n))
  | "title" => some (.inr (titleBytes false values))
  | "capitalize" => some (.inr ((values.take 1).map highByte ++ (values.drop 1).map lowByte))
  | "isalpha" => some (.inl (consistsBytes isLetter values))
  | "isalnum" => some (.inl (consistsBytes (fun n => isLetter n || isDigitByte n) values))
  | "isdigit" => some (.inl (consistsBytes isDigitByte values))
  | "isspace" => some (.inl (consistsBytes isBlankByte values))
  | "isascii" => some (.inl (values.all (· < 128)))
  | "isupper" => some (.inl (values.any isCapitalByte && !values.any isSmallByte))
  | "islower" => some (.inl (values.any isSmallByte && !values.any isCapitalByte))
  | "istitle" =>
    let cs := values.map Char.ofNat
    some (.inl (isTitle (isCapitalByte ·.toNat) (isSmallByte ·.toNat) cs))
  | _ => none

/-- The lines of bytes. -/
def bytesLines (keepsEnds : Bool) : List Nat → List Nat → List (List Nat)
  | line, [] => if line.isEmpty then [] else [line.reverse]
  | line, 13 :: 10 :: rest =>
    (line.reverse ++ if keepsEnds then [13, 10] else []) :: bytesLines keepsEnds [] rest
  | line, n :: rest =>
    if n = 10 || n = 13 then
      (line.reverse ++ if keepsEnds then [n] else []) :: bytesLines keepsEnds [] rest
    else bytesLines keepsEnds (n :: line) rest

/-! ### Digits -/

/-- Bytes in digits, with a mark between groups of so many, which are counted from the end or, if their number is
negative, from the beginning. -/
def bytesInDigits (mark : Option Char) (size : Int) (values : List Nat) : List Char :=
  let count := values.length
  let digits := values.zipIdx.map fun (n, i) =>
    let isBetween := size ≠ 0 && i ≠ 0
      && (if size > 0 then (count - i) % size.natAbs = 0 else i % size.natAbs = 0)
    (if isBetween then mark.toList else []) ++ Text.hexPadded 2 n
  digits.flatten

/-- The mark between groups of digits that is given. -/
def markBetween (o : Option Object) : Run (Option Char) := do
  match o with
  | none => return none
  | some o => match ← text? o, ← bytes? o with
    | some s, _ => match s.toList with
      | [c] => if c.toNat < 128 then return some c else throw .badValue
      | _ => throw .badValue
    | none, some [n] => if n < 128 then return some (Char.ofNat n) else throw .badValue
    | none, some _ => throw .badValue
    | none, none => do
      let m ← get
      match sequence? m o with
      | some _ => refuse (.other "sep must be str or bytes.")
      | none => match pooled? m o with
        | some (_, [_]) => refuse (.other "sep must be str or bytes.")
        | some _ => throw .badValue
        | none => refuse (.other ("object of type " ++ Text.quote (m.typeName o) ++ " has no len()"))

/-- The bytes that digits spell, two for each; there may be blanks between them. -/
def bytesFromDigits : List Char → Run (List Nat)
  | [] => return []
  | c :: rest => do
    if c.toNat < 128 && isBlankByte c.toNat then bytesFromDigits rest
    else match rest with
      | d :: rest => match Value.Json.hexDigit? c, Value.Json.hexDigit? d with
        | some high, some low => return (16 * high + low) :: (← bytesFromDigits rest)
        | _, _ => throw .badValue
      | [] => throw .badValue

/-! ### All methods -/

/-- Bytes with others in their places, by a table of all, and without some. -/
def translatedBytes (values : List Nat) (table : Object) (without : Option Object) : Run (List Nat) := do
  let without ← match without with
    | some o => bytesGiven o
    | none => pure []
  let kept := values.filter fun n => !without.contains n
  if table.same .none then return kept
  let table ← bytesGiven table
  if table.length ≠ 256 then throw .badValue
  return kept.map fun n => table.getD n n

/-- Bytes of things with bytes between them. -/
def joinedBytes (ev : Evaluator) (between : List Nat) (o : Object) : Run (List Nat) := do
  let items ← tryCatch (parts ev o) fun e => match e with
    | .misuse (.other wording) =>
      if wording.endsWith "is not iterable" then refuse (.other "can only join an iterable") else throw e
    | e => throw e
  let all ← items.zipIdx.mapM fun (o, i) => do
    match ← bytes? o with
    | some values => return values
    | none => do
      refuse (.other ("sequence item " ++ toString i ++ ": expected a bytes-like object, "
        ++ (← get).typeName o ++ " found"))
  return between.intercalate all

/-- What a method of bytes yields. -/
def bytesMethod (ev : Evaluator) (owner : Object) (values : List Nat) (name : String)
    (args : List (Option Object)) : Run Object := do
  let make (ns : List Nat) : Run Object := bytesLike owner ns
  let makeAll (parts : List (List Nat)) : Run (List Object) := parts.mapM make
  let first := argOr args 0
  let split (isLast : Bool) : Run Object := do
    let most ← mostOf (argAt args 1)
    let parts ← match argAt args 0 |>.filter (!·.same .none) with
      | none => pure (wordsOf isBlankByte isLast most values)
      | some sep => splitBy (← bytesGiven sep) isLast most values
    newList (← makeAll parts)
  let strip (atStart atEnd : Bool) : Run Object := do
    match argAt args 0 |>.filter (!·.same .none) with
    | none => make (strippedBy isBlankByte atStart atEnd values)
    | some o =>
      let set ← bytesGiven o
      make (strippedBy (set.contains ·) atStart atEnd values)
  let justify (align : Char) : Run Object := do
    let width ← widthOf first
    make (justified align (← fillByte name (argAt args 1)) width values)
  let search (isLast isStrict : Bool) : Run Object := do
    searched isLast isStrict (← soughtBytes first) values (argAt args 1) (argAt args 2)
  let partition (isLast : Bool) : Run Object := do
    return .row (← makeAll (← partitioned isLast (← bytesGiven first) values))
  match plainBytesMethod? values name with
  | some (.inl b) => return truth b
  | some (.inr ns) => make ns
  | none => match name with
    | "decode" =>
      let (encoding, errors) ← codingOf "decode" (argAt args 0) (argAt args 1)
      return .text (← decoded encoding errors values)
    | "hex" =>
      let mark ← markBetween (argAt args 0)
      let size ← match argAt args 1 with
        | some o => integer o
        | none => pure 1
      return textOf (bytesInDigits mark size values)
    | "fromhex" => make (← bytesFromDigits (← textual "fromhex() argument" first).toList)
    | "maketrans" =>
      let (keys, images) := (← bytesGiven first, ← bytesGiven (argOr args 1))
      if keys.length ≠ images.length then throw .badValue
      let table := (keys.zip images).foldl (fun (t : List Nat) (k, n) => t.set k n) (List.range 256)
      return .datum (.bytes table)
    | "translate" => make (← translatedBytes values first (argAt args 1))
    | "join" => make (← joinedBytes ev values first)
    | "split" => split false
    | "rsplit" => split true
    | "splitlines" =>
      let keeps ← match argAt args 0 with
        | some o => do pure (decide ((← integer o) ≠ 0))
        | none => pure false
      newList (← makeAll (bytesLines keeps [] values))
    | "partition" => partition false
    | "rpartition" => partition true
    | "strip" => strip true true
    | "lstrip" => strip true false
    | "rstrip" => strip false true
    | "center" => justify '^'
    | "ljust" => justify '<'
    | "rjust" => justify '>'
    | "zfill" => make (zeroFilled (fun n => n = 45 || n = 43) 48 (← widthOf first) values)
    | "find" => search false false
    | "rfind" => search true false
    | "index" => search false true
    | "rindex" => search true true
    | "count" =>
      let pat ← soughtBytes first
      let (first, last) ← searchBounds values.length (argAt args 1) (argAt args 2)
      return intOf (Int.ofNat (Text.disjoint pat.length 0 (placesBounded pat values first last)).length)
    | "startswith" => bordered false (← bytesBorders name first) values (argAt args 1) (argAt args 2)
    | "endswith" => bordered true (← bytesBorders name first) values (argAt args 1) (argAt args 2)
    | "removeprefix" =>
      let pat ← bytesGiven first
      make (if pat.isPrefixOf values then values.drop pat.length else values)
    | "removesuffix" =>
      let pat ← bytesGiven first
      let isAtEnd := !pat.isEmpty && pat.reverse.isPrefixOf values.reverse
      make (if isAtEnd then values.take (values.length - pat.length) else values)
    | "replace" =>
      let old ← bytesGiven first
      let new ← bytesGiven (argOr args 1)
      make (Text.replaced old new (← mostOf (argAt args 2)) values)
    | "expandtabs" =>
      let width ← match argAt args 0 with
        | some o => widthOf o
        | none => pure 8
      make ((Text.expanded width.toNat 0 (values.map Char.ofNat)).map Char.toNat)
    | "__bytes__" => return .datum (.bytes values)
    | "__getnewargs__" => return .row [.datum (.bytes values)]
    | "__sizeof__" => return intOf (Int.ofNat (33 + values.length))
    | _ => fail "NotImplementedError"

/-- What a method of bytes that can change yields. -/
def changeableBytesMethod (ev : Evaluator) (owner : Object) (values : List Nat) (name : String)
    (args : List (Option Object)) : Run Object := do
  let m ← get
  let first := argOr args 0
  let change (ns : List Nat) : Run Object := do
    become owner (.datum (.bytes ns))
    return .none
  match name with
  | "append" => change (values ++ [← byteOf first])
  | "extend" => match ← bytes? first with
    | some ns => change (values ++ ns)
    | none =>
      let items ← tryCatch (parts ev first) fun e => match e with
        | .misuse (.other wording) =>
          if wording.endsWith "is not iterable" then
            refuse (.other ("can't extend bytearray with " ++ m.typeName first))
          else throw e
        | e => throw e
      change (values ++ (← items.mapM byteOf))
  | "insert" =>
    let place ← integer first
    let n ← byteOf (argOr args 1)
    let count := Int.ofNat values.length
    let at_ := (max 0 (min count (if place < 0 then place + count else place))).toNat
    change (values.take at_ ++ n :: values.drop at_)
  | "remove" =>
    let n ← byteOf first
    if values.contains n then change (values.erase n) else throw .badValue
  | "pop" =>
    let place := (argAt args 0).getD (intOf (-1))
    if values.isEmpty then throw .noPlace
    let i ← placeAmong "bytearray" values.length (intOf (← integer place))
    let _ ← change (values.eraseIdx i)
    return intOf (Int.ofNat (values.getD i 0))
  | "clear" => change []
  | "reverse" => change values.reverse
  | "copy" => bytesLike owner values
  | "__alloc__" => return intOf (Int.ofNat values.length + 1)
  | name => bytesMethod ev owner values name args

/-! ### Views of bytes -/

/-- What a method of a view of bytes yields. -/
def bytesViewMethod (ev : Evaluator) (owner : Object) (values : List Nat) (name : String)
    (args : List (Option Object)) : Run Object := do
  match name with
  | "tolist" => newList (integers (values.map Int.ofNat))
  | "tobytes" => return .datum (.bytes values)
  | "toreadonly" => newBytesView ((keptUnder? (← get) owner "obj").getD .none) true values
  | "__enter__" => return owner
  | "release" | "__exit__" => return .none
  | "hex" => bytesMethod ev owner values name args
  | "cast" =>
    let layout ← textual "memoryview.cast() argument 'format'" (argOr args 0)
    if layout ∈ ["B", "b", "c", "@B", "@b", "@c"] then bytesLike owner values
    else fail "NotImplementedError"
  | _ => fail "NotImplementedError"

end Run

end Mapsmith.Program
