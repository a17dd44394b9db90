import Mapsmith.Text.Case.Table

/-!
# Letter case

Lower case for names that are respelled, case folding for names that are compared. Lowering sees
its context in one place only: a capital sigma that ends a word becomes the final form. Folding is
free of context, so two names agree up to case when their foldings are equal.
-/

namespace Mapsmith.Text

/-! ### Lower case -/

/-- The lower-case form of a character on its own. -/
def lowerChar (c : Char) : List Char :=
  if c.toNat < 0x80 then [c.toLower]
  else if c = 'İ' then ['i', '\u0307']
  else [Char.ofNat (shiftBy lowerRuns c.toNat)]

/-- Does a word's case look through the character? -/
def isCaseIgnorable (c : Char) : Bool :=
  inIntervals caseIgnorableIntervals c.toNat

/-- Going along `cs` and looking through marks, is the first thing met a letter with case? -/
def meetsCased (cs : List Char) : Bool :=
  match cs.dropWhile isCaseIgnorable with
  | c :: _ => inIntervals casedIntervals c.toNat
  | [] => false

/-- Lowers a text whose preceding characters, the nearest first, are `before`. -/
def lowerAfter (before : List Char) : List Char → List Char
  | [] => []
  | c :: rest =>
    (if c = 'Σ' then [if meetsCased before && !meetsCased rest then 'ς' else 'σ'] else lowerChar c)
      ++ lowerAfter (c :: before) rest

/-- The text in lower case. -/
def lower (cs : List Char) : List Char :=
  lowerAfter [] cs

/-! ### Upper case -/

/-- The upper-case form of a character. -/
def upperChar (c : Char) : List Char :=
  if c.toNat < 0x80 then [c.toUpper]
  else match upperExpansions.lookup c.toNat with
    | some image => image.map Char.ofNat
    | none => [Char.ofNat (shiftBy upperRuns c.toNat)]

/-- The form of a character at the beginning of a word. -/
def titleChar (c : Char) : List Char :=
  match titleExpansions.lookup c.toNat with
  | some image => image.map Char.ofNat
  | none => upperChar c

/-- The text in upper case. -/
def upper (cs : List Char) : List Char :=
  cs.flatMap upperChar

/-- Is the character a letter with case? -/
def isCased (c : Char) : Bool :=
  if c.toNat < 0x80 then c.isAlpha
  else inIntervals casedIntervals c.toNat || inIntervals smallMarkIntervals c.toNat

/-- Is the character a capital letter that has no small one? -/
def isCapitalSign (c : Char) : Bool :=
  inIntervals capitalSignIntervals c.toNat

/-- Is the character a capital letter? -/
def isUpperChar (c : Char) : Bool :=
  isCapitalSign c
    || isCased c && lowerChar c ≠ [c] && titleChar c ≠ lowerChar c && !(titleChar c = [c] && upperChar c ≠ [c])

/-- Is the character a small letter? -/
def isLowerChar (c : Char) : Bool :=
  isCased c && lowerChar c = [c] && !isCapitalSign c

/-- Is the character one that stands for a capital letter and a small one after it? -/
def isTitleChar (c : Char) : Bool :=
  isCased c && !isUpperChar c && !isLowerChar c

/-- The text with a capital letter at the beginning of every word, after letters or not. -/
def titleAfter (isInWord : Bool) (before : List Char) : List Char → List Char
  | [] => []
  | c :: rest =>
    (if !isInWord then titleChar c
      else if c = 'Σ' then [if meetsCased before && !meetsCased rest then 'ς' else 'σ']
      else lowerChar c) ++ titleAfter (isCased c) (c :: before) rest

/-- The text with a capital letter at the beginning of every word. -/
def title (cs : List Char) : List Char :=
  titleAfter false [] cs

/-- The text with a capital letter at its beginning and small ones after it. -/
def capitalize : List Char → List Char
  | [] => []
  | c :: rest => titleChar c ++ lowerAfter [c] rest

/-- The text with small letters for capital ones and the other way round. -/
def swapcase (cs : List Char) : List Char :=
  cs.flatMap fun c => if isUpperChar c then lowerChar c else if isLowerChar c then upperChar c else [c]

/-! ### Case folding -/

/-- The case folding of a character. -/
def foldChar (c : Char) : List Char :=
  if c.toNat < 0x80 then [c.toLower]
  else match foldExpansions.lookup c.toNat with
    | some image => image.map Char.ofNat
    | none => [Char.ofNat (shiftBy foldRuns c.toNat)]

/-- The case folding of a text. -/
def casefold (s : String) : String :=
  String.ofList (s.toList.flatMap foldChar)

end Mapsmith.Text
