import Mapsmith.Text.Case

/-!
# Naming strategies

How a member's name is respelled before it is compared with the names of another type. Two of the
strategies cut a name into words: a word begins at an upper-case letter that follows a lower-case
letter or a digit, and at the last letter of an acronym when a lower-case letter follows it. Only
ASCII letters and digits make word boundaries; lowering is that of all of Unicode.
-/

namespace Mapsmith

/-- A rule for respelling a name. -/
inductive NamingStrategy
  /-- The name as it is. -/
  | identity
  /-- The first letter in lower case. -/
  | lowerFirst
  /-- Words in lower case, joined with low lines. -/
  | underscore
  /-- Words in lower case, joined with hyphens. -/
  | hyphen
  deriving DecidableEq, Repr, Inhabited

namespace NamingStrategy

/-- All strategies, in the order messages list them. -/
def all : List NamingStrategy :=
  [identity, lowerFirst, underscore, hyphen]

/-- The word for a strategy in declarations. -/
def word : NamingStrategy → String
  | identity => "identity"
  | lowerFirst => "lower_first"
  | underscore => "underscore"
  | hyphen => "hyphen"

/-- The strategy a word stands for. -/
def ofWord? (s : String) : Option NamingStrategy :=
  all.find? (·.word == s)

theorem ofWord?_word (s : NamingStrategy) : ofWord? s.word = some s := by
  cases s <;> decide

end NamingStrategy

/-! ### Words -/

/-- Does a new word begin at `c`, which stands after `before` and ahead of `after`? -/
def beginsWord (before c : Char) (after : Option Char) : Bool :=
  c.isUpper && (before.isLower || before.isDigit || (before.isUpper && after.any Char.isLower))

/-- A separator before every word but the first. -/
def separateWords (separator : Char) : List Char → List Char
  | a :: b :: rest =>
    if beginsWord a b rest.head? then a :: separator :: separateWords separator (b :: rest)
    else a :: separateWords separator (b :: rest)
  | cs => cs

/-- A name in lower case with its words separated. -/
def lowerWords (separator : Char) (cs : List Char) : List Char :=
  Text.lower (separateWords separator cs)

/-! ### Conversion and comparison -/

namespace NamingStrategy

/-- The characters of a name respelled by a strategy. -/
def convertChars : NamingStrategy → List Char → List Char
  | identity, cs => cs
  | lowerFirst, [] => []
  | lowerFirst, c :: cs => Text.lower [c] ++ cs
  | underscore, cs => lowerWords '_' cs
  | hyphen, cs => (lowerWords '-' cs).map fun c => if c = '_' then '-' else c

/-- A name respelled by a strategy. -/
def convert (strategy : NamingStrategy) (name : String) : String :=
  String.ofList (strategy.convertChars name.toList)

/-- Does the respelled source name equal the target name up to case? -/
def agree (strategy : NamingStrategy) (source target : String) : Bool :=
  Text.casefold (strategy.convert source) == Text.casefold target

end NamingStrategy

/-! ### Names of routines -/

namespace RoutineName

/-- A type's name as a fragment of a routine's name. -/
def fragment (typeName : String) : String :=
  NamingStrategy.underscore.convert typeName

/-- The routine that maps one type to another. -/
def forward (source target : String) : String :=
  "map_" ++ fragment source ++ "_to_" ++ fragment target

/-- The routine that copies one type's members onto a value of another. -/
def update (source target : String) : String :=
  "update_" ++ fragment target ++ "_from_" ++ fragment source

/-- The routine that makes the projection of one type into another. -/
def projection (source target : String) : String :=
  "project_" ++ fragment source ++ "_to_" ++ fragment target

/-- The private routine of a pair that nobody declared. -/
def helper (source target : String) : String :=
  "_" ++ forward source target

end RoutineName

end Mapsmith
