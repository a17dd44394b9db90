/-!
# Source locations

Where a diagnostic points: a symbol, with the file and the line that declare it as far as they
are known.
-/

namespace Mapsmith

/-- A place in the source of a program. -/
structure Location where
  /-- The name declared there. -/
  symbol : String
  /-- The file, if known. -/
  path : Option String
  /-- The line, if known. -/
  line : Option Int
  deriving DecidableEq, Repr, Inhabited

namespace Location

/-- A location of which only the symbol is known. -/
def ofSymbol (symbol : String) : Location :=
  ⟨symbol, none, none⟩

/-- The location as the start of a message. -/
def text (l : Location) : String :=
  match l.path, l.line with
  | none, _ => l.symbol
  | some path, none => path ++ ": " ++ l.symbol
  | some path, some line => path ++ ":" ++ toString line ++ ": " ++ l.symbol

end Location

end Mapsmith
