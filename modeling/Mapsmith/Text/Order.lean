/-!
# Sorting by text

Texts are ordered by code point. Everything that is listed in sorted order goes through the one
stable sort of this module, by a key of one text or of several compared in turn.
-/

namespace Mapsmith.Text

variable {α : Type}

/-- An element put ahead of the first element of a list that it may stand before. -/
def place (le : α → α → Bool) (x : α) : List α → List α
  | [] => [x]
  | y :: ys => if le x y then x :: y :: ys else y :: place le x ys

/-- The stable sort by an order: elements of which each may stand before the other keep their
order. -/
def sortBy (le : α → α → Bool) : List α → List α
  | [] => []
  | x :: xs => place le x (sortBy le xs)

/-- The lexicographic comparison of two lists of texts. -/
def keyLe : List String → List String → Bool
  | [], _ => true
  | _ :: _, [] => false
  | a :: as, b :: bs => if a = b then keyLe as bs else decide (a < b)

/-- A stable sort by a key. -/
def sortByKey (key : α → List String) (xs : List α) : List α :=
  sortBy (fun a b => keyLe (key a) (key b)) xs

/-- Texts in order of code points. -/
def sort (xs : List String) : List String :=
  sortBy (fun a b => decide (a ≤ b)) xs

/-- The first occurrence of every text, in order. -/
def distinct (xs : List String) : List String :=
  xs.foldl (fun seen x => if x ∈ seen then seen else seen ++ [x]) []

/-- Texts joined with a separator. -/
abbrev joinWith (separator : String) (parts : List String) : String :=
  separator.intercalate parts

end Mapsmith.Text
