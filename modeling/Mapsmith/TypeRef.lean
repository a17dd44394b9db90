import Mapsmith.Text.Order

/-!
# Type references

The declared type of a member, as far as mapping cares: a named scalar, object or enum, a
collection of something, or a type that is only known by how it is written. A reference can be
nullable at every depth; two references are the same type when they agree up to nullability.
-/

namespace Mapsmith

/-- What a type reference refers to. -/
inductive RefKind
  /-- A built-in value type. -/
  | scalar
  /-- A class with members. -/
  | object
  /-- An enum. -/
  | enum
  /-- A collection of one element type. -/
  | collection
  /-- A type variable. -/
  | typeParameter
  /-- A type known only by how it is written. -/
  | verbatim
  deriving DecidableEq, Repr, Inhabited

/-- The container a collection is rebuilt into. -/
inductive Container
  | list
  | tuple
  | set
  | frozenset
  deriving DecidableEq, Repr, Inhabited

/-- The word for a container. -/
def Container.word : Container → String
  | list => "list"
  | tuple => "tuple"
  | set => "set"
  | frozenset => "frozenset"

/-- A member's declared type. -/
inductive TypeRef
  /-- A reference by name and kind, with type arguments, the container of a collection, and
  whether the value may be missing. -/
  | mk (name : String) (kind : RefKind) (args : List TypeRef) (container : Option Container)
    (nullable : Bool)
  deriving Repr, Inhabited

/-- The last part of a dotted name. -/
def lastPart (name : String) : String :=
  String.ofList (name.toList.reverse.takeWhile (· ≠ '.')).reverse

/-- The name without its last dot and what follows; the name itself if it holds no dot. -/
def allButLastPart (name : String) : String :=
  match name.toList.reverse.dropWhile (· ≠ '.') with
  | _ :: before => String.ofList before.reverse
  | [] => name

/-- The first part of a dotted name. -/
def firstPart (name : String) : String :=
  String.ofList (name.toList.takeWhile (· ≠ '.'))

namespace TypeRef

/-! ### Parts -/

/-- The name a reference is made under. -/
def name : TypeRef → String
  | mk name _ _ _ _ => name

/-- What the reference refers to. -/
def kind : TypeRef → RefKind
  | mk _ kind _ _ _ => kind

/-- The type arguments. -/
def args : TypeRef → List TypeRef
  | mk _ _ args _ _ => args

/-- The container of a collection. -/
def container : TypeRef → Option Container
  | mk _ _ _ container _ => container

/-- May the value be missing? -/
def nullable : TypeRef → Bool
  | mk _ _ _ _ nullable => nullable

/-- A reference without arguments that is not nullable. -/
def plain (name : String) (kind : RefKind) : TypeRef :=
  mk name kind [] none false

/-- A collection of one element type. -/
def collectionOf (container : Container) (element : TypeRef) : TypeRef :=
  mk container.word .collection [element] (some container) false

/-- The element type of a collection. -/
def element? : TypeRef → Option TypeRef
  | mk _ .collection (element :: _) _ _ => some element
  | _ => none

/-- The reference without its own nullability; that of the arguments stays. -/
def nonNull : TypeRef → TypeRef
  | mk name kind args container _ => mk name kind args container false

/-- The reference as one that may be missing. -/
def orMissing : TypeRef → TypeRef
  | mk name kind args container _ => mk name kind args container true

/-! ### Equality -/

mutual

/-- Equality of references. -/
def decEq : (a b : TypeRef) → Decidable (a = b)
  | mk n k as c u, mk n' k' as' c' u' =>
    match decEqs as as' with
    | isTrue hargs =>
      if h : n = n' ∧ k = k' ∧ c = c' ∧ u = u' then
        isTrue (by obtain ⟨rfl, rfl, rfl, rfl⟩ := h; rw [hargs])
      else isFalse fun heq => h (by cases heq; exact ⟨rfl, rfl, rfl, rfl⟩)
    | isFalse hargs => isFalse fun heq => hargs (by cases heq; rfl)

/-- Equality of argument lists. -/
def decEqs : (as bs : List TypeRef) → Decidable (as = bs)
  | [], [] => isTrue rfl
  | [], _ :: _ => isFalse nofun
  | _ :: _, [] => isFalse nofun
  | a :: as, b :: bs =>
    match decEq a b, decEqs as bs with
    | isTrue h, isTrue hs => isTrue (by rw [h, hs])
    | isFalse h, _ => isFalse fun heq => h (by cases heq; rfl)
    | _, isFalse hs => isFalse fun heq => hs (by cases heq; rfl)

end

instance : DecidableEq TypeRef := decEq

mutual

/-- Do two references name the same type, whatever may be missing at any depth? -/
def sameType : TypeRef → TypeRef → Bool
  | mk n k as c _, mk n' k' as' c' _ => n == n' && k == k' && c == c' && sameTypes as as'

/-- Do two argument lists name the same types, one by one? -/
def sameTypes : List TypeRef → List TypeRef → Bool
  | [], [] => true
  | a :: as, b :: bs => sameType a b && sameTypes as bs
  | _, _ => false

end

mutual

/-- The reference with nothing allowed to be missing at any depth. -/
def clear : TypeRef → TypeRef
  | mk name kind args container _ => mk name kind (clearAll args) container false

/-- Every reference of a list with nothing allowed to be missing. -/
def clearAll : List TypeRef → List TypeRef
  | [] => []
  | a :: as => clear a :: clearAll as

end

/-! ### Names within a reference -/

mutual

/-- Every name in a reference, its own first, then those of its arguments in order. -/
def names : TypeRef → List String
  | mk name _ args _ _ => name :: namesAll args

/-- Every name in a list of references. -/
def namesAll : List TypeRef → List String
  | [] => []
  | a :: as => names a ++ namesAll as

end

/-! ### How a reference reads in messages -/

mutual

/-- The short form of a reference: the last part of its name, or its container, then the
arguments in brackets, then a mark if the value may be missing. -/
def display : TypeRef → String
  | mk name kind args container nullable =>
    let base := match kind, container with
      | .collection, some c => c.word
      | _, _ => lastPart name
    let withArgs := match args with
      | [] => base
      | a :: as => base ++ "[" ++ ", ".intercalate (display a :: displays as) ++ "]"
    if nullable then withArgs ++ " | None" else withArgs

/-- The short forms of references in a row. -/
def displays : List TypeRef → List String
  | [] => []
  | a :: as => display a :: displays as

end

end TypeRef

end Mapsmith
