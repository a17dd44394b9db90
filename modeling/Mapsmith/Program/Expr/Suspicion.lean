import Mapsmith.Program.Expr

/-!
# Suspicious expressions

An expression can be well formed and make no sense all the same: a value that is written out is called, or it
has no parts and is asked for one, or its parts go by their places and it is asked for something else, or it
is asked whether it is one thing with another. All of this shows before anything is evaluated. It is
looked for from the outside to the inside, and a part that has a value already is above suspicion.
-/

namespace Mapsmith.Program

/-- What is suspicious about an expression. The types are those of what is written out in it. -/
inductive Suspicion
  /-- What cannot be called is called. -/
  | called (type : String)
  /-- What has no parts is asked for one. -/
  | asked (type : String)
  /-- What has parts by their places is asked for something else. -/
  | askedFor (type index : String)
  /-- It is asked whether a value is one thing with something, or whether it is not. -/
  | identified (negated : Bool)
  deriving DecidableEq, Repr

/-- The wording of a suspicion. -/
def Suspicion.text : Suspicion → String
  | called type => Text.quote type ++ " object is not callable; perhaps you missed a comma?"
  | asked type => Text.quote type ++ " object is not subscriptable; perhaps you missed a comma?"
  | askedFor type index =>
    type ++ " indices must be integers or slices, not " ++ index ++ "; perhaps you missed a comma?"
  | identified false => "\"is\" with a literal. Did you mean \"==\"?"
  | identified true => "\"is not\" with a literal. Did you mean \"!=\"?"

/-! ### Values that are known at once -/

/-- A value that an expression has before it is evaluated. -/
inductive Settled
  /-- A plain value. -/
  | value (v : Value)
  /-- A value of a class of the library. -/
  | datum (d : Datum)
  /-- Three dots. -/
  | ellipsis
  /-- Values in a row. -/
  | row (items : List Settled)
  deriving Repr

namespace Settled

/-- The name of the type of a value. -/
def type : Settled → String
  | value .null => "NoneType"
  | value (.bool _) => "bool"
  | value (.int _) => "int"
  | value (.float _) => "float"
  | value (.str _) | value (.moment _) => "str"
  | value (.list _) => "list"
  | value (.dict _) => "dict"
  | datum d => d.cls.name
  | ellipsis => "ellipsis"
  | row _ => "tuple"

/-- The integer that a value counts as. -/
def int? : Settled → Option Int
  | value (.bool b) => some (if b then 1 else 0)
  | value (.int n) => some n
  | _ => none

/-- Is there one value of its kind only? -/
def isSingle : Settled → Bool
  | value .null | value (.bool _) | ellipsis => true
  | _ => false

/-- Is it a value without parts? -/
def isPartless (v : Settled) : Bool :=
  v.type ∈ ["NoneType", "ellipsis", "bool", "int", "float", "complex"]

/-- What is at a place, counted from the end if the place is below zero. -/
def at? {α : Type} (items : List α) (place : Int) : Option α :=
  let place := if place < 0 then place + items.length else place
  if place < 0 then none else items[place.toNat]?

/-- The part of a value at a place. -/
def part? (v : Settled) (place : Int) : Option Settled :=
  match v with
  | value (.str s) => (at? s.toList place).map fun c => value (.str c.toString)
  | datum (.bytes values) => (at? values place).map fun n => value (.int n)
  | row items => at? items place
  | _ => none

/-- A number with a sign. -/
def signed? (sign : String) (v : Settled) : Option Settled :=
  match sign, v.int? with
  | "-", some n => some (value (.int (-n)))
  | "+", some n => some (value (.int n))
  | "~", some n => some (value (.int (-n - 1)))
  | _, _ => none

/-- What an operator makes of two values. -/
def combined? (operator : String) (v w : Settled) : Option Settled :=
  match operator, v, w with
  | "+", value (.str s), value (.str t) => some (value (.str (s ++ t)))
  | "+", row vs, row ws => some (row (vs ++ ws))
  | operator, v, w => do
    let n ← v.int?
    let k ← w.int?
    match operator with
    | "+" => some (value (.int (n + k)))
    | "-" => some (value (.int (n - k)))
    | "*" => some (value (.int (n * k)))
    | _ => none

end Settled

namespace Expr

mutual

/-- The value that an expression has before it is evaluated, if it has one. -/
def settled? : Expr → Option Settled
  | constant v => some (.value v)
  | datum d => some (.datum d)
  | ellipsis => some .ellipsis
  | row items => (settledAll? items).map .row
  | signed sign inner => (settled? inner).bind (·.signed? sign)
  | operation operator left right => do (← settled? left).combined? operator (← settled? right)
  | subscript owner index => do (← settled? owner).part? (← (← settled? index).int?)
  | _ => none

/-- The values that expressions in a row have before they are evaluated, if all have one. -/
def settledAll? : List Expr → Option (List Settled)
  | [] => some []
  | e :: es => do return (← settled? e) :: (← settledAll? es)

end

/-- The name of the type of what an expression writes out. -/
def writtenType? (e : Expr) : Option String :=
  ((settled? e).map (·.type)).or <| match e with
    | row _ => some "tuple"
    | list _ => some "list"
    | set _ => some "set"
    | table _ => some "dict"
    | gathered kind _ => some kind
    | abstraction .. => some "function"
    | pieces _ | shown .. => some "str"
    | _ => none

/-! ### Suspicions -/

/-- What is suspicious about a call of something. Functions can be called. -/
def suspectCall (function : Expr) : List Suspicion :=
  match function with
  | abstraction .. => []
  | e => (e.writtenType?.map .called).toList

/-- What is suspicious about the question for a part. -/
def suspectPart (owner index : Expr) : List Suspicion :=
  match owner.writtenType? with
  | none => []
  | some type =>
    let isPartless := decide (type ∈ ["set", "generator", "function"])
    if (owner.settled?.map (·.isPartless)).getD isPartless then [.asked type]
    else if type = "dict" then []
    else match index.writtenType? with
      | none => []
      | some indexType => if indexType ∈ ["int", "bool"] then [] else [.askedFor type indexType]

/-- The comparison that says the opposite. -/
def opposite (operator : String) : String :=
  if operator = "is" then "is not" else if operator = "is not" then "is" else operator

/-- What is suspicious about comparisons in a row, given whether what they begin with is a value that others
can be equal to. The first suspicion counts. -/
def suspectComparison : Bool → List String → List Expr → Option Suspicion
  | left, operator :: operators, e :: es =>
    let right := (e.settled?.map (!·.isSingle)).getD false
    if (left || right) && operator ∈ ["is", "is not"] then some (.identified (operator = "is not"))
    else suspectComparison right operators es
  | _, _, _ => none

/-- What is suspicious about comparisons in a row. -/
def suspectComparisons (first : Expr) (operators : List String) (others : List Expr) : List Suspicion :=
  (suspectComparison ((first.settled?.map (!·.isSingle)).getD false) operators others).toList

mutual

/-- What is suspicious about an expression, in the order in which it is found. -/
def suspicions (e : Expr) : List Suspicion :=
  if e.settled?.isSome then [] else match e with
  | call function args => suspectCall function ++ suspicions function ++ suspicionsOf args
  | subscript owner index => suspectPart owner index ++ suspicions owner ++ suspicions index
  | comparison first operators others =>
    suspectComparisons first operators others ++ suspicions first ++ suspicionsOf others
  | negation (comparison first [operator] others) =>
    suspectComparisons first [opposite operator] others ++ suspicions first ++ suspicionsOf others
  | pieces items | row items | list items | set items | table items => suspicionsOf items
  | shown _ layout inner => suspicions inner ++ suspicions layout
  | slice first last step => suspicions first ++ suspicions last ++ suspicions step
  | gathered _ (each _ things body) => suspicions body ++ suspicions things
  | each _ things body => suspicions things ++ suspicions body
  | given condition body => suspicions condition ++ suspicions body
  | choice condition yes no => suspicions condition ++ suspicions yes ++ suspicions no
  | bars left right | conjunction left right | disjunction left right | operation _ left right =>
    suspicions left ++ suspicions right
  | abstraction _ defaults body => suspicionsOf defaults ++ suspicions body
  | negation inner | member inner _ | signed _ inner | named _ inner | spread inner | entries inner | keyword _ inner
  | gathered _ inner => suspicions inner
  | name _ | constant _ | datum _ | ellipsis | note _ | invalid _ => []

/-- What is suspicious about expressions in a row. -/
def suspicionsOf : List Expr → List Suspicion
  | [] => []
  | e :: es => suspicions e ++ suspicionsOf es

end

end Expr

end Mapsmith.Program
