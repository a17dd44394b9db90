import Mapsmith.Directive.Declaration
import Mapsmith.Program.Datum

/-!
# Type expressions

A type as a program writes it. Types are written in the expressions of the program's own language:
names, members of them, subscripts, bars between alternatives, and values where a literal or a note
stands. Little else yields a type, but it can be written; an expression of another form says so when it
is evaluated. A name in quotes is a text here, and becomes an expression when it is looked up.
-/

namespace Mapsmith.Program

/-! ### Parameters

The parameters of functions, over a way to say their types, and how arguments are passed to them: by their
place, by their name, or in both ways. -/

/-- How a parameter is passed. -/
inductive Passing
  | positional
  | either
  | rest
  | keyword
  | keywords
  deriving DecidableEq, Repr, Inhabited

/-- Can an argument be passed to the parameter by its name? -/
def Passing.byName : Passing → Bool
  | either | keyword => true
  | positional | rest | keywords => false

/-- Can an argument be passed to the parameter by its position? -/
def Passing.byPosition : Passing → Bool
  | positional | either => true
  | rest | keyword | keywords => false

/-- A parameter of a function, over a way to say its type. -/
structure Parameter (τ : Type) where
  /-- Its name. -/
  name : String
  /-- Its type. -/
  type : Option τ := none
  /-- Is there a default value? -/
  hasDefault : Bool := false
  /-- How it is passed. -/
  passing : Passing := .either
  deriving Repr

/-- Parameters in the order in which their types are looked at. Those that are passed by position alone come
after those that can be passed in both ways. -/
def Parameter.inTypeOrder {τ : Type} (ps : List (Parameter τ)) : List (Parameter τ) :=
  ps.filter (·.passing = .either) ++ ps.filter (·.passing = .positional)
    ++ ps.filter (!·.passing.byPosition)

/-! ### Notes -/

/-- A note on a type: the marker it is, and how it is written. -/
structure Note where
  /-- What it means for mapping. -/
  marker : Directive.Marker
  /-- How it is written. -/
  spelling : String
  deriving DecidableEq, Repr, Inhabited

namespace Note

/-- The note that leaves a member out. -/
def ignore : Note :=
  ⟨.ignore, "MapIgnore()"⟩

/-- The note that binds a member to a target member. -/
def property (target : String) : Note :=
  ⟨.property target, "MapProperty(target=" ++ Text.quote target ++ ")"⟩

end Note

/-! ### Expressions -/

/-- An expression. -/
inductive Expr
  /-- A name. -/
  | name (name : String)
  /-- A value that is written out. -/
  | constant (value : Value)
  /-- A value of a class of the library that is written out. -/
  | datum (value : Datum)
  /-- A text made of pieces. -/
  | pieces (pieces : List Expr)
  /-- Something as a text, by itself or as a letter says, laid out as another text says. -/
  | shown (way : Option Char) (layout inner : Expr)
  /-- Three dots. -/
  | ellipsis
  /-- A note on a type. -/
  | note (note : Note)
  /-- A member of something. -/
  | member (owner : Expr) (name : String)
  /-- A subscript. -/
  | subscript (owner index : Expr)
  /-- What lies between two places, by a step. -/
  | slice (first last step : Expr)
  /-- Things in a row, with commas. -/
  | row (items : List Expr)
  /-- Things in brackets. -/
  | list (items : List Expr)
  /-- Things in braces. -/
  | set (items : List Expr)
  /-- Keys with values in braces, each a row of both; entries may be set out in place. -/
  | table (entries : List Expr)
  /-- What is gathered by going through things, in brackets of a kind. -/
  | gathered (kind : String) (body : Expr)
  /-- The body for each of some things, under the names of a target. -/
  | each (target things body : Expr)
  /-- The body if a condition holds. -/
  | given (condition body : Expr)
  /-- Alternatives with a bar between them. -/
  | bars (left right : Expr)
  /-- One of two things, by a condition. -/
  | choice (condition yes no : Expr)
  /-- The first of two things that counts as false, or else the second. -/
  | conjunction (left right : Expr)
  /-- The first of two things that counts as true, or else the second. -/
  | disjunction (left right : Expr)
  /-- Does something count as false? -/
  | negation (inner : Expr)
  /-- Things compared in a row, each with the next one. -/
  | comparison (first : Expr) (operators : List String) (others : List Expr)
  /-- An operator on one thing. -/
  | signed (sign : String) (inner : Expr)
  /-- An operator between two things. -/
  | operation (operator : String) (left right : Expr)
  /-- A call. -/
  | call (function : Expr) (args : List Expr)
  /-- A function without a name: how its parameters are passed, under what names, and whether there is a
  default value; then these values, and what it yields. -/
  | abstraction (parameters : List (String × Passing × Bool)) (defaults : List Expr) (body : Expr)
  /-- A thing that gets a name. -/
  | named (name : String) (inner : Expr)
  /-- The parts of something, set out in place. -/
  | spread (inner : Expr)
  /-- The entries of something, set out in place. -/
  | entries (inner : Expr)
  /-- An argument under a name. -/
  | keyword (name : String) (inner : Expr)
  /-- Something that is no expression, as it is written. -/
  | invalid (text : String)
  deriving Repr, Inhabited

namespace Expr

/-- The expression of a dotted name. -/
def ofParts : List String → Expr
  | [] => invalid ""
  | first :: rest => rest.foldl member (name first)

/-- A value as an expression. -/
def ofValue : Value → Expr
  | .list items => .list (items.map fun v => constant v)
  | v => constant v

/-- Things that stand in a subscript: one alone, several in a row. -/
def indices : List Expr → Expr
  | [] => invalid ""
  | [e] => e
  | es => row es

/-- A subscript with things in it. -/
def applied (owner : Expr) (args : List Expr) : Expr :=
  subscript owner (indices args)

/-- The alternatives between the bars of an expression, the nested ones too. -/
def alternatives : Expr → List Expr
  | bars left right => alternatives left ++ alternatives right
  | e => [e]

/-- Expressions with bars between them. -/
def barred (es : List Expr) : Expr :=
  match es.flatMap alternatives with
  | [] => invalid ""
  | first :: rest => rest.foldl bars first

mutual

/-- What stands in an expression and is none. Nothing does in one that has been read from a text. -/
def invalidTexts : Expr → List String
  | member owner _ => invalidTexts owner
  | subscript owner index => invalidTexts owner ++ invalidTexts index
  | row items | list items => invalidTextsOf items
  | bars left right => invalidTexts left ++ invalidTexts right
  | call function args => invalidTexts function ++ invalidTextsOf args
  | invalid text => [text]
  | _ => []

/-- What stands in expressions in a row and is none. -/
def invalidTextsOf : List Expr → List String
  | [] => []
  | e :: es => invalidTexts e ++ invalidTextsOf es

end

end Expr

end Mapsmith.Program
