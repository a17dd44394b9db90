import Mapsmith.Program.Memory
import Mapsmith.Program.Spelling

/-!
# Bases

What a class inherits from. A type in the place of a base stands for the class that it is made of, and what
declares type variables is left out where something else does so. What makes a class is settled by its
bases: one of the ways in which they were made has to cover the others. The class and all that it inherits
from are put in order; there may be no such order.
-/

namespace Mapsmith.Program.Linearization

/-! ### Linearization

The order in which a class and its ancestors are asked for a member. It lists a class before its
ancestors and keeps the order of every ancestor's own linearization and of the bases. There may be
no such order. -/

variable {α : Type} [DecidableEq α]

/-- The first head of the rows that stands in the tail of none. -/
def nextOf (rows : List (List α)) : Option α :=
  rows.findSome? fun row => match row with
    | [] => none
    | x :: _ => if rows.any fun other => x ∈ other.tail then none else some x

/-- A row without an item at its head. -/
def drop (x : α) (row : List α) : List α :=
  if row.head? = some x then row.tail else row

/-- Merges rows in at most so many steps. -/
def mergeWithin : Nat → List (List α) → Option (List α)
  | 0, rows => if rows.all (·.isEmpty) then some [] else none
  | steps + 1, rows =>
    if rows.all (·.isEmpty) then some []
    else do
      let x ← nextOf rows
      return x :: (← mergeWithin steps (rows.map (drop x)))

/-- The merge of rows: every item once, in an order that agrees with every row. Each step uses up an
item of some row. -/
def merge (rows : List (List α)) : Option (List α) :=
  mergeWithin rows.flatten.length rows

/-- The linearization of `x`, given the linearizations of its bases, each with its base at the
head. -/
def extend (x : α) (lines : List (List α)) : Option (List α) :=
  (merge (lines ++ [lines.filterMap (·.head?)])).map (x :: ·)

/-- The heads of the rows where a merge of them comes to no end, in at most so many steps. -/
def stuckWithin : Nat → List (List α) → List α
  | 0, rows => (rows.filterMap (·.head?)).eraseDups
  | steps + 1, rows => match nextOf rows with
    | some x => stuckWithin steps (rows.map (drop x))
    | none => (rows.filterMap (·.head?)).eraseDups

/-- The heads of the lines of bases where a linearization with them comes to no end. -/
def stuck (lines : List (List α)) : List α :=
  let rows := lines ++ [lines.filterMap (·.head?)]
  stuckWithin rows.flatten.length rows

end Mapsmith.Program.Linearization

namespace Mapsmith.Program

/-! ### What makes a class -/

namespace Metaclass

/-- Does what is made in the one way count as made in the other way? -/
def covers : Metaclass → Metaclass → Bool
  | _, .ordinary => true
  | .protocol, .abstract | .model, .abstract => true
  | a, b => a = b

/-- The way that covers two ways, if one of them does. -/
def join? (a b : Metaclass) : Option Metaclass :=
  if a.covers b then some a else if b.covers a then some b else none

/-- Can a class made in this way leave methods open? -/
def canAwait : Metaclass → Bool
  | abstract | protocol | model => true
  | ordinary | enum | anything => false

end Metaclass

/-- What a class is going to be made of. -/
structure Bases where
  /-- What stands in the places of its bases. -/
  given : List Object
  /-- The classes that it inherits from directly. -/
  classes : List ClassId
  deriving Repr

namespace Bases

/-- Does something in the place of a base stand for another class? -/
def isIndirect (b : Bases) : Bool :=
  b.given.any fun o => !(o matches .cls _)

/-- Is the object a type of the library's making, made of others? -/
def isTypingAlias : Object → Bool
  | .formed former _ => former.isTyping
  | .named _ | .annotated .. => true
  | _ => false

/-- The class that a form stands for among bases, with the class of generic classes if nothing after it
brings that along. -/
def ofForm (m : Memory) (given after : List Object) (origin : ClassId) : List ClassId :=
  let bringsGeneric (o : Object) : Bool := isTypingAlias o || match o with
    | .cls c => m.inherits c (.library .generic)
    | _ => false
  (if given.any (Object.same (.cls origin)) then [] else [origin])
    ++ if after.any bringsGeneric then [] else [.library .generic]

/-- The classes that something in the place of a base stands for, given what comes after it. -/
def classesOf (given after : List Object) (o : Object) : Run (List ClassId) := do
  let m ← get
  match o with
  | .cls c => return [c]
  | .formed (.subscripted c) _ => return [c]
  | .formed (.generic c) _ =>
    let isCovered := given.any (Object.same (.cls (.library .protocol))) || after.any isTypingAlias
    return if c = .library .generic && isCovered then [] else [c]
  | .formed .callable _ =>
    return ofForm m given after (.library (.abstractCollection "Callable"))
  | .formed (.named name) _ | .named name => match namedForms.lookup name with
    | some form => return ofForm m given after (.library form.origin)
    | none => return []
  | .annotated inner _ => match inner with
    | .cls c | .formed (.subscripted c) _ | .formed (.generic c) _ => return [c]
    | o => Run.refuse (.other ("Cannot subclass " ++ m.spelling o))
  | o => Run.refuse (.other ("Cannot subclass " ++ m.spelling o))

/-- The classes that things in the places of bases stand for. -/
def classesOfAll (given : List Object) : List Object → Run (List ClassId)
  | [] => return []
  | o :: os => return (← classesOf given os o) ++ (← classesOfAll given os)

/-- Are all things in the places of bases values of one enum? -/
def areValues : List Object → Bool
  | .enumValue owner _ :: os => os.all fun o => match o with
    | .enumValue other _ => other = owner
    | _ => false
  | _ => false

/-- The bases that things in their places stand for. Values of an enum are taken for what makes classes,
until they are asked what they inherit from. -/
def ofObjects (given : List Object) : Run Bases := do
  if areValues given then throw (.noMember "a value of an enum inherits from nothing")
  return ⟨given, ← classesOfAll given given⟩

/-- What makes a class with these bases. -/
def metaclass (m : Memory) (b : Bases) : Option Metaclass :=
  b.classes.foldlM (fun a c => a.join? (m.metaclassOf c)) .ordinary

/-! ### The order of what a class inherits from -/

/-- The classes of the language that nothing can inherit from. -/
def closed : List LibraryClass :=
  [.builtin "bool", .missing, .builtin "slice", .builtin "range", .builtin "memoryview"]

/-- The classes with a layout of their own that a class inherits from. -/
def layouts (m : Memory) (c : ClassId) : List ClassId :=
  (m.line c).filter m.hasLayout

/-- Do the values of a class differ in the room that they take? -/
def isVarying (m : Memory) (c : ClassId) : Bool :=
  ["int", "tuple", "bytes", "type"].any fun name => m.inherits c (.library (.builtin name))

/-- Does a class itself give its values a place of a name? -/
def holdsPlace (m : Memory) (name : String) : ClassId → Bool
  | .library l => (l.holding? name).isSome
  | .program index => (m.class? index).any fun o => o.places.all (name ∈ ·)

/-- Do classes with layouts go together? One of them has to have all that the others have. -/
def areCompatible (layouts : List (List ClassId)) : Bool :=
  layouts.any fun own => layouts.all fun other => other.all (· ∈ own)

/-- The classes that a class with these bases inherits from, in order; the first is the class itself. -/
def line (index : Nat) (b : Bases) : Run (List ClassId) := do
  let m ← get
  match b.classes.find? fun c => match c with
      | .library l => l ∈ closed
      | .program _ => false with
  | some c => Run.refuse (.other ("type " ++ Text.quote (m.nameOf c) ++ " is not an acceptable base type"))
  | none => pure ()
  match b.classes.find? fun c => b.classes.count c > 1 with
  | some c => Run.refuse (.other ("duplicate base class " ++ m.nameOf c))
  | none => pure ()
  let classes := b.classes.filter (· ≠ .everything)
  if !classes.isEmpty && !areCompatible (classes.map (layouts m)) then
    Run.refuse (.other "multiple bases have instance lay-out conflict")
  let disorder (stuck : List ClassId) : Misuse :=
    .other ("Cannot create a consistent method resolution\norder (MRO) for bases "
      ++ ", ".intercalate (stuck.map m.nameOf))
  if ClassId.everything ∈ b.classes.dropLast then
    Run.refuse (disorder (Linearization.stuck (b.classes.map fun c =>
      if c = .everything then [c] else m.line c ++ [ClassId.everything])))
  match Linearization.extend (.program index) (classes.map m.line) with
  | some line => return line
  | none =>
    Run.refuse (disorder (Linearization.stuck (classes.map fun c => m.line c ++ [ClassId.everything])))

/-! ### Type variables -/

/-- The spelling of type variables. -/
def spellingOf (m : Memory) (variables' : List Nat) : String :=
  ", ".intercalate (variables'.map m.variableSpelling)

/-- The type variables that a class with these bases leaves open. Those that are declared are all. -/
def parameters (b : Bases) : Run (List Nat) := do
  if !b.isIndirect then return []
  let m ← get
  let open_ := Object.parameters (b.given.filter fun o => !(o matches .cls _))
  let declarations := b.given.filterMap fun o => match o with
    | .formed (.generic c) args => if c = .library .generic then some (Object.parameters args) else none
    | _ => none
  match declarations with
  | [] => return open_
  | [declared] =>
    if open_.all (· ∈ declared) then return declared
    else Run.refuse (.other ("Some type variables (" ++ spellingOf m (open_.filter (· ∉ declared))
      ++ ") are not listed in Generic[" ++ spellingOf m declared ++ "]"))
  | _ => Run.refuse (.other "Cannot inherit from Generic[...] multiple types.")

end Bases

/-! ### Methods that are waited for -/

/-- The methods that wait for a subclass of a class to define them, seen from the class as it is: its own,
and those that its bases wait for and that still wait in the class. -/
def Memory.awaitedIn (m : Memory) (index : Nat) (c : ClassObject) : List String :=
  let waits (name : String) : Bool :=
    name ∉ classNames && (m.attribute? (.program index) name).any (·.isAbstract)
  let inherited := c.bases.flatMap fun b => match b with
    | .program i => ((m.class? i).map (·.awaited)).getD []
    | .library l => l.awaited
  if c.metaclass.canAwait then
    (inherited.filter waits ++ (c.attributes.filter (·.2.isAbstract)).map (·.1)).eraseDups
  else []

end Mapsmith.Program
