import Mapsmith.Program.Evaluator

/-!
# Things with places of their own

Lists, sets, tables and the values that classes make can change, and whoever holds one sees the
change. Such a thing is known by its place in the memory. What it is for now is what the place
holds; as a whole, it is what it holds with all that is in it. A thing that is in itself is cut off
where it comes again.
-/

namespace Mapsmith.Program

namespace Memory

variable (m : Memory)

/-- Names as the entries of a table. -/
def entriesOf (names : List (String × Object)) : List Object :=
  names.map fun (name, o) => .row [.text name, o]

/-- The entries of a table as names. -/
def namesOf (entries : List Object) : List (String × Object) :=
  entries.filterMap fun e => match e with
    | .row [.constant (.str name), o] => some (name, o)
    | _ => none

/-- What an object is for now, without a place of its own. The names of a module and those of a
value are seen as tables. -/
def seen : Object → Object
  | .cell place => (m.cells[place]?).getD .none
  | .view "globals" (.module index) => .table (entriesOf (((m.modules[index]?).map (·.allNames)).getD []))
  | .view "vars" (.cell place) => match m.cells[place]? with
    | some (.made _ _ _ members _) => .table (entriesOf members)
    | _ => .table []
  | o => o

/-- The value that an object counts as. A value of an enum that is also one of another class counts
as what is kept in it, and so does what a class has made that is also a value of a class of the
library. -/
def plain (o : Object) : Object :=
  match m.seen o with
  | .enumValue owner name => match m.class? owner with
    | some c =>
      if c.valueType.any fun t => (m.line t).any fun a => a matches .library _ then
        m.seen ((c.keptAt? name).getD o)
      else .enumValue owner name
    | none => .enumValue owner name
  | .made _ _ (kept :: _) _ _ => kept
  | o => o

/-- Is an object a table whose entries count in their order? -/
def isOrderedTable (o : Object) : Bool :=
  match m.seen o with
  | .made _ c (.table _ :: _) _ _ => m.inherits c (.library ⟨"collections", "OrderedDict"⟩)
  | _ => false

/-- How a thing is written where it comes again within itself. -/
def cutOff : Object → Object
  | .list _ => .other "list" "[...]"
  | .table _ => .other "dict" "\x7b...\x7d"
  | .set _ => .other "set" "set(...)"
  | .made _ c _ _ _ => match c with
    | .library l => .other l.name "[...]"
    | .program _ => .other "object" "..."
  | o => o

/-- An object as a whole, as deep as is told; it is within things at some places. -/
def wholeWithin : Nat → List Nat → Object → Object
  | 0, _, o => o
  | levels + 1, around, o =>
    let inner := wholeWithin levels around
    let innerOf (members : List (String × Object)) : List (String × Object) :=
      members.map fun (name, o) => (name, inner o)
    match o with
    | .cell place => match m.cells[place]? with
      | some o => if place ∈ around then cutOff o else wholeWithin levels (place :: around) o
      | none => o
    | .row items => .row (items.map inner)
    | .list items => .list (items.map inner)
    | .set items => .set (items.map inner)
    | .frozenSet items => .frozenSet (items.map inner)
    | .table entries => .table (entries.map inner)
    | .view kind o =>
      if kind = "globals" || kind = "vars" then match m.seen (.view kind o) with
        | .table entries => .table (entries.map inner)
        | seen => seen
      else .view kind (inner o)
    | .formed former args => .formed former (args.map inner)
    | .annotated o notes => .annotated (inner o) (notes.map inner)
    | .slice first last step => .slice (inner first) (inner last) (inner step)
    | .made place c kept members state =>
      .made place c (kept.map inner) (innerOf members) (innerOf state)
    | .method owner name => .method (inner owner) name
    | o => o

/-- How deep things may be within things. -/
def depth : Nat := 3000

/-- An object as a whole. -/
def whole (o : Object) : Object :=
  if m.cells.isEmpty then o else m.wholeWithin depth [] o

/-- How an object is written by itself. -/
def written (o : Object) : String :=
  m.literal (m.whole o)

/-- Can the values of a class be looked up in a table, if a class of the program settles it by what
it says of their numbers or of what they are equal to? A dataclass has rules of its own for what is
equal. -/
def lookUpSettled? (c : ClassId) : Option Bool :=
  ((m.lineage c).findSome? fun (_, a) =>
    match a.attributes.lookup "__hash__", a.attributes.lookup "__eq__" with
    | some (.object o), _ => some (some !(o.same .none))
    | some _, _ => some (some true)
    | none, equality =>
      if a.dataclass.isSome then some none
      else match equality with
        | some (.function f) => if f.isGiven then none else some (some false)
        | some _ => some (some false)
        | none => none).join

/-- The markers that the values of a class of the program keep: whether they are the same as others
with the same members, and whether they can be looked up. -/
def markersOf (c : ClassId) (kept : List Object) : List (String × Object) :=
  let name := match c with
    | .library l => l.typeName
    | .program _ => m.nameOf c
  let isPlain := !m.inherits c (.library (.builtin "bytearray"))
    && kept.all fun o => !(o matches .list _ | .table _ | .set _)
  let (isByValue, isLookedUp) := match m.dataclass? c, m.model? c with
    | some shape, _ => (true, shape.frozen)
    | none, some shape => (true, shape.frozen)
    | none, none => if isPlain then (!kept.isEmpty, true) else (true, false)
  let marker (name : String) (o : Object) (holds : Bool) : List (String × Object) :=
    if holds then [(name, o)] else []
  marker Object.byValue .none isByValue
    ++ marker Object.notLookedUp (.text name) !((m.lookUpSettled? c).getD isLookedUp)

end Memory

namespace Run

/-- A thing with a place of its own. -/
def alloc (o : Object) : Run Object := do
  let place := (← get).cells.size
  modify (·.addCell o)
  return .cell place

/-- A list. -/
def newList (items : List Object) : Run Object :=
  alloc (.list items)

/-- A set. -/
def newSet (items : List Object) : Run Object :=
  alloc (.set items)

/-- A table. -/
def newTable (entries : List Object) : Run Object :=
  alloc (.table entries)

/-- A table of what names mean. -/
def newTableOf (names : List (String × Object)) : Run Object :=
  newTable (names.map fun (name, o) => .row [.text name, o])

/-- What a class has made. -/
def newMade (c : ClassId) (kept : List Object) (members state : List (String × Object)) : Run Object := do
  let m ← get
  alloc (.made m.cells.size c kept members (state ++ m.markersOf c kept))

/-- An object as a whole. -/
def whole (o : Object) : Run Object := do
  return (← get).whole o

/-- How an object is written by itself. -/
def written (o : Object) : Run String := do
  return (← get).written o

/-- How objects are written by themselves. -/
def writtenAll (os : List Object) : Run (List String) := do
  return os.map (← get).written

/-- Changes what a thing with a place of its own is. Nothing else can change. -/
def become (o new : Object) : Run Unit := do
  match o with
  | .cell place => match (← get).cells[place]? with
    | some (.made p c (_ :: _) members state) =>
      modify (·.changeCell place (.made p c [new] members state))
    | _ => modify (·.changeCell place new)
  | .view "globals" (.module index) => match new with
    | .table entries =>
      modify (·.changeModule index fun x =>
        let isNew (e : String × Object) : Bool :=
          (x.names.lookup e.1).isSome || !(x.implicit? e.1).any (·.same e.2)
        { x with names := (Memory.namesOf entries).filter isNew })
    | _ => return
  | .view "vars" (.cell place) => match (← get).cells[place]?, new with
    | some (.made p c kept _ state), .table entries =>
      modify (·.changeCell place (.made p c kept (Memory.namesOf entries) state))
    | _, _ => return
  | _ => return

/-- Changes what a value has under names. -/
def becomeWith (o : Object) (f : List (String × Object) → List (String × Object)) : Run Unit := do
  match o with
  | .cell place => match (← get).cells[place]? with
    | some (.made p c kept members state) =>
      modify (·.changeCell place (.made p c kept (f members) state))
    | _ => return
  | _ => return

/-- Changes what else a value keeps. -/
def keep (o : Object) (name : String) (held : Object) : Run Unit := do
  match o with
  | .cell place => match (← get).cells[place]? with
    | some (.made p c kept members state) =>
      modify (·.changeCell place (.made p c kept members (setEntry name held state)))
    | _ => return
  | _ => return

end Run

end Mapsmith.Program
