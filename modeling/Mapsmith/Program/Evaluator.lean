import Mapsmith.Program.Spelling

/-!
# What evaluation needs

Where an expression stands, and what an evaluation asks for that leads to another one. An expression sees
the names of the functions and loops around it first, then those that are near, then those that are far: the
body of a class has its own names near and those of the module far, and a text that is looked up for a class
has the module near and what the class holds far. Inside of a function or a loop, what is near is not seen.
A name that is private to a class is spelled with the name of the class in front of it.
-/

namespace Mapsmith.Program

/-- The name under which a class keeps a name. One that begins with two underscores, and does not end
with two, is made the class's own by the name of the class in front of it. -/
def keptName (owner name : String) : String :=
  let owner := String.ofList (owner.toList.dropWhile (· = '_'))
  if name.startsWith "__" && !name.endsWith "__" && owner ≠ "" then "_" ++ owner ++ name else name

namespace Scope

/-- The top of a module. -/
def ofModule (index : Nat) : Scope where
  near := .module index
  far := .module index

/-- Is it the top of a module? -/
def isGlobal (s : Scope) : Bool :=
  s.frames.isEmpty && match s.near, s.far with
    | .module a, .module b => a = b
    | _, _ => false

/-- The module whose names are seen from afar. -/
def moduleIndex (s : Scope) : Nat :=
  match s.far, s.near with
  | .module index, _ | _, .module index => index
  | _, _ => 0

/-- The scope inside of a frame. -/
def within (s : Scope) (frame : Nat) : Scope :=
  { s with frames := frame :: s.frames }

end Scope

/-- What evaluations lead to. -/
structure Evaluator where
  /-- What an expression stands for where it stands. -/
  evaluate : Scope → Expr → Run Object
  /-- What a call of an object yields where an expression stands. -/
  call : Scope → Object → Arguments → Run Object
  /-- The next thing that something yields, if there is one more. -/
  next : Object → Run (Option Object)
  /-- What a text stands for. -/
  read : Scope → String → Run Object
  /-- The types of the annotated names of an object. -/
  hints : Object → Run (List (String × Object))
  /-- Sees to it that a model can check what it is built from. -/
  settle : Nat → Run Unit
  deriving Inhabited

namespace Run

/-- What comes of doing something, be it a fault. -/
def attempt {α : Type} (x : Run α) : Run (Except Fault α) :=
  ExceptT.mk do
    let result ← x.run
    return .ok result

/-- Adds a frame: its place. -/
def newFrame (isLoop : Bool) (names : List (String × Object)) : Run Nat := do
  let index := (← get).frames.length
  modify (·.addFrame { isLoop, names })
  return index

end Run

namespace Memory

variable (m : Memory)

/-- What a name means in a space. -/
def inSpace? (s : Space) (name : String) : Option Object :=
  match s with
  | .module index => m.global? index name
  | .names names => names.lookup name
  | .table place => match m.cells[place]? with
    | some (.table entries) => entries.findSome? fun e => match e with
      | .row [.constant (.str key), o] => if key = name then some o else none
      | _ => none
    | _ => none

/-- The names of the module of a name; none if there is no such module. -/
def spaceOf (module : String) : Space :=
  match m.module? module with
  | some index => .module index
  | none => .names []

/-- What the frames of a scope say of a name. -/
def inFrames? (s : Scope) (name : String) : Option Object :=
  s.frames.findSome? fun index => m.frames[index]?.bind (·.names.lookup name)

/-- The names of a space. -/
def namesIn (s : Space) : List (String × Object) :=
  match s with
  | .module index => ((m.modules[index]?).map (·.names)).getD []
  | .names names => names
  | .table place => match m.cells[place]? with
    | some (.table entries) => entries.filterMap fun e => match e with
      | .row [.constant (.str key), o] => some (key, o)
      | _ => none
    | _ => []

end Memory

namespace Run

/-- What a name means. -/
def lookUp (s : Scope) (name : String) : Run Object := do
  let m ← get
  let seen := m.inFrames? s name
  let near := if s.frames.isEmpty && seen.isNone then m.inSpace? s.near name else none
  match seen.or near with
  | some o => return o
  | none =>
    if s.pending = some name && name ∉ s.own then
      throw (if s.owner = "" then .unboundName name else .unknownName name)
    match m.inSpace? s.far name with
    | some o => return o
    | none => match builtin? name with
      | some item => return .ofItem item
      | none => throw (.unknownName name)

/-- The name under which a program knows what is said of mappings. -/
def directivesName : String := "_mc"

/-- What a name means, if it means anything. -/
def meaning? (s : Scope) (name : String) : Run (Option Object) :=
  tryCatch (do return some (← lookUp s name)) fun e => match e with
    | .unknownName _ | .unboundName _ => return none
    | e => throw e

/-- Gives an object a name in a space. -/
def assignIn (space : Space) (name : String) (o : Object) : Run Unit := do
  match space with
  | .module index => modify (·.bind index name o)
  | .names _ => refuse (.other "object does not support item assignment")
  | .table place => match (← get).cells[place]? with
    | some (.table entries) =>
      let isOther (e : Object) : Bool := match e with
        | .row [.constant (.str key), _] => key ≠ name
        | _ => true
      let set (e : Object) : Object := if isOther e then e else .row [.text name, o]
      let entries := if entries.all isOther then entries ++ [.row [.text name, o]] else entries.map set
      modify (·.changeCell place (.table entries))
    | _ => return

/-- Gives an object a name where an expression stands. A loop has no names of its own beside its targets. -/
def assign (s : Scope) (name : String) (o : Object) : Run Unit := do
  let m ← get
  let isFunction (index : Nat) : Bool := m.frames[index]?.any (!·.isLoop)
  match s.frames.find? isFunction, s.frames with
  | some frame, _ => modify (·.bindIn frame name o)
  | none, _ :: _ => assignIn s.far name o
  | none, [] => assignIn s.near name o

end Run

end Mapsmith.Program
