import Mapsmith.Program.Construction.Collection

/-!
# Names and what they mean

What an object has under a name that is told by a text, what becomes of it when something else is put there, and
the names that an object or a place in a program has.
-/

namespace Mapsmith.Program

namespace Run

/-! ### Members -/

/-- The text that names a member. -/
def memberName (o : Object) : Run String := do
  match (← get).asText? o with
  | some s => return s
  | none => do
    refuse (.other ("attribute name must be string, not " ++ Text.quote ((← get).typeName o)))

/-- What an object has under a name, or else another object. -/
def memberOr (ev : Evaluator) (o : Object) (name : String) (other : Option Object) : Run Object := do
  match other with
  | none => memberSaid ev o name
  | some other => tryCatch (memberSaid ev o name) fun e => match e with
    | .noMember _ => return other
    | e => throw e

/-- Has an object something under a name? -/
def hasMember (ev : Evaluator) (o : Object) (name : String) : Run Bool :=
  tryCatch (do
    let _ ← memberSaid ev o name
    return true) fun e => match e with
      | .noMember _ => return false
      | e => throw e

/-! ### Changing members -/

/-- Names with another meaning for one of them, or without it; what is not there cannot be taken away. -/
def withName {α : Type} (o : Object) (name : String) (new : Option α) (names : List (String × α)) :
    Run (List (String × α)) := do
  match new with
  | some new => return setEntry name new names
  | none =>
    if (names.lookup name).isNone then noMember o name
    return names.filter (·.1 ≠ name)

/-- Refuses to put something under a name of a value whose class has its own say about it. -/
def notChangeable {α : Type} (m : Memory) (o : Object) (name : String) : Run α := do
  let quoted := Text.quote (m.typeName o)
  let line : List LibraryClass := libraryLine m o ++ [LibraryClass.builtin "object"]
  let holding : Option Holding := line.findSome? fun l => l.holding? name
  if m.plain o matches .datum (.identifier _) then refuse (.other "UUID objects are immutable")
  match holding with
  | some .reader =>
    throw (.noMember ("attribute " ++ Text.quote name ++ " of " ++ quoted ++ " objects is not writable"))
  | some .part => throw (.noMember "readonly attribute")
  | some _ => throw (.noMember (quoted ++ " object attribute " ++ Text.quote name ++ " is read-only"))
  | none => noMember o name

/-- Puts something under a name that all failures have, if the name is one. -/
def setFailurePart? (o : Object) (name : String) (new : Object) : Run Bool := do
  let m ← get
  let isFailure := m.isValueOf new (.library (.builtin "BaseException"))
  match name with
  | "args" =>
    match sequence? m new, pooled? m new with
    | some items, _ | none, some (_, items) => keep o Memory.argsName (.row items)
    | none, none => refuse (.other (Text.quote (m.typeName new) ++ " object is not iterable"))
    return true
  | "__cause__" | "__context__" =>
    if !isFailure && !new.same .none then
      refuse (.other ("exception " ++ (if name = "__cause__" then "cause" else "context")
        ++ " must be None or derive from BaseException"))
    keep o name new
    if name = "__cause__" then keep o "__suppress_context__" (.constant (.bool true))
    return true
  | "__traceback__" =>
    if !new.same .none then refuse (.other "__traceback__ must be a traceback or None")
    return true
  | _ => return false

/-- Makes a value one of another class of the program. -/
def remake (o : Object) (c : ClassId) (new : Object) : Run Unit := do
  let m ← get
  match o, new with
  | .cell place, .cls (.program index) => match c, m.cells[place]? with
    | .program _, some (.made p _ kept members state) =>
      modify (·.changeCell place (.made p (.program index) kept members state))
    | _, _ => refused
  | _, .cls _ => refused
  | _, _ =>
    refuse (.other ("__class__ must be set to a class, not " ++ Text.quote (m.typeName new) ++ " object"))
where
  /-- Refuses a class of the library. -/
  refused : Run Unit :=
    refuse (.other "__class__ assignment only supported for mutable types or ModuleType subclasses")

/-- Puts something under a name of a value that a class has made, or takes it away. -/
def setMadeMember (o : Object) (c : ClassId) (members : List (String × Object)) (name : String)
    (new : Option Object) : Run Unit := do
  let m ← get
  let declared := m.attribute? c name
  match declared, m.dataclass? c, m.model? c with
  | some (.property _ hasSetter), _, _ =>
    if hasSetter then return
    throw (.noMember ("property " ++ Text.quote name ++ " of " ++ Text.quote (m.nameOf c)
      ++ " object has no " ++ if new.isSome then "setter" else "deleter"))
  | some (.object (.tupleReader _)), _, _ => throw (.noMember "can't set attribute")
  | _, some shape, _ =>
    if shape.frozen then throw (.raised ⟨"dataclasses", "FrozenInstanceError"⟩)
  | _, none, some shape =>
    if shape.frozen then throw .invalidModel
    if (shape.fields.lookup name).isNone && !name.startsWith "_" then
      if new.isNone then throw (.noMember (Text.quote (m.nameOf c) ++ " object has no attribute " ++ Text.quote name))
      throw .badValue
  | _, none, none => pure ()
  match name, new with
  | "__class__", some new => return ← remake o c new
  | "__dict__", some new => match m.plain new with
    | .table entries => return ← becomeWith o fun _ => Memory.namesOf entries
    | _ => refuse (.other ("__dict__ must be set to a dictionary, not a " ++ Text.quote (m.typeName new)))
  | _, _ => pure ()
  let programs := m.lineage c
  let isOpen := programs.isEmpty || programs.any fun (_, a) =>
    a.places.all (·.contains "__dict__")
  let hasPlace := programs.any fun (_, a) => (a.places.getD []).contains name
  match c with
  | .library l =>
    if l.isBuiltin && LibraryClass.builtin "BaseException" ∉ l.line then notChangeable m o name
  | .program _ => if !isOpen && !hasPlace then notChangeable m o name
  if m.inherits c (.library (.builtin "BaseException")) then
    if let some value := new then
      if ← setFailurePart? o name value then return
  let members ← withName o name new members
  becomeWith o fun _ => members

/-- Puts something under a name of a class of the program, or takes it away. -/
def setClassMember (index : Nat) (c : ClassObject) (name : String) (new : Option Object) : Run Unit := do
  if (c.values.lookup name).isSome then
    throw (.noMember (if new.isSome then "cannot reassign member " ++ Text.quote name
      else Text.quote c.name ++ " cannot delete member " ++ Text.quote name ++ "."))
  match new.filter fun _ => name ∈ ["__name__", "__qualname__", "__module__"] with
  | none => pure ()
  | some o => match name, o.text? with
    | "__module__", text =>
      return ← modify (·.changeClass index fun c => { c with module := text.getD "" })
    | "__name__", some text => return ← modify (·.changeClass index fun c => { c with name := text })
    | _, some text => return ← modify (·.changeClass index fun c => { c with path := text })
    | _, none =>
      refuse (.other ("can only assign string to " ++ c.name ++ "." ++ name ++ ", not "
        ++ Text.quote ((← get).typeName o)))
  match new with
  | some o => modify (·.changeClass index fun c => { c with attributes := setEntry name (.object o) c.attributes })
  | none =>
    if (c.attributes.lookup name).isNone then
      throw (.noMember ("type object " ++ Text.quote c.name ++ " has no attribute " ++ Text.quote name))
    modify (·.changeClass index fun c => { c with attributes := c.attributes.filter (·.1 ≠ name) })

/-- Is a class of the library one that cannot be changed? -/
def isImmutable (l : LibraryClass) : Bool :=
  l.isBuiltin || l.module = "datetime" || l ∈ [⟨"decimal", "Decimal"⟩, ⟨"collections", "deque"⟩,
    ⟨"collections", "OrderedDict"⟩, ⟨"collections", "defaultdict"⟩]

/-- Puts something under a name of an object, or takes it away. -/
def setMember (o : Object) (name : String) (new : Option Object) : Run Unit := do
  let m ← get
  match m.seen o with
  | .cls (.program index) => match m.class? index with
    | some c => setClassMember index c name new
    | none => return
  | .cls (.library l) =>
    if isImmutable l then
      refuse (.other ("cannot set " ++ Text.quote name ++ " attribute of immutable type "
        ++ Text.quote l.typeName))
  | .module index =>
    let names := ((m.modules[index]?).map (·.names)).getD []
    let names ← withName o name new names
    modify (·.changeModule index fun x => { x with names })
  | .made _ c _ members _ => setMadeMember o c members name new
  | .lambda _ | .function _ =>
    if name ∈ ["__name__", "__qualname__"] && (new.bind (·.text?)).isNone then
      refuse (.other (name ++ " must be set to a string object"))
    putExtra m
  | .libraryModule _ | .formed .. | .annotated .. | .typeVariable _ | .special _ | .named _ | .forward .. => putExtra m
  | .enumValue .. =>
    if name = "name" || name = "value" then
      throw (.noMember ("<enum 'Enum'> cannot " ++ (if new.isSome then "set" else "delete") ++ " attribute "
        ++ Text.quote name))
    putExtra m
  | _ => notChangeable m o name
where
  /-- Puts it under the name beside what the object is. -/
  putExtra (m : Memory) : Run Unit := do
    if new.isNone && (m.extra? o name).isNone then noMember o name
    modify (·.setExtra o name new)

/-! ### All names -/

/-- The names that are known where an expression stands, as a table. -/
def knownNames (s : Scope) (isFar : Bool) : Run Object := do
  let m ← get
  let framed := (s.frames.map fun index => ((m.frames[index]?).map (·.names)).getD []).flatten
  if !isFar && !s.frames.isEmpty then return ← newTableOf framed
  match if isFar then s.far else s.near with
  | .module index => return .view "globals" (.module index)
  | .table place => return .cell place
  | .names names => newTableOf names

/-- The names under which classes have something for their values. -/
def namesOfClass (m : Memory) (c : ClassId) : List String :=
  ((m.line c).flatMap fun a => match a with
    | .library l => l.held.map (·.1)
    | .program i => ((m.class? i).map fun o => (classEntries m i o).map (·.1)).getD [])
    ++ (LibraryClass.builtin "object").held.map (·.1) ++ ["__class__", "__doc__"]

/-- The names under which a value of an enum has something. What only the language calls is left out, unless the
value is one of another class too. -/
def namesOfEnumValue (m : Memory) (owner : Nat) : List String :=
  let own := (m.lineage (.program owner)).flatMap fun (_, c) =>
    (c.attributes.map (·.1)).filter fun name => !name.startsWith "_" && (c.values.lookup name).isNone
      && (c.otherNames.lookup name).isNone
  let library := match (m.class? owner).bind (·.valueType) with
    | some (.library l) => l.line.flatMap fun l => l.held.map (·.1)
    | _ => []
  ["__class__", "__doc__", "__eq__", "__hash__", "__module__", "name", "value"] ++ own ++ library

/-- The names under which an object has something, in order. -/
def namesUnder (s : Scope) (o : Option Object) : Run Object := do
  let m ← get
  let names ← match o with
    | none => match m.seen (← knownNames s false) with
      | .table entries => pure ((Memory.keysOf entries).filterMap (·.text?))
      | _ => pure []
    | some o => match m.seen o with
      | .module index => pure (((m.modules[index]?).map fun o => o.allNames.map (·.1)).getD [])
      | .cls c => pure (match c, valuesOfEnum? m c with
          | .program index, some _ =>
            ((m.class? index).map fun o => o.values.map (·.1)).getD []
              ++ ["__class__", "__contains__", "__doc__", "__getitem__", "__init_subclass__", "__iter__",
                "__len__", "__members__", "__module__", "__name__", "__qualname__"]
          | _, _ => namesOfClass m c)
      | .made _ c _ members _ => pure (members.map (·.1) ++ namesOfClass m c
          ++ if (m.lineage c).isEmpty then [] else ["__dict__", "__weakref__", "__module__"])
      | .enumValue owner _ => pure (namesOfEnumValue m owner)
      | o => pure (namesOfClass m (m.classOf o))
  newList ((Text.sort names.eraseDups).map .text)

/-- What an object holds under names. -/
def held (s : Scope) (o : Option Object) : Run Object := do
  match o with
  | none => knownNames s false
  | some o => tryCatch (member o "__dict__") fun e => match e with
    | .noMember _ => refuse (.other "vars() argument must have __dict__ attribute")
    | e => throw e

end Run

end Mapsmith.Program
