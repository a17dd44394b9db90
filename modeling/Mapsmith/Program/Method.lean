import Mapsmith.Program.Method.Braces
import Mapsmith.Program.Method.Collection
import Mapsmith.Program.Method.Model
import Mapsmith.Program.Method.Special

/-!
# Methods

What is called on objects by the names that these have for it. What a program declares as a method does
nothing and yields the missing value; the methods of the library are those of the kind of the object, and each
tells in its own words what does not fit.
-/

namespace Mapsmith.Program

namespace Run

/-! ### Values that classes of the program have made -/

/-- A method of tuples with named members. -/
def tupleMethod (ev : Evaluator) (s : Scope) (c : ClassId) (names : List String) (items : List Object)
    (name : String) (given : Arguments) : Run Object := do
  let m ← get
  let what := m.nameOf c ++ "." ++ name ++ "()"
  match name with
  | "_asdict" =>
    let _ ← takenBy what "" given
    newTableOf (names.zip items)
  | "_replace" =>
    let _ ← takenBy what "" { given with byName := [] }
    if given.byName.any fun (n, _) => n ∉ names then throw .badValue
    let items := (names.zip items).map fun (n, o) => (given.byName.lookup n).getD o
    newMade c [.row items] [] []
  | "_make" =>
    let o := ((← takenBy what "iterable" given).headD none).getD .none
    let items ← parts ev o
    if items.length ≠ names.length then
      refuse (.other ("Expected " ++ toString names.length ++ " arguments, got " ++ toString items.length))
    newMade c [.row items] [] []
  | name => ev.call s (.method (.row items) name) given

/-- A method of failures. -/
def failureMethod (ev : Evaluator) (s : Scope) (o : Object) (name : String) (given : Arguments)
    (args : List (Option Object)) : Run Object := do
  let m ← get
  let first := argOr args 0
  match name with
  | "with_traceback" =>
    if !isNothing first then refuse (.other "__traceback__ must be a traceback or None")
    return o
  | "add_note" =>
    let note ← textual "note" first
    match ← tryCatch (do return some (← member o "__notes__")) (fun _ => return none) with
    | some notes => match m.plain notes with
      | .list items => become notes (.list (items ++ [.text note]))
      | _ => refuse (.other "Cannot add note: __notes__ is not a list")
    | none =>
      let notes ← newList [.text note]
      becomeWith o (setEntry "__notes__" notes)
    return .none
  | "__setstate__" =>
    if isNothing first then return .none
    match m.entries? first with
    | some entries =>
      becomeWith o fun names => setEntries names (Memory.namesOf entries)
      return .none
    | none => refuse (.other "state is not a dictionary")
  | "split" | "subgroup" =>
    let isWanted (e : Object) : Run Bool := do
      match m.plain first with
      | .cls _ | .row _ => return (← isInstance e first).same (truth true)
      | _ =>
        if isCallable m first then isTrue ev (← ev.call s first (.ofItems [e]))
        else refuse (.other "expected a function, exception type or tuple of exception types")
    let (inner, rest) ← groupParts ev isWanted 100 o
    if name = "split" then return .row [inner.getD .none, rest.getD .none] else return inner.getD .none
  | "derive" =>
    let message := (keptUnder? m o "message").getD .none
    makeFailure ev (.library (.builtin "BaseExceptionGroup")) (.ofItems (message :: given.inPlace))
  | _ => fail "NotImplementedError"

/-! ### Classes -/

/-- What a class makes of a value of the class of the library that it extends. -/
def asValueOf (ev : Evaluator) (s : Scope) (c : ClassId) (value : Object) : Run Object := do
  match c with
  | .program _ => ev.call s (.cls c) (.ofItems [value])
  | .library l => if l = .builtin "bool" || l = .builtin "bytearray" then
      ev.call s (.cls c) (.ofItems [value]) else return value

/-- What is called on a class of the library, under a name that a class of the library holds. -/
def libraryClassMethod (ev : Evaluator) (s : Scope) (holder : LibraryClass) (c : ClassId) (name : String)
    (given : Arguments) (args : List (Option Object)) : Run Object := do
  match holder.qualifiedName, name with
  | "builtins.dict", "fromkeys" | "collections.OrderedDict", "fromkeys" =>
    let entries ← entriesFrom ev args
    if c = .library (.builtin "dict") then newTable entries
    else
      let o ← ev.call s (.cls c) {}
      become o (.table entries)
      return o
  | "builtins.int", _ => asValueOf ev s c (← integerMethod ev 0 name args)
  | "builtins.float", "__getformat__" => floatMethod (.zero false) name args
  | "builtins.float", _ => asValueOf ev s c (← floatMethod (.zero false) name args)
  | "builtins.str", _ => textMethod ev s "" name args
  | "builtins.bytes", "maketrans" | "builtins.bytearray", "maketrans" =>
    bytesMethod ev (.datum (.bytes [])) [] name args
  | "builtins.bytes", _ | "builtins.bytearray", _ =>
    asValueOf ev s c (← bytesMethod ev (.datum (.bytes [])) [] name args)
  | "fractions.Fraction", _ => fractionMethod 0 1 name given
  | "decimal.Decimal", _ => decimalMethod (.ofInt 0) name args
  | "datetime.date", _ | "datetime.datetime", _ | "datetime.time", _ =>
    let l := match c with
      | .library l => l
      | .program _ => holder
    makeMomentBy l name args
  | "collections.Counter", "fromkeys" => fail "NotImplementedError"
  | "collections.ChainMap", "fromkeys" => ev.call s (.cls c) (.ofItems [← newTable (← entriesFrom ev args)])
  | "collections.UserDict", "fromkeys" =>
    ev.call s (.cls c) (.ofItems [← newTable (← entriesFrom ev args)])
  | _, "__class_getitem__" => subscript ev s (.cls c) (argOr args 0)
  | _, _ => fail "NotImplementedError"

/-- What is called on a class, under a name. -/
def classMethod (ev : Evaluator) (s : Scope) (c : ClassId) (name : String) (given : Arguments)
    (held : Option (LibraryClass × List (Option Object))) : Run Object := do
  let m ← get
  match name with
  | "mro" =>
    let _ ← received .nothing "type.mro" name given
    newList (((m.line c).filter (· ≠ .everything) ++ [ClassId.everything]).map .cls)
  | "register" =>
    return ((← takenBy "ABCMeta.register()" "subclass" given).headD none).getD .none
  | "_make" => match m.nearest? c (·.tuple) with
    | some shape => tupleMethod ev s c shape.fields [] name given
    | none => fail "NotImplementedError"
  | name =>
    if (m.model? c).isSome || m.inherits c (.library .model) then modelClassMethod ev s c name given
    else if name = "_missing_" then return .none
    else match held with
      | some (holder, args) => libraryClassMethod ev s holder c name given args
      | none => fail "NotImplementedError"

/-! ### All objects -/

/-- What comes of the bounds of a slice among so many things. -/
def sliceMethod (first last step : Object) (name : String) (args : List (Option Object)) : Run Object := do
  if name ≠ "indices" then fail "NotImplementedError"
  let count ← integer (argOr args 0)
  if count < 0 then throw .badValue
  let (first, last, step) ← sliceOf first last step count.toNat
  return .row [intOf first, intOf last, intOf step]

/-- A method of a value of a class of the library. -/
def datumMethod (ev : Evaluator) (o : Object) (d : Datum) (name : String) (given : Arguments)
    (args : List (Option Object)) : Run Object := do
  match d with
  | .bytes values => match keeper? (← get) o with
    | some "bytearray" => changeableBytesMethod ev o values name args
    | some "memoryview" => bytesViewMethod ev o values name args
    | _ => bytesMethod ev o values name args
  | .range first last step =>
    if name = "__reversed__" then reversedOf ev o
    else rowMethod (integers (Datum.integers first last step)) name args
  | .fraction num den => fractionMethod num den name given
  | .decimal d => decimalMethod d name args
  | .date d => dateMethod d name args
  | .time t => timeMethod t name args
  | .moment d t => momentMethod d t name args
  | .duration n => spanMethod n name
  | .zone z => zoneMethod z name args
  | .complex re im => complexMethod re im name
  | .identifier _ => fail "NotImplementedError"

/-- A method of a value that keeps another one, which has the method. -/
def innerMethod (ev : Evaluator) (s : Scope) (o inner : Object) (name : String) (given : Arguments) :
    Run Object := do
  let m ← get
  let result ← ev.call s (.method inner name) given
  match m.plain inner, (← get).plain result, name with
  | .constant (.str _), .constant (.str _), _ | .list _, .list _, "copy" | .table _, .table _, "copy" =>
    match m.seen o with
    | .made _ c _ _ _ => newMade c [] [("data", result)] [("data", result)]
    | _ => return result
  | _, _, _ => return result

/-- A method of an object under a name that is not one of the language's own, given what is held under it. -/
def valueMethod (ev : Evaluator) (s : Scope) (o : Object) (name : String) (given : Arguments)
    (args : List (Option Object)) : Run Object := do
  let m ← get
  match m.plain o with
  | .constant (.str t) =>
    if name = "format" then formatted ev s t (.given given)
    else textMethod ev s t name args
  | .constant (.float x) => floatMethod x name args
  | .constant (.list vs) => listMethod ev s o (vs.map .constant) name args
  | .constant (.dict es) => tableMethod ev s o (es.map fun (key, v) => .row [.text key, .constant v]) name args
  | .constant v => match v.count? with
    | some n => integerMethod ev n name args
    | none => fail "NotImplementedError"
  | .row items => rowMethod items name args
  | .list items =>
    if keeper? m o = some "deque" then endedListMethod ev o items name args
    else listMethod ev s o items name args
  | .set items => setMethod ev o items false name args
  | .frozenSet items => setMethod ev o items true name args
  | .table entries =>
    if name = "update" then
      checkOneTable (m.isOrderedTable o) given
      become o (.table (← updatedBy ev (m.isOrderedTable o) entries given))
      return .none
    else tableMethod ev s o entries name args
  | .view "mappingproxy" of => match name, m.entries? of with
    | "copy", _ => ev.call s (.method of name) given
    | _, some entries => tableMethod ev s of entries name args
    | _, none => fail "NotImplementedError"
  | .view kind of =>
    if name = "isdisjoint" then
      setMethod ev o (m.viewed kind of) true name args
    else if name = "__reversed__" then reversedOf ev o
    else fail "NotImplementedError"
  | .datum d => datumMethod ev o d name given args
  | .slice first last step => sliceMethod first last step name args
  | _ => fail "NotImplementedError"

/-- A method of what a class has made, if it is one of the class and not of what the value is besides. -/
def madeMethod? (ev : Evaluator) (s : Scope) (o : Object) (c : ClassId) (kept : List Object)
    (members state : List (String × Object)) (name : String) (given : Arguments)
    (args : List (Option Object)) : Run (Option Object) := do
  let m ← get
  let library := (m.line c).findSome? fun a => match a with
    | .library l => if l ≠ .builtin "object" then some l else none
    | .program _ => none
  match m.nearest? c (·.tuple), kept with
  | some shape, [.row items] =>
    if name ∈ ["_asdict", "_replace", "_make"] then
      return some (← tupleMethod ev s c shape.fields items name given)
  | _, _ => pure ()
  if library.any fun l => l.name ∈ ["DecimalTuple"] && name ∈ ["_asdict", "_replace", "_make"] then
    match kept with
    | [.row items] =>
      return some (← tupleMethod ev s c ["sign", "digits", "exponent"] items name given)
    | _ => pure ()
  match state.lookup "maps", kept with
  | some maps, _ => match m.plain maps with
    | .list maps => return ← chainMethod? ev s o maps name given
    | _ => return none
  | none, [.table entries] =>
    if keeper? m o = some "Counter" then return ← countMethod? ev o entries name given
  | _, _ => pure ()
  if let some inner := state.lookup "data" then return some (← innerMethod ev s o inner name given)
  if m.inherits c (.library (.builtin "BaseException")) then
    return some (← failureMethod ev s o name given args)
  if (m.model? c).isSome then return some (← modelMethod ev o c members state name given)
  match state.lookup "type", library with
  | some type, some l => if l.name = "TypeAdapter" then
      return some (← adapterMethod ev s type name given)
  | _, _ => pure ()
  match library with
  | some l =>
    let isOwn := l.module.startsWith "pydantic" && (l.name ≠ "ByteSize" || name ∈ ["human_readable", "to"])
    if isOwn then return some (← modelValueMethod ev o l name given) else return none
  | none => return none

/-- What is held for a method by the classes of the library that an object is of, and what is given to it. -/
def heldFor? (o : Object) (name : String) (given : Arguments) :
    Run (Option (LibraryClass × List (Option Object))) := do
  let m ← get
  let line : List LibraryClass := match o with
    | .cls c => (m.line c).filterMap fun a => match a with
      | .library l => some l
      | .program _ => none
    | .view kind _ => [.builtin kind]
    | o => libraryLine m o
  match line.find? fun l => (l.holding? name).isSome with
  | some l => match convention? l.qualifiedName name with
    | some way => return some (l, ← received way (l.name ++ "." ++ name) name given)
    | none => return some (l, given.inPlace.map some)
  | none => return none

/-- A method of an object under a name that is not one of the language's own, or one of those whose way to be
called is known. -/
def plainMethod (ev : Evaluator) (s : Scope) (o : Object) (name : String) (given : Arguments) :
    Run Object := do
  let m ← get
  match m.seen o with
  | .iterator _ => iteratorMethod ev s o name given
  | .made _ c kept members state =>
    let isOwn := (state.lookup "data").isSome || (state.lookup "maps").isSome || keeper? m o = some "Counter"
    let held ← if isOwn then pure none else heldFor? o name given
    let args := ((held.map (·.2)).getD (given.inPlace.map some))
    match ← madeMethod? ev s o c kept members state name given args with
    | some result => return result
    | none =>
      let args ← if isOwn then do
          pure (((← heldFor? o name given).map (·.2)).getD (given.inPlace.map some))
        else pure args
      valueMethod ev s o name given args
  | .cls c => classMethod ev s c name given (← heldFor? o name given)
  | _ =>
    let held ← heldFor? o name given
    valueMethod ev s o name given ((held.map (·.2)).getD (given.inPlace.map some))

/-- The methods of the language's own that belong to a kind of objects and are called in a way that is known. -/
def isPlainWord (m : Memory) (o : Object) (name : String) : Bool :=
  let isKnown (l : LibraryClass) : Bool := (l.holding? name).isSome && (convention? l.qualifiedName name).isSome
  let general := ["__getitem__", "__contains__", "__format__", "__class_getitem__", "__missing__", "__reduce__",
    "__reduce_ex__", "__getstate__", "__dir__"]
  match o with
  | .cls c => name ∉ general && (m.line c).any fun a => match a with
    | .library l => isKnown l
    | .program _ => false
  | o =>
    let isNumber : Bool := match m.plain o with
      | .datum (.fraction ..) => name ∈ ["__int__", "__trunc__", "__floor__", "__ceil__", "__round__",
        "__complex__", "__copy__", "__deepcopy__"]
      | _ => false
    isNumber || (name ∉ general && (libraryLine m o).any isKnown)

/-- What a method of an object yields. -/
def methodOf (ev : Evaluator) (s : Scope) (o : Object) (name : String) (given : Arguments) :
    Run Object := do
  let m ← get
  let c := match o with
    | .cls c => c
    | o => m.classOf o
  match keptWord? name with
  | none => match declared? m c name with
    | some f => declaredCall f (if f.kind = .free then given else given.after o)
    | none => plainMethod ev s o name given
  | some word =>
    if declares m c name && !(["init", "new", "repr"].contains word) then return .none
    match m.seen o, word with
    | .iterator _, "next" | .iterator _, "length_hint" => iteratorMethod ev s o name given
    | _, "getitem" | _, "contains" | _, "format" | _, "class_getitem" | _, "missing" =>
      match ← heldFor? o name given with
      | some (_, args) => specialMethod ev s o word { given with inPlace := args.filterMap id }
      | none => specialMethod ev s o word given
    | _, _ =>
      if isPlainWord m o name then plainMethod ev s o name given
      else specialMethod ev s o word given

end Run

end Mapsmith.Program
