import Mapsmith.Program.Construction.Collection

/-!
# Failures of what they are given

A failure keeps what it is given. Some kinds of failures know more by it: why the system refused something and for
which file, what could not be imported, where a program is malformed, which bytes stand for no text, and which other
failures they stand for.
-/

namespace Mapsmith.Program

namespace Run

/-- The failures that numbers of the system stand for. -/
def systemFailures : List (Nat × String) :=
  [(11, "BlockingIOError"), (114, "BlockingIOError"), (115, "BlockingIOError"), (32, "BrokenPipeError"),
    (108, "BrokenPipeError"), (10, "ChildProcessError"), (103, "ConnectionAbortedError"),
    (111, "ConnectionRefusedError"), (104, "ConnectionResetError"), (17, "FileExistsError"),
    (2, "FileNotFoundError"), (21, "IsADirectoryError"), (20, "NotADirectoryError"), (4, "InterruptedError"),
    (13, "PermissionError"), (1, "PermissionError"), (3, "ProcessLookupError"), (110, "TimeoutError")]

/-- What a failure of the system knows: its class, what it was given, and the rest. -/
def systemFailure (c : ClassId) (args : List Object) :
    Run (ClassId × List Object × List (String × Object)) := do
  let m ← get
  let isTold := 2 ≤ args.length && args.length ≤ 5
  let at_ (i : Nat) : Object := (args[i]?).getD .none
  let c := if c = .library (.builtin "OSError") && isTold then
      match m.plain (at_ 0) with
      | .constant (.int n) => match if 0 ≤ n then systemFailures.lookup n.toNat else none with
        | some name => .library (.builtin name)
        | none => c
      | _ => c
    else c
  if !isTold then
    return (c, args, [("errno", .none), ("strerror", .none), ("filename", .none), ("filename2", .none)])
  let isBlocking := m.inherits c (.library (.builtin "BlockingIOError"))
  let written := if isBlocking then (Number.of? (m.plain (at_ 2))).bind fun x => match x with
      | .int n => some n
      | _ => none
    else none
  let told := [("errno", at_ 0), ("strerror", at_ 1)]
  match written with
  | some n =>
    return (c, args, told ++ [("filename", .none), ("filename2", .none), ("characters_written", intOf n)])
  | none =>
    let short := if (at_ 2).same .none then args else args.take 2
    return (c, short, told ++ [("filename", at_ 2), ("filename2", at_ 4)])

/-- What a failure of a program's form knows: the file, the place in it and the text there. -/
def formFailure (ev : Evaluator) (args : List Object) : Run (List (String × Object)) := do
  let start := [("msg", args.headD .none), ("print_file_and_line", Object.none)]
  let names := ["filename", "lineno", "offset", "text", "end_lineno", "end_offset"]
  match args with
  | [_, place] =>
    let told ← parts ev place
    if told.length < 4 then
      refuse (.other ("function takes at least 4 arguments (" ++ toString told.length ++ " given)"))
    if told.length > 6 then
      refuse (.other ("function takes at most 6 arguments (" ++ toString told.length ++ " given)"))
    if told.length = 5 then
      refuse (.other "end_offset must be provided when end_lineno is provided")
    return start ++ names.zipIdx.map fun (name, i) => (name, (told[i]?).getD .none)
  | _ => return start ++ names.map (·, Object.none)

/-- What a failure of an encoding knows: the encoding, what is exchanged, where it fails and why. -/
def codingFailure (kind : String) (args : List Object) : Run (List (String × Object)) := do
  let m ← get
  let isTranslation := kind = "UnicodeTranslateError"
  let count := if isTranslation then 4 else 5
  if args.length ≠ count then
    refuse (.other ("function takes exactly " ++ toString count ++ " arguments (" ++ toString args.length
      ++ " given)"))
  let text (place : Nat) : Run Unit := do
    let o := (args[place]?).getD .none
    if (m.plain o).text?.isNone then
      refuse (.other ("argument " ++ toString (place + 1) ++ " must be str, not " ++ m.typeName o))
  let first := if isTranslation then 0 else 1
  if !isTranslation then text 0
  if kind = "UnicodeDecodeError" then
    let o := (args[1]?).getD .none
    if (← bytes? o).isNone then
      refuse (.other ("a bytes-like object is required, not " ++ Text.quote (m.typeName o)))
  else text first
  let _ ← integer ((args[first + 1]?).getD .none)
  let _ ← integer ((args[first + 2]?).getD .none)
  text (first + 3)
  let names := (if isTranslation then [] else ["encoding"]) ++ ["object", "start", "end", "reason"]
  return names.zip args

/-- What a failure that stands for others knows: its class, what it says, and the others. -/
def groupFailure (c : ClassId) (args : List Object) : Run (ClassId × List (String × Object)) := do
  let m ← get
  match args with
  | [message, others] =>
    let o := m.plain message
    if o.text?.isNone then
      refuse (.other ("BaseExceptionGroup.__new__() argument 1 must be str, not " ++ m.typeName message))
    let isRow := (sequence? m others).isSome
    let some items := if isRow then sequence? m others else none
      | refuse (.other "second argument (exceptions) must be a sequence")
    if items.isEmpty then throw .badValue
    let isFailure (name : String) (o : Object) : Bool :=
      m.inherits (m.classOf o) (.library (.builtin name))
    if !items.all (isFailure "BaseException") then throw .badValue
    let isUsual := items.all (isFailure "Exception")
    let group : ClassId := .library (.builtin "ExceptionGroup")
    if !isUsual && m.inherits c (.library (.builtin "Exception")) then
      refuse (.other (if c = group then "Cannot nest BaseExceptions in an ExceptionGroup"
        else "Cannot nest BaseExceptions in " ++ Text.quote (m.nameOf c)))
    let c := if isUsual && c = .library (.builtin "BaseExceptionGroup") then group else c
    return (c, [("message", message), ("exceptions", .row items)])
  | _ =>
    refuse (.other ("BaseExceptionGroup.__new__() takes exactly 2 arguments (" ++ toString args.length
      ++ " given)"))

/-- A failure of what it is given. -/
def makeFailure (ev : Evaluator) (c : ClassId) (given : Arguments) : Run Object := do
  let m ← get
  let isOf (name : String) : Bool := m.inherits c (.library (.builtin name))
  let args := given.inPlace
  let (c, args, own) ←
    if isOf "OSError" then systemFailure c args
    else if isOf "BaseExceptionGroup" then do
      let (c, own) ← groupFailure c args
      pure (c, args, own)
    else pure (c, args, [])
  let named : List (String × List String) := [("ImportError", ["name", "path"]), ("NameError", ["name"]),
    ("AttributeError", ["name", "obj"])]
  let own ← match named.find? fun (name, _) => isOf name with
    | some (name, names) =>
      if given.byName.length > names.length then
        refuse (.other (name ++ "() takes at most " ++ toString names.length ++ " keyword "
          ++ plural names.length "argument" ++ " (" ++ toString given.byName.length ++ " given)"))
      match given.byName.find? fun (n, _) => n ∉ names with
      | some (n, _) =>
        refuse (.other (Text.quote n ++ " is an invalid keyword argument for " ++ name ++ "()"))
      | none => pure ()
      pure (own ++ (names.map fun n => (n, (given.byName.lookup n).getD .none))
        ++ if name = "ImportError" then [("msg", if args.length = 1 then args.headD .none else .none)] else [])
    | none =>
      if !given.byName.isEmpty then
        refuse (.other (m.nameOf c ++ "() takes no keyword arguments"))
      if isOf "SyntaxError" then formFailure ev args
      else match ["UnicodeDecodeError", "UnicodeEncodeError", "UnicodeTranslateError"].find? (isOf ·) with
        | some kind => codingFailure kind args
        | none =>
          if isOf "StopIteration" then pure [("value", args.headD .none)]
          else if isOf "SystemExit" then
            pure [("code", if args.length > 1 then .row args else args.headD .none)]
          else pure own
  newMade c [] [] ((Memory.argsName, .row args) :: ("__suppress_context__", truth false) :: own)

/-- The parts of a group of failures that a condition holds for and that it does not hold for, as deep as is
told. -/
def groupParts (ev : Evaluator) (isWanted : Object → Run Bool) : Nat → Object → Run (Option Object × Option Object)
  | 0, _ => throw .tooDeep
  | levels + 1, o => do
    if ← isWanted o then return (some o, none)
    let m ← get
    match m.seen o with
    | .made _ c _ _ state =>
      if !m.inherits c (.library (.builtin "BaseExceptionGroup")) then return (none, some o)
      let message := (state.lookup "message").getD .none
      let others := ((state.lookup "exceptions").map Object.items).getD []
      let halves ← others.mapM (groupParts ev isWanted levels)
      let group (os : List Object) : Run (Option Object) := do
        if os.isEmpty then return none
        let base : ClassId := .library (.builtin "BaseExceptionGroup")
        return some (← makeFailure ev base (.ofItems [message, ← newList os]))
      return (← group (halves.filterMap (·.1)), ← group (halves.filterMap (·.2)))
    | _ => return (none, some o)

end Run

end Mapsmith.Program
