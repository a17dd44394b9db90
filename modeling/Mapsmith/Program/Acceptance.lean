import Mapsmith.Program.Function.Types
import Mapsmith.Program.Function.Kind
import Mapsmith.Program.Method.Moment

/-!
# What types accept

A model checks what it is given by the types of its fields. A type accepts its own values, and also what can be
taken for one of them without doubt: the digits of a number for the number, a number without a fraction for an
integer, a list for a tuple. Of several types the one that an object is of already comes first. What a type with
limits accepts has to be within them.
-/

namespace Mapsmith.Program

namespace Run

/-- Refuses an object that a type does not accept. -/
def notAccepted {α : Type} : Run α :=
  throw .invalidModel

/-- What comes of something that an object does not fit if it fails. -/
def orNotAccepted {α : Type} (x : Run α) : Run α :=
  tryCatch x fun e => match e with
    | .tooDeep => throw e
    | _ => notAccepted

/-! ### Plain values -/

/-- The text that an object is taken for. -/
def acceptedText (o : Object) : Run String := do
  match (← get).plain o with
  | .constant (.str s) => return s
  | .datum (.bytes values) => orNotAccepted (decoded "utf-8" "strict" values)
  | _ => notAccepted

/-- The integer that a text is taken for: digits, perhaps with zeros after a point. -/
def acceptedDigits (s : String) : Run Int := do
  let cs := Run.strippedBy (fun c => c.isWhitespace) true true s.toList
  let whole := cs.takeWhile (· ≠ '.')
  let rest := (cs.dropWhile (· ≠ '.')).drop 1
  if !rest.all (· = '0') || whole.isEmpty then notAccepted
  match Text.integer? (String.ofList whole) with
  | some n => return n
  | none => notAccepted

/-- The integer that an object is taken for. -/
def acceptedInteger (o : Object) : Run Int := do
  match (← get).plain o with
  | .constant (.float x) => match x.toInt? with
    | some n => return n
    | none => notAccepted
  | .constant (.str s) => acceptedDigits s
  | .datum (.bytes values) => acceptedDigits (String.ofList (values.map Char.ofNat))
  | .datum (.decimal d) => match d.fraction? with
    | some (n, 1) => return n
    | _ => notAccepted
  | .constant v => match v.count? with
    | some n => return n
    | none => notAccepted
  | _ => notAccepted

/-- The texts that are taken for true, and those that are taken for false. -/
def truthTexts : List String × List String :=
  (["1", "on", "t", "true", "y", "yes"], ["0", "off", "f", "false", "n", "no"])

/-- The truth value that an object is taken for. -/
def acceptedTruth (o : Object) : Run Bool := do
  match (← get).plain o with
  | .constant (.str s) =>
    let low := s.map Char.toLower
    if low ∈ truthTexts.1 then return true
    else if low ∈ truthTexts.2 then return false
    else notAccepted
  | .constant (.bool b) => return b
  | _ => match ← acceptedInteger o with
    | 0 => return false
    | 1 => return true
    | _ => notAccepted

/-- The binary number that an object is taken for. -/
def acceptedReal (o : Object) : Run Binary64 :=
  orNotAccepted (realOf o)

/-- The things that a collection is made of when it is taken for one of another kind. -/
def acceptedItems (ev : Evaluator) (o : Object) : Run (List Object) := do
  let m ← get
  match m.plain o with
  | .constant (.str _) | .datum (.bytes _) | .table _ | .cls _ => notAccepted
  | _ => orNotAccepted (parts ev o)

/-- The entries of what is taken for a table. -/
def acceptedEntries (o : Object) : Run (List Object) := do
  match mappingOf? (← get) o with
  | some entries => return entries
  | none => notAccepted

/-- The moment, day, time or span that an object is taken for. -/
def acceptedMoment (c : LibraryClass) (o : Object) : Run Object := do
  let m ← get
  let read (s : String) : Run Object :=
    orNotAccepted (makeMomentBy c "fromisoformat" [some (.text s)])
  match m.plain o, c.name with
  | .datum d, name => match d, name with
    | .date _, "date" | .moment .., "datetime" | .time _, "time" | .duration _, "timedelta" => return o
    | .date d, "datetime" => return momentOf d {}
    | .moment d t, "date" => if t.microseconds = 0 then return .datum (.date d) else notAccepted
    | _, _ => notAccepted
  | .constant (.str _), "timedelta" => fail "NotImplementedError"
  | .constant (.str s), _ => read s
  | .constant _, "timedelta" => orNotAccepted (do
      return (← spanOf { byName := [("seconds", o)] }))
  | .constant _, "time" => orNotAccepted (do
      return .datum (.time (TimeOfDay.ofMicroseconds ((← acceptedInteger o) * 1000000).toNat)))
  | .constant .null, _ => notAccepted
  | .constant _, _ =>
    let moment ← momentSince (← acceptedInteger o) 0 (if c.name = "datetime" then some {} else none)
    match m.plain moment, c.name with
    | .datum (.moment d t), "date" =>
      if t.microseconds = 0 then return .datum (.date d) else notAccepted
    | p, _ => return p
  | _, _ => notAccepted

/-- The unit of a size in bytes that a text ends with, and how many bytes it is. -/
def sizeUnits : List (String × Nat) :=
  let kilo := 1000
  let kibi := 1024
  let mega := kilo * kilo
  let mebi := kibi * kibi
  let giga := mega * kilo
  let gibi := mebi * kibi
  let tera := giga * kilo
  let tebi := gibi * kibi
  let peta := tera * kilo
  let pebi := tebi * kibi
  let exa := peta * kilo
  let exbi := pebi * kibi
  [("", 1), ("b", 1), ("kb", kilo), ("mb", mega), ("gb", giga), ("tb", tera), ("pb", peta),
    ("eb", exa), ("kib", kibi), ("mib", mebi), ("gib", gibi), ("tib", tebi),
    ("pib", pebi), ("eib", exbi), ("bit", 0), ("k", kilo), ("m", mega), ("g", giga),
    ("t", tera), ("p", peta), ("e", exa), ("ki", kibi), ("mi", mebi), ("gi", gibi),
    ("ti", tebi), ("pi", pebi), ("ei", exbi)]

/-- The size in bytes that an object is taken for. -/
def acceptedSize (o : Object) : Run Int := do
  match (← get).plain o with
  | .constant (.str s) =>
    let cs := Run.strippedBy (fun c => c.isWhitespace) true true s.toList
    let isInNumber (c : Char) : Bool := c.isDigit || c = '.'
    let unit := String.ofList ((cs.dropWhile isInNumber).dropWhile (·.isWhitespace))
    match sizeUnits.lookup (unit.map Char.toLower), Text.float? (String.ofList (cs.takeWhile isInNumber)) with
    | some n, some x => match x.fraction? with
      | some (num, den) => return truncated (num * Int.ofNat n) den
      | none => notAccepted
    | _, _ => notAccepted
  | _ => acceptedInteger o

/-! ### Limits -/

/-- The number that a note tells after a name. -/
def toldNumber? (shown : String) : Option Object :=
  let text := String.ofList (((shown.toList.dropWhile (· ≠ '=')).drop 1).takeWhile fun c => c ≠ ')' && c ≠ ',')
  match Text.integer? text with
  | some n => some (intOf n)
  | none => (Text.float? text).map floatOf

/-- Checks an object against a note. -/
def checkLimit (ev : Evaluator) (o note : Object) : Run Unit := do
  let told : String → Run Unit := fun shown => do
    let some limit := toldNumber? shown | return
    let kind := String.ofList (shown.toList.takeWhile (· ≠ '('))
    let compareBy (operator : String) : Run Unit := do
      if !(← orNotAccepted (ordered operator o limit)) then notAccepted
    let size : Run Int := do
      match ← orNotAccepted (sizeOf ev o) with
      | .constant (.int n) => return n
      | _ => notAccepted
    match kind, limit with
    | "Gt", _ => compareBy ">"
    | "Ge", _ => compareBy ">="
    | "Lt", _ => compareBy "<"
    | "Le", _ => compareBy "<="
    | "MinLen", .constant (.int n) => if (← size) < n then notAccepted
    | "MaxLen", .constant (.int n) => if (← size) > n then notAccepted
    | "MultipleOf", _ =>
      let rest ← orNotAccepted (operated ev "%" o limit)
      if (← isTrue ev rest) then notAccepted
    | _, _ => return
  match note with
  | .other _ shown => told shown
  | .made _ _ _ members _ => match members.lookup "metadata" with
    | some (.list notes) =>
      for n in notes do
        match n with
        | .other _ shown => told shown
        | _ => pure ()
    | _ => return
  | _ => return

/-! ### Types -/

/-- Is an object of a type already, without being taken for something else? -/
def isOfType (m : Memory) (type o : Object) : Bool :=
  match type with
  | .cls c => if c matches .library _ then m.classOf o = c || (m.plain o matches .enumValue ..) && m.isValueOf o c
    else m.isValueOf o c
  | .formed (.subscripted c) _ | .formed (.generic c) _ => m.isValueOf o c
  | .formed (.named name) _ => (namedForms.lookup name).any fun form => m.isValueOf o (.library form.origin)
  | .formed .literal values => values.any fun v => v.same (m.plain o) && Object.sameType v (m.plain o)
  | .annotated (.cls c) _ => m.classOf o = c
  | .constant .null => isNothing o
  | _ => false

/-- Does a type accept anything? -/
def isOpenType (c : LibraryClass) : Bool :=
  c = .anything || c = .builtin "object"

/-- What a class of the library accepts, given what it is of. -/
def acceptedByLibrary (ev : Evaluator) (s : Scope) (inner : Object → Object → Run Object) (c : LibraryClass)
    (args : List Object) (o : Object) : Run Object := do
  let m ← get
  let each (items : List Object) : Run (List Object) :=
    items.mapM fun item => inner (args.headD .anything) item
  let isOne : Run Object := if m.isValueOf o (.library c) then return o else notAccepted
  let entries : Run (List Object) := do
    (← acceptedEntries o).mapM fun e => match e with
      | .row [key, value] => do
        return .row [← inner (args.headD .anything) key, ← inner (args.getD 1 .anything) value]
      | e => return e
  let sequence : Run (List Object) := do each (← acceptedItems ev o)
  match c.qualifiedName with
  | "builtins.int" => return intOf (← acceptedInteger o)
  | "builtins.bool" => return truth (← acceptedTruth o)
  | "builtins.float" => return floatOf (← acceptedReal o)
  | "builtins.str" => return .text (← acceptedText o)
  | "builtins.complex" => orNotAccepted (construct ev s c (.ofItems [o]))
  | "builtins.bytes" => match m.plain o with
    | .constant (.str t) => return .datum (.bytes (← encoded "utf-8" "strict" t))
    | .datum (.bytes values) => return .datum (.bytes values)
    | _ => notAccepted
  | "builtins.NoneType" => if isNothing o then return o else notAccepted
  | "builtins.list" | "collections.abc.MutableSequence" => newList (← sequence)
  | "collections.abc.Sequence" => match m.plain o with
    | .row _ => return .row (← sequence)
    | _ => newList (← sequence)
  | "collections.abc.Iterable" | "collections.abc.Generator" | "collections.abc.Collection" =>
    newList (← sequence)
  | "builtins.set" | "collections.abc.MutableSet" | "collections.abc.Set" => newSet (← setOf (← sequence))
  | "builtins.frozenset" => return .frozenSet (← setOf (← sequence))
  | "collections.deque" => newMade (.library c) [.list (← sequence)] [] [("maxlen", .none)]
  | "builtins.tuple" => match args with
    | [] => return .row (← acceptedItems ev o)
    | [item, .ellipsis] => return .row (← (← acceptedItems ev o).mapM (inner item))
    | types =>
      let items ← acceptedItems ev o
      if items.length ≠ types.length then notAccepted
      return .row (← (types.zip items).mapM fun (type, item) => inner type item)
  | "builtins.dict" | "collections.abc.Mapping" | "collections.abc.MutableMapping" => newTable (← entries)
  | "collections.OrderedDict" | "collections.defaultdict" | "collections.Counter" =>
    newMade (.library c) [.table (← entries)] [] []
  | "builtins.type" => match o, args with
    | .cls _, [] => return o
    | .cls _, base :: _ => if (← orNotAccepted (isSubclass o base)).same (truth true) then return o else notAccepted
    | _, _ => notAccepted
  | "collections.abc.Callable" => if isCallable m o then return o else notAccepted
  | "collections.abc.Hashable" => if (← unhashable? o).isNone then return o else notAccepted
  | "decimal.Decimal" => match m.plain o with
    | .datum (.decimal _) => return o
    | .constant (.str _) | .constant (.int _) => orNotAccepted (construct ev s c (.ofItems [o]))
    | .constant (.float _) => orNotAccepted (do construct ev s c (.ofItems [.text (← display ev o)]))
    | _ => notAccepted
  | "uuid.UUID" => match m.plain o with
    | .datum (.identifier _) => return o
    | .constant (.str _) => orNotAccepted (construct ev s c (.ofItems [o]))
    | .datum (.bytes _) => orNotAccepted (construct ev s c { byName := [("bytes", o)] })
    | _ => notAccepted
  | "fractions.Fraction" => orNotAccepted (construct ev s c (.ofItems [o]))
  | "datetime.date" | "datetime.datetime" | "datetime.time" | "datetime.timedelta" => acceptedMoment c o
  | "pydantic.types.ByteSize" => newMade (.library c) [intOf (← acceptedSize o)] [] []
  | "pydantic.types.SecretStr" | "pydantic.types.SecretBytes" =>
    if m.isValueOf o (.library c) then return o
    let text ← acceptedText o
    let secret ← if c.name = "SecretBytes" then
        pure (Object.datum (.bytes (← encoded "utf-8" "strict" text))) else pure (.text text)
    ev.call s (.cls (.library c)) (.ofItems [secret])
  | "pydantic.types.Json" => fail "NotImplementedError"
  | name =>
    if isOpenType c then return o
    if c.module = "pydantic.networks" && (name.endsWith "Url" || name.endsWith "Dsn") then makeAddress c o
    else isOne

/-- What a class of the program accepts. -/
def acceptedByProgram (ev : Evaluator) (s : Scope) (inner : Object → Object → Run Object) (index : Nat)
    (c : ClassObject) (o : Object) : Run Object := do
  let m ← get
  let id := ClassId.program index
  if m.isValueOf o id then return o
  let named (shape : List (String × Object)) (entries : List Object) : Run Arguments := do
    let byName ← (Memory.namesOf entries).mapM fun (name, value) => match shape.lookup name with
      | some type => do return (name, ← inner type value)
      | none => return (name, value)
    return { byName := byName.filter fun (name, _) => (shape.lookup name).isSome }
  if c.metaclass = .enum then orNotAccepted (ev.call s (.cls id) (.ofItems [o]))
  else if c.metaclass = .model then
    ev.call s (.cls id) { byName := Memory.namesOf (← acceptedEntries o) }
  else match m.nearest? id (·.tuple), m.dataclass? id with
    | some shape, _ =>
      let hints ← ev.hints (.cls id)
      match m.entries? (m.plain o) with
      | some entries => orNotAccepted (do ev.call s (.cls id) (← named hints entries))
      | none =>
        let items ← acceptedItems ev o
        let items ← (shape.fields.zip items).mapM fun (name, item) =>
          inner ((hints.lookup name).getD .anything) item
        orNotAccepted (ev.call s (.cls id) (.ofItems items))
    | none, some _ =>
      let given ← named (← ev.hints (.cls id)) (← acceptedEntries o)
      orNotAccepted (ev.call s (.cls id) given)
    | none, none => notAccepted

/-- What a type accepts an object as, as deep as is told. -/
def acceptedWithin (ev : Evaluator) (s : Scope) : Nat → Object → Object → Run Object
  | 0, _, _ => throw .tooDeep
  | levels + 1, type, o => do
    let m ← get
    let inner := acceptedWithin ev s levels
    let oneOf (types : List Object) : Run Object := do
      match types.find? fun type => isOfType m type o with
      | some type => inner type o
      | none =>
        let tries ← types.mapM fun type => attempt (inner type o)
        match tries.findSome? fun e => e.toOption with
        | some new => return new
        | none => notAccepted
    let byClass (c : ClassId) (args : List Object) : Run Object := do
      match c with
      | .library c => acceptedByLibrary ev s inner c args o
      | .program index => match m.class? index with
        | some c => acceptedByProgram ev s inner index c o
        | none => notAccepted
    match type with
    | .cls c => byClass c []
    | .formed (.subscripted c) args | .formed (.generic c) args => byClass c args
    | .formed (.named name) args => match namedForms.lookup name with
      | some form => byClass (.library form.origin) args
      | none => return o
    | .named name => match namedForms.lookup name with
      | some form => byClass (.library form.origin) []
      | none => return o
    | .formed .union types | .formed .bars types => oneOf types
    | .formed .literal values =>
      if values.any fun v => v.same (m.plain o) && Object.sameType v (m.plain o) then return o
      else notAccepted
    | .formed .callable _ => if isCallable m o then return o else notAccepted
    | .formed (.special _) (inner' :: _) => inner inner' o
    | .annotated type notes =>
      let new ← inner type o
      for note in notes do checkLimit ev new note
      return new
    | .constant .null => if isNothing o then return o else notAccepted
    | .typeVariable index => match m.typeVariables[index]? with
      | some v => match v.bound, v.constraints with
        | some bound, _ => inner bound o
        | none, types@(_ :: _) => oneOf types
        | none, [] => return o
      | none => return o
    | _ => return o

/-- What a type accepts an object as. -/
def accepted (ev : Evaluator) (s : Scope) (type o : Object) : Run Object :=
  acceptedWithin ev s 200 type o

end Run

end Mapsmith.Program
