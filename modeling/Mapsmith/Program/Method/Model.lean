import Mapsmith.Program.Acceptance
import Mapsmith.Value.Json

/-!
# Methods of models

What is called on models, on their values and on what belongs to them: values are taken apart into tables and
made of tables, copied and written, fields tell whether they are required, a type can be asked what it accepts.
-/

namespace Mapsmith.Program

namespace Run

/-! ### Taking values apart -/

/-- A value with its dates, numbers and other parts in the way in which a text of data writes them, as deep as is
told. -/
def dataOf (ev : Evaluator) : Nat → Object → Run Value
  | 0, _ => throw .tooDeep
  | levels + 1, o => do
    let m ← get
    match m.plain o with
    | .constant v => return v
    | .row items | .list items | .set items | .frozenSet items =>
      return .list (← items.mapM (dataOf ev levels))
    | .table entries => return .dict (← entries.mapM fun e => match e with
      | .row [key, o] => do return (← display ev key, ← dataOf ev levels o)
      | _ => fail "NotImplementedError")
    | .enumValue owner name => match (m.class? owner).bind (·.keptAt? name) with
      | some o => dataOf ev levels o
      | none => return .null
    | .datum _ => return .str (← display ev o)
    | .made _ _ _ members _ => return .dict (← members.mapM fun (name, o) => do
      return (name, ← dataOf ev levels o))
    | _ => fail "NotImplementedError"

/-- An object of data that is read from a text. -/
def ofData : Value → Run Object
  | .list items => do newList (← ofAll items)
  | .dict entries => do newTable (← ofEntries entries)
  | v => return .constant v
where
  /-- Objects of data in a row. -/
  ofAll : List Value → Run (List Object)
    | [] => return []
    | v :: vs => do return (← ofData v) :: (← ofAll vs)
  /-- The entries of a table of data. -/
  ofEntries : List (String × Value) → Run (List Object)
    | [] => return []
    | (key, v) :: es => do return .row [.text key, ← ofData v] :: (← ofEntries es)

/-- The names that are told to be kept or left out: a set or a table of texts. -/
def namesTold? (m : Memory) (o : Option Object) : Option (List String) :=
  match (o.filter (!·.same .none)).map m.plain with
  | some (.set items) | some (.frozenSet items) => some (items.filterMap (·.text?))
  | some (.table entries) => some ((Memory.keysOf entries).filterMap (·.text?))
  | _ => none

/-- A value with the values of models in it as tables, as deep as is told. -/
def dumped (byAlias : Bool) : Nat → Object → Run Object
  | 0, _ => throw .tooDeep
  | levels + 1, o => do
    let m ← get
    let inner := dumped byAlias levels
    match m.seen o with
    | .made _ maker [] members _ =>
      match m.model? maker with
      | none =>
        if (m.dataclass? maker).isSome then
          newTableOf (← members.mapM fun (name, o) => do return (name, ← inner o))
        else return o
      | some shape =>
        newTableOf (← members.mapM fun (name, o) => do
          let other := (shape.fields.lookup name).bind (·.aliasName)
          return (if byAlias then other.getD name else name, ← inner o))
    | .list items => newList (← items.mapM inner)
    | .row items => return .row (← items.mapM inner)
    | .set items => newSet (← setOf (← items.mapM inner))
    | .table entries => newTable (← entries.mapM fun e => match e with
      | .row [key, o] => do return .row [key, ← inner o]
      | e => return e)
    | _ => return o

/-- A model's value as a table, as is asked for. -/
def dumpedAs (o : Object) (given : Arguments) : Run (List (String × Object)) := do
  let m ← get
  let under (name : String) : Option Object := given.byName.lookup name
  let flag (name : String) : Bool := (under name).any fun o => (m.plain o).isTruthy
  let some (.made _ c _ members state) := some (m.seen o) | return []
  let wanted := namesTold? m (under "include")
  let unwanted := (namesTold? m (under "exclude")).getD []
  let known := ((state.lookup givenNames).bind fun o => namesTold? m (some o)).getD (members.map (·.1))
  let defaults := ((m.model? c).map (·.fields)).getD []
  let isKept (e : String × Object) : Bool :=
    wanted.all (e.1 ∈ ·) && e.1 ∉ unwanted && (!flag "exclude_unset" || e.1 ∈ known)
      && !(flag "exclude_none" && isNothing e.2)
      && !(flag "exclude_defaults" && isNothing e.2 && (defaults.lookup e.1).any (!·.isRequired))
  let kept := members.filter isKept
  let table ← dumped (flag "by_alias") 100 (.made 0 c [] kept [])
  return Memory.namesOf (((← get).entries? (((← get).seen table))).getD [])

/-- The text of data that a model's value is written as. -/
def dataText (ev : Evaluator) (o : Object) (given : Arguments) : Run Object := do
  let table ← newTableOf (← dumpedAs o given)
  return .text (Value.Json.write .unicode (← dataOf ev 100 table))

/-! ### Values of models -/

/-- A method of the values of models. -/
def modelMethod (ev : Evaluator) (o : Object) (c : ClassId) (members state : List (String × Object)) (name : String)
    (given : Arguments) : Run Object := do
  match name with
  | "model_dump" | "dict" =>
    if !given.inPlace.isEmpty then
      refuseMany ("BaseModel." ++ name ++ "()") 1 1 (given.inPlace.length + 1) 0
    newTableOf (← dumpedAs o given)
  | "model_dump_json" | "json" => dataText ev o given
  | "model_copy" | "copy" =>
    let others := ((given.byName.lookup "update").bind (← get).entries?).getD []
    let members := setEntries members (Memory.namesOf others)
    newMade c [] members (state.filter fun (n, _) => n = givenNames)
  | "model_post_init" => return .none
  | _ => fail "NotImplementedError"

/-- What a model makes of an object. -/
def validated (ev : Evaluator) (s : Scope) (c : ClassId) (what : String) (given : Arguments) : Run Object := do
  match given.inPlace.head?.or (given.byName.lookup "obj") with
  | some o => accepted ev s (.cls c) o
  | none => refuse (.other (what ++ " missing 1 required positional argument: 'obj'"))

/-- What a model makes of a text of data. -/
def validatedText (ev : Evaluator) (s : Scope) (c : ClassId) (what : String) (given : Arguments) :
    Run Object := do
  match given.inPlace.head?.or (given.byName.lookup "json_data") with
  | some o => match Value.Json.read (← acceptedText o) with
    | some v => accepted ev s (.cls c) (← ofData v)
    | none => notAccepted
  | none => refuse (.other (what ++ " missing 1 required positional argument: 'json_data'"))

/-- A value of a model of what is given for its members, which is taken as it is. -/
def unchecked (c : ClassId) (given : Arguments) : Run Object := do
  let m ← get
  let fields := ((m.model? c).map (·.fields)).getD []
  let known := given.byName.filter (·.1 ≠ "_fields_set")
  let members := fields.filterMap fun (name, f) =>
    let key := f.aliasName.getD name
    match (known.lookup key).or (known.lookup name) with
    | some o => some (name, o)
    | none => if f.isRequired then none else some (name, if f.hasFactory then .table [] else .none)
  let told := (members.map (·.1)).filter fun name => (known.lookup name).isSome
  newMade c [] members [(givenNames, .set (told.map .text))]

/-- The words for the kinds of data that types accept. -/
def kindWords : List (String × String) :=
  [("int", "integer"), ("str", "string"), ("float", "number"), ("bool", "boolean"), ("NoneType", "null"),
    ("list", "array"), ("dict", "object")]

/-- The first letters of the words of a name made capital. -/
def titleOf (name : String) : String :=
  " ".intercalate (((name.splitOn "_").filter (· ≠ "")).map fun w => match w.toList with
    | c :: cs => String.ofList (c.toUpper :: cs)
    | [] => "")

/-- What a text of data has to be to be accepted by a model. -/
def schemaTable (m : Memory) (c : ClassId) : Run Object := do
  let fields := ((m.model? c).map (·.fields)).getD []
  let entry (name : String) (f : ModelField) : Run Object := do
    let title := ("title", Object.text (titleOf name))
    let kind : List (String × Object) := match f.type with
      | .cls c => ((kindWords.lookup (m.nameOf c)).map fun w => ("type", Object.text w)).toList
      | _ => []
    let usual := if f.isRequired || f.hasFactory then [] else [("default", Object.none)]
    newTableOf (usual ++ [title] ++ kind)
  let properties ← fields.mapM fun (name, f) => do return (f.aliasName.getD name, ← entry name f)
  let required := (fields.filter (·.2.isRequired)).map fun (name, f) => f.aliasName.getD name
  let needed ← newList (required.map .text)
  newTableOf ([("properties", ← newTableOf properties)]
    ++ (if required.isEmpty then [] else [("required", needed)])
    ++ [("title", .text (m.nameOf c)), ("type", .text "object")])

/-- What is called on a model, under a name. -/
def modelClassMethod (ev : Evaluator) (s : Scope) (c : ClassId) (name : String) (given : Arguments) :
    Run Object := do
  let m ← get
  let what := "BaseModel." ++ name ++ "()"
  match name with
  | "model_validate" | "parse_obj" | "validate" => validated ev s c what given
  | "model_validate_json" | "parse_raw" => validatedText ev s c what given
  | "model_construct" | "construct" => unchecked c given
  | "model_rebuild" | "update_forward_refs" => return .none
  | "model_json_schema" | "schema" => schemaTable m c
  | "model_parametrized_name" =>
    let params ← parts ev ((← takenBy what "params" given).headD none |>.getD .none)
    return .text (m.nameOf c ++ "[" ++ ", ".intercalate (params.map m.display) ++ "]")
  | _ => fail "NotImplementedError"

/-! ### What belongs to models -/

/-- The units in which a size is told, by the bytes of each. -/
def sizeNames (inTens : Bool) : List String :=
  if inTens then ["B", "KB", "MB", "GB", "TB", "PB"] else ["B", "KiB", "MiB", "GiB", "TiB", "PiB"]

/-- A number with one place after the point. -/
def onePlace (num : Int) (den : Nat) : String :=
  let tenths := Outcome.nearestInt (num * 10) den
  toString (tenths / 10) ++ "." ++ toString (tenths.natAbs % 10)

/-- A size in bytes in the largest unit that it fills. -/
def readableSize (n : Int) (inTens : Bool) (between : String) : String :=
  let base := if inTens then 1000 else 1024
  let rec go : List String → Nat → String
    | [], den => onePlace n den ++ between ++ if inTens then "EB" else "EiB"
    | unit :: units, den =>
      if n.natAbs < den * base then
        (if den = 1 then toString n else onePlace n den) ++ between ++ unit
      else go units (den * base)
  go (sizeNames inTens) 1

/-- A method of a value of the library of models. -/
def modelValueMethod (ev : Evaluator) (o : Object) (c : LibraryClass) (name : String) (given : Arguments) : Run Object := do
  let m ← get
  match c.name, name with
  | "ByteSize", "human_readable" =>
    let args ← takenBy "ByteSize.human_readable()" "decimal? separator?" given
    let between := ((args.getD 1 none).bind (·.text?)).getD ""
    let inTens := (args.headD none).any fun o => (m.plain o).isTruthy
    return .text (readableSize (← integer o) inTens between)
  | "ByteSize", "to" =>
    let args ← takenBy "ByteSize.to()" "unit" given
    let unit ← textual "unit" ((args.headD none).getD .none)
    let n ← integer o
    match sizeUnits.lookup (unit.map Char.toLower) with
    | some 0 => operated ev "*" (intOf n) (floatOf (.nearest 8 1))
    | some size => operated ev "/" (intOf n) (intOf (Int.ofNat size))
    | none => fail "PydanticCustomError"
  | _, "get_secret_value" =>
    let _ ← takenBy (c.name ++ ".get_secret_value()") "" given
    return (keptUnder? m o "secret").getD .none
  | "FieldInfo", "is_required" =>
    let _ ← takenBy "FieldInfo.is_required()" "" given
    let isGiven (name : String) : Run Bool := do
      let held ← member o name
      return !held.same notGiven && !held.same .none
    let usual ← member o "default"
    return truth (usual.same notGiven && !(← isGiven "default_factory"))
  | "FieldInfo", "get_default" => member o "default"
  | "FieldInfo", "rebuild_annotation" => member o "annotation"
  | "FieldInfo", _ => fail "NotImplementedError"
  | _, "unicode_string" | _, "encoded_string" => return (keptUnder? m o "text").getD .none
  | _, "unicode_host" => member o "host"
  | _, "convert_to_aliases" => return (← member o "choices")
  | _, _ => fail "NotImplementedError"

/-- A method of what asks a type for what it accepts. -/
def adapterMethod (ev : Evaluator) (s : Scope) (type : Object) (name : String) (given : Arguments) :
    Run Object := do
  let first := given.inPlace.headD .none
  match name with
  | "validate_python" | "validate_strings" => accepted ev s type first
  | "validate_json" => match Value.Json.read (← acceptedText first) with
    | some v => accepted ev s type (← ofData v)
    | none => notAccepted
  | "dump_python" => dumped false 100 first
  | "dump_json" => return .datum (.bytes (← encoded "utf-8" "strict"
      (Value.Json.write .unicode (← dataOf ev 100 (← dumped false 100 first)))))
  | "rebuild" => return .none
  | _ => fail "NotImplementedError"

end Run

end Mapsmith.Program
