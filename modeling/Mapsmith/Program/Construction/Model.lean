import Mapsmith.Program.Construction.Number
import Mapsmith.Program.Member
import Mapsmith.Program.Parts
import Mapsmith.Text.Address

/-!
# Values of the library of models

What the classes of the library of models make of what they are given, models apart: notes that say more of a type, other
names for a field, secrets, numbers of bytes and addresses.
-/

namespace Mapsmith.Program

namespace Run

/-- What is given to the notes of the library of models, by class: names, each with the text of the value that stands
for it if it can be left out. -/
def noteParts : List (String × String) := [
  ("Strict", "strict=True"), ("AllowInfNan", "allow_inf_nan=True"), ("FailFast", "fail_fast=True"),
  ("StringConstraints", "strip_whitespace=None to_upper=None to_lower=None strict=None min_length=None "
    ++ "max_length=None pattern=None ascii_only=None"),
  ("UrlConstraints", "max_length=None allowed_schemes=None host_required=None default_host=None "
    ++ "default_port=None default_path=None preserve_empty_path=None"),
  ("Tag", "tag"),
  ("Discriminator", "discriminator custom_error_type=None custom_error_message=None "
    ++ "custom_error_context=None"),
  ("WithJsonSchema", "json_schema mode=None"), ("AfterValidator", "func"),
  ("BeforeValidator", "func json_schema_input_type=PydanticUndefined"),
  ("PlainValidator", "func json_schema_input_type=Any"),
  ("WrapValidator", "func json_schema_input_type=PydanticUndefined"),
  ("PlainSerializer", "func return_type=PydanticUndefined when_used='always'"),
  ("WrapSerializer", "func return_type=PydanticUndefined when_used='always'"),
  ("GetPydanticSchema", "get_pydantic_core_schema=None get_pydantic_json_schema=None"),
  ("EncodedBytes", "encoder"), ("EncodedStr", "encoder"), ("PathType", "path_type"),
  ("UuidVersion", "uuid_version"), ("SkipValidation", ""), ("InstanceOf", ""), ("SerializeAsAny", ""),
  ("AliasGenerator", "alias=None validation_alias=None serialization_alias=None")]

/-- The value that stands for what is left out, by its text. -/
def usualNote (text : String) : Object :=
  if text = "True" then truth true
  else if text = "None" then .none
  else if text = "Any" then .anything
  else if text = "PydanticUndefined" then notGiven
  else .text (String.ofList (text.toList.filter (· ≠ '\'')))

/-- A value of a class with parts under names, which are written with it. -/
def newNote (c : LibraryClass) (members : List (String × Object)) : Run Object := do
  let m ← get
  let shown := c.name ++ "(" ++ ", ".intercalate (members.map fun (name, o) => name ++ "=" ++ m.written o) ++ ")"
  newMade (.library c) [] members [(Memory.shownName, .text shown), (Object.byValue, .none)]

/-- A note of what is given for its parts. -/
def makeNote (c : LibraryClass) (words : String) (given : Arguments) : Run Object := do
  let parts := ((words.splitOn " ").filter (· ≠ "")).map fun w => match w.splitOn "=" with
    | [name, usual] => (name, some usual)
    | _ => (w, none)
  let names := " ".intercalate (parts.map fun (name, usual) => if usual.isSome then name ++ "?" else name)
  let args ← takenBy (c.name ++ ".__init__()") names given
  newNote c ((parts.zip args).map fun ((name, usual), o) =>
    (name, o.getD ((usual.map usualNote).getD .none)))

/-- The address of a text, as a class of addresses makes it. -/
def makeAddress (c : LibraryClass) (o : Object) : Run Object := do
  let m ← get
  let shown ← match m.plain o with
    | .constant (.str s) => pure s
    | _ => match keptUnder? m o "text" with
      | some shown => pure ((shown.text?).getD "")
      | none => throw .invalidModel
  let some a := Text.Address.ofText? shown | throw .invalidModel
  let schemes : List (String × List String) := [("AnyHttpUrl", ["http", "https"]), ("HttpUrl", ["http", "https"]),
    ("FtpUrl", ["ftp"]), ("FileUrl", ["file"]), ("WebsocketUrl", ["ws", "wss"]), ("AnyWebsocketUrl", ["ws", "wss"]),
    ("PostgresDsn", ["postgres", "postgresql"]), ("RedisDsn", ["redis", "rediss"]), ("AmqpDsn", ["amqp", "amqps"]),
    ("MongoDsn", ["mongodb", "mongodb+srv"]), ("KafkaDsn", ["kafka"])]
  if (schemes.lookup c.name).any fun ss => a.scheme ∉ ss then throw .invalidModel
  let text (s : Option String) : Object := (s.map .text).getD .none
  let port := a.port.or (Text.Address.rooted.lookup a.scheme)
  newMade (.library c) [] [("scheme", .text a.scheme), ("username", text a.user),
      ("password", text a.password), ("host", text a.host), ("path", text a.path),
      ("query", text a.query), ("fragment", text a.fragment),
      ("port", (port.map fun n => intOf (Int.ofNat n)).getD .none)]
    [(Memory.shownName, .text (c.name ++ "(" ++ Text.quote a.text ++ ")")), ("text", .text a.text),
      (Object.byValue, .none)]

/-- What a class of the library of models makes of what it is given. -/
def makeOfModels (c : LibraryClass) (given : Arguments) : Run Object := do
  let m ← get
  match c.name with
  | "SecretStr" | "SecretBytes" | "Secret" =>
    let args ← takenBy "_SecretBase.__init__()" "secret_value" given
    let o := (args.headD none).getD .none
    let isEmpty : Bool := match m.plain o with
      | .constant (.str s) => s = ""
      | .datum (.bytes vs) => vs.isEmpty
      | _ => false
    let hidden := if isEmpty then "" else "**********"
    let mark := if c.name = "SecretBytes" then "b" else ""
    newMade (.library c) [] [] [
      (Memory.shownName, .text (c.name ++ "(" ++ mark ++ Text.quote hidden ++ ")")),
      ("text", .text (if c.name = "SecretBytes" then "b" ++ Text.quote hidden else hidden)), ("secret", o)]
  | "ByteSize" => newMade (.library c) [intOf (← match given.inPlace with
      | [o] => integerOf o
      | [] => pure 0
      | _ => refuse (.other "int() takes at most 2 arguments"))] [] []
  | "AliasPath" =>
    match given.inPlace with
    | first :: rest =>
      newNote c [("path", ← newList (first :: rest))]
    | [] =>
      let _ ← takenBy "AliasPath.__init__()" "first_arg" given
      return .none
  | "AliasChoices" =>
    match given.inPlace with
    | first :: rest => newNote c [("choices", ← newList (first :: rest))]
    | [] =>
      let _ ← takenBy "AliasChoices.__init__()" "first_choice" given
      return .none
  | "ConfigDict" => newTableOf given.byName
  | "TypeAdapter" =>
    let args ← takenBy "TypeAdapter.__init__()" "type * config? _parent_depth? module?" given
    let type ← whole ((args.headD none).getD .none)
    newMade (.library c) [] [] [("type", type),
      (Memory.shownName, .text ("TypeAdapter(" ++ m.display type ++ ")"))]
  | name =>
    if c.module = "pydantic.networks" && (name.endsWith "Url" || name.endsWith "Dsn") then
      let args ← takenBy "_BaseUrl.__init__()" "url" given
      makeAddress c ((args.headD none).getD .none)
    else match noteParts.lookup name with
      | some words => makeNote c words given
      | none =>
        let shown := c.name ++ "(" ++ ", ".intercalate (given.inPlace.map m.written
          ++ given.byName.map fun (name, o) => name ++ "=" ++ m.written o) ++ ")"
        newMade (.library c) [] given.byName [(Memory.shownName, .text shown)]

end Run

end Mapsmith.Program
