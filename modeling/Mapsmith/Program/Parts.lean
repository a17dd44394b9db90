import Mapsmith.Program.Operators

/-!
# Parts of values

What values that are no classes have under names without a call: the two parts of a complex number, the
numbers of a date, the fields of an identifier. Some classes of the library hold values of their own, such as
the first and the last day that there is.
-/

namespace Mapsmith.Program

namespace Datum

/-- A natural number as an object. -/
def number (n : Nat) : Object :=
  .constant (.int (Int.ofNat n))

/-- So many hexadecimal digits of an identifier, from one on, as a number. -/
def digitsFrom (n first count : Nat) : Nat :=
  n / Nat.pow 16 (32 - first - count) % Nat.pow 16 count

/-- The bytes of an identifier. -/
def identifierBytes (n : Nat) : List Nat :=
  (List.range 16).map fun i => digitsFrom n (2 * i) 2

/-- The six fields of an identifier. -/
def identifierFields (n : Nat) : List Nat :=
  [(0, 8), (8, 4), (12, 4), (16, 2), (18, 2), (20, 12)].map fun (first, count) =>
    digitsFrom n first count

/-- What the first digits of the fourth group of an identifier say of how it was made. -/
def variantOf (n : Nat) : String :=
  let digit := digitsFrom n 16 1
  if digit < 8 then "reserved for NCS compatibility"
  else if digit < 12 then "specified in RFC 4122"
  else if digit < 14 then "reserved for Microsoft compatibility"
  else "reserved for future definition"

/-- A part of an identifier. -/
def identifierPart? (n : Nat) (name : String) : Option Object :=
  let fields := identifierFields n
  let field (i : Nat) : Nat := fields.getD i 0
  let low := (identifierBytes n)
  let mixed := (low.take 4).reverse ++ ((low.drop 4).take 2).reverse ++ ((low.drop 6).take 2).reverse
    ++ low.drop 8
  match name with
  | "int" => some (number n)
  | "hex" => some (.text (String.ofList (Text.hexPadded 32 n)))
  | "bytes" => some (.datum (.bytes low))
  | "bytes_le" => some (.datum (.bytes mixed))
  | "fields" => some (.row (fields.map number))
  | "urn" => some (.text ("urn:uuid:" ++ identifierText n))
  | "variant" => some (.text (variantOf n))
  | "version" =>
    some (if variantOf n = "specified in RFC 4122" then number (digitsFrom n 12 1) else .none)
  | "time_low" => some (number (field 0))
  | "time_mid" => some (number (field 1))
  | "time_hi_version" => some (number (field 2))
  | "clock_seq_hi_variant" => some (number (field 3))
  | "clock_seq_low" => some (number (field 4))
  | "node" => some (number (field 5))
  | "clock_seq" => some (number (field 3 % 64 * 256 + field 4))
  | "time" => some (number ((field 2 % 4096 * 65536 + field 1) * Nat.pow 2 32 + field 0))
  | "is_safe" => some (.other "SafeUUID" "<SafeUUID.unknown: None>")
  | _ => none

/-- A part of a time of day. -/
def timePart? (t : TimeOfDay) (name : String) : Option Object :=
  match name with
  | "hour" => some (number t.hour)
  | "minute" => some (number t.minute)
  | "second" => some (number t.second)
  | "microsecond" => some (number t.microsecond)
  | "fold" => some (number (if t.isSecond then 1 else 0))
  | "tzinfo" => some ((t.zone.map fun z => .datum (.zone z)).getD .none)
  | _ => none

/-- A part of a day. -/
def datePart? (d : Date) (name : String) : Option Object :=
  match name with
  | "year" => some (number d.year)
  | "month" => some (number d.month)
  | "day" => some (number d.day)
  | _ => none

/-- A part of a value. -/
def part? (d : Datum) (name : String) : Option Object :=
  let int (n : Int) : Object := .constant (.int n)
  match d, name with
  | complex re _, "real" => some (.constant (.float re))
  | complex _ im, "imag" => some (.constant (.float im))
  | fraction num _, "numerator" | fraction num _, "_numerator" => some (int num)
  | fraction _ den, "denominator" | fraction _ den, "_denominator" => some (number den)
  | fraction .., "real" | decimal _, "real" => some (.datum d)
  | fraction .., "imag" => some (number 0)
  | decimal _, "imag" => some (.datum (decimal (.ofInt 0)))
  | range first _ _, "start" => some (int first)
  | range _ last _, "stop" => some (int last)
  | range _ _ step, "step" => some (int step)
  | date d, name => datePart? d name
  | time t, name => timePart? t name
  | moment d t, name => (datePart? d name).or (timePart? t name)
  | duration n, "days" => some (int (Duration.days n))
  | duration n, "seconds" => some (number (Duration.seconds n))
  | duration n, "microseconds" => some (number (Duration.microseconds n))
  | identifier n, name => identifierPart? n name
  | _, _ => none

end Datum

/-- A part of a plain value. -/
def valuePart? (v : Value) (name : String) : Option Object :=
  match v.count?, v, name with
  | some n, _, "real" | some n, _, "numerator" => some (.constant (.int n))
  | some _, _, "imag" => some (.constant (.int 0))
  | some _, _, "denominator" => some (.constant (.int 1))
  | none, .float x, "real" => some (.constant (.float x))
  | none, .float _, "imag" => some (.constant (.float (.zero false)))
  | _, _, _ => none

/-! ### Values that classes hold -/

namespace LibraryClass

/-- The last time of a day. -/
def lastTime : TimeOfDay :=
  { hour := 23, minute := 59, second := 59, microsecond := 999999 }

/-- A value that a class of the library holds under a name. -/
def value? (c : LibraryClass) (name : String) : Option Object :=
  let first : Date := ⟨1, 1, 1⟩
  let last : Date := ⟨9999, 12, 31⟩
  match c.qualifiedName, name with
  | "datetime.date", "min" => some (.datum (.date first))
  | "datetime.date", "max" => some (.datum (.date last))
  | "datetime.date", "resolution" => some (.datum (.duration Duration.perDay))
  | "datetime.datetime", "min" => some (.datum (.moment first {}))
  | "datetime.datetime", "max" => some (.datum (.moment last lastTime))
  | "datetime.time", "min" => some (.datum (.time {}))
  | "datetime.time", "max" => some (.datum (.time lastTime))
  | "datetime.timedelta", "min" => some (.datum (.duration (-999999999 * Duration.perDay)))
  | "datetime.timedelta", "max" => some (.datum (.duration (1000000000 * Duration.perDay - 1)))
  | "datetime.datetime", "resolution" | "datetime.time", "resolution"
  | "datetime.timedelta", "resolution" => some (.datum (.duration 1))
  | "datetime.timezone", "utc" => some (.datum (.zone {}))
  | "datetime.timezone", "min" => some (.datum (.zone { offset := -86340000000 }))
  | "datetime.timezone", "max" => some (.datum (.zone { offset := 86340000000 }))
  | "typing.Generic", "_is_protocol" => some (.constant (.bool false))
  | _, "_is_protocol" => some (.constant (.bool (c = protocol || c.name.startsWith "Supports")))
  | _, "__slots__" | _, "__parameters__" => some (.row [])
  | _, "_member_names_" | _, "_unhashable_values_" => some (.list [])
  | _, "_member_map_" | _, "_value2member_map_" => some (.table [])
  | _, "_member_type_" => some (.cls .everything)
  | _, "_use_args_" => some (.constant (.bool false))
  | _, _ => none

end LibraryClass

/-! ### Descriptions of members -/

/-- The name under which a class tells whether it describes members. -/
def descriptionName : String := "_is_protocol"

/-- What a class itself tells of whether it describes members. The class of all descriptions settles it for a
class that does not say yes. -/
def Memory.describes? (m : Memory) : ClassId → Option Bool
  | .program index => (m.class? index).bind fun o =>
    let held := (o.attributes.lookup descriptionName).map (·.toObject.isTruthy)
    if held = some true then held else o.isProtocol.or held
  | .library l =>
    if (l.holding? descriptionName).isSome then (l.value? descriptionName).map (·.isTruthy) else none

/-- Does a class describe members? -/
def Memory.isDescription (m : Memory) (c : ClassId) : Bool :=
  ((m.line c).findSome? m.describes?).getD false

/-! ### What is said of fields -/

namespace DataclassField

/-- Nothing given, where something could be. -/
def nothing : Object :=
  .other "_MISSING_TYPE" "<dataclasses._MISSING_TYPE object>"

/-- The place of the so manieth thing that a class holds because of what it is. Such things stand beyond those that
the program makes. -/
def placeOfHeld (index k : Nat) : Nat :=
  Nat.pow 10 9 + index * 1000 + k

/-- A field of a dataclass as an object. -/
def toObject (place : Nat) (name : String) (f : DataclassField) : Object :=
  let truth (b : Bool) : Object := .constant (.bool b)
  let entries : List Object := match f.metadata with
    | .dict es => es.map fun (key, v) => .row [.text key, .ofValue v]
    | _ => []
  let kind (role : String) : Object := .other "_FIELD_BASE" role
  .made place (.library ⟨"dataclasses", "Field"⟩) []
    [("name", .text name), ("type", f.type),
      ("default", if f.hasDefault && !f.hasFactory then f.default else nothing),
      ("default_factory", if f.hasFactory then .cls (.library (.builtin "dict")) else nothing),
      ("init", truth f.inConstructor), ("repr", truth true), ("hash", .none),
      ("compare", truth true), ("metadata", .view "mappingproxy" (.table entries)),
      ("kw_only", truth false),
      ("_field_type", kind (match f.role with
        | .member => "_FIELD"
        | .ofClass => "_FIELD_CLASSVAR"
        | .forConstruction => "_FIELD_INITVAR"))]
    [(Memory.shownName, .text "Field()")]

end DataclassField

/-- What stands for a value that is not given for a field of a model. -/
def notGiven : Object :=
  .other "PydanticUndefinedType" "PydanticUndefined"

/-- A field of a model as an object. -/
def ModelField.toObject (m : Memory) (place : Nat) (f : ModelField) : Object :=
  let truth (b : Bool) : Object := .constant (.bool b)
  let shown := "FieldInfo(annotation=" ++ m.display f.type ++ ", required="
    ++ (if f.isRequired then "True"
      else if f.hasFactory then "False, default_factory=dict" else "False, default=None")
    ++ (match f.aliasName with
      | some name => ", alias=" ++ Text.quote name ++ ", alias_priority=2"
      | none => "")
    ++ (if f.frozen then ", frozen=True" else "") ++ ")"
  let aliasName : Object := (f.aliasName.map .text).getD .none
  .made place (.library ⟨"pydantic.fields", "FieldInfo"⟩) []
    [("annotation", f.type), ("alias", aliasName), ("validation_alias", aliasName),
      ("serialization_alias", aliasName), ("frozen", if f.frozen then truth true else .none),
      ("default", if f.isRequired || f.hasFactory then notGiven else .none),
      ("default_factory", if f.hasFactory then .cls (.library (.builtin "dict")) else .none),
      ("alias_priority", if f.aliasName.isSome then .constant (.int 2) else .none),
      ("title", .none), ("description", .none),
      ("metadata", .list []),
      ("json_schema_extra", match f.metadata with
        | some (.dict es) => .table (es.map fun (key, v) => .row [.text key, .ofValue v])
        | _ => .none),
      ("init", .none), ("repr", truth true), ("kw_only", .none), ("init_var", .none),
      ("validate_default", .none), ("field_title_generator", .none),
      ("discriminator", .none), ("deprecated", .none), ("examples", .none), ("exclude", .none)]
    [(Memory.shownName, .text shown)]

/-- The name under which a value of a model keeps the names that it was given. -/
def givenNames : String := "__pydantic_fields_set__"

namespace ModelShape

variable (m : Memory) (index : Nat) (shape : ModelShape)

/-- A table with texts as keys. -/
def tableWith (es : List (String × Object)) : Object :=
  .table (es.map fun (name, o) => .row [.text name, o])

/-- The kinds of data that types accept, by their names. -/
def kindOfData (type : Object) : String :=
  match type with
  | .cls (.library c) => if c.module = "builtins" && c.name ∈ ["int", "str", "float", "bool", "bytes", "list",
      "dict", "set", "tuple", "frozenset", "complex"] then c.name else if c = .missing then "none"
    else if c.module = "datetime" || c.name ∈ ["Decimal", "UUID"] then c.name.toLower else "is-instance"
  | .special "Any" => "any"
  | .formed .union _ | .formed .bars _ => "nullable"
  | _ => "model"

/-- What a model accepts, told by tables. -/
def toldTable : Object :=
  let field (f : ModelField) : Object := tableWith [("type", .text "model-field"),
    ("schema", tableWith [("type", .text (kindOfData f.type))]), ("metadata", .table [])]
  let name : Object := .text (m.nameOf (.program index))
  tableWith [("type", .text "model"), ("cls", .cls (.program index)),
    ("schema", tableWith [("type", .text "model-fields"),
      ("fields", tableWith (shape.fields.map fun (name, f) => (name, field f))),
      ("model_name", name), ("computed_fields", .list [])]),
    ("custom_init", .constant (.bool false)), ("root_model", .constant (.bool false)),
    ("config", tableWith [("title", name)])]

/-- What every model has under a name because it is one. -/
def part? (name : String) : Option Object :=
  let fields : Object := tableWith (shape.fields.mapIdx fun i (n, f) =>
    (n, f.toObject m (DataclassField.placeOfHeld index i)))
  match name with
  | "model_fields" | "__pydantic_fields__" | "__fields__" => some fields
  | "__pydantic_complete__" => some (.constant (.bool shape.isBuilt))
  | "__pydantic_core_schema__" => if shape.isBuilt then some (toldTable m index shape) else none
  | "__pydantic_generic_metadata__" => some (tableWith [
      ("origin", (shape.origin.map fun i => Object.cls (.program i)).getD .none),
      ("args", .row shape.args), ("parameters", .row (shape.parameters.map .typeVariable))])
  | "__pydantic_custom_init__" | "__pydantic_root_model__" => some (.constant (.bool false))
  | "__pydantic_computed_fields__" | "model_computed_fields" | "__private_attributes__" => some (.table [])
  | "__class_vars__" => some (.set (shape.classNames.map .text))
  | "__pydantic_post_init__" => some (if shape.hasPrivate then .text "model_post_init" else .none)
  | "__pydantic_parent_namespace__" => some .none
  | _ => none

end ModelShape

/-- What a class holds because it is a tuple with named members: their names, the values of those that can be
left out, and what goes with them. -/
def TupleShape.attributes (shape : TupleShape) (module : Nat) : List (String × Attribute) :=
  let function (name : String) (kind : MethodKind) : String × Attribute :=
    (name, .function { name, kind, module, isGiven := true })
  [("_fields", .object (.row (shape.fields.map .text))),
    ("_field_defaults", .object (.table (shape.optional.map fun name => .row [.text name, .none]))),
    function "__new__" .free, function "__repr__" .ofValue, function "_make" .ofClass,
    function "_replace" .ofValue, function "_asdict" .ofValue]
    ++ shape.fields.mapIdx fun i name => (name, .object (.tupleReader i))

/-- What a tuple with named members says of itself: its name, and theirs. -/
def TupleShape.signature (shape : TupleShape) (name : String) : Object :=
  let names := ", ".intercalate shape.fields ++ if shape.fields.length = 1 then "," else ""
  .text (name ++ "(" ++ names ++ ")")

/-- What a class holds in addition because it is a tuple with named members. -/
def TupleShape.entries (shape : TupleShape) : List (String × Object) :=
  [("__slots__", .row []), ("__match_args__", .row (shape.fields.map .text))]

/-- What makes a dataclass as an object. -/
def DataclassShape.toObject (place : Nat) (shape : DataclassShape) : Object :=
  let flags : List (String × Bool) := [("init", true), ("repr", true), ("eq", true), ("order", false),
    ("unsafe_hash", false), ("frozen", shape.frozen)]
  let shown := ",".intercalate (flags.map fun (name, b) => name ++ "=" ++ (Value.bool b).literal)
  .made place (.library ⟨"dataclasses", "_DataclassParams"⟩) []
    (flags.map fun (name, b) => (name, .constant (.bool b)))
    [(Memory.shownName, .text ("_DataclassParams(" ++ shown ++ ")"))]

end Mapsmith.Program
