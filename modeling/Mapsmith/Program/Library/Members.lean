import Mapsmith.Program.Library.Class
import Mapsmith.Value

/-!
# Modules of the library: the data

What the modules of the library hold: the names under which the modules of the library hold something, each group of names with what they stand
for. Blanks divide the names of a group.
-/

namespace Mapsmith.Program

/-! ### Items of the library

What a module of the library holds under a name, and what a name means without an import. -/

/-- Something that a module of the library holds. -/
inductive LibraryItem
  /-- A class. -/
  | cls (c : LibraryClass)
  /-- A special form. -/
  | special (name : String)
  /-- A named form. -/
  | named (name : String)
  /-- A module. -/
  | module (name : String)
  /-- A function, by its name with its module. -/
  | function (name : String)
  /-- A function of the language, by its name. -/
  | builtinFunction (name : String)
  /-- A plain value. -/
  | plain (v : Value)
  /-- Three dots. -/
  | ellipsis
  /-- A type variable, by its place among those of the library. -/
  | variable (index : Nat)
  /-- A class with a note of a kind, as it is written. -/
  | annotated (c : LibraryClass) (kind shown : String)
  /-- Something else of a kind, as it is written. -/
  | other (kind shown : String)
  deriving DecidableEq, Repr

/-! ### Groups of names -/

/-- Names with what they stand for. -/
structure ItemGroup where
  /-- What a name stands for. -/
  item : String → LibraryItem
  /-- The names. -/
  names : String

namespace ItemGroup

/-- Classes of a module. -/
def classes (module names : String) : ItemGroup :=
  ⟨fun name => .cls ⟨module, name⟩, names⟩

/-- Functions of a module. -/
def functions (module names : String) : ItemGroup :=
  ⟨fun name => .function (module ++ "." ++ name), names⟩

/-- Names of one thing. -/
def one (names : String) (item : LibraryItem) : ItemGroup :=
  ⟨fun _ => item, names⟩

/-- A class with a note, under names. -/
def annotated (names : String) (c : LibraryClass) (kind shown : String) : ItemGroup :=
  one names (.annotated c kind shown)

end ItemGroup

/-- The names of the type variables of the library, with how they vary. -/
def libraryVariables : List (String × Bool × Bool) :=
  [("AnyStr", false, false), ("T", false, false), ("KT", false, false), ("VT", false, false),
    ("T_co", true, false), ("V_co", true, false), ("VT_co", true, false), ("CT_co", true, false),
    ("T_contra", false, true)]

/-- What the module of types holds beside forms. -/
def typingItems : List ItemGroup := [
  .classes "typing" "Any Annotated ForwardRef Generic ParamSpec TypeVar TypeVarTuple BinaryIO IO",
  .classes "typing" "TextIO NewType ParamSpecArgs ParamSpecKwargs Protocol SupportsAbs SupportsBytes",
  .classes "typing" "SupportsComplex SupportsFloat SupportsIndex SupportsInt SupportsRound",
  .classes "typing" "NamedTupleMeta _AnnotatedAlias _AnyMeta _BaseGenericAlias _GenericAlias",
  .classes "typing" "_CallableGenericAlias _CallableType _LiteralGenericAlias _ProtocolMeta",
  .classes "typing" "_SpecialForm _SpecialGenericAlias _TupleType _UnionGenericAlias _Final",
  .classes "typing" "_TypedDictMeta _UnpackGenericAlias _ConcatenateGenericAlias",
  .classes "abc" "ABCMeta",
  .classes "collections" "defaultdict",
  .classes "types" "GenericAlias",
  .one "Text" (.cls .text),
  .one "MethodDescriptorType" (.cls (.builtin "method_descriptor")),
  .one "MethodWrapperType" (.cls (.builtin "method-wrapper")),
  .one "WrapperDescriptorType" (.cls (.builtin "wrapper_descriptor")),
  .functions "typing" "NamedTuple TypedDict assert_never assert_type cast clear_overloads",
  .functions "typing" "dataclass_transform final get_args get_origin get_overloads get_type_hints",
  .functions "typing" "is_typeddict no_type_check no_type_check_decorator overload reveal_type",
  .functions "typing" "runtime_checkable",
  .functions "abc" "abstractmethod",
  ⟨.module, "collections contextlib functools operator sys types warnings"⟩,
  ⟨fun name => .variable ((libraryVariables.findIdx? (·.1 = name)).getD 0),
    "AnyStr T KT VT T_co V_co VT_co CT_co T_contra"⟩,
  .one "TYPE_CHECKING" (.plain (.bool false)),
  .one "__name__" (.plain (.str "typing"))]

/-- What the module of models holds. -/
def modelItems : List ItemGroup := [
  .one "BaseModel" (.cls .model),
  .one "VERSION __version__" (.plain (.str "2.14.3")),
  .functions "pydantic" "Field computed_field PrivateAttr create_model validate_call field_validator",
  .functions "pydantic" "model_validator field_serializer model_serializer conint confloat condecimal",
  .functions "pydantic" "constr conbytes conlist conset confrozenset condate with_config validator",
  .functions "pydantic" "root_validator parse_obj_as schema_of schema_json_of validate_email",
  .classes "pydantic.types" "SecretStr SecretBytes Secret ByteSize PastDate FutureDate PastDatetime",
  .classes "pydantic.types" "FutureDatetime AwareDatetime NaiveDatetime Json PaymentCardNumber Strict",
  .classes "pydantic.types" "StringConstraints ImportString AllowInfNan EncoderProtocol EncodedBytes",
  .classes "pydantic.types" "EncodedStr Base64Encoder GetPydanticSchema Tag Discriminator FailFast",
  .classes "pydantic.networks" "AnyUrl AnyHttpUrl FileUrl HttpUrl FtpUrl WebsocketUrl",
  .classes "pydantic.networks" "AnyWebsocketUrl UrlConstraints EmailStr NameEmail IPvAnyAddress",
  .classes "pydantic.networks" "IPvAnyInterface IPvAnyNetwork PostgresDsn CockroachDsn AmqpDsn",
  .classes "pydantic.networks" "RedisDsn MongoDsn KafkaDsn NatsDsn MySQLDsn MariaDBDsn",
  .classes "pydantic.networks" "ClickHouseDsn SnowflakeDsn",
  .classes "pydantic.config" "ConfigDict BaseConfig Extra",
  .classes "pydantic.root_model" "RootModel",
  .classes "pydantic.type_adapter" "TypeAdapter",
  .classes "pydantic.aliases" "AliasChoices AliasGenerator AliasPath",
  .classes "pydantic.annotated_handlers" "GetCoreSchemaHandler GetJsonSchemaHandler",
  .classes "pydantic.functional_validators" "AfterValidator BeforeValidator PlainValidator",
  .classes "pydantic.functional_validators" "WrapValidator InstanceOf SkipValidation ValidateAs",
  .classes "pydantic.functional_serializers" "PlainSerializer WrapSerializer SerializeAsAny",
  .classes "pydantic.json_schema" "WithJsonSchema",
  .classes "pydantic.errors" "PydanticUserError PydanticSchemaGenerationError PydanticImportError",
  .classes "pydantic.errors" "PydanticUndefinedAnnotation PydanticInvalidForJsonSchema",
  .classes "pydantic.errors" "PydanticForbiddenQualifier",
  .classes "pydantic_core._pydantic_core" "ValidationError",
  .annotated "StrictBool" (.builtin "bool") "Strict" "Strict(strict=True)",
  .annotated "StrictInt" .integer "Strict" "Strict(strict=True)",
  .annotated "StrictFloat" (.builtin "float") "Strict" "Strict(strict=True)",
  .annotated "StrictStr" .text "Strict" "Strict(strict=True)",
  .annotated "StrictBytes" (.builtin "bytes") "Strict" "Strict(strict=True)",
  .annotated "PositiveInt" .integer "Gt" "Gt(gt=0)",
  .annotated "NegativeInt" .integer "Lt" "Lt(lt=0)",
  .annotated "NonNegativeInt" .integer "Ge" "Ge(ge=0)",
  .annotated "NonPositiveInt" .integer "Le" "Le(le=0)",
  .annotated "PositiveFloat" (.builtin "float") "Gt" "Gt(gt=0)",
  .annotated "NegativeFloat" (.builtin "float") "Lt" "Lt(lt=0)",
  .annotated "NonNegativeFloat" (.builtin "float") "Ge" "Ge(ge=0)",
  .annotated "NonPositiveFloat" (.builtin "float") "Le" "Le(le=0)",
  .annotated "FiniteFloat" (.builtin "float") "AllowInfNan" "AllowInfNan(allow_inf_nan=False)",
  .annotated "UUID1" ⟨"uuid", "UUID"⟩ "UuidVersion" "UuidVersion(uuid_version=1)",
  .annotated "UUID3" ⟨"uuid", "UUID"⟩ "UuidVersion" "UuidVersion(uuid_version=3)",
  .annotated "UUID4" ⟨"uuid", "UUID"⟩ "UuidVersion" "UuidVersion(uuid_version=4)",
  .annotated "UUID5" ⟨"uuid", "UUID"⟩ "UuidVersion" "UuidVersion(uuid_version=5)",
  .annotated "UUID6" ⟨"uuid", "UUID"⟩ "UuidVersion" "UuidVersion(uuid_version=6)",
  .annotated "UUID7" ⟨"uuid", "UUID"⟩ "UuidVersion" "UuidVersion(uuid_version=7)",
  .annotated "UUID8" ⟨"uuid", "UUID"⟩ "UuidVersion" "UuidVersion(uuid_version=8)",
  .annotated "FilePath" ⟨"pathlib", "Path"⟩ "PathType" "PathType(path_type='file')",
  .annotated "DirectoryPath" ⟨"pathlib", "Path"⟩ "PathType" "PathType(path_type='dir')",
  .annotated "NewPath" ⟨"pathlib", "Path"⟩ "PathType" "PathType(path_type='new')",
  .annotated "SocketPath" ⟨"pathlib", "Path"⟩ "PathType" "PathType(path_type='socket')",
  .annotated "Base64Bytes" (.builtin "bytes") "EncodedBytes"
    "EncodedBytes(encoder=<class 'pydantic.types.Base64Encoder'>)",
  .annotated "Base64Str" .text "EncodedStr"
    "EncodedStr(encoder=<class 'pydantic.types.Base64Encoder'>)",
  .annotated "Base64UrlBytes" (.builtin "bytes") "EncodedBytes"
    "EncodedBytes(encoder=<class 'pydantic.types.Base64UrlEncoder'>)",
  .annotated "Base64UrlStr" .text "EncodedStr"
    "EncodedStr(encoder=<class 'pydantic.types.Base64UrlEncoder'>)",
  .one "JsonValue" (.other "TypeAliasType" "JsonValue"),
  .one "OnErrorOmit" (.variable 1),
  ⟨fun name => .module ("pydantic." ++ name), "types networks fields errors main dataclasses"⟩]

/-- What the modules of the library hold. -/
def libraryItems : List (String × List ItemGroup) := [
  ("typing", typingItems),
  ("pydantic", modelItems),
  ("pydantic.types", .classes "pydantic.types" "PathType UuidVersion Base64UrlEncoder" :: modelItems),
  ("pydantic.networks", modelItems),
  ("pydantic.fields", [.functions "pydantic" "Field PrivateAttr computed_field",
    .classes "pydantic.fields" "FieldInfo ComputedFieldInfo ModelPrivateAttr"]),
  ("pydantic.main", [.one "BaseModel" (.cls .model), .functions "pydantic" "create_model"]),
  ("collections.abc", [
    .classes "collections.abc" "Awaitable Coroutine AsyncIterable AsyncIterator AsyncGenerator",
    .classes "collections.abc" "Hashable Iterable Iterator Generator Reversible Sized Container",
    .classes "collections.abc" "Callable Collection Set MutableSet Mapping MutableMapping",
    .classes "collections.abc" "MappingView KeysView ItemsView ValuesView Sequence",
    .classes "collections.abc" "MutableSequence ByteString"]),
  ("collections", [
    .classes "collections" "ChainMap Counter OrderedDict UserDict UserList UserString defaultdict",
    .classes "collections" "deque",
    .functions "collections" "namedtuple",
    .one "abc" (.module "collections.abc")]),
  ("dataclasses", [
    .classes "dataclasses" "Field FrozenInstanceError InitVar KW_ONLY _DataclassParams",
    .one "MISSING" (.other "_MISSING_TYPE" "<dataclasses._MISSING_TYPE object>"),
    .one "FunctionType" (.cls (.builtin "function")),
    .classes "types" "GenericAlias",
    .functions "dataclasses" "asdict astuple dataclass field fields is_dataclass make_dataclass",
    .functions "dataclasses" "replace",
    ⟨.module, "abc builtins copy functools inspect itertools keyword re sys types"⟩]),
  ("abc", [
    .classes "abc" "ABC ABCMeta abstractclassmethod abstractproperty abstractstaticmethod",
    .functions "abc" "abstractmethod get_cache_token update_abstractmethods"]),
  ("enum", [
    .classes "enum" "Enum EnumType IntEnum StrEnum Flag IntFlag ReprEnum auto property member",
    .classes "enum" "nonmember verify",
    .classes "types" "DynamicClassAttribute",
    .one "EnumMeta" (.cls ⟨"enum", "EnumType"⟩),
    .one "MappingProxyType" (.cls (.builtin "mappingproxy")),
    .functions "enum" "global_enum unique global_enum_repr global_flag_repr global_str",
    .functions "enum" "pickle_by_enum_name pickle_by_global_name show_flag_values bin"]),
  ("datetime", [.classes "datetime" "date datetime time timedelta timezone tzinfo"]),
  ("decimal", [.classes "decimal" "Decimal Context DecimalTuple InvalidOperation DecimalException",
    .classes "decimal" "Clamped DivisionByZero Inexact Rounded Subnormal Overflow Underflow FloatOperation"]),
  ("fractions", [.classes "fractions" "Fraction", .classes "decimal" "Decimal"]),
  ("uuid", [.classes "uuid" "UUID SafeUUID"])]

end Mapsmith.Program
