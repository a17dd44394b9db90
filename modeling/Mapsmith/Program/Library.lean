import Mapsmith.Program.Library.Collections
import Mapsmith.Program.Library.Failures
import Mapsmith.Program.Library.Language
import Mapsmith.Program.Library.Members
import Mapsmith.Program.Library.Modules

/-!
# The library of a program

What every program has without declaring it: classes, the forms that make types of types, and the
modules that these are in. The names under which each is known are part of a program's meaning: a name that the
program declares hides one of the library.
-/

namespace Mapsmith.Program

/-! ### The catalog -/

/-- What is known of the classes of the library. -/
def catalog : List LibraryEntry :=
  languageEntries ++ failureEntries ++ collectionEntries ++ moduleEntries ++ modelEntries
    ++ namelessEntries

/-- The classes with those they inherit from. -/
def catalogLines : List (LibraryClass × List LibraryClass) :=
  catalog.map fun e => (e.cls, e.line)

/-- The classes with what they hold. -/
def catalogHoldings : List (LibraryClass × List (String × Holding)) :=
  catalog.map fun e => (e.cls, e.held)

namespace LibraryClass

variable (c : LibraryClass)

/-- What is known of the class. -/
def entry? : Option LibraryEntry :=
  catalog.find? (·.cls = c)

/-- The class and those it inherits from, in linearized order. -/
def line : List LibraryClass :=
  (catalogLines.lookup c).getD [c]

/-- The names under which the class holds something, with what it is. -/
def held : List (String × Holding) :=
  (catalogHoldings.lookup c).getD []

/-- What the class holds under a name. -/
def holding? (name : String) : Option Holding :=
  c.held.lookup name

/-- The class that has made the class. -/
def maker : LibraryClass :=
  (c.entry?.map (·.maker)).getD .type

/-- The methods that wait in the class for a subclass to define them. -/
def awaited : List String :=
  (c.entry?.map fun e => e.awaited.flatMap LibraryEntry.words).getD []

/-- Do values of the class have a layout of their own? -/
def hasLayout : Bool :=
  c.entry?.any (·.hasLayout)

/-- What the constructor of the class takes under a name, and whether that can be left out. -/
def takes : List (String × Bool) :=
  (c.entry?.map (·.takes)).getD []

/-- Is the class one of those that choices between values inherit from? -/
def isEnumeration : Bool :=
  c.maker = ⟨"enum", "EnumType"⟩

/-- The scalars among the classes, with their names. -/
def scalarName? : Option String :=
  if c ∈ ["int", "float", "str", "bool", "bytes"].map builtin then some c.name
  else if c ∈ [⟨"decimal", "Decimal"⟩, ⟨"uuid", "UUID"⟩, ⟨"datetime", "datetime"⟩,
      ⟨"datetime", "date"⟩, ⟨"datetime", "time"⟩] then some c.qualifiedName
  else none

/-- The container that values of a collection class are rebuilt into. -/
def container? : Option Container :=
  if c = builtin "list" then some .list
  else if c = tuple then some .tuple
  else if c = builtin "set" then some .set
  else if c = builtin "frozenset" then some .frozenset
  else if c ∈ ["Sequence", "MutableSequence", "Collection", "Iterable"].map abstractCollection then
    some .list
  else if c = abstractCollection "Set" then some .frozenset
  else if c = abstractCollection "MutableSet" then some .set
  else none

/-- The classes of the language that can be given types, as in `list` of something. -/
def subscriptable : List String :=
  ["list", "dict", "set", "frozenset", "tuple", "type", "enumerate"]

/-- Can the class be given types? -/
def takesTypes : Bool :=
  (c.isBuiltin && c.name ∈ subscriptable)
    || (c.module = "collections.abc" && c.name ∉ ["Hashable", "Sized", "ByteString"])
    || (c.module = "collections" && c.name ∉ ["UserString", "UserList", "UserDict"])

end LibraryClass

/-- The members of a model that are no longer meant to be used; a field may take their names. -/
def retiredModelMembers : List String :=
  ["dict", "json", "parse_obj", "parse_raw", "parse_file", "from_orm", "construct", "copy", "schema",
    "schema_json", "validate", "update_forward_refs", "_iter", "_copy_and_set_values", "_get_value",
    "_calculate_keys"]

/-! ### Forms -/

/-- A type without its arguments that takes some under a name of its own: the class it stands for,
and how many it takes if that is fixed. -/
structure NamedForm where
  /-- The class it stands for. -/
  origin : LibraryClass
  /-- The number of types it takes. -/
  arity : Option Nat
  deriving DecidableEq, Repr

/-- The named forms. -/
def namedForms : List (String × NamedForm) :=
  let builtin (name cls : String) (arity : Nat) : String × NamedForm :=
    (name, ⟨.builtin cls, some arity⟩)
  let abstract (name cls : String) (arity : Nat) : String × NamedForm :=
    (name, ⟨.abstractCollection cls, some arity⟩)
  let collection (name cls : String) (arity : Nat) : String × NamedForm :=
    (name, ⟨⟨"collections", cls⟩, some arity⟩)
  [("Tuple", ⟨.tuple, none⟩), ("Callable", ⟨.abstractCollection "Callable", none⟩),
    builtin "List" "list" 1, builtin "Dict" "dict" 2, builtin "Set" "set" 1,
    builtin "FrozenSet" "frozenset" 1, builtin "Type" "type" 1,
    abstract "AbstractSet" "Set" 1, abstract "Container" "Container" 1,
    abstract "ItemsView" "ItemsView" 2, abstract "Iterable" "Iterable" 1,
    abstract "Iterator" "Iterator" 1, abstract "KeysView" "KeysView" 1,
    abstract "Mapping" "Mapping" 2, abstract "MappingView" "MappingView" 1,
    abstract "MutableMapping" "MutableMapping" 2, abstract "MutableSequence" "MutableSequence" 1,
    abstract "MutableSet" "MutableSet" 1, abstract "Sequence" "Sequence" 1,
    abstract "ValuesView" "ValuesView" 1, abstract "Awaitable" "Awaitable" 1,
    abstract "AsyncIterator" "AsyncIterator" 1, abstract "AsyncIterable" "AsyncIterable" 1,
    abstract "Coroutine" "Coroutine" 3, abstract "Collection" "Collection" 1,
    abstract "AsyncGenerator" "AsyncGenerator" 2, abstract "Reversible" "Reversible" 1,
    abstract "Generator" "Generator" 3, abstract "Hashable" "Hashable" 0,
    abstract "Sized" "Sized" 0, abstract "ByteString" "ByteString" 0,
    collection "ChainMap" "ChainMap" 2, collection "Counter" "Counter" 1,
    collection "Deque" "deque" 1, collection "DefaultDict" "defaultdict" 2,
    collection "OrderedDict" "OrderedDict" 2,
    ("ContextManager", ⟨⟨"contextlib", "AbstractContextManager"⟩, some 1⟩),
    ("AsyncContextManager", ⟨⟨"contextlib", "AbstractAsyncContextManager"⟩, some 1⟩),
    ("Match", ⟨⟨"re", "Match"⟩, some 1⟩), ("Pattern", ⟨⟨"re", "Pattern"⟩, some 1⟩)]

/-- The forms that are no types without arguments, or that say something of a whole type. -/
def specialForms : List String :=
  ["Union", "Optional", "Literal", "ClassVar", "Final", "Required", "NotRequired", "Concatenate",
    "TypeGuard", "Unpack", "Self", "Never", "NoReturn", "LiteralString", "TypeAlias"]

/-- The special forms that are types by themselves. -/
def typeForms : List String :=
  ["LiteralString", "NoReturn", "Never", "Self", "TypeAlias"]

/-! ### Modules -/

/-- The classes that are known without an import. -/
def builtinClasses : List String :=
  ["bool", "bytearray", "bytes", "classmethod", "complex", "dict", "enumerate", "filter", "float",
    "frozenset", "int", "list", "map", "memoryview", "object", "property", "range", "reversed", "set",
    "slice", "staticmethod", "str", "super", "tuple", "type", "zip",
    "ArithmeticError", "AssertionError", "AttributeError", "BaseException", "BaseExceptionGroup",
    "BlockingIOError", "BrokenPipeError", "BufferError", "BytesWarning", "ChildProcessError",
    "ConnectionAbortedError", "ConnectionError", "ConnectionRefusedError", "ConnectionResetError",
    "DeprecationWarning", "EOFError", "EncodingWarning", "Exception", "ExceptionGroup",
    "FileExistsError", "FileNotFoundError", "FloatingPointError", "FutureWarning", "GeneratorExit",
    "ImportError", "ImportWarning", "IndentationError", "IndexError", "InterruptedError",
    "IsADirectoryError", "KeyError", "KeyboardInterrupt", "LookupError", "MemoryError",
    "ModuleNotFoundError", "NameError", "NotADirectoryError", "NotImplementedError", "OSError",
    "OverflowError", "PendingDeprecationWarning", "PermissionError", "ProcessLookupError",
    "RecursionError", "ReferenceError", "ResourceWarning", "RuntimeError", "RuntimeWarning",
    "StopAsyncIteration", "StopIteration", "SyntaxError", "SyntaxWarning", "SystemError", "SystemExit",
    "TabError", "TimeoutError", "TypeError", "UnboundLocalError", "UnicodeDecodeError",
    "UnicodeEncodeError", "UnicodeError", "UnicodeTranslateError", "UnicodeWarning", "UserWarning",
    "ValueError", "Warning", "ZeroDivisionError"]

/-- The functions that are known without an import. -/
def builtinFunctions : List String :=
  ["__build_class__", "__import__", "abs", "aiter", "all", "anext", "any", "ascii", "bin",
    "breakpoint", "callable", "chr", "compile", "delattr", "dir", "divmod", "eval", "exec",
    "format", "getattr", "globals", "hasattr", "hash", "hex", "id", "input", "isinstance",
    "issubclass", "iter", "len", "locals", "max", "min", "next", "oct", "open", "ord", "pow",
    "print", "repr", "round", "setattr", "sorted", "sum", "vars"]

/-- What a name means that nothing else gives a meaning. -/
def builtin? (name : String) : Option LibraryItem :=
  if name ∈ builtinClasses then some (.cls (.builtin name))
  else if name = "IOError" || name = "EnvironmentError" then some (.cls (.builtin "OSError"))
  else if name ∈ builtinFunctions then some (.builtinFunction name)
  else if name = "Ellipsis" then some .ellipsis
  else if name = "NotImplemented" then some (.other "NotImplementedType" name)
  else if name = "__debug__" then some (.plain (.bool true))
  else none

/-- What the modules of the library hold under names of their own. -/
def libraryNames : List (String × List (String × LibraryItem)) :=
  libraryItems.map fun (module, groups) =>
    (module, groups.flatMap fun g => (LibraryEntry.words g.names).map fun name => (name, g.item name))

/-- What a module of the library holds under a name. -/
def libraryMember? (module name : String) : Option LibraryItem :=
  if module = "typing" && (namedForms.lookup name).isSome then some (.named name)
  else if module = "typing" && name ∈ specialForms then some (.special name)
  else if module = "builtins" then builtin? name
  else (libraryNames.lookup module).bind (·.lookup name)

/-- The names that every module of a program begins with. -/
def header : List (String × LibraryItem) :=
  [("abc", .module "abc"), ("collections", .module "collections"),
    ("dataclasses", .module "dataclasses"), ("enum", .module "enum"), ("typing", .module "typing"),
    ("pydantic", .module "pydantic"), ("ABC", .cls .abstractBase), ("Any", .cls .anything),
    ("Decimal", .cls ⟨"decimal", "Decimal"⟩), ("Fraction", .cls ⟨"fractions", "Fraction"⟩),
    ("UUID", .cls ⟨"uuid", "UUID"⟩), ("date", .cls ⟨"datetime", "date"⟩),
    ("datetime", .cls ⟨"datetime", "datetime"⟩), ("time", .cls ⟨"datetime", "time"⟩),
    ("timedelta", .cls ⟨"datetime", "timedelta"⟩)]

/-- The modules of the library that a program can import. -/
def libraryModules : List String :=
  ["abc", "collections", "collections.abc", "dataclasses", "enum", "typing", "pydantic", "datetime",
    "decimal", "fractions", "uuid"]

/-- Modules whose classes have no members for mapping. -/
def languageModules : List String :=
  ["builtins", "typing", "typing_extensions", "enum", "abc"]

/-- Do classes of the module have no members for mapping? Those of the language do not, nor those of
a module named like the one of models. -/
def isFramework (module : String) : Bool :=
  module ∈ languageModules || module.startsWith "pydantic"

end Mapsmith.Program
