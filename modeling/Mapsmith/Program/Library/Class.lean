import Mapsmith.TypeRef
import Mapsmith.Text.Part

/-!
# Classes of the library

The classes that every program has without declaring them, by their names, and what is known of each.
-/

namespace Mapsmith.Program

/-- A class that every program has. -/
structure LibraryClass where
  /-- The module it is in. -/
  module : String
  /-- Its name. -/
  name : String
  deriving DecidableEq, Repr, Inhabited

namespace LibraryClass

/-- A class that needs no import. -/
def builtin (name : String) : LibraryClass :=
  ⟨"builtins", name⟩

/-- An abstract collection. -/
def abstractCollection (name : String) : LibraryClass :=
  ⟨"collections.abc", name⟩

/-- The class of texts. -/
def text : LibraryClass := builtin "str"

/-- The class of integers. -/
def integer : LibraryClass := builtin "int"

/-- The class of tuples. -/
def tuple : LibraryClass := builtin "tuple"

/-- The class of the missing value. -/
def missing : LibraryClass := builtin "NoneType"

/-- The class of classes. -/
def type : LibraryClass := builtin "type"

/-- The type that anything has. -/
def anything : LibraryClass := ⟨"typing", "Any"⟩

/-- What generic classes inherit from. -/
def generic : LibraryClass := ⟨"typing", "Generic"⟩

/-- What descriptions of members inherit from. -/
def protocol : LibraryClass := ⟨"typing", "Protocol"⟩

/-- The former of types with notes. -/
def annotated : LibraryClass := ⟨"typing", "Annotated"⟩

/-- What choices between values inherit from. -/
def enumeration : LibraryClass := ⟨"enum", "Enum"⟩

/-- What classes with open methods inherit from. -/
def abstractBase : LibraryClass := ⟨"abc", "ABC"⟩

/-- The class of types of names that are there for construction only. -/
def forConstruction : LibraryClass := ⟨"dataclasses", "InitVar"⟩

/-- What models inherit from. -/
def model : LibraryClass := ⟨"pydantic.main", "BaseModel"⟩

/-- The class of a name with its module. -/
def ofName (name : String) : LibraryClass :=
  ⟨allButLastPart name, lastPart name⟩

variable (c : LibraryClass)

/-- The name of the class with its module. -/
def qualifiedName : String :=
  c.module ++ "." ++ c.name

/-- The name of the class in messages: some classes bring their module along. -/
def typeName : String :=
  if c.module ∈ ["datetime", "decimal", "time"] || c.name ∈ ["OrderedDict", "deque", "defaultdict"] then
    c.qualifiedName
  else c.name

/-- Is the class known without an import? -/
def isBuiltin : Bool :=
  c.module = "builtins"

end LibraryClass

/-! ### Entries of the catalog of classes

What is known of a class of the library: what it inherits from, what has made it, the methods that wait in
it for a subclass, and what it holds under which name. -/

/-- What a class of the library holds under a name. -/
inductive Holding
  /-- A function. -/
  | function
  /-- A function that is called on the class. -/
  | shared
  /-- A property. -/
  | property
  /-- What the language calls for an operator or a form of its own. -/
  | slot
  /-- A method of the language's making. -/
  | method
  /-- What works out a part of a value. -/
  | reader
  /-- The place where a value keeps a part. -/
  | part
  /-- A function of the language's making that is called on the class. -/
  | maker
  /-- A value. -/
  | value
  /-- The missing value. -/
  | absent
  deriving DecidableEq, Repr

/-- What is known of a class of the library. Blanks divide names that stand in one text. -/
structure LibraryEntry where
  /-- The class. -/
  cls : LibraryClass
  /-- The names of what it inherits from, the nearest first. The class that all inherit from is left
  out. -/
  inherits : List String := []
  /-- The class that has made it. -/
  maker : LibraryClass := .type
  /-- The names of the methods that wait for a subclass to define them. -/
  awaited : List String := []
  /-- Do its values have a layout of their own? -/
  hasLayout : Bool := false
  /-- What its constructor takes under a name, and whether that can be left out. -/
  takes : List (String × Bool) := []
  /-- The names under which it holds something. -/
  holdings : List (Holding × String) := []
  deriving Repr

namespace LibraryEntry

variable (e : LibraryEntry)

/-- The words of a text that blanks divide. -/
def words (s : String) : List String :=
  (Text.parts ' ' s).filter (· ≠ "")

/-- The class and those it inherits from, in linearized order. -/
def line : List LibraryClass :=
  e.cls :: (e.inherits.flatMap words).map .ofName

/-- The names under which the class holds something, with what it is. -/
def held : List (String × Holding) :=
  e.holdings.flatMap fun (holding, names) => (words names).map (·, holding)

end LibraryEntry

end Mapsmith.Program
