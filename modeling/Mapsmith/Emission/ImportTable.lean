import Mapsmith.Failure
import Mapsmith.Text.Order
import Mapsmith.TypeRef

/-!
# Import tables

The imports of one generated module. Classes are registered first; then the table is closed, and
every class gets the name it goes by in the module: its own name if no other class of the module
has it and nothing else is called so, and otherwise a name made from its module's. Whole modules
can be added at any time.
-/

namespace Mapsmith.Emission

/-- Why code cannot be generated. -/
inductive EmissionError
  /-- A class is registered after the table was closed. -/
  | tableClosed (name : String)
  /-- A class is referred to that was never registered. -/
  | notRegistered (name : String)
  /-- A dispatch names a type that is not known. -/
  | unknownType (name directive : String)
  /-- A conversion that needs a routine has none. -/
  | noRoutine (kind value : String)
  /-- A conversion of a collection lacks its element conversion or its container. -/
  | noElement (value : String)
  /-- A conversion that cannot be written. -/
  | noConversion (kind value : String)
  /-- An enum value that is no identifier. -/
  | badEnumValue (name : String)
  deriving DecidableEq, Repr

/-- The message of an emission error. -/
def EmissionError.message : EmissionError → String
  | tableClosed name => "Import table is frozen; cannot add '" ++ name ++ "'"
  | notRegistered name => "Class '" ++ name ++ "' was not registered for import"
  | unknownType name directive =>
    "Type '" ++ name ++ "' referenced by " ++ directive ++ " is unknown to the emitter"
  | noRoutine kind value => kind ++ " conversion of '" ++ value ++ "' has no routine"
  | noElement value => "Collection conversion of '" ++ value ++ "' has no element conversion"
  | noConversion kind value => "Cannot emit " ++ kind ++ " conversion of '" ++ value ++ "'"
  | badEnumValue name =>
    "Enum value '" ++ name ++ "' cannot be referenced in generated code"

/-- The failure that an emission error is reported as. -/
def EmissionError.failure (e : EmissionError) : Failure :=
  .emission e.message

/-- A class that generated code refers to. -/
structure ImportedClass where
  /-- Its name in the whole program. -/
  qualified : String
  /-- The module it is imported from. -/
  module : String
  /-- Its name in that module. -/
  name : String
  deriving DecidableEq, Repr, Inhabited

/-- A name made from the class's module and its own. -/
def ImportedClass.alias (c : ImportedClass) : String :=
  String.ofList (c.module.toList.map fun ch => if ch = '.' then '_' else ch) ++ "_" ++ c.name

/-- The imports of one generated module. -/
structure ImportTable where
  /-- Names that classes must not take. -/
  reserved : List String := []
  /-- The classes, in order of registration. -/
  classes : List ImportedClass := []
  /-- The modules imported whole. -/
  modules : List String := []
  /-- The support module and the name it goes by. -/
  runtime : Option (String × String) := none
  /-- Have the classes got their names? -/
  closed : Bool := false
  deriving DecidableEq, Repr

namespace ImportTable

variable (table : ImportTable)

/-- Registers a class; a class that is registered already stays as it is. -/
def addClass (c : ImportedClass) : Except EmissionError ImportTable :=
  if table.closed then .error (.tableClosed c.qualified)
  else if table.classes.any (·.qualified == c.qualified) then .ok table
  else .ok { table with classes := table.classes ++ [c] }

/-- Adds a module that is imported whole. -/
def addModule (module : String) : ImportTable :=
  if module ∈ table.modules then table else { table with modules := table.modules ++ [module] }

/-- Sets the support module and the name it goes by. -/
def setRuntime (module name : String) : ImportTable :=
  { table with runtime := some (module, name) }

/-- Gives the classes their names. -/
def close : ImportTable :=
  { table with closed := true }

/-- Would the class's own name be taken for something else? -/
def clashes (c : ImportedClass) : Bool :=
  table.classes.countP (·.name == c.name) > 1 || c.name ∈ table.reserved

/-- The name a class goes by. -/
def localName (c : ImportedClass) : String :=
  if table.closed && table.clashes c then c.alias else c.name

/-- The name a class goes by in a closed table, if it is registered. -/
def ref? (qualified : String) : Option String :=
  if table.closed then
    (table.classes.find? (·.qualified == qualified)).map table.localName
  else none

/-- The name a class goes by, or the error that it has none. -/
def ref (qualified : String) : Except EmissionError String :=
  match table.ref? qualified with
  | some name => .ok name
  | none => .error (.notRegistered qualified)

/-- How a class stands in its import line. -/
def importItem (c : ImportedClass) : String :=
  if table.localName c = c.name then c.name else c.name ++ " as " ++ table.localName c

/-- The lines that import whole modules, in order. -/
def moduleLines : List String :=
  Text.sort (table.modules.map ("import " ++ ·) ++
    (table.runtime.map fun (module, name) => "import " ++ module ++ " as " ++ name).toList)

/-- The lines that import classes, one for every module, in order. -/
def classLines : List String :=
  (Text.sort (Text.distinct (table.classes.map (·.module)))).map fun module =>
    "from " ++ module ++ " import " ++ ", ".intercalate
      (Text.sort ((table.classes.filter (·.module == module)).map table.importItem))

/-- All import lines. -/
def lines : List String :=
  table.moduleLines ++ table.classLines

end ImportTable

end Mapsmith.Emission
