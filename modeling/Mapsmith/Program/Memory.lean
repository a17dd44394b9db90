import Mapsmith.Entries
import Mapsmith.Location
import Mapsmith.Program.Expr.Suspicion
import Mapsmith.Program.Fault
import Mapsmith.Program.Object
import Mapsmith.Program.Script

/-!
# What a running program holds

The classes, type variables and modules that have come into being, and the types that have been made
so far. A type that is asked for a second time is the one that was made first, so how it is written
depends on who asked first. A text that has been looked up once keeps what it stood for. Classes
refer to each other by their place in the order in which they come into being, and only to earlier
ones.
-/

namespace Mapsmith.Program

/-! ### Classes -/

/-- What makes a class. -/
inductive Metaclass
  /-- The usual way. -/
  | ordinary
  /-- A class that may leave methods open. -/
  | abstract
  /-- A description of members. -/
  | protocol
  /-- A model. -/
  | model
  /-- A choice between values. -/
  | enum
  /-- A class that counts as the type that anything has. -/
  | anything
  deriving DecidableEq, Repr, Inhabited

namespace Metaclass

/-- The class of what makes a class. -/
def cls : Metaclass → LibraryClass
  | ordinary => .type
  | abstract => ⟨"abc", "ABCMeta"⟩
  | protocol => ⟨"typing", "_ProtocolMeta"⟩
  | model => ⟨"pydantic._internal._model_construction", "ModelMetaclass"⟩
  | enum => ⟨"enum", "EnumType"⟩
  | anything => ⟨"typing", "_AnyMeta"⟩

/-- What makes a class if a class of the library does. -/
def ofMaker (maker : LibraryClass) : Metaclass :=
  ([abstract, protocol, model, enum, anything].find? (·.cls = maker)).getD ordinary

end Metaclass

/-- A function in the body of a class. -/
structure Function where
  /-- Its name with its module, if it is known. -/
  name : String := "function"
  /-- Its parameters after the first. -/
  parameters : List (Parameter Object) := []
  /-- The type of its result. -/
  result : Option Object := none
  /-- What it is called on. -/
  kind : MethodKind := .ofValue
  /-- The module it looks names up in. -/
  module : Nat
  /-- Does it come with the kind of the class, rather than from what the program says? -/
  isGiven : Bool := false
  deriving Repr

/-- Does a function wait for a subclass to define it? -/
def Function.isAbstract (f : Function) : Bool :=
  f.kind = .awaited

/-- What a class holds under a name. -/
inductive Attribute
  /-- An object. -/
  | object (o : Object)
  /-- A function. -/
  | function (f : Function)
  /-- A property, with what reads it. -/
  | property (getter : Option Function) (hasSetter : Bool)
  /-- What is said of a field of a dataclass. -/
  | dataclassField (details : FieldDetails)
  /-- What is said of a field of a model. -/
  | modelField (details : FieldDetails)
  deriving Repr

namespace Attribute

/-- An attribute as an object. -/
def toObject : Attribute → Object
  | object o => o
  | function f => .function f.name
  | property .. => .other "property"
  | dataclassField _ => .other "Field"
  | modelField _ => .other "FieldInfo"

/-- Does the attribute wait for a subclass to define it? -/
def isAbstract : Attribute → Bool
  | function f => f.isAbstract
  | _ => false

/-- Is the attribute a function? -/
def isFunction : Attribute → Bool
  | function _ => true
  | _ => false

end Attribute

/-- The parameters of a constructor that takes anything. -/
def anyParameters : List (Parameter Object) :=
  [{ name := "args", passing := .rest }, { name := "kwargs", passing := .keywords }]

/-- The parameters of the constructor of a class of the library. -/
def LibraryClass.parameters (c : LibraryClass) : List (Parameter Object) :=
  if c.takes.isEmpty then anyParameters
  else c.takes.map fun (name, hasDefault) => { name, hasDefault }

/-- What a class of the library itself holds under a name. -/
def LibraryClass.attribute? (c : LibraryClass) (name : String) : Option Attribute :=
  let function : Attribute := .function {
    name := c.qualifiedName ++ "." ++ name
    parameters := if name = "__init__" then c.parameters else []
    kind := if name ∈ c.awaited then .awaited else .ofValue
    module := 0 }
  (c.holding? name).map fun holding => match holding with
    | .function | .shared => function
    | .property => .property (some { module := 0 }) false
    | holding =>
      if name = "__init__" then function else .object (.ofHolding c name holding)

/-- What a field of a dataclass is there for. -/
inductive FieldRole
  /-- It is a member of every value. -/
  | member
  /-- It belongs to the class itself. -/
  | ofClass
  /-- It is given to the constructor only. -/
  | forConstruction
  deriving DecidableEq, Repr, Inhabited

/-- A field that a dataclass has, its own or an inherited one. -/
structure DataclassField where
  /-- Its type, as it is written. -/
  type : Object := .none
  /-- What it is there for. -/
  role : FieldRole := .member
  /-- Does the constructor take it? -/
  inConstructor : Bool := true
  /-- Can the constructor do without it? -/
  hasDefault : Bool := false
  /-- Is there a function that makes its default value? -/
  hasFactory : Bool := false
  /-- The value that stands for it if it is left out. -/
  default : Object := .none
  /-- What else is said about it. -/
  metadata : Value := .dict []
  deriving Repr

/-- What makes a class a dataclass. -/
structure DataclassShape where
  /-- Its fields. -/
  fields : List (String × DataclassField)
  /-- Are its members fixed at construction? -/
  frozen : Bool
  /-- The fields have different names. -/
  nodup : (fields.map (·.1)).Nodup
  deriving Repr

/-- A dataclass of the library, with the place where it is declared. -/
structure LibraryRecord where
  /-- What makes it a dataclass. -/
  shape : DataclassShape
  /-- The file. -/
  file : String
  /-- The line. -/
  line : Int
  deriving Repr

/-- Where the library of models is kept. -/
def modelsDirectory : String := "/opt/oracle_build/site/pydantic/"

/-- The dataclass that a class of the library is. -/
def LibraryClass.record? (c : LibraryClass) : Option LibraryRecord :=
  if c = ⟨"pydantic.types", "PathType"⟩ then
    let kinds : Object := .formed .literal (["file", "dir", "new", "socket"].map .text)
    let shape : DataclassShape :=
      { fields := [("path_type", { type := kinds })], frozen := false, nodup := by simp }
    some ⟨shape, modelsDirectory ++ "types.py", 1292⟩
  else none

/-- What makes a class a tuple with named members. -/
structure TupleShape where
  /-- The names of its members. -/
  fields : List String
  /-- Those the constructor can do without. -/
  optional : List String
  deriving Repr

/-- A field of a model. -/
structure ModelField where
  /-- Its type without notes. -/
  type : Object := .none
  /-- Is its type known? Otherwise it is as it is written, since it names something unknown. -/
  isComplete : Bool := true
  /-- The markers on its type. -/
  markers : List Directive.Marker := []
  /-- Must it be given? -/
  isRequired : Bool := true
  /-- Is there a function that makes its default value? -/
  hasFactory : Bool := false
  /-- The keyword the constructor takes it under. -/
  aliasName : Option String := none
  /-- Is it fixed at construction? -/
  frozen : Bool := false
  /-- What else is said about it. -/
  metadata : Option Value := none
  deriving Repr

/-- What makes a class a model. -/
structure ModelShape where
  /-- Its fields. -/
  fields : List (String × ModelField) := []
  /-- Are its members fixed at construction? -/
  frozen : Bool := false
  /-- Does it have attributes that are no fields? -/
  hasPrivate : Bool := false
  /-- The names of its attributes that belong to the class itself. -/
  classNames : List String := []
  /-- Can it check values? It cannot as long as it is made of something unknown. -/
  isBuilt : Bool := false
  /-- The model that it is, given types. -/
  origin : Option Nat := none
  /-- The types that it is given. -/
  args : List Object := []
  /-- The type variables that it leaves open. -/
  parameters : List Nat := []
  /-- The fields have different names. -/
  nodup : (fields.map (·.1)).Nodup
  deriving Repr

instance : Inhabited ModelShape := ⟨{ fields := [], nodup := List.nodup_nil }⟩

/-- The name under which a class holds the types of its annotated names. -/
def typesName : String := "__annotations__"

/-- The names under which a class has something of its own, whatever it holds or inherits under
them. -/
def classNames : List String :=
  ["__name__", "__qualname__", "__module__", "__bases__", "__base__", "__mro__", "__dict__", "__class__",
    "__doc__", "__annotations__", "__abstractmethods__", "__text_signature__", "__basicsize__",
    "__itemsize__", "__flags__", "__dictoffset__", "__weakrefoffset__"]

/-- The place of a value for whatever else it is given, and the one for those that refer to it
without keeping it. Neither counts for the layout of the value. -/
def optionalPlaces : List String := ["__dict__", "__weakref__"]

/-- A class of a program that runs. -/
structure ClassObject where
  /-- The module that declares it. -/
  module : String
  /-- Its path within the module. -/
  path : String
  /-- Its own name. -/
  name : String := lastPart path
  /-- What has made it. -/
  metaclass : Metaclass := .ordinary
  /-- What it inherits from directly. -/
  bases : List ClassId := []
  /-- What stands in the places of its bases, if something does that is no class. -/
  given : List Object := []
  /-- The class and all that it inherits from, in linearized order. -/
  line : List ClassId
  /-- What it holds, in order. -/
  attributes : List (String × Attribute) := []
  /-- The types of its annotated names, as they are written. -/
  annotations : List (String × Object) := []
  /-- The members for which its values have places, if its body tells. -/
  places : Option (List String) := none
  /-- The type variables that it leaves open, if it can leave any open. -/
  parameters : Option (List Nat) := none
  /-- The dataclass that it is. -/
  dataclass : Option DataclassShape := none
  /-- The tuple that it is. -/
  tuple : Option TupleShape := none
  /-- The model that it is. -/
  model : Option ModelShape := none
  /-- The values that it is a choice between, each under its first name. -/
  values : List (String × Object) := []
  /-- The other names of values, each with the first name of its value. -/
  otherNames : List (String × String) := []
  /-- Values that several of its own make up together, each under their names. -/
  unions : List (String × Object) := []
  /-- The class whose values its values also are. -/
  valueType : Option ClassId := none
  /-- Does it describe members, if the class of all descriptions has settled that? -/
  isProtocol : Option Bool := none
  /-- The names of the methods that wait for a subclass to define them. -/
  awaited : List String := []
  /-- What its decorators have recorded. -/
  declared : Directive.Declared := {}
  /-- The classes passed to its decorators, in the order in which these took effect. -/
  references : List ClassId := []

/-- The name of a class with its module. -/
def ClassObject.qualifiedName (c : ClassObject) : String :=
  c.module ++ "." ++ c.path

/-- What is kept in the value of an enum that is known by a name, alone or with others. -/
def ClassObject.keptAt? (c : ClassObject) (name : String) : Option Object :=
  (c.values.lookup name).or (c.unions.lookup name)

/-! ### Type variables and modules -/

/-- What a type variable stands for. -/
inductive VariableKind
  /-- One type. -/
  | type
  /-- The parameters of something that can be called. -/
  | parameters
  /-- Any number of types. -/
  | several
  deriving DecidableEq, Repr, Inhabited

/-- A type variable that has come into being. -/
structure VariableObject where
  /-- Its name. -/
  name : String
  /-- What it stands for. -/
  kind : VariableKind := .type
  /-- The module that it belongs to. -/
  module : String := "typing"
  /-- Its bound. -/
  bound : Option Object := none
  /-- The types it is limited to. -/
  constraints : List Object := []
  /-- Does a generic class vary as its argument does? -/
  covariant : Bool := false
  /-- Does a generic class vary against its argument? -/
  contravariant : Bool := false
  deriving Repr, Inhabited

/-- How a type variable is written. -/
def VariableObject.spelling (v : VariableObject) : String :=
  if v.kind = .several then v.name
  else (if v.covariant then "+" else if v.contravariant then "-" else "~") ++ v.name

/-- A module that has come into being. -/
structure ModuleObject where
  /-- Its name. -/
  name : String
  /-- The file it is in, if it is known. -/
  file : Option String := none
  /-- The paths of the classes that it declares, with where they are written. -/
  places : List (String × ClassPlace) := []
  /-- Has it not been run to its end? -/
  isUnfinished : Bool := false
  /-- The names that it knows. -/
  names : List (String × Object) := []
  deriving Repr, Inhabited

/-- The type variables of the library. -/
def VariableObject.ofLibrary : List VariableObject :=
  libraryVariables.map fun (name, covariant, contravariant) => {
    name, covariant, contravariant
    bound := if name = "CT_co" then some (.cls (.library .type)) else none
    constraints := if name = "AnyStr" then
        [.cls (.library (.builtin "bytes")), .cls (.library .text)] else [] }

/-- What every module knows without giving it a name. -/
def ModuleObject.implicit? (o : ModuleObject) (name : String) : Option Object :=
  if name = "__name__" then some (.text o.name)
  else if name ∈ ["__doc__", "__package__", "__loader__", "__spec__"] then some .none
  else if name = "__file__" then o.file.map .text
  else if name = "__builtins__" then
    some (.table ((builtinClasses ++ builtinFunctions).map fun name =>
      .row [.text name, ((builtin? name).map .ofItem).getD .none]))
  else none

/-- The names that every module knows without giving them a meaning. -/
def implicitNames : List String :=
  ["__name__", "__doc__", "__package__", "__loader__", "__spec__", "__file__", "__builtins__"]

/-- The names that a module knows in any way. -/
def ModuleObject.allNames (o : ModuleObject) : List (String × Object) :=
  setEntries (implicitNames.filterMap fun name => (o.implicit? name).map (name, ·)) o.names

/-! ### Functions and what yields things -/

/-- The names that a function gives a meaning while it is called, or a loop that gathers while it
runs. -/
structure Frame where
  /-- Is it that of a loop? -/
  isLoop : Bool := false
  /-- The names. -/
  names : List (String × Object) := []
  deriving Repr, Inhabited

/-- What names mean together. -/
inductive Space
  /-- The names of a module, by its place. -/
  | module (index : Nat)
  /-- Other names. -/
  | names (names : List (String × Object))
  /-- The names in a table with a place of its own. -/
  | table (place : Nat)
  deriving Repr, Inhabited

/-- A function without a name that has come into being. -/
structure LambdaObject where
  /-- Its parameters. -/
  parameters : List (Parameter Object)
  /-- The default values of its parameters. -/
  defaults : List (String × Object)
  /-- What it yields. -/
  body : Expr
  /-- The class whose body it stands in, if it does. -/
  owner : String
  /-- The frames around it, the innermost first. -/
  frames : List Nat
  /-- The names that come after those of the frames. -/
  far : Space
  deriving Repr, Inhabited

/-- Where an expression stands. -/
structure Scope where
  /-- The class whose body it is in, if it is in one. -/
  owner : String := ""
  /-- The frames of the functions and loops around it, the innermost first. -/
  frames : List Nat := []
  /-- The names that are near. -/
  near : Space
  /-- The names that are far. -/
  far : Space
  /-- A name that the function around is going to give a meaning, and has not yet. -/
  pending : Option String := none
  /-- The names that the body gives a meaning somewhere; the function around has no say in these. -/
  own : List String := []
  deriving Repr, Inhabited

/-- A loop that is being gone through: what it goes through, the names that it gives to each thing,
and what it does with it. -/
structure Loop where
  /-- What it goes through. -/
  source : Object
  /-- The names that it gives. -/
  target : Expr
  /-- What it does. -/
  body : Expr
  deriving Repr, Inhabited

/-- What is left of what yields things one after the other. -/
inductive Flow
  /-- What an object answers when it is asked for its places, from one on. -/
  | answers (owner : Object) (next : Nat)
  /-- Things that are known, and the fault that comes after them if there is one. -/
  | items (left : List Object) (fault : Option Fault)
  /-- The things at the places of an object, from one on. -/
  | places (owner : Object) (next : Nat)
  /-- The things at the places of an object, back from one that is left out. -/
  | back (owner : Object) (next : Nat)
  /-- What is at the places of a table or a set that must not grow or shrink, from one on or back from
  it. -/
  | entries (kind : String) (owner : Object) (next count : Nat) (isBack : Bool)
  /-- What a function makes of things that others yield. -/
  | mapped (f : Object) (sources : List Object)
  /-- The things that a function says yes to. -/
  | filtered (f source : Object)
  /-- Rows of the things that others yield. -/
  | together (sources : List Object) (isStrict : Bool)
  /-- Numbers with things. -/
  | numbered (count : Int) (source : Object)
  /-- What a function yields until it yields a thing. -/
  | asked (f last : Object)
  /-- What loops yield, the innermost first, each with the names of a frame. -/
  | gathered (scope : Scope) (frame : Nat) (loops : List Loop)
  deriving Repr, Inhabited

/-- What yields things one after the other. -/
structure IteratorObject where
  /-- What kind of object it is. -/
  kind : String
  /-- What is left of it. -/
  flow : Flow := .items [] none
  deriving Repr, Inhabited

/-! ### Everything -/

/-- A type that has been asked for: in what way, and with what. -/
structure Request where
  /-- In what way. -/
  way : String
  /-- With what. -/
  args : List Object
  deriving Repr

/-- What a warning is about. -/
structure WarningPlace where
  /-- The file. -/
  file : String
  /-- The line. -/
  line : Int
  /-- What is written there, if that is known. -/
  text : String

/-- What a running program holds. -/
structure Memory where
  /-- The classes. -/
  classes : List ClassObject := []
  /-- The type variables. -/
  typeVariables : List VariableObject := VariableObject.ofLibrary
  /-- The modules. -/
  modules : List ModuleObject := []
  /-- The modules by their names. -/
  registry : List (String × Nat) := []
  /-- What the places of things hold that can change. -/
  cells : Array Object := #[]
  /-- The types that have been made and are still known, those that were asked for last at the end. -/
  made : List (Request × Object) := []
  /-- What the program has been warned of, line by line. -/
  warnings : List String := []
  /-- The number of texts that stand for types. -/
  forwards : Nat := 0
  /-- What texts have been found to stand for. -/
  found : List (Nat × Object) := []
  /-- What was put under names of things that have no place of their own. -/
  extras : List (Object × List (String × Object)) := []
  /-- The functions without a name. -/
  lambdas : List LambdaObject := []
  /-- What yields things one after the other. -/
  iterators : List IteratorObject := []
  /-- The frames. -/
  frames : List Frame := []

/-- What a program does: it changes what it holds, and can fail. -/
abbrev Run := ExceptT Fault (StateM Memory)

namespace Run

/-- Refuses a misuse. -/
def refuse {α : Type} (m : Misuse) : Run α :=
  throw (.misuse m)

end Run

namespace Memory

variable (m : Memory)

/-! ### Looking things up -/

/-- The class of the program at a place. -/
def class? (index : Nat) : Option ClassObject :=
  m.classes[index]?

/-- The module of a name. -/
def module? (name : String) : Option Nat :=
  m.registry.lookup name

/-- What a module knows under a name. -/
def global? (module : Nat) (name : String) : Option Object :=
  m.modules[module]?.bind fun o => (o.names.lookup name).or (o.implicit? name)

/-- The module in which a class is. -/
def moduleOf : ClassId → String
  | .library c => c.module
  | .program index => ((m.class? index).map (·.module)).getD ""

/-- The path of a class in its module. -/
def pathOf : ClassId → String
  | .library c => c.name
  | .program index => ((m.class? index).map (·.path)).getD ""

/-- The name of a class. -/
def nameOf : ClassId → String
  | .library c => c.name
  | .program index => ((m.class? index).map (·.name)).getD ""

/-- The name of a class with its module. -/
def qualifiedName (c : ClassId) : String :=
  m.moduleOf c ++ "." ++ m.pathOf c

/-- A class and all that it inherits from, in linearized order. -/
def line : ClassId → List ClassId
  | .library c => c.line.map .library
  | .program index => ((m.class? index).map (·.line)).getD []

/-- Is a class another one or does it inherit from it? -/
def inherits (c base : ClassId) : Bool :=
  base ∈ m.line c

/-- Do the values of a class have a layout that those of what it inherits from do not have? -/
def hasLayout : ClassId → Bool
  | .library c => c.hasLayout
  | .program index => (m.class? index).any fun c => (c.places.getD []).any (· ∉ optionalPlaces)

/-- The classes of the program among a class and all that it inherits from. -/
def lineage (c : ClassId) : List (Nat × ClassObject) :=
  (m.line c).filterMap fun a => match a with
    | .program index => (m.class? index).map (index, ·)
    | .library _ => none

/-- What has made a class. -/
def metaclassOf : ClassId → Metaclass
  | .program index => ((m.class? index).map (·.metaclass)).getD .ordinary
  | .library c => .ofMaker c.maker

/-! ### Members of classes -/

/-- What a class itself holds under a name. -/
def own? (c : ClassId) (name : String) : Option Attribute :=
  match c with
  | .library c => c.attribute? name
  | .program index => (m.class? index).bind (·.attributes.lookup name)

/-- What a class holds or inherits under a name. What all classes have is left out. -/
def attribute? (c : ClassId) (name : String) : Option Attribute :=
  (m.line c).findSome? fun a => m.own? a name

/-- The name under which a class can tell the line on which it begins. -/
def lineName : String := "__firstlineno__"

/-- Where a class is declared: the file of its module, and the line on which the first class of its
path begins there unless the class tells another one. -/
def locationOf (index : Nat) (c : ClassObject) : Location :=
  let module := (m.module? c.module).bind fun place => m.modules[place]?
  let file := module.bind (·.file)
  let found := if file.isSome then (module.bind fun o => o.places.lookup c.path).map (·.first) else none
  let told := match m.attribute? (.program index) lineName with
    | some (.object (.constant v)) => v.count?
    | _ => none
  ⟨c.path, file, told.or found⟩

/-- What a class has under a name in any way: by itself, by what it inherits from, or since it is a
class. -/
def classAttribute? (c : ClassId) (name : String) : Option Attribute :=
  let made := (m.metaclassOf c).cls.line.findSome? (·.attribute? name)
  (m.attribute? c name).or (((LibraryClass.builtin "object").attribute? name).or made)

/-- The text that an object counts as: a text is one, and so is a value of an enum of texts. -/
def asText? : Object → Option String
  | .enumValue owner name =>
    if m.inherits (.program owner) (.library .text) then
      ((m.class? owner).bind (·.keptAt? name)).bind (·.text?)
    else none
  | o => o.text?

/-- The name of the type because of which an object cannot be looked up in a table. A value of an
enum whose values are those of another class is looked up as that class would. -/
def unhashable? (o : Object) : Option String :=
  match o with
  | .enumValue owner name => match (m.class? owner).bind fun c => c.valueType.map (c, ·) with
    | some (c, .library l) =>
      if l ∈ [.builtin "list", .builtin "dict", .builtin "set", .builtin "bytearray"] then some c.name
      else (c.keptAt? name).bind (·.unhashable?)
    | _ => Option.none
  | o => o.unhashable?

/-- The nearest class, from a class on, that says something of itself. -/
def nearest? {α : Type} (c : ClassId) (f : ClassObject → Option α) : Option α :=
  (m.lineage c).findSome? fun (_, a) => f a

/-- The dataclass that a class is or inherits from. -/
def dataclass? (c : ClassId) : Option DataclassShape :=
  match c with
  | .library l => l.record?.map (·.shape)
  | c => m.nearest? c (·.dataclass)

/-- The model that a class is. One that is given types has the fields of the model that it is. -/
def model? : ClassId → Option ModelShape
  | .program index => ((m.class? index).bind (·.model)).map fun shape =>
    match (shape.origin.bind m.class?).bind (·.model) with
    | some origin =>
      { shape with
        fields := origin.fields, classNames := origin.classNames, nodup := origin.nodup }
    | none => shape
  | .library _ => none

/-- The type variables that a class leaves open, if it can leave any open. -/
def parameters? : ClassId → Option (List Nat)
  | .program index => m.nearest? (.program index) (·.parameters)
  | .library _ => none

/-! ### Changes -/

/-- Adds a class. -/
def addClass (c : ClassObject) : Memory :=
  { m with classes := m.classes ++ [c] }

/-- Changes a class. -/
def changeClass (index : Nat) (f : ClassObject → ClassObject) : Memory :=
  { m with classes := m.classes.modify index f }

/-- Adds a module under its name. -/
def addModule (o : ModuleObject) : Memory :=
  { m with
    modules := m.modules ++ [o]
    registry := setEntry o.name m.modules.length m.registry }

/-- Changes a module. -/
def changeModule (index : Nat) (f : ModuleObject → ModuleObject) : Memory :=
  { m with modules := m.modules.modify index f }

/-- Adds a function without a name. -/
def addLambda (o : LambdaObject) : Memory :=
  { m with lambdas := m.lambdas ++ [o] }

/-- Adds what yields things one after the other. -/
def addIterator (o : IteratorObject) : Memory :=
  { m with iterators := m.iterators ++ [o] }

/-- Changes what is left of what yields things one after the other. -/
def changeFlow (index : Nat) (flow : Flow) : Memory :=
  { m with iterators := m.iterators.modify index fun o => { o with flow } }

/-- Adds a thing with a place of its own. -/
def addCell (o : Object) : Memory :=
  { m with cells := m.cells.push o }

/-- Changes what a place holds. -/
def changeCell (place : Nat) (o : Object) : Memory :=
  { m with cells := m.cells.modify place fun _ => o }

/-- What was put under a name of something that has no place of its own. -/
def extra? (o : Object) (name : String) : Option Object :=
  m.extras.findSome? fun (p, names) => if p.same o then names.lookup name else none

/-- Puts something under a name of something that has no place of its own, or takes it away. -/
def setExtra (o : Object) (name : String) (new : Option Object) : Memory :=
  let names := (m.extras.findSome? fun (p, names) => if p.same o then some names else none).getD []
  let names := match new with
    | some value => setEntry name value names
    | none => names.filter (·.1 ≠ name)
  { m with extras := (o, names) :: m.extras.filter fun (p, _) => !p.same o }

/-- Adds a warning of a kind about what is written at a place. -/
def warn (place : WarningPlace) (kind message : String) : Memory :=
  let text := place.file ++ ":" ++ toString place.line ++ ": " ++ kind ++ ": " ++ message
  let quoted := if place.text = "" then [] else ["  " ++ place.text]
  { m with warnings := m.warnings ++ (text :: quoted) }

/-- Adds a frame. -/
def addFrame (f : Frame) : Memory :=
  { m with frames := m.frames ++ [f] }

/-- Gives something a name in a frame. -/
def bindIn (frame : Nat) (name : String) (o : Object) : Memory :=
  { m with frames := m.frames.modify frame fun f => { f with names := setEntry name o f.names } }

/-- Gives something a name in a module. -/
def bind (module : Nat) (name : String) (o : Object) : Memory :=
  m.changeModule module fun x => { x with names := setEntry name o x.names }

end Memory

namespace Run

/-- The ways to ask for a type that share what they know: each keeps the types that were asked for
last, and forgets the others. -/
def shelfOf (way : String) : String :=
  let name := lastPart way
  if !way.startsWith "typing." || name ∈ ["Literal", "Annotated", "Callable", "Tuple"] then way
  else if (namedForms.lookup name).isSome then "named" else "special"

/-- The number of types that are known on a shelf. -/
def shelfSize : Nat := 128

/-- Does a shelf keep all types? -/
def keepsAll (way : String) : Bool :=
  way = "model" || way = "specialized"

/-- Puts a type at the end of what is known, and forgets what is too much on its shelf. -/
def shelved (r : Request) (o : Object) (known : List (Request × Object)) : List (Request × Object) :=
  let isThere (e : Request × Object) : Bool := shelfOf e.1.way = shelfOf r.way
  let known := if keepsAll r.way || (known.filter isThere).length < shelfSize then known
    else known.eraseP isThere
  known ++ [(r, o)]

/-- Makes a type, unless it has been made before in the same way with the same objects and is still
known. What cannot be looked up in a table is made anew. If types count, objects of different types
are different. -/
def once (way : String) (typed : Bool) (args : List Object) (make : Run Object) : Run Object := do
  if args.all (·.isHashable) then
    let isSame (e : Request × Object) : Bool :=
      e.1.way = way && Object.sameAll args e.1.args
        && (!typed || (args.zip e.1.args).all fun (a, b) => Object.sameType a b)
    match (← get).made.find? isSame with
    | some (r, o) =>
      modify fun m => { m with made := m.made.eraseP isSame ++ [(r, o)] }
      return o
    | none =>
      let o ← make
      modify fun m => { m with made := shelved ⟨way, args⟩ o m.made }
      return o
  else make

/-- The expression of a text. What is suspicious about it is told. -/
def expression (text : String) : Run Expr := do
  let some e := Expr.ofText? text | throw .malformed
  e.suspicions.forM fun s => modify (·.warn ⟨"<string>", 1, ""⟩ "SyntaxWarning" s.text)
  return e

/-- A text that is to be looked up later. -/
def forward (text : String) (isWhole : Bool) : Run Object := do
  if text = "" then throw .noPlace
  if '\x00' ∈ text.toList then throw .badValue
  let _ ← expression text
  let id := (← get).forwards
  modify fun m => { m with forwards := id + 1 }
  return .forward id text isWhole

end Run

end Mapsmith.Program
