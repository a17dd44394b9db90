import Mapsmith.Program.Expr.Parser

/-!
# Declared programs

The modules of a program with the classes they declare, as far as mapping can tell them apart: what
kind of class it is, what it inherits from, its annotated fields, its constructor, its properties and
methods, the values of an enum, the classes in its body, and the directives declared on it. A program
that breaks the rules of its language cannot be written, and none of its modules runs then that does.
-/

namespace Mapsmith.Program

/-! ### Members -/

/-- What a field says of itself beside its type. -/
structure FieldDetails where
  /-- Is there a default value? -/
  hasDefault : Bool := false
  /-- Is there a function that makes a default value? -/
  hasFactory : Bool := false
  /-- Does the constructor take it? -/
  inConstructor : Bool := true
  /-- The keyword the constructor takes it under. -/
  aliasName : Option String := none
  /-- Is it fixed at construction? -/
  frozen : Bool := false
  /-- What else is said about it. -/
  metadata : Option Value := none
  deriving Repr, Inhabited

/-- A field: a name with a type in the body of a class. -/
structure Field where
  /-- Its name. -/
  name : String
  /-- Its type. -/
  type : Expr
  /-- What it says of itself beside its type. -/
  details : FieldDetails := {}
  deriving Repr

/-- The constructor that a class declares. -/
inductive Constructor
  /-- It declares none. -/
  | inherited
  /-- Something that cannot be called stands in its place. -/
  | unreadable
  /-- A constructor with parameters. -/
  | taking (parameters : List (Parameter Expr))
  deriving Repr

/-- A property. -/
structure Property where
  /-- Its name. -/
  name : String
  /-- The type it yields. -/
  type : Option Expr := none
  /-- Can it be assigned? -/
  hasSetter : Bool := false
  /-- Can it be read? -/
  hasGetter : Bool := true
  deriving Repr

/-- What a method is called on. -/
inductive MethodKind
  /-- It is called on values. -/
  | ofValue
  /-- It is called on the class. -/
  | ofClass
  /-- It is called on nothing. -/
  | free
  /-- It waits for a subclass to define it. -/
  | awaited
  deriving DecidableEq, Repr, Inhabited

/-- A method. -/
structure Method where
  /-- Its name. -/
  name : String
  /-- What it is called on. -/
  kind : MethodKind := .ofValue
  deriving Repr

/-! ### Decorators -/

/-- What a decorator is given where a type is expected. -/
inductive Target
  /-- What an expression stands for. -/
  | object (e : Expr)
  /-- A value. -/
  | value (v : Value)
  deriving Repr

/-- A decorator on a class. -/
inductive Decorator
  /-- It asks for a mapping to a target. -/
  | mapTo (target : Target) (options : Value)
  /-- It pairs derived types. -/
  | derivedType (source target : Target)
  deriving Repr

/-! ### Classes -/

/-- What kind of class a declaration makes. -/
inductive ClassKind
  /-- A class with a constructor made from its fields. -/
  | dataclass
  /-- A model that checks what it is built from. -/
  | model
  /-- A tuple with named members. -/
  | namedTuple
  /-- A description of members. -/
  | protocol
  /-- A choice between named values. -/
  | enum
  /-- Any other class. -/
  | plain
  deriving DecidableEq, Repr, Inhabited

/-- A class as it is declared, but for the classes in its body. -/
structure ClassHead where
  /-- Its name. -/
  name : String
  /-- What kind of class it is. -/
  kind : ClassKind := .plain
  /-- Is it declared inside a function? The module knows it under another name then. -/
  isLocal : Bool := false
  /-- Are its members fixed at construction? -/
  frozen : Bool := false
  /-- Is it declared as an abstract base class? -/
  isAbstractBase : Bool := false
  /-- What it inherits from. -/
  bases : List Expr := []
  /-- Does it inherit from what makes models or enums beside its bases, and not through one of them? -/
  joinsKind : Bool := true
  /-- The type variables it is generic in. -/
  typeParameters : List Expr := []
  /-- Its fields. -/
  fields : List Field := []
  /-- The values of an enum. -/
  values : List (String × Value) := []
  /-- Its constructor. -/
  constructor : Constructor := .inherited
  /-- Its properties. -/
  properties : List Property := []
  /-- Its methods. -/
  methods : List Method := []
  /-- The decorators on it, the topmost first. -/
  decorators : List Decorator := []
  /-- The line it begins on. -/
  line : Option Int := none
  deriving Repr

/-- The path of a class within its module, given the path of the class around it. -/
def ClassHead.path (outer : Option String) (d : ClassHead) : String :=
  match outer with
  | some outer => outer ++ "." ++ d.name
  | none => if d.isLocal then "make_" ++ d.name ++ ".<locals>." ++ d.name else d.name

/-- The name under which the scope around a class knows it. -/
def ClassHead.boundAs (outer : Option String) (d : ClassHead) : String :=
  if d.isLocal && outer.isNone then "_local_" ++ d.name else d.name

/-- A class as it is declared. -/
structure ClassDeclaration where
  /-- The class but for its body's classes. -/
  head : ClassHead
  /-- The classes in its body. -/
  nested : List ClassDeclaration := []
  deriving Repr

/-! ### Modules -/

/-- A type variable of a module. -/
structure TypeVariable where
  /-- Its name. -/
  name : String
  /-- Its bound. -/
  bound : Option Expr := none
  /-- The types it is limited to. -/
  constraints : List Expr := []
  /-- Does a generic class vary as its argument does? -/
  covariant : Bool := false
  /-- Does a generic class vary against its argument? -/
  contravariant : Bool := false
  deriving Repr

/-- A module as it is declared. -/
structure ModuleDeclaration where
  /-- Its name. -/
  name : String
  /-- The file it is in, if it is known. -/
  file : Option String := none
  /-- Does it begin with the names that modules of a program begin with? -/
  hasHeader : Bool := true
  /-- The modules it imports. -/
  imports : List String := []
  /-- The names of other modules that it takes over, each with its module. -/
  fromImports : List String := []
  /-- Its type variables. -/
  typeVariables : List TypeVariable := []
  /-- Its classes. -/
  classes : List ClassDeclaration := []
  deriving Repr

/-! ### What can be written -/

/-- Can parameters be passed in these ways, one after the other? Those that are passed by position alone
come in one run, and nothing follows what takes all other keywords. -/
def Passing.areInOrder (ps : List Passing) : Bool :=
  let positional := (ps.takeWhile (·.byPosition)).dropWhile (· = .either)
  let others := ps.dropWhile (·.byPosition)
  let others := if others.head? = some .rest then others.tail else others
  (positional.dropWhile (· = .positional)).all (· = .either)
    && (others.dropWhile fun p => p = .either || p = .keyword) ∈ [[], [.keywords]]

/-- How parameters are passed, given how they are declared. What comes before one that is passed by
position alone is passed so too, and what comes after the others is passed by keyword alone. -/
def Passing.settled (ps : List Passing) : List Passing :=
  let byPosition := ps.takeWhile (·.byPosition)
  let others := ps.dropWhile (·.byPosition)
  let last := (byPosition.reverse.takeWhile (· = .either)).length
  (byPosition.take (byPosition.length - last)).map (fun _ => .positional)
    ++ byPosition.drop (byPosition.length - last)
    ++ others.map fun p => if p = .either then .keyword else p

/-- Does every parameter that is passed by its position and has no default come before those that have
one? -/
def areOrdered : List (Parameter Expr) → Bool
  | [] => true
  | p :: ps =>
    (!p.hasDefault || ps.all fun q => q.hasDefault || !q.passing.byPosition) && areOrdered ps

/-- Can the parameters of a method be written? No two have one name, and the first is taken. -/
def areParameters (ps : List (Parameter Expr)) : Bool :=
  areOrdered (ps.takeWhile (·.passing.byPosition)) && Passing.areInOrder (ps.map (·.passing))
    && ("self" :: ps.map (Text.normalized ·.name)).Nodup
    && ps.all fun p => !(p.hasDefault && (p.passing = .rest || p.passing = .keywords))

/-- The names that are given to the options of a decorator. -/
def Decorator.names : Decorator → List String
  | mapTo _ (.dict entries) => entries.map (·.1)
  | mapTo .. | derivedType .. => []

/-- The expressions in a decorator. -/
def Decorator.expressions : Decorator → List Expr
  | mapTo (.object e) _ => [e]
  | derivedType source target => [source, target].filterMap fun t => match t with
    | .object e => some e
    | .value _ => none
  | mapTo .. => []

/-- Can a decorator be written, as far as its names can? No two options have one name. -/
def Decorator.isWritable (d : Decorator) : Bool :=
  (d.names.map Text.normalized).Nodup

/-- The parameters that a constructor takes. -/
def Constructor.parameters : Constructor → List (Parameter Expr)
  | inherited | unreadable => []
  | taking parameters => parameters

namespace ClassHead

variable (d : ClassHead)

/-- The names that the class gives to things, and its own. -/
def names : List String :=
  d.name :: d.fields.map (·.name) ++ d.values.map (·.1) ++ d.constructor.parameters.map (·.name)
    ++ d.properties.map (·.name) ++ d.methods.map (·.name) ++ d.decorators.flatMap (·.names)

/-- The expressions in the class. -/
def expressions : List Expr :=
  d.bases ++ d.typeParameters ++ d.fields.map (·.type)
    ++ d.constructor.parameters.filterMap (·.type) ++ d.properties.filterMap (·.type)
    ++ d.decorators.flatMap (·.expressions)

/-- Can the class be written, as far as its names and expressions can? -/
def isWritable : Bool :=
  areParameters d.constructor.parameters && d.decorators.all (·.isWritable)

end ClassHead

mutual

/-- A class and the classes in its body, without these. -/
def ClassDeclaration.heads : ClassDeclaration → List ClassHead
  | ⟨head, nested⟩ => head :: headsOfClasses nested

/-- Classes in a row and the classes in their bodies, without these. -/
def headsOfClasses : List ClassDeclaration → List ClassHead
  | [] => []
  | d :: ds => d.heads ++ headsOfClasses ds

end

namespace ModuleDeclaration

variable (m : ModuleDeclaration)

/-- The names of the modules that a module imports, and of what it takes over from others. -/
def importedNames : List String :=
  (m.imports ++ m.fromImports).flatMap (·.splitOn ".")

/-- The names that a module gives to things. -/
def names : List String :=
  m.importedNames ++ m.typeVariables.map (·.name) ++ (headsOfClasses m.classes).flatMap (·.names)

/-- What stands in a module where an expression should, and is none. -/
def invalidTexts : List String :=
  Expr.invalidTextsOf
    (m.typeVariables.flatMap (fun v => v.bound.toList ++ v.constraints)
      ++ (headsOfClasses m.classes).flatMap (·.expressions))

/-- Does a character stand in the module that cannot stand in any? -/
def holdsNull : Bool :=
  (m.names ++ m.invalidTexts).any ('\x00' ∈ ·.toList)

/-- Can a module be written? -/
def isWritable : Bool :=
  m.names.all Token.isGivenName && m.invalidTexts.isEmpty
    && m.fromImports.all ('.' ∈ ·.toList) && (headsOfClasses m.classes).all (·.isWritable)

end ModuleDeclaration

/-! ### Normal forms -/

/-- A parameter under the normal form of its name. -/
def Parameter.normalized {τ : Type} (p : Parameter τ) : Parameter τ :=
  { p with name := Text.normalized p.name }

/-- A constructor with the normal forms of its names. -/
def Constructor.normalized : Constructor → Constructor
  | taking parameters => taking (parameters.map (·.normalized))
  | c => c

/-- A decorator with the normal forms of its names. -/
def Decorator.normalized : Decorator → Decorator
  | mapTo target (.dict entries) =>
    mapTo target (.dict (entries.map fun (key, v) => (Text.normalized key, v)))
  | d => d

/-- A class with the normal forms of its names. -/
def ClassHead.normalized (d : ClassHead) : ClassHead :=
  { d with
    name := Text.normalized d.name
    fields := d.fields.map fun f => { f with name := Text.normalized f.name }
    values := d.values.map fun (name, v) => (Text.normalized name, v)
    constructor := d.constructor.normalized
    properties := d.properties.map fun p => { p with name := Text.normalized p.name }
    methods := d.methods.map fun f => { f with name := Text.normalized f.name }
    decorators := d.decorators.map (·.normalized) }

mutual

/-- A class and those in its body with the normal forms of their names. -/
def ClassDeclaration.normalized : ClassDeclaration → ClassDeclaration
  | ⟨head, nested⟩ => ⟨head.normalized, normalizedClasses nested⟩

/-- Classes in a row with the normal forms of their names. -/
def normalizedClasses : List ClassDeclaration → List ClassDeclaration
  | [] => []
  | d :: ds => d.normalized :: normalizedClasses ds

end

/-- A module with the normal forms of all names in it. Names that are texts stay as they are: its own, and
those that its type variables call themselves. -/
def ModuleDeclaration.normalized (m : ModuleDeclaration) : ModuleDeclaration :=
  { m with
    imports := m.imports.map Text.normalized
    fromImports := m.fromImports.map Text.normalized
    classes := normalizedClasses m.classes }

end Mapsmith.Program

namespace Mapsmith

/-- A program: its modules, in the order in which they are run. -/
structure Program where
  /-- The modules. -/
  modules : List Program.ModuleDeclaration := []
  deriving Repr

end Mapsmith
