import Mapsmith.Directive
import Mapsmith.TypeRef

/-!
# Type descriptors

What mapping knows of one type of a program: its members with their types and how each can be
read and written, the values of an enum, its ancestors, and the directives declared on it. A
descriptor is a snapshot; it refers to other types by qualified name only.
-/

namespace Mapsmith

/-- The shape of a type. -/
inductive TypeKind
  /-- A class whose members can be assigned. -/
  | cls
  /-- A class whose members are fixed at construction. -/
  | record
  /-- A tuple with named members. -/
  | struct
  /-- A choice between named values. -/
  | enum
  /-- A description of members without a constructor. -/
  | interface
  deriving DecidableEq, Repr, Inhabited

namespace TypeKind

/-- Can a value of the type be built from members? -/
def isObject : TypeKind → Bool
  | cls | record | struct => true
  | enum | interface => false

/-- The word for a shape in messages. -/
def word : TypeKind → String
  | cls => "class"
  | record => "record"
  | struct => "struct"
  | enum => "enum"
  | interface => "interface"

end TypeKind

/-- A type parameter of an open generic type, its bound and constraints as they are written. -/
structure GenericParameter where
  /-- The name of the type variable. -/
  name : String
  /-- The bound, if there is one. -/
  bound : Option String := none
  /-- The types it is limited to. -/
  constraints : List String := []
  /-- Is it covariant? -/
  covariant : Bool := false
  /-- Is it contravariant? -/
  contravariant : Bool := false
  deriving DecidableEq, Repr, Inhabited

/-- A member of a type. -/
structure Member where
  /-- The attribute it is read and assigned under. -/
  name : String
  /-- Its declared type. -/
  type : TypeRef
  /-- Does the constructor take it? -/
  init : Bool := true
  /-- The keyword the constructor takes it under; empty for the name. -/
  initName : String := ""
  /-- Can it be assigned after construction? -/
  settable : Bool := true
  /-- Can it be read? -/
  readable : Bool := true
  /-- Does the constructor insist on it? -/
  required : Bool := false
  /-- Is it private? -/
  isPrivate : Bool := false
  /-- The target member it is bound to by declaration. -/
  renameTo : Option String := none
  /-- Is it left out of every mapping? -/
  ignored : Bool := false
  /-- The class that declares it. -/
  declaredIn : String := ""
  deriving DecidableEq, Repr, Inhabited

namespace Member

/-- The keyword the constructor takes the member under. -/
def keyword (m : Member) : String :=
  if m.initName = "" then m.name else m.initName

/-- Can a mapping fill the member? -/
def writable (m : Member) : Bool :=
  m.init || m.settable

/-- The declared name of its target member, if there is one and it is not empty. -/
def rename? (m : Member) : Option String :=
  m.renameTo.filter (· ≠ "")

end Member

/-- A type of the program. -/
structure TypeDescriptor where
  /-- Its name within its module. -/
  name : String
  /-- The module that declares it. -/
  module : String
  /-- Its shape. -/
  kind : TypeKind
  /-- Its members in order of declaration. -/
  members : List Member := []
  /-- The values of an enum in order of declaration. -/
  enumValues : List String := []
  /-- The type parameters that are open. -/
  genericParameters : List GenericParameter := []
  /-- The types it inherits from, the nearest first. -/
  ancestors : List String := []
  /-- Does it refuse to be constructed? -/
  isAbstract : Bool := false
  /-- Can generated code import it? -/
  extensible : Bool := true
  /-- The methods a directive may name as hooks. -/
  callables : List String := []
  /-- The directives declared on it. -/
  directives : List Directive := []
  /-- The derived pairs declared on it. -/
  derived : List DerivedPair := []
  /-- Where it is declared. -/
  location : Option Location := none
  deriving DecidableEq, Repr, Inhabited

namespace TypeDescriptor

/-- The name under which the type is known in the whole program. -/
def qualifiedName (t : TypeDescriptor) : String :=
  t.module ++ "." ++ t.name

/-- The top-level package the type ships in. -/
def package (t : TypeDescriptor) : String :=
  firstPart t.module

/-- Does the type have open type parameters? -/
def isGeneric (t : TypeDescriptor) : Bool :=
  !t.genericParameters.isEmpty

/-- The member of a name. -/
def member? (t : TypeDescriptor) (name : String) : Option Member :=
  t.members.find? (·.name == name)

/-- Where diagnostics about the type point. -/
def anchor (t : TypeDescriptor) : Location :=
  t.location.getD (.ofSymbol t.qualifiedName)

end TypeDescriptor

end Mapsmith
