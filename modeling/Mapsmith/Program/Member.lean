import Mapsmith.Program.ClassTable
import Mapsmith.Program.Subscript

/-!
# Members of objects

What stands behind the dot of an object: what a module knows, what a class holds or inherits, the parts of a
value and what can be called on it, what a type made of others is made of. Every object knows its class, and
what its class holds for its values is known by the catalog of the library.
-/

namespace Mapsmith.Program

/-! ### Classes of objects -/

namespace Object

/-- The class of a type made of others. -/
def classOfFormer : Former → LibraryClass
  | .subscripted c =>
    if c = .library (.abstractCollection "Callable") then ⟨"collections.abc", "_CallableGenericAlias"⟩
    else ⟨"types", "GenericAlias"⟩
  | .bars => ⟨"types", "UnionType"⟩
  | .union => ⟨"typing", "_UnionGenericAlias"⟩
  | .literal => ⟨"typing", "_LiteralGenericAlias"⟩
  | .callable => ⟨"typing", "_CallableGenericAlias"⟩
  | .named _ | .generic _ | .special _ => ⟨"typing", "_GenericAlias"⟩

end Object

namespace Memory

variable (m : Memory)

/-- The class of an object. -/
def classOf : Object → ClassId
  | .cls c => .library (m.metaclassOf c).cls
  | .enumValue owner _ => .program owner
  | .made _ maker .. => maker
  | .cell place => match m.cells[place]? with
    | some (.made _ maker ..) => maker
    | _ => .library (.builtin (m.typeName (.cell place)))
  | .constant (.moment _) => .library ⟨"datetime", "datetime"⟩
  | .datum d => .library d.cls
  | .typeVariable index => .library ⟨"typing", variableClass (m.variableKind index)⟩
  | .special _ => .library ⟨"typing", "_SpecialForm"⟩
  | .named "Callable" => .library ⟨"typing", "_CallableType"⟩
  | .named "Tuple" => .library ⟨"typing", "_TupleType"⟩
  | .named _ => .library ⟨"typing", "_SpecialGenericAlias"⟩
  | .forward .. => .library ⟨"typing", "ForwardRef"⟩
  | .formed former _ => .library (Object.classOfFormer former)
  | .annotated .. => .library ⟨"typing", "_AnnotatedAlias"⟩
  | o => .library (.builtin (m.typeName o))

/-- The class of an object, as an object. -/
def typeOf (o : Object) : Object :=
  .cls (m.classOf o)

/-- Is an object a value of a class? -/
def isValueOf (o : Object) (c : ClassId) : Bool :=
  c = .everything || m.inherits (m.classOf o) c

end Memory

namespace Run

/-! ### What a class has -/

/-- What every class of the program has under a name. -/
def classMember? (m : Memory) (c : ClassId) (name : String) : Option Object :=
  let own : Option ClassObject := match c with
    | .program index => m.class? index
    | .library _ => none
  if name = "__class__" then some (m.typeOf (.cls c))
  else if name = "__dict__" then
    some (.view "mappingproxy" (.table (match c, own with
      | .program index, some o => Memory.entriesOf (classEntries m index o)
      | _, _ => [])))
  else if name = "__annotations__" then own.map annotationTable
  else if name = "__base__" then some (if c = .everything then .none else .cls (baseOf m c))
  else if name = "__bases__" then some (.row ((basesOf m c).map .cls))
  else if name = "__mro__" then
    some (.row (((m.line c).filter (· ≠ .everything) ++ [ClassId.everything]).map .cls))
  else if name = "__parameters__" then (m.parameters? c).map fun ps => .row (ps.map .typeVariable)
  else if name = "__abstractmethods__" then
    own.map fun o => .frozenSet (o.awaited.map .text)
  else
    let entries := m.lineage c
    entries.findSome? fun (index, o) =>
      if name ∈ ["__doc__", "__weakref__", "__match_args__", "__eq__", "__hash__",
          "__dataclass_params__", "__dataclass_fields__"] then
        (classEntries m index o).lookup name
      else none

/-- What an enum has under a name because it is one. -/
def enumMember? (index : Nat) (c : ClassObject) (name : String) : Option Object :=
  let members := c.values.map fun (n, _) => (n, Object.enumValue index n)
  let all := (c.attributes.filterMap fun (n, a) => match a with
    | .object o@(.enumValue owner _) => if owner = index then some (n, o) else none
    | _ => none)
  if name = "__members__" then some (.view "mappingproxy" (tableOf all))
  else if name = "_member_names_" then some (.list (c.values.map fun (n, _) => .text n))
  else if name = "_member_map_" then some (tableOf all)
  else if name = "_value2member_map_" then
    some (.table ((c.values.zip members).map fun ((_, v), (_, o)) => .row [v, o]))
  else if name = "_member_type_" then some (.cls (c.valueType.getD .everything))
  else none

/-- An attribute as it is seen from the class. -/
def seenFrom (c : ClassId) (name : String) (a : Attribute) : Object :=
  match a with
  | .function f => if f.kind = .ofClass then .method (.cls c) name else a.toObject
  | a => a.toObject

/-- What a class has under a name because of the class that has made it. -/
def fromMaker? (m : Memory) (c : ClassId) (name : String) : Option Object :=
  let made := (m.metaclassOf c).cls.line.findSome? fun l => l.holding? name
  made.bind fun holding => match holding with
    | .slot | .method | .function | .maker | .shared => some (.method (.cls c) name)
    | .reader | .part => some .none
    | .property | .value | .absent => none

/-- What a class has under a name that another one of the library holds: what is called on a class belongs to the
class. -/
def belongingTo (c : ClassId) (l : LibraryClass) (name : String) (o : Object) : Object :=
  match l.holding? name with
  | some .maker => if name = "__new__" then o else .method (.cls c) name
  | some .shared => .method (.cls c) name
  | _ => o

/-- What a class of the library holds or inherits under a name. -/
def libraryAttribute? (line : List LibraryClass) (name : String) : Option Object :=
  line.findSome? fun l => (l.attribute? name).map fun a =>
    if l.holding? name = some .value then (l.value? name).getD a.toObject else a.toObject

/-- What a class holds or inherits under a name, as it is seen from the class. -/
def heldByClass? (m : Memory) (c : ClassId) (name : String) : Option Object :=
  (m.line c).findSome? fun a => match a with
    | .library l => (libraryAttribute? [l] name).map (belongingTo c l name)
    | .program index => ((m.own? a name).map (seenFrom c name)).or
      ((m.class? index).bind fun o => (addedEntries m index o).lookup name)

/-- What every class has under one of the names that are its own, whatever it holds or inherits under it; it can
be nothing. -/
def fixedMember? (m : Memory) (index : Nat) (c : ClassObject) (name : String) :
    Option (Option Object) :=
  if name ∉ classNames then none
  else match name with
    | "__name__" => some (some (.text c.name))
    | "__qualname__" => some (some (.text c.path))
    | "__module__" => some (if c.module = "" then none else some (.text c.module))
    | "__text_signature__" => some (some .none)
    | "__doc__" | "__abstractmethods__" => some ((classEntries m index c).lookup name)
    | "__annotations__" =>
      some ((((c.attributes.lookup name).map Attribute.toObject)).or (some (annotationTable c)))
    | name => some ((classMember? m (.program index) name).or (some (.constant (.int 0))))

/-- What a class of the program has under a name. -/
def memberOfClass (index : Nat) (c : ClassObject) (name : String) : Run Object := do
  let m ← get
  let id := ClassId.program index
  let missing : Run Object :=
    if c.metaclass = .enum || c.metaclass = .model then throw (.noMember name)
    else throw (.noMember ("type object " ++ Text.quote c.name ++ " has no attribute "
      ++ Text.quote name))
  match fixedMember? m index c name with
  | some (some o) => return o
  | some none => if name = "__module__" then throw (.noMember name) else missing
  | none =>
    if (c.values.lookup name).isSome then return .enumValue index name
    match c.otherNames.lookup name with
    | some first => return .enumValue index first
    | none => pure ()
    if c.metaclass = .enum && name ∈ ["name", "value"] then
      throw (.noMember (m.literal (.cls id) ++ " has no attribute " ++ Text.quote name))
    let isHeld := (m.nearest? id (·.attributes.lookup name)).isSome
    let special := if c.metaclass = .enum then enumMember? index c name
      else if isHeld then none else (m.model? id).bind fun shape => shape.part? m index name
    let everything := libraryAttribute? [.builtin "object"] name
    match special.or ((heldByClass? m id name).or ((classMember? m id name).or
        (everything.or (fromMaker? m id name)))) with
    | some o => if isHeld then hadFrom none id o else return o
    | none => missing

/-- What a class of the library has under a name. -/
def memberOfLibrary (c : LibraryClass) (name : String) : Run Object := do
  let m ← get
  if name = "__name__" || name = "__qualname__" then return .text c.name
  if name = "__module__" then return .text c.module
  let everything := libraryAttribute? [.builtin "object"] name
  let found := (classMember? m (.library c) name).or ((heldByClass? m (.library c) name).or
    (everything.or (fromMaker? m (.library c) name)))
  match found with
  | some o => return o
  | none =>
    if name = "__doc__" then return .none
    if c.isEnumeration || c = .model then throw (.noMember name)
    throw (.noMember ("type object " ++ Text.quote c.typeName ++ " has no attribute "
      ++ Text.quote name))

/-- What a class has under a name. -/
def memberOfAny (c : ClassId) (name : String) : Run Object := do
  match c with
  | .library c => memberOfLibrary c name
  | .program index => match (← get).class? index with
    | some c => memberOfClass index c name
    | none => throw (.noMember name)

/-! ### Members of values -/

/-- Refuses a name that an object has nothing under. -/
def noMember {α : Type} (o : Object) (name : String) : Run α := do
  throw (.noMember (Text.quote ((← get).typeName o) ++ " object has no attribute " ++ Text.quote name))

/-- What a value of a class of the library has under a name, as far as the class tells. -/
def memberByClass (line : List LibraryClass) (o : Object) (name : String) : Run Object := do
  let m ← get
  if name = "__class__" then return m.typeOf o
  let holder := (line ++ [LibraryClass.builtin "object"]).find? fun (l : LibraryClass) =>
    (l.holding? name).isSome
  match holder with
  | none => if name = "__doc__" then return .none else noMember o name
  | some l => match l.holding? name with
    | some .slot | some .method | some .function => return .method o name
    | some .maker | some .shared => return .method (.cls (.library l)) name
    | some .value => return (l.value? name).getD (.other "object")
    | _ => return (keptUnder? m o name).getD .none

/-- The classes of the library that an object is a value of, the nearest first. -/
def libraryLine (m : Memory) (o : Object) : List LibraryClass :=
  (m.line (m.classOf o)).filterMap fun a => match a with
    | .library l => some l
    | .program _ => none

/-- What an object has under a name by a function of its class. -/
def bound (o : Object) (c : ClassId) (name : String) (f : Function) : Object :=
  match f.kind with
  | .ofClass => .method (.cls c) name
  | .free => .function f.name
  | _ => .method o name

/-- What an object has under a name by the classes after one, in the order of what another class inherits from. -/
def memberAfter? (owner : Object) (c start : ClassId) (name : String) : Run (Option Object) := do
  let m ← get
  let after := ((m.line start).dropWhile (· ≠ c)).drop 1
  let onClass : Option Object := if owner.same (.cls start) then none else some owner
  let found : Option (Attribute ⊕ LibraryClass) := (if .everything ∈ after then after else after ++ [.everything]).findSome? fun a => match a with
    | .program _ => (m.own? a name).map Sum.inl
    | .library l => if (l.holding? name).isSome then some (Sum.inr l) else none
  match found with
  | none => return none
  | some (.inl (.function f)) => return some (← hadFrom onClass start (.function f.name))
  | some (.inl (.object f)) => return some (← hadFrom onClass start f)
  | some (.inl a) => return some a.toObject
  | some (.inr l) => return some (← memberByClass [l] owner name)

/-- Does a value of a class have what it wraps under a name? Methods that are marked for their class or for nothing
do. -/
def isWrapped (c : ClassId) (name : String) : Bool :=
  (c = .library (.builtin "staticmethod") || c = .library (.builtin "classmethod"))
    && name ∈ ["__name__", "__qualname__", "__module__", "__doc__", "__annotations__"]

/-- What a value that a class has made has under a name. What its class has for all its values comes first if it is
a property. A value of a model knows which of its members it was given. -/
def memberOfMade (o : Object) (c : ClassId) (kept : List Object) (members : List (String × Object))
    (given : Option Object) (name : String) : Run Object := do
  let m ← get
  match members.lookup "__thisclass__", members.lookup "__self__", members.lookup "__self_class__" with
  | some (.cls this), some owner, some (.cls start) =>
    if name ≠ "__class__" && (members.lookup name).isNone then
      if let some o ← memberAfter? owner this start name then return o
  | _, _, _ => pure ()
  let byLibrary : Run Object := match kept with
    | .constant v :: _ => match valuePart? v name with
      | some part => return part
      | none => memberByClass (libraryLine m o) o name
    | .datum d :: _ => match d.part? name with
      | some part => return part
      | none => memberByClass (libraryLine m o) o name
    | _ => memberByClass (libraryLine m o) o name
  if name = "__class__" then return .cls c
  let isOwn := (m.lineage c).any fun (_, a) => (a.attributes.lookup name).isSome
  let held := if isOwn then m.attribute? c name else none
  match held, members.lookup name with
  | some (.property getter _), _ => if getter.isSome then return .none else noMember o name
  | _, some part => return part
  | some (.function f), none => return bound o c name f
  | some (.object (.tupleReader place)), none => match kept with
    | .row items :: _ => match items[place]? with
      | some part => return part
      | none => noMember o name
    | _ => noMember o name
  | some (.object (.other "member_descriptor" _)), none => noMember o name
  | some (.object f), none => hadFrom (some o) c f
  | some a, none => return a.toObject
  | none, none =>
    let programs := m.lineage c
    let isOpen := programs.isEmpty
      || programs.any fun (_, a) => a.tuple.isNone && a.places.all (·.contains "__dict__")
    if name = "__dict__" && !isOpen then noMember o name
    if name = "__weakref__" && isOpen && !programs.isEmpty then return .none
    if name = "__dict__" then
      return if o matches .cell _ then .view "vars" o else tableOf members
    if (m.model? c).isSome then
      if name ∈ ["model_fields_set", "__pydantic_fields_set__", "__fields_set__"] then
        if let some names := given then return names
      if name ∈ ["model_extra", "__pydantic_extra__", "__pydantic_private__"] then return .none
    match c with
    | .library l =>
      if name = "__module__" && l.module ≠ "builtins" then return .text l.module else byLibrary
    | .program _ =>
      if name ∈ ["__bases__", "__mro__", "__base__", "__abstractmethods__"] then noMember o name
      match classMember? m c name with
      | some (.function _) => return .method o name
      | some o => return o
      | none => if name = "__module__" then return .text (m.moduleOf c) else byLibrary

/-- What a value of an enum has under a name. -/
def memberOfEnumValue (owner : Nat) (value name : String) (o : Object) : Run Object := do
  let m ← get
  let kept := ((m.class? owner).bind (·.keptAt? value)).getD .none
  if name = "name" || name = "_name_" then return if isNameless value then .none else .text value
  if name = "value" || name = "_value_" then return kept
  if name = "__objclass__" || name = "__class__" then return .cls (.program owner)
  let names := ((m.class? owner).map fun c => c.values.map (·.1)).getD []
  let place : Object := .constant (.int (names.idxOf value))
  if name = "_sort_order_" then return place
  if name = "__module__" then return .text (m.moduleOf (.program owner))
  if name = "__dict__" then
    return tableOf [("_value_", kept), ("_name_", .text value), ("__objclass__", .cls (.program owner)),
      ("_sort_order_", place)]
  let isOwn := (m.lineage (.program owner)).any fun (_, a) => (a.attributes.lookup name).isSome
  match m.attribute? (.program owner) name with
  | some (.object f) => if isOwn then return ← hadFrom (some o) (.program owner) f
  | some (.property (some _) _) => if isOwn then return .none
  | some (.function f) => if isOwn then return bound o (.program owner) name f
  | _ => pure ()
  match m.plain o with
  | .constant v => match valuePart? v name with
    | some part => return part
    | none => memberByClass (libraryLine m o) o name
  | .datum d => match d.part? name with
    | some part => return part
    | none => memberByClass (libraryLine m o) o name
  | _ => memberByClass (libraryLine m o) o name

/-- The function of a class of the program that has a name with its module. -/
def functionNamed? (m : Memory) (known : String) : Option Function :=
  m.classes.findSome? fun c => c.attributes.findSome? fun (_, a) => match a with
    | .function f => if f.name = known then some f else none
    | _ => none

/-- The types that a function is declared with, as they are written. -/
def annotationsOf (f : Function) : List (String × Object) :=
  ((Parameter.inTypeOrder f.parameters).filterMap fun p => p.type.map (p.name, ·))
    ++ (f.result.map ("return", ·)).toList

/-- The values of the parameters of a function that the program declares that stand for what is left out. -/
def usualOfFunction (m : Memory) (f : Function) : List (String × Object) :=
  let shape := m.classes.findSome? fun c =>
    if c.attributes.any fun (_, a) => match a with
      | .function g => g.name = f.name
      | _ => false
    then c.dataclass else none
  let value (name : String) : Object := match shape.bind (·.fields.lookup name) with
    | some field =>
      if field.hasFactory then .other "_HAS_DEFAULT_FACTORY_CLASS" "<factory>" else field.default
    | none => .none
  (f.parameters.filter (·.hasDefault)).map fun p => (p.name, value p.name)

/-- The values that stand for what is left out, of those parameters that are passed by position or of the
others. -/
def usualValues (ps : List (Parameter Object)) (usual : List (String × Object)) (byPosition : Bool) :
    List (String × Object) :=
  usual.filter fun (name, _) => ps.any fun p => p.name = name && p.passing.byPosition = byPosition

/-- What the body of a function tells under a name, given its parameters. -/
def memberOfCode? (ps : List (Parameter Object)) (path name : String) : Option Object :=
  let int (n : Nat) : Object := .constant (.int (Int.ofNat n))
  let own := ps.filter fun p => p.passing ≠ .rest && p.passing ≠ .keywords
  match name with
  | "co_argcount" => some (int (own.filter (·.passing.byPosition)).length)
  | "co_posonlyargcount" => some (int (own.filter (·.passing = .positional)).length)
  | "co_kwonlyargcount" => some (int (own.filter (!·.passing.byPosition)).length)
  | "co_varnames" => some (.row ((own.filter (·.passing.byPosition) ++ own.filter (!·.passing.byPosition)
      ++ ps.filter (·.passing = .rest) ++ ps.filter (·.passing = .keywords)).map fun p => .text p.name))
  | "co_nlocals" => some (int ps.length)
  | "co_name" => some (.text (lastPart path))
  | "co_qualname" => some (.text path)
  | "co_flags" => some (int (3 + (if ps.any (·.passing = .rest) then 4 else 0)
      + if ps.any (·.passing = .keywords) then 8 else 0))
  | "co_firstlineno" => if path = "<lambda>" then some (int 1) else none
  | "co_filename" => if path = "<lambda>" then some (.text "<string>") else none
  | "co_freevars" | "co_cellvars" => some (.row [])
  | _ => none

/-- What a function has under a name, given its path with its module, and the module. -/
def memberOfFunction (m : Memory) (o : Object) (known : String) (name : String) : Run Object := do
  let (module, path) := moduleAndPath m known
  let f := functionNamed? m known
  let nameless := match o with
    | .lambda index => m.lambdas[index]?
    | _ => none
  let (ps, usual) := match nameless, f with
    | some l, _ => (l.parameters, l.defaults)
    | none, some f => (f.parameters, usualOfFunction m f)
    | none, none => ([], [])
  match name with
  | "__name__" => return .text (lastPart known)
  | "__qualname__" => return .text path
  | "__module__" => match nameless.map LambdaObject.far with
    | some (.names names) => return (names.lookup "__name__").getD .none
    | some (.module index) => return .text (((m.modules[index]?).map (·.name)).getD "")
    | some (.table _) => return .none
    | none => return .text module
  | "__defaults__" => return match usualValues ps usual true with
    | [] => .none
    | values => .row (values.map (·.2))
  | "__kwdefaults__" => return match usualValues ps usual false with
    | [] => .none
    | values => tableOf values
  | "__annotations__" => return tableOf ((f.map annotationsOf).getD [])
  | "__dict__" => return .table []
  | "__doc__" | "__closure__" => return .none
  | "__code__" => return .view "code" o
  | "__globals__" => return match m.module? module with
    | some index => .view "globals" (.module index)
    | none => match nameless.map LambdaObject.far with
      | some (.names names) => tableOf names
      | some (.module index) => .view "globals" (.module index)
      | some (.table place) => .cell place
      | none => .other "dict"
  | "__call__" | "__get__" => return .method o name
  | name => memberByClass [.builtin "function"] o name

/-! ### Members of types -/

/-- What a former of types stands for by itself. -/
def originOf : Former → Option Object
  | .subscripted c | .generic c => some (.cls c)
  | .named name => (namedForms.lookup name).map fun form => .cls (.library form.origin)
  | .callable => some (.cls (.library (.abstractCollection "Callable")))
  | .union => some (.special "Union")
  | .literal => some (.special "Literal")
  | .special name => some (.special name)
  | .bars => none

/-- The name of a former of types. -/
def formerName (m : Memory) : Former → Option String
  | .subscripted c | .generic c => some (m.nameOf c)
  | .named name | .special name => some name
  | .callable => some "Callable"
  | .union => some "Union"
  | .literal => some "Literal"
  | .bars => none

/-- Is the name one that the language keeps for itself? -/
def isKept (name : String) : Bool :=
  name.startsWith "__" && name.endsWith "__"

/-- Refuses a name that a type of the library of types has nothing under, in the words of the name alone. -/
def noName {α : Type} (name : String) : Run α :=
  throw (.noMember name)

/-- What a type made of others has under a name: what it is made of has it, unless the language keeps the name for
itself. -/
def memberOfFormed (former : Former) (args : List Object) (o : Object) (name : String) :
    Run Object := do
  let m ← get
  let ofClass : Run Object := match former with
    | .subscripted c => memberOfAny c name
    | .generic c => if isKept name then noName name else memberOfAny c name
    | .named form => match namedForms.lookup form with
      | some form => if isKept name then noName name else memberOfLibrary form.origin name
      | none => noName name
    | .callable =>
      if isKept name then noName name else memberOfLibrary (.abstractCollection "Callable") name
    | .union | .literal | .special _ => noName name
    | .bars => noMember o name
  match name with
  | "__class__" => return m.typeOf o
  | "__args__" => return .row args
  | "__parameters__" => return .row ((Object.parameters [o]).map .typeVariable)
  | "__origin__" => match originOf former with
    | some o => return o
    | none => noMember o name
  | "__module__" => match former with
    | .subscripted c | .generic c => return .text (m.moduleOf c)
    | .bars => noMember o name
    | _ => return .text "typing"
  | "__name__" | "__qualname__" | "_name" => match former, formerName m former with
    | .bars, _ | _, none => noMember o name
    | .union, _ =>
      return .text (if args.any (·.isMissing) && args.length = 2 then "Optional" else "Union")
    | _, some known => return .text known
  | "__doc__" => return .none
  | "__hash__" | "__eq__" | "__repr__" | "__or__" | "__ror__" | "__getitem__" | "__mro_entries__"
  | "__call__" | "__instancecheck__" | "__subclasscheck__" | "__reduce__" | "__ne__" | "__dir__" =>
    return .method o name
  | _ => ofClass

/-- What a type variable has under a name. -/
def memberOfVariable (v : VariableObject) (o : Object) (name : String) : Run Object := do
  let spread (kind : String) : Run Object := newMade (.library ⟨"typing", kind⟩) [] [("__origin__", o)]
    [(Memory.shownName, .text (v.name ++ "." ++ name)), (Object.byValue, .none)]
  match name with
  | "__name__" => return .text v.name
  | "__bound__" | "__covariant__" | "__contravariant__" =>
    if v.kind = .several then noMember o name
    return match name with
      | "__bound__" => v.bound.getD .none
      | "__covariant__" => .constant (.bool v.covariant)
      | _ => .constant (.bool v.contravariant)
  | "__constraints__" => if v.kind = .type then return .row v.constraints else noMember o name
  | "args" => if v.kind = .parameters then spread "ParamSpecArgs" else noMember o name
  | "kwargs" => if v.kind = .parameters then spread "ParamSpecKwargs" else noMember o name
  | "__module__" => return .text v.module
  | name => memberByClass [⟨"typing", Memory.variableClass v.kind⟩] o name

/-! ### Members of modules -/

/-- What a module of the program has under a name. -/
def memberOfModule (index : Nat) (name : String) : Run Object := do
  let m ← get
  match m.global? index name with
  | some o => return o
  | none =>
    if name = "__dict__" then return tableOf (((m.modules[index]?).map (·.names)).getD [])
    if name = "__class__" then return .cls (.library (.builtin "module"))
    throw (.noMember ("module " ++ Text.quote (((m.modules[index]?).map (·.name)).getD "")
      ++ " has no attribute " ++ Text.quote name))

/-- What a module of the library has under a name. -/
def memberOfLibraryModule (module name : String) : Run Object := do
  match libraryMember? module name with
  | some item => return .ofItem item
  | none =>
    if name = "__name__" then return .text module
    if name = "__class__" then return .cls (.library (.builtin "module"))
    if libraryModules.contains (module ++ "." ++ name) then return .libraryModule (module ++ "." ++ name)
    throw (.noMember ("module " ++ Text.quote module ++ " has no attribute " ++ Text.quote name))

/-! ### All objects -/

/-- What a method that belongs to an object has under a name. -/
def memberOfMethod (owner : Object) (known : String) (o : Object) (name : String) : Run Object := do
  let m ← get
  let owner := m.seen owner
  let held := m.methodHeld? owner known
  let c := (held.map (·.1)).getD .everything
  let function := Object.function (m.moduleOf c ++ "." ++ m.methodPath owner known)
  let isWritten := m.methodType owner known = "method"
  match name with
  | "__name__" => return .text known
  | "__qualname__" => return .text (m.methodPath owner known)
  | "__self__" => return owner
  | "__module__" => return if isWritten then .text (m.moduleOf c) else .none
  | "__func__" => if isWritten then return function else noMember o name
  | "__call__" => return .method o name
  | "__code__" | "__annotations__" | "__defaults__" | "__globals__" => match c with
    | .program _ => match function with
      | .function path => memberOfFunction m function path name
      | _ => noMember o name
    | .library _ => memberByClass [] o name
  | _ => memberByClass [] o name

/-- What an object has under a name. -/
def member (o : Object) (name : String) : Run Object := do
  let m ← get
  let isKeptValue := name = "value" && (o matches .enumValue ..)
  if let some extra := m.extra? o (if isKeptValue then "_value_" else name) then return extra
  match m.seen o with
  | .module index => memberOfModule index name
  | .libraryModule module => memberOfLibraryModule module name
  | .cls c => memberOfAny c name
  | .enumValue owner value => memberOfEnumValue owner value name o
  | .made _ maker kept members state =>
    match (members.lookup "__func__").filter fun _ => isWrapped maker name with
    | some inner@(.lambda _) => memberOfFunction m inner "<lambda>" name
    | some inner@(.function known) => memberOfFunction m inner known name
    | some (.builtinFunction known) => return .text (if name.endsWith "name__" then known else "builtins")
    | _ => memberOfMade o maker kept members (state.lookup givenNames) name
  | .formed former args => memberOfFormed former args o name
  | .annotated inner notes =>
    if name = "__origin__" then return inner
    else if name = "__metadata__" then return .row notes
    else if name = "__args__" then return .row [inner]
    else if name = "__class__" then return m.typeOf o
    else if name = "__parameters__" then return .row ((Object.parameters [o]).map .typeVariable)
    else if isKept name then
      if name ∈ ["__hash__", "__eq__", "__repr__", "__or__", "__ror__", "__getitem__", "__call__"] then
        return .method o name
      else noName name
    else match inner with
      | .cls c => memberOfAny c name
      | .formed former args => memberOfFormed former args inner name
      | .special _ => noName name
      | .typeVariable _ | .forward .. => noMember inner name
      | _ => noName name
  | .forward _ text _ =>
    if name = "__forward_arg__" then return .text text
    else memberByClass [⟨"typing", "ForwardRef"⟩] o name
  | .typeVariable index => match m.typeVariables[index]? with
    | some v => memberOfVariable v o name
    | none => noMember o name
  | .special known | .named known =>
    if name = "__name__" || name = "__qualname__" || name = "_name" then return .text known
    else if name = "__module__" then return .text "typing"
    else if name = "__class__" then return m.typeOf o
    else match o with
      | .named "Callable" => memberOfFormed .callable [] o name
      | .named known => memberOfFormed (.named known) [] o name
      | _ =>
        if name ∈ ["__hash__", "__eq__", "__repr__", "__or__", "__ror__", "__getitem__", "__call__"] then
          return .method o name
        else noName name
  | .function known => memberOfFunction m o known name
  | .lambda _ => memberOfFunction m o "<lambda>" name
  | .builtinFunction known =>
    if name = "__name__" || name = "__qualname__" then return .text known
    else if name = "__module__" then return .text "builtins"
    else if name = "__self__" then return .libraryModule "builtins"
    else if name = "__call__" then return .method o name
    else memberByClass [] o name
  | .method owner known => memberOfMethod owner known o name
  | .tupleReader place =>
    if name = "__doc__" then return .text ("Alias for field number " ++ toString place)
    else memberByClass [] o name
  | .descriptor _ owner known =>
    if name = "__name__" then return .text known
    else if name = "__qualname__" then return .text (owner.name ++ "." ++ known)
    else if name = "__objclass__" then return .cls (.library owner)
    else if name = "__call__" || name = "__get__" then return .method o name
    else memberByClass [] o name
  | .constant v => match valuePart? v name with
    | some part => return part
    | none => memberByClass (libraryLine m o) o name
  | .datum d => match d.part? name with
    | some part => return part
    | none => memberByClass (libraryLine m o) o name
  | .slice first last step =>
    if name = "start" then return first
    else if name = "stop" then return last
    else if name = "step" then return step
    else memberByClass (libraryLine m o) o name
  | .view "mappingproxy" _ => memberByClass [.builtin "mappingproxy"] o name
  | .view "code" f =>
    let ps := match f with
      | .lambda index => ((m.lambdas[index]?).map (·.parameters)).getD []
      | .function known => match functionNamed? m known with
        | some f =>
          ownParameters f ++ f.parameters
        | none => []
      | _ => []
    let path := match f with
      | .function known => known
      | _ => "<lambda>"
    match memberOfCode? ps path name with
    | some o => return o
    | none => memberByClass [] o name
  | .view kind of =>
    if name = "mapping" then return .view "mappingproxy" of
    else memberByClass [.builtin kind] o name
  | .iterator _ =>
    if name ∈ ["__next__", "__iter__"] then return .method o name
    if m.iteratorKind (match o with | .iterator index => index | _ => 0) = "generator"
        && name ∈ ["send", "close", "throw"] then return .method o name
    memberByClass (libraryLine m o) o name
  | _ => memberByClass (libraryLine m o) o name

/-- What reads a property. -/
def getter? (m : Memory) (o : Object) : Option Object :=
  match m.seen o with
  | .made _ (.library l) _ members _ =>
    if l = .builtin "property" then members.lookup "fget" else none
  | _ => none

/-- What an object has under a name where an expression asks for it. Its class may have a property there, or say
by a method what is under a name, or what is under one that is not there. -/
def memberSaid (ev : Evaluator) (o : Object) (name : String) : Run Object := do
  let m ← get
  let some c := makerOf? m o | member o name
  if let some answer ← said? ev o "__getattribute__" [.text name] then return answer
  let held := match ownAttribute? m c name with
    | some (.object p) => getter? m p
    | _ => none
  match held with
  | some (.constant .null) =>
    throw (.noMember ("property " ++ Text.quote name ++ " of " ++ Text.quote (m.nameOf c) ++ " object has no getter"))
  | some getter => ev.call { near := .names [], far := .names [] } getter (.ofItems [o])
  | none => tryCatch (member o name) fun e => match e with
    | .noMember _ => do
      match ← said? ev o "__getattr__" [.text name] with
      | some answer => return answer
      | none => throw e
    | e => throw e

end Run

end Mapsmith.Program
