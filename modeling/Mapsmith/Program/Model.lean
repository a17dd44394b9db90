import Mapsmith.Program.Bases
import Mapsmith.Program.Body
import Mapsmith.Program.Body.Run
import Mapsmith.Program.Construction.Collection
import Mapsmith.Program.Particulars
import Mapsmith.Program.Schema

/-!
# Models

What makes a class a model, a class that checks what it is built from. Its fields are the annotated names of
all that it inherits from, except those that belong to the class itself and those that begin with an
underscore; the latter are no fields but attributes of every value, and a method looks after them. Whatever
the class has under the name of a field is its default value, and a field that the class does not mention
is as the class it comes from has it.
-/

namespace Mapsmith.Program

/-! ### Settings of models

What a model says of how it works: a table under a name of its body, or else a class in it. A model has the
settings of what it inherits from, of which its own take precedence. -/

namespace Settings

/-- The name under which a model holds its settings. -/
def name : String := "model_config"

/-- The name of a class in the body of a model that can hold its settings instead. -/
def className : String := "Config"

/-- The setting of models whose members are fixed at construction. -/
def frozenKey : String := "frozen"

/-- The settings of a model that is declared as one. -/
def declared (frozen : Bool) : List Object :=
  let yes : Object := .constant (.bool true)
  .row [.text "arbitrary_types_allowed", yes] :: if frozen then [.row [.text frozenKey, yes]] else []

/-- Is there a setting that counts as true under a key? -/
def isSet (settings : List Object) (key : String) : Bool :=
  settings.any fun e => match e with
    | .row [.constant (.str k), o] => k = key && o.isTruthy
    | _ => false

/-- Settings with others. -/
def updated (ev : Evaluator) (settings : List Object) (o : Object) : Run (List Object) :=
  Run.updatedWith ev false settings o

/-- Can settings be taken over? -/
def isCopied : Object → Bool
  | .constant (.dict _) | .constant (.list _) | .table _ | .list _ | .set _ | .frozenSet _ => true
  | _ => false

/-- Settings with those of a class that a model inherits from. -/
def withBase (ev : Evaluator) (m : Memory) (settings : List Object) (c : ClassId) : Run (List Object) := do
  match m.nearest? c (·.attributes.lookup name) with
  | none => return settings
  | some a =>
    let o := a.toObject
    if !o.isTruthy then return settings
    if isCopied o then updated ev settings o else Run.noMember o "copy"

/-- The settings in a class. -/
def ofClass (m : Memory) (settings : List Object) (o : Object) : Run (List Object) := do
  match o with
  | .cls c => match m.attribute? c frozenKey with
    | some a => Run.entered settings (.text frozenKey) a.toObject
    | none => return settings
  | _ => return settings

/-- The settings of a model with these bases whose body has been run. They cannot be told in both ways, and a
field of their name has to stand beside them. -/
def ofBody (ev : Evaluator) (m : Memory) (bases : List ClassId) (b : Body) : Run (List Object) := do
  let settings ← bases.foldlM (withBase ev m) []
  match b.attributes.lookup typesName with
  | some a => Run.noMember a.toObject "get"
  | none => pure ()
  let own := (b.attributes.lookup name).map (·.toObject)
  let nested := (b.attributes.lookup className).map (·.toObject)
  if (b.annotations.lookup name).any (·.isTruthy) && own.all (·.same .none) then throw .badModel
  match own.filter (·.isTruthy), nested.filter (·.isTruthy) with
  | some _, some _ => throw .badModel
  | some own, none => updated ev settings own
  | none, some nested => ofClass m settings nested
  | none, none => return settings

end Settings

namespace Model

/-! ### Names that are no fields -/

/-- Does a text begin with a word, after the name of a module or not? What follows the word is given. -/
def afterWord? (word : String) (cs : List Char) : Option (List Char) :=
  let isWordPart (c : Char) : Bool := c.isAlphanum || c = '_' || c.val > 127
  let direct := if word.toList.isPrefixOf cs then some (cs.drop word.length) else none
  direct.or <|
    match cs.takeWhile isWordPart, cs.dropWhile isWordPart with
    | _ :: _, '.' :: rest =>
      if word.toList.isPrefixOf rest then some (rest.drop word.length) else none
    | _, _ => none

/-- Does a text look like the type of a name that belongs to the class itself? -/
def looksOfClass (s : String) : Bool :=
  let cs := s.toList
  let inner := (afterWord? "Annotated[" cs).getD cs
  (afterWord? "ClassVar[" inner).isSome || (afterWord? "ClassVar[" cs).isSome

/-- Does a name of this type belong to the class itself? -/
def isOfClass (o : Object) : Bool :=
  match o with
  | .constant (.str s) | .forward _ s _ => looksOfClass s
  | o => match o.bare with
    | .special name | .formed (.special name) _ => name = "ClassVar"
    | _ => false

/-- Does the name begin with an underscore? -/
def isPrivate (name : String) : Bool :=
  name.startsWith "_"

/-! ### The body -/

/-- What a model takes over from its bases. -/
structure Inherited where
  /-- The names of fields. -/
  fieldNames : List String
  /-- The names that belong to the class itself. -/
  classNames : List String
  /-- Are there attributes that are no fields? -/
  hasPrivate : Bool

/-- What a model takes over from classes. -/
def inherited (m : Memory) (bases : List ClassId) : Inherited :=
  let models := bases.filterMap m.model?
  ⟨models.flatMap fun s => s.fields.map (·.1), models.flatMap (·.classNames),
    models.any (·.hasPrivate)⟩

/-- What becomes of something in the body of a model. -/
inductive Fate
  /-- It stays. -/
  | kept
  /-- It becomes the default value of an attribute that is no field. -/
  | hidden
  deriving DecidableEq, Repr

/-- Is the attribute a class in the body of a class? -/
def isNested (m : Memory) (module path : String) : Attribute → Bool
  | .object (.cls c) => m.moduleOf c = module && (m.pathOf c).startsWith (path ++ ".")
  | _ => false

/-- What becomes of something in the body of a model. What is no field has to be a method, a property or
a class. -/
def fateOf (m : Memory) (module path : String) (bases : Inherited) (b : Body) (name : String)
    (a : Attribute) : Run Fate := do
  if isNested m module path a || !EntryNames.isEntry a then return .kept
  if a matches .modelField _ then
    if isPrivate name then throw .badModel
  if name.startsWith "__" then return .kept
  let type := b.annotations.lookup name
  if isPrivate name then return if type.any isOfClass then .kept else .hidden
  if name ∈ bases.classNames || type.isSome then return .kept
  throw .badModel

/-- Names that belong to every class, whatever they begin with. -/
def ownNames : List String :=
  ["__annotations__", "__classcell__", "__doc__", "__module__", "__orig_bases__", "__orig_class__",
    "__qualname__", "__firstlineno__", "__static_attributes__"]

/-- Is an annotated name an attribute that is no field? -/
def isHidden (b : Body) (name : String) (type : Object) : Bool :=
  isPrivate name && name ∉ ownNames && !isOfClass type
    && !(b.attributes.lookup name).any (!EntryNames.isEntry ·)

/-- The body of a model that has been looked into. -/
structure Inspected where
  /-- The body, without the attributes that are no fields but with the method that looks after them. -/
  body : Body
  /-- Are there attributes that are no fields? -/
  hasPrivate : Bool
  /-- Are its members fixed at construction? -/
  frozen : Bool

/-- Looks into the body of a model with these bases, which stands at a path of a module. -/
def inspected (m : Memory) (moduleIndex : Nat) (module path : String) (bases : List ClassId) (b : Body) :
    Run Inspected := do
  let settings ← Settings.ofBody .usual m bases b
  let inherited := inherited m bases
  let all := b.attributes.map (·.1) ++ b.annotations.map (·.1)
  if "__root__" ∈ all then
    Run.refuse (.other "To define root models, use a root model")
  let module := Particulars.moduleIn module b.attributes
  let path := match b.attributes.lookup Particulars.pathName with
    | some a => a.toObject.text?.getD ""
    | none => path
  let others := b.attributes.filter (·.1 ≠ Settings.name)
  let fates ← others.mapM fun (name, a) => do
    return (name, a, ← fateOf m module path inherited b name a)
  let hasPrivate := inherited.hasPrivate || fates.any (fun (_, _, fate) => fate = .hidden)
    || b.annotations.any fun (name, type) => isHidden b name type
  let kept := fates.filterMap fun (name, a, fate) => if fate = .kept then some (name, a) else none
  let kept := (Settings.name, .object (.table settings)) :: kept
  let attributes := if hasPrivate then setEntries kept [Run.privateInitializer moduleIndex] else kept
  return { body := { b with attributes }, hasPrivate, frozen := Settings.isSet settings Settings.frozenKey }

/-! ### Fields -/

/-- A type that an annotated name has: as it is written if a name in it stands for nothing. -/
structure Hint where
  /-- The type. -/
  type : Object
  /-- Is every name in it known? -/
  isComplete : Bool

/-- The type of an annotated name. -/
def hint (index : Nat) (name : String) (o : Object) : Run Hint :=
  tryCatch (do return ⟨← Schema.resolved .usual ⟨index, index⟩ o, true⟩) fun e => match e with
    | .unknownName _ => return ⟨o, false⟩
    | e => if isPrivate name then return ⟨o, false⟩ else throw e

/-- The types of the annotated names of a model. -/
def hints (c : ClassObject) : Run (List (String × Hint)) := do
  let m ← get
  let lineage := c.line.filterMap fun a => match a with
    | .program index => (m.class? index).map (index, ·)
    | .library _ => none
  let all ← lineage.reverse.mapM fun (index, base) =>
    base.annotations.mapM fun (name, o) => do return (name, ← hint index name o)
  return setEntries [] all.flatten

/-- Names that no field of a model may take from its bases. -/
def isProtected (name : String) : Bool :=
  name.startsWith "model_validate" || name.startsWith "model_dump"

/-- The warning that a name begins as names do that models need. -/
def protectionWarning (owner name : String) : String :=
  let (taken, free) := if name.startsWith "model_dump" then ("model_dump", "model_validate")
    else ("model_validate", "model_dump")
  "Field " ++ Text.quote name ++ " in " ++ Text.quote owner ++ " conflicts with protected namespace "
    ++ Text.quote taken ++ ".\n\nYou may be able to solve this by setting the 'protected_namespaces' "
    ++ "configuration to ('" ++ free ++ "',)."

/-- Checks that a name takes nothing from the bases that a model needs. A name that begins as these do is
worth a warning. -/
def checkName (place : WarningPlace) (c : ClassObject) (name : String) : Run Unit := do
  let m ← get
  let conflicts (b : ClassId) : Bool :=
    (m.attribute? b name).isSome && !(m.model? b).any fun s => (s.fields.lookup name).isSome
  if isProtected name then
    if c.bases.any conflicts then throw .badValue
    modify (·.warn place "UserWarning" (protectionWarning c.name name))

/-- Warns of a field of a class that hides something that a base has. The fields of a dataclass may be
hidden. -/
def warnOfHiding (place : WarningPlace) (c : ClassObject) (name : String) : Run Unit := do
  if (c.annotations.lookup name).isNone then return
  let m ← get
  let isHidden (b : ClassId) : Bool :=
    (m.classAttribute? b name).isSome
      && !(m.dataclass? b).any fun s => (s.fields.lookup name).any (·.role = .member)
  (c.bases.filter isHidden).forM fun b => modify (·.warn place "UserWarning"
    ("Field name \"" ++ name ++ "\" in \"" ++ c.path ++ "\" shadows an attribute in parent \""
      ++ m.pathOf b ++ "\""))

/-- Warns of a class that inherits from what makes classes generic before it inherits from what makes
models. -/
def warnOfOrder (place : WarningPlace) (c : ClassObject) : Run Unit := do
  if .library .generic ∈ c.line.takeWhile (· ≠ .library .model) then
    modify (·.warn place "GenericBeforeBaseModelWarning"
      ("Classes should inherit from `BaseModel` before generic classes (e.g. `typing.Generic[T]`) "
        ++ "for pydantic generics to work properly."))

/-- What a model has under the name of a field. A retired member of all models does not count. -/
def assigned? (m : Memory) (c : ClassId) (name : String) : Option Attribute :=
  let isOwn := (m.lineage c).any fun (_, a) => (a.attributes.lookup name).isSome
  (m.classAttribute? c name).filter fun _ => isOwn || name ∉ retiredModelMembers

/-- The field of a name. -/
def fieldOf (m : Memory) (index : Nat) (c : ClassObject) (name : String) (h : Hint) : ModelField :=
  let inherited := (c.bases.filterMap m.model?).findSome? fun s => s.fields.lookup name
  let plain : ModelField := {
    type := h.type
    isComplete := h.isComplete
    markers := h.type.ownMarkers
    frozen := "Final" ∈ Qualifier.all h.type }
  match assigned? m (.program index) name with
  | some (.modelField d) =>
    { plain with
      isRequired := !(d.hasDefault || d.hasFactory)
      hasFactory := d.hasFactory
      aliasName := d.aliasName
      frozen := plain.frozen || d.frozen
      metadata := d.metadata.filter fun v => v matches .dict _ }
  | some _ => { plain with isRequired := false }
  | none => match c.annotations.lookup name, inherited with
    | none, some field => field
    | _, _ => plain

/-- Is the field of a name fixed with a value, so that it belongs to the class itself? -/
def isFixed (m : Memory) (index : Nat) (name : String) (h : Hint) : Bool :=
  let hasValue := match assigned? m (.program index) name with
    | some (.modelField d) => d.hasDefault || d.hasFactory
    | some _ => true
    | none => false
  hasValue && "Final" ∈ Qualifier.all h.type

/-- The fields of a model, and the names that belong to the class itself. -/
def fieldsOf (place : WarningPlace) (index : Nat) (c : ClassObject) (hints : List (String × Hint)) :
    Run (List (String × ModelField) × List String) := do
  let m ← get
  let hints := hints.filter (·.1 ≠ Settings.name)
  let found ← hints.mapM fun (name, h) => do
    checkName place c name
    if isOfClass h.type || isFixed m index name h then return (name, none)
    if !isPrivate name then
      warnOfHiding place c name
      Qualifier.check Qualifier.ofModels h.type
    return (name, some h)
  let fields := found.filterMap fun (name, h) => h.map (name, ·)
  let ofClass := found.filter fun (_, h) => h.isNone
  return ((fields.filter fun (name, _) => !isPrivate name).map fun (name, h) =>
    (name, fieldOf m index c name h), ofClass.map (·.1))

/-! ### The class -/

/-- The type variables that a model leaves open. It has to declare those of the model it extends if it
declares any. -/
def parametersOf (m : Memory) (c : ClassObject) : Run (List Nat) := do
  let inherited := (c.line.tail.findSome? m.model?).map (·.parameters)
  match c.parameters.getD [], inherited.getD [] with
  | [], inherited => return inherited
  | own, inherited =>
    if inherited.all (· ∈ own) then return own
    else Run.refuse (.other "All parameters must be present on typing.Generic")

/-- Makes a class a model, of a body that has been inspected. The attributes that are fields now are no
attributes of the class any more. -/
def make (place : WarningPlace) (index : Nat) (frozen hasPrivate : Bool) : Run Unit := do
  let m ← get
  let some c := m.class? index | return
  warnOfOrder place c
  let bases := inherited m c.bases
  let parameters ← parametersOf m c
  let shape : ModelShape := { fields := [], frozen, hasPrivate, parameters, nodup := List.nodup_nil }
  modify fun m => m.changeClass index fun c => { c with model := some shape }
  let (fields, ofClass) ← fieldsOf place index c (← hints c)
  let isField (name : String) : Bool := (fields.lookup name).isSome
  modify fun m => m.changeClass index fun c => { c with
    model := some { shape with
      fields := setEntries [] fields, classNames := (bases.classNames ++ ofClass).eraseDups
      nodup := nodup_setEntries List.nodup_nil }
    attributes := c.attributes.filter fun (name, _) => !isField name }
  Evaluator.usual.settle index

end Model

end Mapsmith.Program
