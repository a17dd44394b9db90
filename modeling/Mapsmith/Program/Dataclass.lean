import Mapsmith.Program.Bases
import Mapsmith.Program.Member

/-!
# Dataclasses

What makes a class a dataclass: its annotated names become fields, after those of the classes it inherits
from, and a constructor takes them in that order. A field that can be left out must not come before one
that has to be given, and the fields of a class are fixed at construction exactly if those of the classes
it inherits from are. An annotated name of the class itself, or one for its construction only, is no
member.
-/

namespace Mapsmith.Program

/-! ### What a type says of its name -/

namespace Annotation

/-- Can the character stand in a word? -/
def isWordPart (c : Char) : Bool :=
  c.isAlphanum || c = '_' || c.val > 127

/-- The word that begins a text, and the rest. Blanks before it are left out. -/
def wordOf (cs : List Char) : List Char × List Char :=
  let cs := cs.dropWhile Text.isBlank
  (cs.takeWhile isWordPart, cs.dropWhile isWordPart)

/-- What a text begins with: a name, or a name in a module. -/
def startOf (s : String) : Option String × String :=
  let (first, rest) := wordOf s.toList
  match rest.dropWhile Text.isBlank with
  | '.' :: rest =>
    let (second, _) := wordOf rest
    if first.isEmpty || second.isEmpty then (none, String.ofList first)
    else (some (String.ofList first), String.ofList second)
  | _ => (none, String.ofList first)

/-- What a text begins with stands for, as far as a module knows it or one of the library that it
imports. -/
def meaningOf (m : Memory) (module : Option Nat) (library s : String) : Option Object :=
  let known (name : String) : Option Object := module.bind (m.global? · name)
  match startOf s with
  | (none, name) => known name
  | (some holder, name) => match known holder with
    | some (.libraryModule imported) =>
      if imported = library then (libraryMember? library name).map .ofItem else none
    | _ => none

/-- Does a type, or the text that it begins with, have a property? -/
def tells (m : Memory) (module : Option Nat) (library : String) (p : Object → Bool) : Object → Bool
  | .constant (.str s) => (meaningOf m module library s).any p
  | o => p o

/-- Checks that there is a module that tells what a text begins with, if it begins with a name. -/
def checkKnown (isKnown : Bool) : Object → Run Unit
  | .constant (.str s) =>
    if !isKnown && (startOf s).1.isNone && (startOf s).2 ≠ "" then
      Run.noMember .none "__dict__"
    else return
  | _ => return

/-- Is a name of this type one of the class itself? -/
def isOfClass : Object → Bool
  | .special name | .formed (.special name) _ => name = "ClassVar"
  | _ => false

/-- A class of the module of dataclasses. -/
def marker (name : String) : ClassId :=
  .library ⟨"dataclasses", name⟩

/-- Is a name of this type for construction only? -/
def isForConstruction : Object → Bool
  | .cls c | .made _ c .. => c = .library .forConstruction
  | _ => false

/-- Are the fields that follow a name of this type given by their names only? -/
def isKeywordMark : Object → Bool
  | .cls c => c = marker "KW_ONLY"
  | _ => false

end Annotation

/-! ### Fields -/

namespace Dataclass

/-- What an annotated name is there for. -/
def roleOf (m : Memory) (module : Option Nat) (type : Object) : FieldRole :=
  if Annotation.tells m module "typing" Annotation.isOfClass type then .ofClass
  else if Annotation.tells m module "dataclasses" Annotation.isForConstruction type then
    .forConstruction
  else .member

/-- Can a default value be changed where it stands? -/
def isChangeable (m : Memory) (o : Object) : Bool :=
  match m.seen o with
  | .list _ | .set _ | .table _ | .constant (.list _) | .constant (.dict _) => true
  | .view kind _ => kind = "mappingproxy"
  | .made _ _ _ _ state => (state.lookup Object.notLookedUp).isSome
  | _ => false

/-- Is the object the place where a value keeps a part? -/
def isPlace : Object → Bool
  | .descriptor .part _ _ => true
  | .other kind _ => kind = "member_descriptor"
  | _ => false

/-- What a class has under the name of a field without saying more of it. The place where a value keeps a
part is nothing. -/
def defaultOf? (index : Nat) (name : String) : Run (Option Object) :=
  if name = "__dataclass_params__" then return some (.other "_DataclassParams")
  else tryCatch (do
      let o ← Run.member (.cls (.program index)) name
      return if isPlace o then none else some o)
    fun e => match e with
      | .noMember _ => return none
      | e => throw e

/-- The field of an annotated name. Whatever the class has under the name is its default. -/
def fieldOf (index : Nat) (module : Option Nat) (name : String) (type : Object) : Run DataclassField := do
  let m ← get
  let role := roleOf m module type
  match m.attribute? (.program index) name with
  | some (.dataclassField d) =>
    if d.hasFactory && role ≠ .member then
      Run.refuse (.other ("field " ++ name ++ " cannot have a default factory"))
    return { type, role, inConstructor := d.inConstructor, hasDefault := d.hasDefault || d.hasFactory,
             hasFactory := d.hasFactory, metadata := d.metadata.getD (.dict []) }
  | _ => match ← defaultOf? index name with
    | none => return { type, role }
    | some o =>
      if role = .member && isChangeable m o then throw .badValue
      return { type, role, hasDefault := true, default := o }

/-- The own fields of a class, and those among them that are given by their names only. -/
def ownFields (index : Nat) (module : Option Nat) (isKnown : Bool) :
    List (String × Object) → Bool → Run (List (String × DataclassField) × List String)
  | [], _ => return ([], [])
  | (name, type) :: rest, byName => do
    let m ← get
    Annotation.checkKnown isKnown type
    if Annotation.tells m module "dataclasses" Annotation.isKeywordMark type then
      if byName then
        Run.refuse (.other (Text.quote name ++ " is KW_ONLY, but KW_ONLY has already been specified"))
      ownFields index module isKnown rest true
    else
      let field ← fieldOf index module name type
      let (fields, named) ← ownFields index module isKnown rest byName
      return ((name, field) :: fields, if byName then name :: named else named)

/-- The names under which a dataclass holds its fields and what else makes it one. -/
def shapeNames : List String := ["__dataclass_fields__", "__dataclass_params__"]

/-- What stands in the place of the fields of a class from the nearest class on that has something there: a
dataclass, or something else that a class holds under their name. -/
def shapeFrom (m : Memory) (c : ClassId) : Option (Except Attribute DataclassShape) :=
  m.nearest? c fun o => (o.dataclass.map .ok).or ((o.attributes.lookup "__dataclass_fields__").map .error)

/-- The dataclasses that a class inherits from, the farthest first. -/
def ancestors (m : Memory) (c : ClassObject) : Run (List DataclassShape) :=
  c.line.tail.reverse.filterMapM fun a => do
    match shapeFrom m a with
    | some (.ok shape) => return some shape
    | some (.error a) => if a.toObject.same .none then return none else Run.noMember a.toObject "values"
    | none => return none

/-- The fields that the constructor takes in order. -/
def ordered (fields : List (String × DataclassField)) (named : List String) :
    List (String × DataclassField) :=
  fields.filter fun (name, f) => f.role ≠ .ofClass && f.inConstructor && name ∉ named

/-- The first field that has to be given, after one that can be left out. -/
def misplaced? : List (String × DataclassField) → Option String
  | [] => none
  | (_, f) :: rest =>
    if f.hasDefault then (rest.find? fun (_, g) => !g.hasDefault).map (·.1) else misplaced? rest

/-- Can a field not be mentioned in the methods that come with it, since its name is a keyword? -/
def isUnwritable (f : String × DataclassField) : Bool :=
  f.1 ∈ Token.keywords
    && (f.2.role = .member || (f.2.role = .forConstruction && f.2.inConstructor))

/-! ### The class -/

/-- What a class holds when what was said of its fields has taken effect: a default value stays under
its name. -/
def settled (attributes : List (String × Attribute)) : List (String × Attribute) :=
  attributes.filterMap fun (name, a) => match a with
    | .dataclassField d => if d.hasDefault then some (name, .object .none) else none
    | a => some (name, a)

/-- The constructor of a class that takes fields. -/
def constructorOf (module : Nat) (owner : String) (fields : List (String × DataclassField))
    (named : List String) : Function where
  name := owner ++ ".__init__"
  parameters := (fields.filter fun (_, f) => f.role ≠ .ofClass && f.inConstructor).map
    fun (name, f) =>
      { name, hasDefault := f.hasDefault, type := some f.type
        passing := if name ∈ named then .keyword else .either }
  result := some .none
  module := module

/-- What is added to a class unless it has it. -/
def withMissing (added attributes : List (String × Attribute)) : List (String × Attribute) :=
  attributes ++ added.filter fun (name, _) => (attributes.lookup name).isNone

/-- Checks that it can be told how a class is called, by which it is described unless it describes
itself. -/
def checkCall (m : Memory) (index : Nat) (attributes : List (String × Attribute)) : Run Unit := do
  if (attributes.lookup "__doc__").any (·.toObject.isTruthy) then return
  match m.attribute? (.program index) "__signature__" with
  | some a =>
    if !a.toObject.same .none then
      Run.refuse (.other "unexpected object in __signature__ attribute")
  | none => pure ()
  match (attributes.lookup "__new__").or (attributes.lookup "__init__") with
  | none | some (.function _) | some (.object (.cls _)) => return
  | some a =>
    if a.toObject.same .none then throw .badValue
    Run.refuse (.other (m.literal a.toObject ++ " is not a callable object"))

/-- The fields of a dataclass: those that it inherits, the nearest last, and its own, each name in its first
place and with its last field. -/
def fieldsFrom (ancestors : List DataclassShape) (own : List (String × DataclassField)) :
    List (String × DataclassField) :=
  setEntries (ancestors.foldl (fun fs a => setEntries fs a.fields) []) own

theorem nodup_fieldsFrom (ancestors : List DataclassShape) (own : List (String × DataclassField)) :
    ((fieldsFrom ancestors own).map (·.1)).Nodup := by
  refine nodup_setEntries ?_
  have hall : ∀ fields : List (String × DataclassField), (fields.map (·.1)).Nodup →
      ((ancestors.foldl (fun fs a => setEntries fs a.fields) fields).map (·.1)).Nodup := by
    induction ancestors with
    | nil => exact fun _ h => h
    | cons a ancestors ih => exact fun _ h => ih _ (nodup_setEntries h)
  exact hall [] List.nodup_nil

/-- Makes a class a dataclass. -/
def make (index : Nat) (frozen : Bool) : Run Unit := do
  let m ← get
  let some c := m.class? index | return
  let module := m.module? c.module
  let ancestors ← ancestors m c
  match c.attributes.lookup typesName with
  | some a => Run.noMember a.toObject "items"
  | none => pure ()
  let isKnown := module.isSome || c.module ∈ libraryModules
  let (own, named) ← ownFields index module isKnown c.annotations false
  let fields := fieldsFrom ancestors own
  let isAnyFrozen := ancestors.any (·.frozen)
  if !ancestors.isEmpty && isAnyFrozen != frozen then
    Run.refuse (.other (if frozen then "cannot inherit frozen dataclass from a non-frozen one"
      else "cannot inherit non-frozen dataclass from a frozen one"))
  match misplaced? (ordered fields named) with
  | some name =>
    Run.refuse (.other ("non-default argument " ++ Text.quote name ++ " follows default argument"))
  | none => pure ()
  if fields.any isUnwritable then throw .malformed
  let fixing := ["__setattr__", "__delattr__"]
  if frozen && c.attributes.any (·.1 ∈ fixing) then
    Run.refuse (.other ("Cannot overwrite attribute in class " ++ c.name))
  let place := module.getD 0
  let added := [("__init__", Attribute.function (constructorOf place c.qualifiedName fields named)),
    ("__repr__", .function {
      module := place, name := c.qualifiedName ++ ".__repr__", isGiven := true })]
  let attributes := (withMissing added (settled c.attributes)).filter (·.1 ∉ shapeNames)
  checkCall m index attributes
  modify fun m => m.changeClass index fun c =>
    { c with attributes, dataclass := some ⟨fields, frozen, nodup_fieldsFrom ancestors own⟩ }
  modify fun m => m.changeClass index fun c => { c with awaited := m.awaitedIn index c }

end Dataclass

end Mapsmith.Program
