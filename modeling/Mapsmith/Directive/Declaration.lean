import Mapsmith.Directive
import Mapsmith.Failure
import Mapsmith.Text.Character
import Mapsmith.Text.Identifier
import Mapsmith.TypeRef

/-!
# Declaring directives

Directives are declared on a class by decorators and on its members by markers. A decorator checks
what it is given before it records anything. Decorators take effect from the lowest to the topmost,
so the lowest wrong one is reported; what they record is listed from the topmost to the lowest, the
classes they refer to in the order in which they took effect.
-/

namespace Mapsmith.Directive

/-! ### Decorators -/

/-- What is passed where a type is expected. -/
inductive Reference
  /-- A class, by its qualified name. -/
  | cls (qualified : String)
  /-- Some other value; only a text names a type. -/
  | value (v : Value)
  /-- Something that is no value, as it is written. -/
  | other (spelling : String)
  deriving Repr, Inhabited

/-- Why a decorator is refused. -/
inductive DeclarationError
  /-- The name of a type is blank. -/
  | emptyName (role : String)
  /-- Something other than a class or a name stands for a type. -/
  | notAType (role spelling : String)
  /-- Something other than an identifier stands for a hook. -/
  | notAHook (option : String) (v : Value)
  /-- There is no such naming strategy. -/
  | unknownStrategy (v : Value)
  /-- A decorator has no such option. -/
  | unknownOption (key : String)
  deriving Repr

/-- The wording of a refusal. -/
def DeclarationError.message : DeclarationError → String
  | emptyName role => role ++ " type name cannot be empty"
  | notAType role spelling => role ++ " must be a class or a type name, got " ++ spelling
  | notAHook option v => option ++ " must name a method, got " ++ v.literal
  | unknownStrategy v =>
    "Unknown naming strategy " ++ v.literal ++ " (expected one of: "
      ++ ", ".intercalate (NamingStrategy.all.map (·.word)) ++ ")"
  | unknownOption key => "Unknown option " ++ Text.quote key

/-- The failure that a refusal is reported as. A decorator with an option that there is not is no
directive at all. -/
def DeclarationError.failure? : DeclarationError → Option Failure
  | unknownOption _ => none
  | e => some (.directive e.message)

/-- The name of the type that a reference stands for. -/
def Reference.typeName (role : String) : Reference → Except DeclarationError String
  | cls qualified => .ok qualified
  | value (.str s) => if Text.trim s = "" then .error (.emptyName role) else .ok s
  | value v => .error (.notAType role v.literal)
  | other spelling => .error (.notAType role spelling)

/-- The class that a reference passes, if it passes one. -/
def Reference.cls? : Reference → Option String
  | cls qualified => some qualified
  | value _ | other _ => none

/-- The hook that a value names, if any. -/
def hookOf (option : String) : Value → Except DeclarationError (Option String)
  | .null => .ok none
  | .str s => if Text.isIdentifier s then .ok (some s) else .error (.notAHook option (.str s))
  | v => .error (.notAHook option v)

/-- The naming strategy that a value names. -/
def strategyOf (v : Value) : Except DeclarationError NamingStrategy :=
  match v with
  | .str s => match NamingStrategy.ofWord? s with
    | some strategy => .ok strategy
    | none => .error (.unknownStrategy v)
  | _ => .error (.unknownStrategy v)

/-- A decorator on a class. -/
inductive Decorator
  /-- A mapping to a target, with options. -/
  | mapTo (target : Reference) (options : Value)
  /-- A pair of derived types. -/
  | derivedType (source target : Reference)
  deriving Repr, Inhabited

/-- What the decorators of a class have recorded. -/
structure Declared where
  /-- The directives, the topmost first. -/
  directives : List Directive := []
  /-- The derived pairs, the topmost first. -/
  derived : List DerivedPair := []
  /-- The classes passed, in the order in which the decorators took effect. -/
  references : List String := []
  deriving Repr

/-- An option of a decorator, or a default. -/
def optionOr (options : Value) (key : String) (default : Value) : Value :=
  (options.get? key).getD default

/-- The flag that an option gives. -/
def switchOf (options : Value) (key : String) : Switch :=
  ⟨optionOr options key (.bool false)⟩

/-- The options of a decorator. -/
def optionNames : List String :=
  ["bidirectional", "enable_flattening", "generate_projection", "update_target",
    "include_private_members", "before_map", "after_map", "factory", "naming_strategy"]

/-- Checks that all options of a decorator are known. -/
def checkOptions : Value → Except DeclarationError Unit
  | .dict entries => match entries.find? fun e => e.1 ∉ optionNames with
    | some (key, _) => .error (.unknownOption key)
    | none => .ok ()
  | _ => .ok ()

/-- The directive of a decorator on a class. -/
def ofOptions (source target : String) (options : Value) : Except DeclarationError Directive := do
  let strategy ← strategyOf (optionOr options "naming_strategy" (.str "identity"))
  let hook (key : String) := hookOf key (optionOr options key .null)
  return {
    source, target, strategy
    beforeMap := ← hook "before_map"
    afterMap := ← hook "after_map"
    factory := ← hook "factory"
    bidirectional := switchOf options "bidirectional"
    flattening := switchOf options "enable_flattening"
    projection := switchOf options "generate_projection"
    update := switchOf options "update_target"
    includePrivate := switchOf options "include_private_members" }

/-- Records a decorator on a class. -/
def Declared.apply (source : String) (declared : Declared) :
    Decorator → Except DeclarationError Declared
  | .mapTo target options => do
    checkOptions options
    let d ← ofOptions source (← target.typeName "Target") options
    return { declared with
      directives := d :: declared.directives
      references := declared.references ++ target.cls?.toList }
  | .derivedType from' to' => do
    let pair : DerivedPair := ⟨← from'.typeName "Derived source", ← to'.typeName "Derived target"⟩
    return { declared with
      derived := pair :: declared.derived
      references := declared.references ++ from'.cls?.toList ++ to'.cls?.toList }

/-- Everything that the decorators of a class record, listed from the topmost to the lowest. -/
def declare (source : String) (decorators : List Decorator) : Except DeclarationError Declared :=
  decorators.reverse.foldlM (Declared.apply source) {}

/-! ### Markers -/

/-- A marker on a member. -/
inductive Marker
  /-- The member is left out. -/
  | ignore
  /-- The member is bound to a target member. -/
  | property (target : String)
  /-- Something else. -/
  | other
  deriving DecidableEq, Repr, Inhabited

/-- The target member a member is bound to: the one of its last marker, unless its metadata names
another. -/
def renameOf (markers : List Marker) (metadata : Value) : Option String :=
  let marked := (markers.filterMap fun m => match m with
    | .property target => some target
    | _ => none).getLast?
  match metadata.get? "map_property" with
  | some v => if v.isTruthy then some v.display else marked
  | none => marked

/-- Can entries be looked up in the metadata of a member? What counts as false holds none. -/
def isReadable (metadata : Value) : Bool :=
  !metadata.isTruthy || metadata matches .dict _

/-- Is a member left out, by a marker or by its metadata? -/
def isIgnored (markers : List Marker) (metadata : Value) : Bool :=
  .ignore ∈ markers || ((metadata.get? "map_ignore").map (·.isTruthy)).getD false

end Mapsmith.Directive
