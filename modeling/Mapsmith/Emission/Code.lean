import Mapsmith.Emission.ImportTable
import Mapsmith.Text.Character
import Mapsmith.Text.Quoted

/-!
# Generated code

The code of generated routines as data: expressions that convert a value, statements of the few
forms that routines are made of, and routines. Classes stand in it under their qualified names and
get the names they go by when the code is written out. What a piece of code needs imported is read
off it.
-/

namespace Mapsmith.Emission

/-! ### Layout

Generated text as lines, runs of empty lines and blocks under a header line. A block's content is
indented by one step; an empty line stays empty at every depth. -/

/-- A piece of generated text. -/
inductive Layout
  /-- One line. -/
  | line (text : String)
  /-- So many empty lines. -/
  | blank (count : Nat)
  /-- A header line with indented content under it. -/
  | block (header : String) (content : List Layout)
  deriving Repr, Inhabited

namespace Layout

/-- A line at a depth. -/
def indented (depth : Nat) (text : String) : String :=
  if text = "" then "" else String.ofList (List.replicate (4 * depth) ' ') ++ text

mutual

/-- The lines of a piece at a depth. -/
def lines (depth : Nat) : Layout → List String
  | line text => [indented depth text]
  | blank count => List.replicate count ""
  | block header content => indented depth header :: linesOf (depth + 1) content

/-- The lines of pieces in a row at a depth. -/
def linesOf (depth : Nat) : List Layout → List String
  | [] => []
  | piece :: pieces => lines depth piece ++ linesOf depth pieces

end

/-- The text of pieces in a row: without blanks at its end, closed by one line break. -/
def render (pieces : List Layout) : String :=
  Text.trimEnd ("\n".intercalate (linesOf 0 pieces)) ++ "\n"

end Layout

/-! ### The support module -/

/-- The name the support module goes by. -/
def runtimeAlias : String := "_rt"

/-! ### Expressions -/

/-- Something generated code calls on a value. -/
inductive Callee
  /-- A function that needs no import. -/
  | builtin (name : String)
  /-- Something inside a module imported whole. -/
  | inModule (module name : String)
  /-- Something inside the support module. -/
  | support (name : String)
  /-- A routine of the same module. -/
  | sibling (name : String)
  deriving DecidableEq, Repr

namespace Callee

/-- How the callee is written. -/
def text : Callee → String
  | builtin name => name
  | inModule module name => module ++ "." ++ name
  | support name => runtimeAlias ++ "." ++ name
  | sibling name => name

/-- The module it needs imported. -/
def modules : Callee → List String
  | inModule module _ => [module]
  | _ => []

/-- Does it need the support module? -/
def usesSupport : Callee → Bool
  | support _ => true
  | _ => false

end Callee

/-- A variable and the attributes read from it. -/
structure Place where
  /-- The variable. -/
  root : String
  /-- The attributes, in turn. -/
  attributes : List String := []
  deriving DecidableEq, Repr

/-- How a place is written. -/
def Place.text (p : Place) : String :=
  ".".intercalate (p.root :: p.attributes)

/-- The expression that makes a target value. -/
inductive Expr
  /-- The value of a place. -/
  | place (p : Place)
  /-- A call on the value of a place. -/
  | call (callee : Callee) (p : Place)
  /-- The ISO form of the value of a place. -/
  | isoText (p : Place)
  /-- A collection rebuilt element by element, the element going by a variable. -/
  | rebuilt (container : Container) (element : Expr) (item : String) (p : Place)
  /-- Nothing if a place holds nothing, and an expression otherwise. -/
  | unlessMissing (p : Place) (e : Expr)
  /-- An expression in parentheses. -/
  | grouped (e : Expr)
  deriving Repr

namespace Expr

/-- How an expression is written. -/
def text : Expr → String
  | place p => p.text
  | call callee p => callee.text ++ "(" ++ p.text ++ ")"
  | isoText p => p.text ++ ".isoformat()"
  | rebuilt container element item p =>
    let inner := element.text ++ " for " ++ item ++ " in " ++ p.text
    match container with
    | .list => "[" ++ inner ++ "]"
    | .tuple => "tuple(" ++ inner ++ ")"
    | .set => "\x7b" ++ inner ++ "\x7d"
    | .frozenset => "frozenset(" ++ inner ++ ")"
  | unlessMissing p e => "None if " ++ p.text ++ " is None else " ++ e.text
  | grouped e => "(" ++ e.text ++ ")"

/-- The modules an expression needs imported. -/
def modules : Expr → List String
  | place _ | isoText _ => []
  | call callee _ => callee.modules
  | rebuilt _ element _ _ => element.modules
  | unlessMissing _ e | grouped e => e.modules

/-- Does an expression need the support module? -/
def usesSupport : Expr → Bool
  | place _ | isoText _ => false
  | call callee _ => callee.usesSupport
  | rebuilt _ element _ _ => element.usesSupport
  | unlessMissing _ e | grouped e => e.usesSupport

end Expr

/-! ### Statements -/

/-- A call of a class's constructor. -/
structure Construction where
  /-- The class. -/
  cls : String
  /-- The arguments whose keywords are identifiers. -/
  keywords : List (String × Expr)
  /-- The other arguments. -/
  entries : List (String × Expr)
  deriving Repr

/-- A member that a projection selects. -/
structure ProjectedMember where
  /-- The target member. -/
  member : String
  /-- The keyword the constructor takes it under. -/
  keyword : String
  /-- The attributes it is read along. -/
  path : List String
  /-- Does the constructor take it? -/
  viaConstructor : Bool
  /-- The routine its value goes through. -/
  convert : Option Callee
  deriving Repr

/-- A statement of a generated routine. -/
inductive Statement
  /-- What the routine is for. -/
  | docstring (text : String)
  /-- Values of derived classes go to the routines of their own pairs. -/
  | dispatch (branches : List (String × Callee))
  /-- No value is accepted. -/
  | refuseAll (base : String)
  /-- Only values of exactly one class are accepted. -/
  | refuseSubclasses (base : String)
  /-- The hook that runs first, its failure reported under its name. -/
  | beforeHook (cls hook : String)
  /-- The hook that runs last. -/
  | afterHook (cls hook : String)
  /-- The target comes from a factory. -/
  | fromFactory (cls factory : String)
  /-- The target comes from its constructor. -/
  | construct (call : Construction)
  /-- The result comes from the constructor. -/
  | returnConstruct (call : Construction)
  /-- A member of the target is assigned. -/
  | assign (member : String) (value : Expr)
  /-- The target is the result. -/
  | returnTarget
  /-- Enum values go to their counterparts, all others are refused. -/
  | matchValues (source target : String) (cases : List (String × String))
  /-- The result is a projection. -/
  | returnProjection (source target : String) (members : List ProjectedMember)
  deriving Repr

/-- How a tuple of texts is written. -/
def tupleText : List String → String
  | [one] => "(" ++ Text.quote one ++ ",)"
  | parts => "(" ++ ", ".intercalate (parts.map Text.quote) ++ ")"

/-- How a truth value is written. -/
def boolText (b : Bool) : String :=
  if b then "True" else "False"

/-- How something inside the support module is written. -/
def supportText (name : String) : String :=
  (Callee.support name).text

namespace Construction

/-- The lines of a constructor call that follows some words. `names` gives the names classes go
by. -/
def lines (names : String → String) (lead : String) (c : Construction) : List Layout :=
  if c.keywords.isEmpty && c.entries.isEmpty then [.line (lead ++ names c.cls ++ "()")]
  else
    .line (lead ++ names c.cls ++ "(") ::
      (c.keywords.map fun (keyword, e) => .line ("    " ++ keyword ++ "=" ++ e.text ++ ","))
      ++ (if c.entries.isEmpty then []
        else .line "    **\x7b" ::
          (c.entries.map fun (keyword, e) =>
            .line ("        " ++ Text.quote keyword ++ ": " ++ e.text ++ ","))
          ++ [.line "    \x7d,"])
      ++ [.line ")"]

/-- The expressions of a constructor call. -/
def exprs (c : Construction) : List Expr :=
  (c.keywords ++ c.entries).map (·.2)

end Construction

/-- The line of a projected member. -/
def ProjectedMember.text (m : ProjectedMember) : String :=
  supportText "ProjectedField" ++ "(" ++ Text.quote m.member ++ ", " ++ Text.quote m.keyword ++ ", "
    ++ tupleText m.path ++ ", " ++ boolText m.viaConstructor
    ++ (match m.convert with
      | some callee => ", convert=" ++ callee.text
      | none => "")
    ++ "),"

/-- The line that refuses a value of an undeclared class. -/
def refusal (base : String) : Layout :=
  .line ("raise " ++ supportText "UnknownDerivedTypeError" ++ "(" ++ Text.quote base
    ++ ", type(source).__qualname__)")

namespace Statement

/-- How a statement is written. -/
def layout (names : String → String) : Statement → List Layout
  | docstring text => [.line ("\"\"\"" ++ text ++ "\"\"\"")]
  | dispatch branches =>
    [.block "match source:" (branches.map fun (cls, callee) =>
      .block ("case " ++ names cls ++ "():") [.line ("return " ++ callee.text ++ "(source)")])]
  | refuseAll base => [refusal base]
  | refuseSubclasses base =>
    [.block ("if type(source) is not " ++ names base ++ ":") [refusal base]]
  | beforeHook cls hook =>
    [.block "try:" [.line (names cls ++ "." ++ hook ++ "(source)")],
      .block "except Exception as exc:"
        [.line ("raise " ++ supportText "MappingHookError" ++ "(" ++ Text.quote hook
          ++ ", str(exc)) from exc")]]
  | afterHook cls hook => [.line (names cls ++ "." ++ hook ++ "(source, target)")]
  | fromFactory cls factory => [.line ("target = " ++ names cls ++ "." ++ factory ++ "()")]
  | construct call => call.lines names "target = "
  | returnConstruct call => call.lines names "return "
  | assign member value => [.line ("target." ++ member ++ " = " ++ value.text)]
  | returnTarget => [.line "return target"]
  | matchValues source target cases =>
    [.block "match source:"
      ((cases.map fun (value, counterpart) =>
          .block ("case " ++ names source ++ "." ++ value ++ ":")
            [.line ("return " ++ names target ++ "." ++ counterpart)])
        ++ [.block "case _:"
          [.line ("raise " ++ supportText "UnmappedEnumValueError" ++ "(" ++ Text.quote source
            ++ ", " ++ Text.quote target ++ ", source)")]])]
  | returnProjection source target members =>
    [.line ("return " ++ supportText "Projection" ++ "("), .line ("    " ++ names source ++ ","),
      .line ("    " ++ names target ++ ","), .line "    ("]
      ++ (members.map fun m => .line ("        " ++ m.text))
      ++ [.line "    ),", .line ")"]

/-- The modules a statement needs imported. -/
def modules : Statement → List String
  | dispatch branches => branches.flatMap (·.2.modules)
  | construct call | returnConstruct call => call.exprs.flatMap (·.modules)
  | assign _ value => value.modules
  | returnProjection _ _ members => members.flatMap fun m => (m.convert.map (·.modules)).getD []
  | _ => []

/-- Does a statement need the support module? -/
def usesSupport : Statement → Bool
  | refuseAll _ | refuseSubclasses _ | beforeHook .. | matchValues .. | returnProjection .. => true
  | dispatch branches => branches.any (·.2.usesSupport)
  | construct call | returnConstruct call => call.exprs.any (·.usesSupport)
  | assign _ value => value.usesSupport
  | _ => false

end Statement

/-! ### Routines -/

/-- A declared type in generated code: a class with its open type parameters. -/
structure ClassType where
  /-- The class. -/
  cls : String
  /-- The type parameters. -/
  parameters : List String := []
  deriving DecidableEq, Repr

/-- How a declared type is written. -/
def ClassType.text (names : String → String) (t : ClassType) : String :=
  names t.cls ++
    (if t.parameters.isEmpty then "" else "[" ++ ", ".intercalate t.parameters ++ "]")

/-- What a routine takes and gives. -/
inductive Signature
  /-- A source, for a new target. -/
  | maps (source target : ClassType)
  /-- A source and a target that is changed. -/
  | updates (source target : ClassType)
  /-- Nothing, for a projection into the target. -/
  | projects (target : ClassType)
  deriving Repr

/-- How a signature is written after the routine's name. -/
def Signature.text (names : String → String) : Signature → String
  | maps source target => "(source: " ++ source.text names ++ ") -> " ++ target.text names
  | updates source target =>
    "(source: " ++ source.text names ++ ", target: " ++ target.text names ++ ") -> None"
  | projects target =>
    "() -> " ++ supportText "Projection" ++ "[" ++ target.text names ++ "]"

/-- A generated routine. -/
structure Routine where
  /-- Its name. -/
  name : String
  /-- What it takes and gives. -/
  signature : Signature
  /-- Its statements. -/
  body : List Statement
  /-- Is it offered to other modules? -/
  isPublic : Bool
  deriving Repr

/-- How a routine is written, two empty lines first. -/
def Routine.layout (names : String → String) (r : Routine) : List Layout :=
  [.blank 2, .block ("def " ++ r.name ++ r.signature.text names ++ ":")
    (r.body.flatMap (·.layout names))]

end Mapsmith.Emission
