import Mapsmith.Program.Evaluator

/-!
# Making types

Types made of other types: unions, literals, types with notes, containers, generic classes with their
types, and models that are given types. A form checks what it is given: the missing value stands for its
type, a text for a type that is looked up later, and what says something of a whole type is not accepted
inside another one. A model that is given types is a class of its own.
-/

namespace Mapsmith.Program

namespace Run

/-! ### Checking what is given -/

/-- What is given for a type: the missing value stands for its type, and a text is looked up later. -/
def converted (isWhole : Bool) (o : Object) : Run Object := do
  match o, (← get).asText? o with
  | .constant .null, _ => return .missing
  | _, some s => forward s isWhole
  | o, none => return o

/-- Refuses what stands for no type. What is said of a whole type is one only where a whole type
stands. -/
def checked (context : String) (isWhole : Bool) (o : Object) : Run Object := do
  let o ← converted isWhole o
  let m ← get
  match o with
  | .formed (.generic c) _ =>
    if c = .library .generic || c = .library .protocol then refuse (.notAnArgument (m.spelling o))
    else return o
  | .formed (.special name) _ =>
    if !isWhole && (name = "ClassVar" || name = "Final") then
      refuse (.notAnArgument (m.spelling o))
    else return o
  | .special name =>
    if name ∈ typeForms || (isWhole && (name = "ClassVar" || name = "Final")) then return o
    else refuse (.bareForm (m.spelling o))
  | .cls c =>
    if c = .library .generic || c = .library .protocol then refuse (.bareForm (m.literal o))
    else return o
  | .row _ => refuse (.row context (m.literal o))
  | o => return o

/-- Refuses another number of types than are taken. -/
def checkArity (what : String) (actual expected : Nat) : Run Unit :=
  if expected = 0 then refuse (.notGeneric what)
  else if actual ≠ expected then refuse (.arity what actual expected)
  else return

/-- Refuses what cannot be looked up in a table. -/
def checkHashable (os : List Object) : Run Unit :=
  match Object.anyUnhashable? os with
  | some type => refuse (.unhashable type)
  | none => return

/-! ### Alternatives -/

/-- The alternatives of a union, or a type as the only one. -/
def alternatives : Object → List Object
  | .formed .union args | .formed .bars args => args
  | o => [o]

/-- A union of types: unions among them are taken apart, a type counts once, and one type is no
union. -/
def union (index : Object) : Run Object :=
  once "typing.Union" false [index] do
    if index.items.isEmpty then refuse (.other "Cannot take a Union of no types.")
    let os ← index.items.mapM (checked "Union[arg, ...]: each arg must be a type." false)
    let os := os.flatMap alternatives
    checkHashable os
    match Object.distinct os with
    | [o] => return o
    | os => return .formed .union os

/-- A type or the missing value. -/
def optional (index : Object) : Run Object :=
  once "typing.Optional" false [index] do
    union (.row [← checked "typing.Optional requires a single type." false index, .missing])

/-- Does the object bring its own way to go with bars? -/
def isTyping : Object → Bool
  | .formed former _ => former.isTyping
  | .annotated .. | .typeVariable _ | .forward .. | .special _ | .named _ => true
  | _ => false

/-- Can the object stand beside a bar because it is a class, or made of one? -/
def isAlternative : Object → Bool
  | .cls _ | .formed (.subscripted _) _ | .formed .bars _ | .constant .null => true
  | _ => false

/-- Are two alternatives one? Classes are by what they are, and classes that are given types by what
they are made of. -/
def isOneAlternative (a b : Object) : Bool :=
  match a, b with
  | .cls c, .cls d => c = d
  | .formed (.subscripted _) _, .formed (.subscripted _) _ => a.same b
  | _, _ => false

/-- Two types with a bar between them. -/
def barred (a b : Object) : Run Object := do
  let m ← get
  let isBare (o : Object) : Bool := match o with
    | .typeVariable index => m.variableKind index = .several
    | _ => false
  if (isTyping a && !isBare a) || (isTyping b && !isBare b) then union (.row [a, b])
  else if isAlternative a && isAlternative b && !(a.same .none && b.same .none) then
    let os := [a, b].flatMap alternatives
    let os := os.map fun o => if o.same .none then .missing else o
    let os := os.foldl
      (fun kept o => if kept.any (isOneAlternative o) then kept else kept ++ [o]) []
    match os with
    | [o] => return o
    | os => return .formed .bars os
  else refuse (.operands "|" (m.typeName a) (m.typeName b))

/-- Types with bars between them. -/
def barredAll : List Object → Run Object
  | [] => return .none
  | o :: os => os.foldlM barred o

/-! ### Other forms -/

/-- A type that something is said of as a whole. -/
def special (name : String) (index : Object) : Run Object :=
  once ("typing." ++ name) false [index] do
    let wording := if name ∈ ["Required", "NotRequired"] then name ++ " accepts only a single type."
      else "typing." ++ name ++ " accepts only single type."
    return .formed (.special name) [← checked wording false index]

/-- The parameters of something that can be called, the last of which stands for all others. -/
def concatenate (index : Object) : Run Object :=
  once "typing.Concatenate" false [index] do
    let m ← get
    let os := index.items
    match os.reverse with
    | [] => refuse (.other "Cannot take a Concatenate of no types.")
    | last :: others =>
      let isLast : Bool := match last with
        | .ellipsis => true
        | .typeVariable i => m.variableKind i = .parameters
        | _ => false
      if !isLast then
        refuse (.other "The last parameter to Concatenate should be a ParamSpec variable or ellipsis.")
      let types ← others.reverse.mapM (checked "Concatenate[arg, ...]: each arg must be a type." false)
      return .formed (.special "Concatenate") (types ++ [last])

/-- The values of a literal, those of literals among them in their places. -/
def literalValues : Object → List Object
  | .formed .literal values => values
  | o => [o]

/-- One of several values. A value counts once, as far as values can be looked up. -/
def literal (index : Object) : Run Object :=
  once "typing.Literal" true index.items do
    let values := index.items.flatMap literalValues
    if values.all (·.isHashable) then
      return .formed .literal <| values.foldl
        (fun kept v => if kept.any (fun k => k.sameType v && k.same v) then kept else kept ++ [v]) []
    else return .formed .literal values

/-- Does the object know a module that it comes from? Plain values do not, nor does most of what the language
has made. -/
def hasModule : Object → Bool
  | .constant _ | .ellipsis | .row _ | .list _ | .set _ | .frozenSet _ | .table _ | .view .. | .slice ..
  | .module _ | .libraryModule _ | .tupleReader _ | .iterator _ | .descriptor .. => false
  | .datum d => d.cls.module ∈ ["decimal", "fractions", "uuid"]
  | .made _ (.library l) .. => l.module ∉ ["builtins", "datetime"]
  | .method (.cls _) _ | .method (.made ..) _ | .method (.cell _) _ => true
  | .method _ name => !name.startsWith "__"
  | .other kind _ => kind ≠ "property" && kind ≠ "object"
  | _ => true

/-- A type with notes; notes on notes follow each other. -/
def withNotes (notes : List Object) (o : Object) : Run Object := do
  match o with
  | .annotated inner inward => return .annotated inner (inward ++ notes)
  | o =>
    if hasModule o then return .annotated o notes
    else throw (.noMember (Text.quote ((← get).typeName o) ++ " object has no attribute '__module__'"))

/-- A type with notes, from a row of both. -/
def annotated (index : Object) : Run Object :=
  once "typing.Annotated" false [index] do
    match index with
    | .row (inner :: note :: notes) =>
      withNotes (note :: notes) (← checked "Annotated[t, ...]: t must be a type." true inner)
    | _ => refuse (.other ("Annotated[...] should be used with at least two arguments "
        ++ "(a type and an annotation)."))

/-- A callable type, from its arguments and its result. -/
def callable (index : Object) : Run Object := do
  match index with
  | .row [args, result] =>
    once "typing.Callable" false [.row args.parts, result] do
      let result ← checked "Callable[args, result]: result must be a type." false result
      match args with
      | .ellipsis => return .formed .callable [.ellipsis, result]
      | .typeVariable _ | .formed .. => return .formed .callable [args, result]
      | args => return .formed .callable ((← args.parts.mapM (converted false)) ++ [result])
  | _ => refuse (.other "Callable must be used as Callable[[arg, ...], result].")

/-- A named form with its types. -/
def named (name : String) (form : NamedForm) (index : Object) : Run Object :=
  if name = "Callable" then callable index
  else once ("typing." ++ name) false [index] do
    let os := index.items
    if name = "Tuple" then
      match os.reverse with
      | .ellipsis :: o :: rest =>
        let os ← (o :: rest).reverse.mapM (checked "Tuple[t, ...]: t must be a type." false)
        return .formed (.named name) (os ++ [.ellipsis])
      | _ =>
        return .formed (.named name)
          (← os.mapM (checked "Tuple[t0, t1, ...]: each t must be a type." false))
    else
      let os ← os.mapM (checked "Parameters to generic types must be types." false)
      checkArity ("typing." ++ name) os.length (form.arity.getD 0)
      return .formed (.named name) os

end Run

end Mapsmith.Program
