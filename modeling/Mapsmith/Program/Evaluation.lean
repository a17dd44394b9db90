import Mapsmith.Program.Call

/-!
# Evaluation

What an expression stands for where it stands. An expression is gone through once; whatever leads to another
one, such as the call of a function without a name, is asked of an evaluator. A loop that gathers has names of
its own and looks up the first things that it goes through around it.
-/

namespace Mapsmith.Program

namespace Run

/-! ### Pieces of expressions -/

/-- Things gathered in brackets of a kind. -/
def collected (kind : String) (items : List Object) : Run Object := do
  if kind = "list" then newList items
  else if kind = "set" then
    items.forM checkLookUp
    newSet (← setOf items)
  else
    newTable (← items.foldlM (fun es e => match e with
      | .row [key, value] => do
        checkLookUp key
        entered es key value
      | _ => return es) [])

/-- What goes through things in loops, with the names of a frame of its own. -/
def loopOver (s : Scope) (kind : String) (target body : Expr) (source : Object) : Run Object := do
  let frame ← newFrame true []
  newIterator kind (.gathered (s.within frame) frame [{ source, target, body }])

/-- Two objects with a bar between them: values, or else types. -/
def alternated (ev : Evaluator) (a b : Object) : Run Object := do
  match ← operated? ev "|" a b with
  | some o => return o
  | none => barred a b

/-- How something that is called is named where what is given to it does not fit. -/
def callName (ev : Evaluator) (f : Object) : Run String := do
  let text (name : String) : Run (Option String) :=
    tryCatch (do text? (← member f name)) fun _ => return none
  match ← text "__qualname__" with
  | none => return (← display ev f)
  | some path => match ← text "__module__" with
    | some module =>
      if module = "builtins" || module = "" then return path ++ "()" else return module ++ "." ++ path ++ "()"
    | none => return path ++ "()"

/-- The things that are set out in place. -/
def spreadOut (ev : Evaluator) (what : Run String) (o : Object) : Run (List Object) := do
  let refused {α : Type} : Run α := do
    refuse (.other ((← what) ++ " after * must be an iterable, not " ++ (← get).typeName o))
  match ← attempt (iteratorOf ev o) with
  | .ok _ => parts ev o
  | .error (.misuse (.other text)) =>
    if text.endsWith "object is not iterable" then refused else refuse (.other text)
  | .error e => throw e

/-- What is given under the names that the keys of a table are. -/
def namedEntries (ev : Evaluator) (f : Object) (o : Object) : Run (List (String × Object)) := do
  let m ← get
  match mappingOf? m o with
  | some entries => entries.filterMapM fun e => do
    match e with
    | .row [key, o] => match (← get).asText? key with
      | some name => return some (name, o)
      | none => refuse (.other "keywords must be strings")
    | _ => return none
  | none =>
    refuse (.other ((← callName ev f) ++ " argument after ** must be a mapping, not " ++ m.typeName o))

/-- Refuses a name that is given twice. -/
def checkNames (ev : Evaluator) (f : Object) (a : Arguments) : Run Arguments := do
  let names := a.byName.map (·.1)
  match names.find? fun n => (names.filter (· = n)).length > 1 with
  | some name =>
    refuse (.other ((← callName ev f) ++ " got multiple values for keyword argument " ++ Text.quote name))
  | none => return a

/-- A function without a name, with the values of those parameters that can be left out. -/
def newLambda (s : Scope) (parameters : List (String × Passing × Bool)) (usual : List Object)
    (body : Expr) : Run Object := do
  let ps := parameters.map fun (name, passing, hasDefault) =>
    { name := keptName s.owner name, passing, hasDefault : Parameter Object }
  let index := (← get).lambdas.length
  modify (·.addLambda {
    parameters := ps
    defaults := ((ps.filter (·.hasDefault)).map (·.name)).zip usual
    body, owner := s.owner, frames := s.frames, far := s.far })
  return .lambda index

/-! ### Expressions -/

mutual

/-- What an expression stands for. -/
def evaluateWith (ev : Evaluator) (s : Scope) : Expr → Run Object
  | .name name => lookUp s (keptName s.owner name)
  | .constant v => return .constant v
  | .datum d => return .datum d
  | .pieces es => do
    return .text (String.join ((← evaluateEach ev s es).filterMap (·.text?)))
  | .shown way layout e => do
    let o ← evaluateWith ev s e
    let layout ← evaluateWith ev s layout
    return .text (← shownAs ev way (layout.text?.getD "") o)
  | .ellipsis => return .ellipsis
  | .note n => do
    match ← meaning? s directivesName with
    | some o => member o (String.ofList (n.spelling.toList.takeWhile (· ≠ '(')))
    | none => return .note n
  | .member owner name => do memberSaid ev (← evaluateWith ev s owner) (keptName s.owner name)
  | .subscript owner index => do
    let owner ← evaluateWith ev s owner
    subscript ev s owner (← evaluateWith ev s index)
  | .slice first last step => do
    let first ← evaluateWith ev s first
    let last ← evaluateWith ev s last
    return .slice first last (← evaluateWith ev s step)
  | .row items => return .row (← evaluateEach ev s items)
  | .list items => do newList (← evaluateEach ev s items)
  | .set items => do collected "set" (← evaluateMembers ev s items)
  | .table entries => do newTable (← evaluateEntries ev s [] entries)
  | .gathered kind (.each target things body) => do
    let source ← iteratorOf ev (← evaluateWith ev s things)
    let loop ← loopOver s "generator" target body source
    if kind = "generator" then return loop
    collected kind (← drained ev loop maxItems [])
  | .gathered .. | .each .. | .given .. | .keyword .. | .invalid _ => throw .malformed
  | .entries inner => evaluateWith ev s inner
  | .bars left right => do
    let left ← evaluateWith ev s left
    alternated ev left (← evaluateWith ev s right)
  | .choice condition yes no => do
    let holds ← isTrue ev (← evaluateWith ev s condition)
    if holds then evaluateWith ev s yes else evaluateWith ev s no
  | .conjunction left right => do
    let left ← evaluateWith ev s left
    if ← isTrue ev left then evaluateWith ev s right else return left
  | .disjunction left right => do
    let left ← evaluateWith ev s left
    if ← isTrue ev left then return left else evaluateWith ev s right
  | .negation inner => do
    let holds ← isTrue ev (← evaluateWith ev s inner)
    return .constant (.bool !holds)
  | .comparison first operators others => do
    evaluateCompared ev s (← evaluateWith ev s first) operators others
  | .signed sign inner => do signed ev sign (← evaluateWith ev s inner)
  | .operation operator left right => do
    let left ← evaluateWith ev s left
    operatedWith ev s operator left (← evaluateWith ev s right)
  | .call function args => do
    let function ← evaluateWith ev s function
    ev.call s function (← checkNames ev function (← evaluateArguments ev s function args))
  | .abstraction parameters defaults body => do
    newLambda s parameters (← evaluateEach ev s defaults) body
  | .named name inner => do
    let o ← evaluateWith ev s inner
    assign s (keptName s.owner name) o
    return o
  | .spread inner => do
    return .row (← spreadOut ev (return "Value") (← evaluateWith ev s inner))

/-- What expressions in a row stand for; some are set out in place. -/
def evaluateEach (ev : Evaluator) (s : Scope) : List Expr → Run (List Object)
  | [] => return []
  | .spread inner :: es => do
    let os ← spreadOut ev (return "Value") (← evaluateWith ev s inner)
    return os ++ (← evaluateEach ev s es)
  | e :: es => do
    let o ← evaluateWith ev s e
    return o :: (← evaluateEach ev s es)

/-- What expressions in braces stand for; some are set out in place. -/
def evaluateMembers (ev : Evaluator) (s : Scope) : List Expr → Run (List Object)
  | [] => return []
  | .spread inner :: es => do
    let os ← parts ev (← evaluateWith ev s inner)
    return os ++ (← evaluateMembers ev s es)
  | e :: es => do
    let o ← evaluateWith ev s e
    return o :: (← evaluateMembers ev s es)

/-- The entries of a table; those of other tables may be set out in place. -/
def evaluateEntries (ev : Evaluator) (s : Scope) (entries : List Object) :
    List Expr → Run (List Object)
  | [] => return entries
  | .entries inner :: es => do
    let o ← evaluateWith ev s inner
    match mappingOf? (← get) o with
    | some others => evaluateEntries ev s (← enteredAll entries others) es
    | none => refuse (.other (Text.quote ((← get).typeName o) ++ " object is not a mapping"))
  | e :: es => do
    match ← evaluateWith ev s e with
    | .row [key, value] =>
      checkLookUp key
      evaluateEntries ev s (← entered entries key value) es
    | _ => evaluateEntries ev s entries es

/-- What an object compared with what expressions stand for yields: the first outcome that counts as false, or
the last one. -/
def evaluateCompared (ev : Evaluator) (s : Scope) (left : Object) :
    List String → List Expr → Run Object
  | operator :: operators, e :: es => do
    let right ← evaluateWith ev s e
    let outcome ← compared ev operator left right
    if es.isEmpty then return outcome
    if ← isTrue ev outcome then evaluateCompared ev s right operators es else return outcome
  | _, _ => return left

/-- What is given to a call of an object. -/
def evaluateArguments (ev : Evaluator) (s : Scope) (f : Object) : List Expr → Run Arguments
  | [] => return {}
  | .spread inner :: es => do
    let what : Run String := do return (← callName ev f) ++ " argument"
    let os ← spreadOut ev what (← evaluateWith ev s inner)
    let rest ← evaluateArguments ev s f es
    return { rest with inPlace := os ++ rest.inPlace }
  | .keyword name inner :: es => do
    let o ← evaluateWith ev s inner
    let rest ← evaluateArguments ev s f es
    return { rest with byName := (keptName s.owner name, o) :: rest.byName }
  | .entries inner :: es => do
    let named ← namedEntries ev f (← evaluateWith ev s inner)
    let rest ← evaluateArguments ev s f es
    return { rest with byName := named ++ rest.byName }
  | e :: es => do
    let o ← evaluateWith ev s e
    let rest ← evaluateArguments ev s f es
    return { rest with inPlace := o :: rest.inPlace }

end

/-! ### Functions without a name -/

/-- The names that a function without a name gives a meaning when it is called. -/
def namesInCall (f : LambdaObject) (given : Arguments) : Run (List (String × Object)) := do
  let taken ← assigned "<lambda>()" false f.parameters given
  let inPlace := f.parameters.filter (·.passing.byPosition)
  let isNamed (name : String) : Bool := f.parameters.any fun p => p.name = name && p.passing.byName
  f.parameters.mapM fun p => do
    match p.passing with
    | .rest => return (p.name, .row (given.inPlace.drop inPlace.length))
    | .keywords => return (p.name, ← newTableOf (given.byName.filter fun (name, _) => !isNamed name))
    | _ => return (p.name, (((taken.lookup p.name).join).or (f.defaults.lookup p.name)).getD .none)

/-- What a call of an object yields where an expression stands. -/
def callWith (ev : Evaluator) (s : Scope) (f : Object) (given : Arguments) : Run Object := do
  match f with
  | .lambda index => match (← get).lambdas[index]? with
    | some f =>
      let frame ← newFrame false (← namesInCall f given)
      evaluateWith ev { owner := f.owner, frames := frame :: f.frames, near := f.far, far := f.far } f.body
    | none => return .none
  | f => called ev s f given

/-- What a text stands for where an expression stands. -/
def readWith (ev : Evaluator) (s : Scope) (text : String) : Run Object := do
  let cs := text.toList.dropWhile fun c => c = ' ' || c = '\t'
  evaluateWith ev s (← expression (String.ofList cs))

end Run

end Mapsmith.Program
