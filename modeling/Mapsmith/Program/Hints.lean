import Mapsmith.Program.Evaluation

/-!
# Types of annotated names

The types that the annotations of a class or a function stand for, once the texts in them are looked up.
A class has the annotations of all it inherits from; each is looked up where it was written, a class among
the names of its module first and then among its own. If one of them stands for nothing, all of the
class's annotations are taken as they are written. A text that has been looked up for a class keeps what it
stood for, and stands for that wherever a function meets it again.
-/

namespace Mapsmith.Program

namespace Run

/-- How deep texts may lead to texts. -/
def maxDepth : Nat := 400

/-- A type with the texts in it looked up, except those that are being looked up. Functions take what a
text was found to stand for before. -/
def resolvedWithin (ev : Evaluator) (s : Scope) (reuses : Bool) :
    Nat → List String → Object → Run Object
  | 0, _, _ => throw .tooDeep
  | levels + 1, open_, o =>
    let inner := resolvedWithin ev s reuses levels open_
    match o with
    | .forward id text isWhole => do
      if text ∈ open_ then return o
      let m ← get
      match if reuses then m.found.lookup id else none with
      | some found => return found
      | none =>
        let some e := Expr.ofText? text | throw .malformed
        let o ← whole (← evaluateWith ev s e)
        let o ← checked "Forward references must evaluate to types." isWhole o
        let found ← resolvedWithin ev s reuses levels (text :: open_) o
        modify fun m => { m with found := (id, found) :: m.found }
        return found
    | .formed (.subscripted c) args => do
      let m ← get
      let args ← args.mapM fun a => match m.asText? a with
        | some s => forward s false
        | none => return a
      let found ← args.mapM inner
      return .formed (.subscripted c) (if Object.sameAll found args then args else found)
    | .formed former args => do
      let found ← args.mapM inner
      if Object.sameAll found args then return o
      match former with
      | .union => union (.row found)
      | .bars => barredAll found
      | _ => return .formed former found
    | .annotated type notes => do
      let found ← inner type
      if found.same type then return o else withNotes notes found
    | o => return o

/-- The type that an annotation stands for. -/
def resolved (ev : Evaluator) (s : Scope) (reuses isWhole : Bool) (o : Object) : Run Object := do
  resolvedWithin ev s reuses maxDepth [] (← converted isWhole o)

/-! ### Classes -/

/-- The scope in which the annotations of a class are looked up: its module, then a table of what it holds. -/
def hintScope (index : Nat) (c : ClassObject) : Run Scope := do
  let m ← get
  match ← newTableOf (classEntries m index c) with
  | .cell place => return { near := m.spaceOf c.module, far := .table place }
  | _ => return { near := m.spaceOf c.module, far := .names (classEntries m index c) }

/-- The types of the annotated names of a class; a name keeps its first place and has its nearest
type. A class that holds something else in their place is refused. -/
def classHints (ev : Evaluator) (c : ClassId) : Run (List (String × Object)) := do
  let m ← get
  let hints ← (m.lineage c).reverse.mapM fun (index, base) => do
    match base.attributes.lookup typesName with
    | some a => noMember a.toObject "items"
    | none =>
      let s ← hintScope index base
      base.annotations.mapM fun (name, o) => do
        return (name, ← resolved ev s false true o)
  return setEntries [] hints.flatten

/-- The annotations of a class as they are written. What stands in their place has to be nothing. -/
def rawHints (m : Memory) (c : ClassId) : Run (List (String × Object)) := do
  let hints ← (m.lineage c).reverse.mapM fun (_, base) => do
    match base.attributes.lookup typesName with
    | some a => if a.toObject.same .none then return [] else throw .badValue
    | none => return base.annotations
  return setEntries [] hints.flatten

/-- The types of the annotated names of a class, or the annotations as they are written and why. -/
def classHintsOrRaw (ev : Evaluator) (c : ClassId) : Run (List (String × Object) × Option String) :=
  tryCatch (do return (← classHints ev c, none)) fun e => match e.lookupDetail? with
    | some detail => do return (← rawHints (← get) c, some detail)
    | none => throw e

/-! ### Functions -/

/-- The name under which the type of a function's result is kept. -/
def resultName : String := "return"

/-- The types of the parameters of a function and of its result. -/
def declaredHints (ev : Evaluator) (f : Function) : Run (List (String × Object)) := do
  let s := Scope.ofModule f.module
  return setEntries [] (← (annotationsOf f).mapM fun (name, o) => do
    return (name, ← resolved ev s true false o))

/-- The types of the parameters of a function and of its result; none if one of them stands for
nothing. -/
def functionHints (ev : Evaluator) (f : Function) : Run (List (String × Object)) :=
  tryCatch (declaredHints ev f) fun e => match e.lookupDetail? with
    | some _ => return []
    | none => throw e

/-! ### All objects -/

/-- The types of the annotated names of an object. -/
def hintsWith (ev : Evaluator) (o : Object) : Run (List (String × Object)) := do
  match o with
  | .cls c => classHints ev c
  | .function path => match functionNamed? (← get) path with
    | some f => declaredHints ev f
    | none => return []
  | .method owner name =>
    let m ← get
    match m.attribute? (m.classOf owner) name with
    | some (.function f) => declaredHints ev f
    | _ => return []
  | .module _ | .libraryModule _ | .builtinFunction _ | .lambda _ | .descriptor .. => return []
  | o => refuse (.other ((← get).literal o ++ " is not a module, class, method, or function."))

end Run

end Mapsmith.Program
