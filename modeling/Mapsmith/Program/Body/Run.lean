import Mapsmith.Program.Body
import Mapsmith.Program.Schema

/-!
# Running bodies

A body is run in the order in which it is written: values, fields, constructor, properties, methods, and
then the classes in it.
-/

namespace Mapsmith.Program

namespace Body

/-- The scope of a body. -/
def scope (s : Scope) (b : Body) : Scope :=
  { s with owner := b.owner, own := b.bound, near := .names b.names, far := .module s.moduleIndex }

/-- The type that an expression in the body stands for. -/
def typeOf (s : Scope) (b : Body) (type : Option Expr) : Run (Option Object) :=
  type.mapM fun e => do Run.whole (← Run.evaluate (b.scope s) e)

/-- A function whose parameters and result are typed in the body. -/
def function (s : Scope) (b : Body) (name : String) (parameters : List (Parameter Expr))
    (result : Option Expr) : Run Function := do
  let passings := Passing.settled (parameters.map (·.passing))
  let parameters := (parameters.zip passings).map fun (p, passing) =>
    { p with name := keptName b.owner p.name, passing }
  let types ← (Parameter.inTypeOrder parameters).mapM fun p => do
    return (p.name, ← b.typeOf s p.type)
  return {
    name := b.path ++ "." ++ name
    parameters := parameters.map fun p =>
      { name := p.name, type := (types.lookup p.name).join, hasDefault := p.hasDefault
        passing := p.passing }
    result := ← b.typeOf s result
    module := s.moduleIndex }

/-- What a decorator on a function makes of it, if the decorator is not what the language has under the name. -/
def decorated? (s : Scope) (b : Body) (word : String) (given : List Object) : Run (Option Object) := do
  match b.attributes.lookup word with
  | some (.function f) =>
    if f.kind = .ofClass then Run.refuse (.other "'classmethod' object is not callable")
    return some .none
  | some (.property ..) => Run.refuse (.other "'property' object is not callable")
  | some a => return some (← Run.call (b.scope s) a.toObject (.ofItems given))
  | none =>
    let o ← Run.lookUp (b.scope s) word
    if o.same (.cls (.library (.builtin word))) then return none
    return some (← Run.call (b.scope s) o (.ofItems given))

/-- Looks up what says more of a field. -/
def checkFieldMaker (s : Scope) (b : Body) : Attribute → Run Unit
  | .dataclassField _ => do let _ ← Run.evaluate (b.scope s) (.ofParts ["dataclasses", "field"])
  | .modelField _ => do let _ ← Run.evaluate (b.scope s) (.ofParts ["pydantic", "Field"])
  | _ => return

/-- Runs a field. Its default value is there before its type is. -/
def runField (s : Scope) (kind : ClassKind) (b : Body) (f : Field) : Run Body := do
  let b ← match ← f.details.attribute? kind with
    | some a => do
      b.checkFieldMaker s a
      b.assign f.name a
    | none => pure b
  let type ← Run.whole (← Run.evaluate (b.scope s) f.type)
  b.annotate (keptName b.owner f.name) type

/-- Runs the constructor. -/
def runConstructor (s : Scope) (b : Body) : Constructor → Run Body
  | .inherited => return b
  | .unreadable => b.assign "__init__" (.object (.constant (.int 5)))
  | .taking parameters => do b.assign "__init__" (.function (← b.function s "__init__" parameters none))

/-- Runs a property. -/
def runProperty (s : Scope) (b : Body) (p : Property) : Run Body := do
  let getter ← if p.hasGetter then (do return some (← b.function s p.name [] p.type)) else pure none
  let given := match getter with
    | some f => [.function f.name]
    | none => [.none, .function (b.path ++ "." ++ p.name)]
  match ← b.decorated? s "property" given with
  | none => b.assign p.name (.property getter p.hasSetter)
  | some o =>
    if p.hasGetter && p.hasSetter then
      let setter ← Run.member o "setter"
      b.assign p.name (.object (← Run.call (b.scope s) setter (.ofItems given)))
    else b.assign p.name (.object o)

/-- Runs a method. -/
def runMethod (s : Scope) (b : Body) (method : Method) : Run Body := do
  let name := b.path ++ "." ++ method.name
  let other? ← match method.kind with
    | .ofValue => pure none
    | .ofClass => b.decorated? s "classmethod" [.function name]
    | .free => b.decorated? s "staticmethod" [.function name]
    | .awaited => do
      let o ← Run.evaluate (b.scope s) (.ofParts ["abc", "abstractmethod"])
      if o.same (.function "abc.abstractmethod") then pure none
      else pure (some (← Run.call (b.scope s) o (.ofItems [.function name])))
  match other? with
  | some o => b.assign method.name (.object o)
  | none => b.assign method.name (.function {
      name, parameters := anyParameters, kind := method.kind, module := s.moduleIndex })

/-- Runs a body up to the classes in it. -/
def run (s : Scope) (b : Body) (d : ClassHead) : Run Body := do
  let b ← d.values.foldlM (fun b (name, v) => b.assign name (.object (.ofValue v))) b
  let b ← d.fields.foldlM (runField s d.kind) b
  let b ← b.runConstructor s d.constructor
  let b ← d.properties.foldlM (runProperty s) b
  d.methods.foldlM (runMethod s) b

end Body

end Mapsmith.Program
