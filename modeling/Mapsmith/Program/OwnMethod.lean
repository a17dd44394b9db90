import Mapsmith.Program.Cell

/-!
# What classes say of their values

Behind many forms of the language stands a method, and a class of the program may have one of its own for its
values: a function of its body, or anything that was put under the name. A function takes the value first, one
that is marked for its class takes the class, and everything else is called as it is. A function of a body does
nothing.
-/

namespace Mapsmith.Program

namespace Run

/-! ### What is held for values -/

/-- The class of the program or of the library that has made an object, if one has. -/
def makerOf? (m : Memory) (o : Object) : Option ClassId :=
  match m.seen o with
  | .made _ c _ _ _ => some c
  | .enumValue owner _ => some (.program owner)
  | _ => none

/-- What a value keeps under a name. -/
def keptUnder? (m : Memory) (o : Object) (name : String) : Option Object :=
  match m.seen o with
  | .made _ _ _ _ state => state.lookup name
  | _ => none

/-- What a class of the program holds or inherits under a name. What comes with the kind of a class does not
count. -/
def ownAttribute? (m : Memory) (c : ClassId) (name : String) : Option Attribute :=
  (m.lineage c).findSome? fun (_, a) => match a.attributes.lookup name with
    | some (.function f) => if f.isGiven then none else some (.function f)
    | a => a

/-- The function of its own that a class of the program holds or inherits under a name. -/
def declared? (m : Memory) (c : ClassId) (name : String) : Option Function :=
  match ownAttribute? m c name with
  | some (.function f) => some f
  | _ => none

/-- Does a class of the program hold or inherit a function of its own under a name? -/
def declares (m : Memory) (c : ClassId) (name : String) : Bool :=
  (declared? m c name).isSome

/-- Does the class of an object declare a function under a name? -/
def declaresFor (m : Memory) (o : Object) (name : String) : Bool :=
  (makerOf? m o).any (declares m · name)

/-! ### Calls on values -/

/-- What is called where a class holds an object for a value, and what it is given before the rest. -/
def boundParts (m : Memory) (o : Object) (c : ClassId) (f : Object) : Object × List Object :=
  match m.seen f with
  | .lambda _ | .function _ => (f, [o])
  | .made _ (.library l) _ members _ =>
    let inner := (members.lookup "__func__").getD f
    if l = .builtin "staticmethod" then (inner, [])
    else if l = .builtin "classmethod" then (inner, [.cls c])
    else (f, [])
  | _ => (f, [])

/-- The module of what is known by a name with its module, and its path there. -/
def moduleAndPath (m : Memory) (known : String) : String × String :=
  let modules := (m.modules.map (·.name) ++ libraryModules).filter fun n => known.startsWith (n ++ ".")
  let module := modules.foldl (fun a b => if a.length < b.length then b else a) ""
  (module, if module = "" then known else (known.drop (module.length + 1)).toString)

/-- What is called on an object first, as a method that is had from the object. -/
def newBound (f owner : Object) : Run Object := do
  let m ← get
  let name := match f with
    | .function known => (moduleAndPath m known).2
    | .builtinFunction known => known
    | _ => "<lambda>"
  newMade (.library (.builtin "method")) [] [("__func__", f), ("__self__", owner)]
    [(Memory.shownName, .text ("<bound method " ++ name ++ " of " ++ m.written owner ++ ">"))]

/-- What a class holds, as it is had from a value of the class, or from the class if there is none. -/
def hadFrom (o : Option Object) (c : ClassId) (f : Object) : Run Object := do
  match boundParts (← get) (o.getD .none) c f with
  | (g, first :: _) => if o.isNone && g.same f then return f else newBound g first
  | (g, []) => return g

/-- What a call yields of what a class holds, on one of its values. -/
def callHeld (ev : Evaluator) (o : Object) (c : ClassId) (a : Attribute) (given : Arguments) : Run Object := do
  match a with
  | .object f =>
    let (f, first) := boundParts (← get) o c f
    ev.call { near := .names [], far := .names [] } f { given with inPlace := first ++ given.inPlace }
  | _ => return .none

/-- What the class of an object says of it by a method, if it is one of its own. -/
def said? (ev : Evaluator) (o : Object) (name : String) (args : List Object) : Run (Option Object) := do
  let m ← get
  match makerOf? m o with
  | none => return none
  | some c => match ownAttribute? m c name with
    | none => return none
    | some a => return some (← callHeld ev o c a (.ofItems args))

/-- What a method yields that leaves a question to the other object. -/
def leftOpen : Object :=
  .other "NotImplementedType" "NotImplemented"

/-- What the class of an object says of it by a method, if it is one of its own and does not leave it open. -/
def settled? (ev : Evaluator) (o : Object) (name : String) (args : List Object) : Run (Option Object) := do
  return (← said? ev o name args).filter (!·.same leftOpen)

/-- The integer that a class says of an object, where the language asks for one. -/
def countSaid (o : Object) : Run Int := do
  let m ← get
  match m.plain o with
  | .constant v => match v.count? with
    | some n => return n
    | none => refused m
  | _ => refused m
where
  /-- Refuses another object. -/
  refused (m : Memory) : Run Int :=
    refuse (.other (Text.quote (m.typeName o) ++ " object cannot be interpreted as an integer"))

/-- The number of things that a class says an object has, if it says so. -/
def lengthSaid? (ev : Evaluator) (o : Object) : Run (Option Nat) := do
  match ← said? ev o "__len__" [] with
  | none => return none
  | some answer =>
    let n ← countSaid answer
    if n < 0 then throw .badValue
    return some n.toNat

/-- Does an object count as true? -/
def isTrue (ev : Evaluator) (o : Object) : Run Bool := do
  let m ← get
  match ← said? ev o "__bool__" [] with
  | some (.constant (.bool b)) => return b
  | some answer =>
    refuse (.other ("__bool__ should return bool, returned " ++ m.typeName answer))
  | none => pure ()
  if let some n ← lengthSaid? ev o then return n ≠ 0
  match m.plain o with
  | .view _ o => return (m.plain o).isTruthy
  | .made _ _ _ _ state => match state.lookup "data" with
    | some inner => return (m.plain inner).isTruthy
    | none => return true
  | p => return p.isTruthy

end Run

end Mapsmith.Program
