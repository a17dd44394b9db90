import Mapsmith.Program.Iteration
import Mapsmith.Program.Library.Convention

/-!
# Arguments

What is given to a call, and how parameters are given it. Things in their places come first, then those under
names; no parameter is given two things, and one without a default value has to be given one. Each way in which
something can be called tells in its own words what does not fit.
-/

namespace Mapsmith.Program

namespace Run

/-- Names as they are listed. -/
def listed (names : List String) : String :=
  match (names.map Text.quote).reverse with
  | [] => ""
  | [name] => name
  | [last, first] => first ++ " and " ++ last
  | last :: rest => ", ".intercalate rest.reverse ++ ", and " ++ last

/-- A word for one thing or for several. -/
def plural (n : Nat) (word : String) : String :=
  if n = 1 then word else word ++ "s"

/-- A number of arguments in words. -/
def counted (n : Nat) (what : String) : String :=
  toString n ++ " " ++ what ++ plural n " argument"

/-! ### Functions that the language itself has written -/

/-- Refuses too many things in their places. -/
def refuseMany {α : Type} (what : String) (least most given named : Nat) : Run α :=
  let range := if least = most then toString most else "from " ++ toString least ++ " to " ++ toString most
  let several := most ≠ 1 || least ≠ most
  let word := " positional argument" ++ if several then "s" else ""
  let given' := if named = 0 then toString given ++ if given = 1 then " was" else " were"
    else toString given ++ " positional" ++ plural given " argument" ++ " (and " ++ toString named
      ++ " keyword-only" ++ plural named " argument" ++ ")"
      ++ if given = 1 && named = 0 then " was" else " were"
  refuse (.other (what ++ " takes " ++ range ++ word ++ " but " ++ given' ++ " given"))

/-- What parameters are given in a call of something, apart from those that take what is left; nothing for
those that are left out. The first parameter of a method is counted but not among them. -/
def assigned (what : String) (isMethod : Bool) (ps : List (Parameter Object)) (given : Arguments) :
    Run (List (String × Option Object)) := do
  let own := if isMethod then 1 else 0
  let byPlace := ps.filter (·.passing.byPosition)
  let hasRest := ps.any (·.passing = .rest)
  let hasKeywords := ps.any (·.passing = .keywords)
  let taken := ps.filter fun p => p.passing.byPosition || p.passing.byName
  let inPlace := (byPlace.map (·.name)).zip given.inPlace
  let isInPlaceOnly (name : String) : Bool := ps.any fun p => p.name = name && p.passing = .positional
  for (name, _) in given.byName do
    let isTaken := ps.any fun p => p.name = name && p.passing.byName
    if !isTaken && !hasKeywords then
      let misplaced := given.byName.filter fun (n, _) => isInPlaceOnly n
      if !misplaced.isEmpty then
        let inOrder := (ps.filter fun p => misplaced.any (·.1 = p.name)).map (·.name)
        refuse (.other (what ++ " got some positional-only arguments passed as keyword arguments: '"
          ++ ", ".intercalate inOrder ++ "'"))
      refuse (.other (what ++ " got an unexpected keyword argument " ++ Text.quote name))
    if isTaken && (inPlace.lookup name).isSome then
      refuse (.other (what ++ " got multiple values for argument " ++ Text.quote name))
  if given.inPlace.length > byPlace.length && !hasRest then
    let named := (given.byName.filter fun (name, _) =>
      ps.any fun p => p.name = name && p.passing = .keyword).length
    refuseMany what ((byPlace.filter (!·.hasDefault)).length + own) (byPlace.length + own)
      (given.inPlace.length + own) named
  let named := given.byName.filter fun (name, _) => ps.any fun p => p.name = name && p.passing.byName
  let all := inPlace ++ named
  let missing := taken.filter fun p => !p.hasDefault && (all.lookup p.name).isNone
  let positional := missing.filter (·.passing.byPosition)
  if !positional.isEmpty then
    refuse (.other (what ++ " missing " ++ counted positional.length "required positional" ++ ": "
      ++ listed (positional.map (·.name))))
  if !missing.isEmpty then
    refuse (.other (what ++ " missing " ++ counted missing.length "required keyword-only" ++ ": "
      ++ listed (missing.map (·.name))))
  return taken.map fun p => (p.name, all.lookup p.name)

/-- Parameters from their names in a text. A name with a question mark has a default value, those before a stroke
have no name for others, those after a star have no place. -/
def parametersFrom (names : String) : List (Parameter Object) :=
  let words := (Text.parts ' ' names).filter (· ≠ "")
  let first := words.idxOf "/"
  let star := words.idxOf "*"
  let hasStroke := words.contains "/"
  (words.zipIdx.filter fun (w, _) => w ≠ "/" && w ≠ "*").map fun (w, i) =>
    let hasDefault := w.endsWith "?"
    { name := if hasDefault then (w.dropEnd 1).toString else w, hasDefault
      passing := if hasStroke && i < first then .positional else if star < i then .keyword else .either }

/-- What is given under names that can be given in their places too. -/
def taken (what names : String) (given : Arguments) : Run (List (Option Object)) := do
  return (← assigned what false (parametersFrom names) given).map (·.2)

/-- What a method is given under names that can be given in their places too. -/
def takenBy (what names : String) (given : Arguments) : Run (List (Option Object)) := do
  return (← assigned what true (parametersFrom names) given).map (·.2)

/-- The first parameter of a function in the body of a class, which no one declares. -/
def ownParameters (f : Function) : List (Parameter Object) :=
  if f.kind = .free then [] else [{ name := if f.kind = .ofClass then "cls" else "self" }]

/-- The path of a function that the program declares, without its module. -/
def pathOfFunction (m : Memory) (f : Function) : String :=
  let module := ((m.modules[f.module]?).map (·.name)).getD ""
  if f.name.startsWith (module ++ ".") then (f.name.drop (module.length + 1)).toString else f.name

/-- What a call of a function yields that the program declares, on something or by itself: nothing, once it has
been given what it takes. -/
def declaredCall (f : Function) (given : Arguments) : Run Object := do
  let _ ← assigned (pathOfFunction (← get) f ++ "()") false (ownParameters f ++ f.parameters) given
  return .none

/-! ### Other ways -/

/-- Refuses names where none are taken. -/
def noNames (what : String) (given : Arguments) : Run Unit := do
  if !given.byName.isEmpty then refuse (.other (what ++ "() takes no keyword arguments"))

/-- Refuses a number of things in their places that does not fit. -/
def checkPlaces (what : String) (least most n : Nat) : Run Unit := do
  if n < least || most < n then
    let bound := if n < least then least else most
    refuse (.other (what ++ " expected " ++ (if least = most then ""
      else if n < least then "at least " else "at most ") ++ toString bound
      ++ plural bound " argument" ++ ", got " ++ toString n))

/-- What is given in places to what stands behind an operator or a form of the language. -/
def slotted (name : String) (least most : Nat) (given : Arguments) : Run (List (Option Object)) := do
  if !given.byName.isEmpty then
    refuse (.other ("wrapper " ++ name ++ "() takes no keyword arguments"))
  let n := given.inPlace.length
  if n < least || most < n then
    let bound := if n < least then least else most
    refuse (.other ("expected " ++ (if least = most then ""
      else if n < least then "at least " else "at most ") ++ toString bound
      ++ plural bound " argument" ++ ", got " ++ toString n))
  return given.inPlace.map some

/-- What is given in places, from so many things on up to so many. -/
def placed (what : String) (least most : Nat) (given : Arguments) : Run (List Object) := do
  noNames what given
  checkPlaces what least most given.inPlace.length
  return given.inPlace

/-- What is given to something of the library that takes things under names. -/
def namedOnly (what : String) (knowsName : Bool) (ps : List (Parameter Object)) (given : Arguments) :
    Run (List (Option Object)) := do
  let (who, whom) := if knowsName then (what ++ "()", what ++ "()") else ("function", "this function")
  let inPlace := ps.filter (·.passing.byPosition)
  let least := (inPlace.filter fun p => p.passing = .positional && !p.hasDefault).length
  let n := given.inPlace.length
  let all := n + given.byName.length
  if all > ps.length then
    refuse (.other (who ++ " takes at most " ++ toString ps.length ++ " "
      ++ (if n = 0 then "keyword " else "") ++ plural ps.length "argument" ++ " (" ++ toString all
      ++ " given)"))
  if n > inPlace.length then
    if inPlace.isEmpty then refuse (.other (who ++ " takes no positional arguments"))
    let fewest := (inPlace.filter (!·.hasDefault)).length
    refuse (.other (who ++ " takes " ++ (if fewest < inPlace.length then "at most " else "exactly ")
      ++ toString inPlace.length ++ plural inPlace.length " positional argument" ++ " (" ++ toString n
      ++ " given)"))
  if n < least then
    refuse (.other (who ++ " takes " ++ (if least < inPlace.length then "at least " else "exactly ")
      ++ toString least ++ plural least " positional argument" ++ " (" ++ toString n ++ " given)"))
  let held := ps.zipIdx.map fun (p, i) =>
    (p, i, match given.inPlace[i]? with
      | some o => some o
      | none => if p.passing.byName then given.byName.lookup p.name else none)
  for (p, i, o) in held do
    if o.isNone && !p.hasDefault then
      refuse (.other (who ++ " missing required argument " ++ Text.quote p.name ++ " (pos "
        ++ toString (i + 1) ++ ")"))
  for (p, i) in ps.zipIdx do
    if i < n && p.passing.byName && (given.byName.lookup p.name).isSome then
      refuse (.other ("argument for " ++ who ++ " given by name (" ++ Text.quote p.name
        ++ ") and position (" ++ toString (i + 1) ++ ")"))
  for (name, _) in given.byName do
    if !ps.any fun p => p.name = name && p.passing.byName then
      refuse (.other (Text.quote name ++ " is an invalid keyword argument for " ++ whom))
  return held.map (·.2.2)

/-- What is given in a way to something with a name, whose full name is told too; nothing for what is left
out. -/
def received (way : Convention) (fullName name : String) (given : Arguments) : Run (List (Option Object)) := do
  let n := given.inPlace.length
  match way with
  | .nothing =>
    noNames fullName given
    if n > 0 then refuse (.other (fullName ++ "() takes no arguments (" ++ toString n ++ " given)"))
    return []
  | .one =>
    noNames fullName given
    if n ≠ 1 then
      refuse (.other (fullName ++ "() takes exactly one argument (" ++ toString n ++ " given)"))
    return given.inPlace.map some
  | .places least most =>
    noNames fullName given
    checkPlaces name least most n
    return given.inPlace.map some
  | .counted least most =>
    noNames name given
    if n < least || most < n then
      let bound := if n < least then least else most
      refuse (.other (name ++ "() takes " ++ (if least = most then "exactly "
        else if n < least then "at least " else "at most ") ++ toString bound
        ++ plural bound " argument" ++ " (" ++ toString n ++ " given)"))
    return given.inPlace.map some
  | .named knowsName names => namedOnly name knowsName (parametersFrom names) given

/-! ### What objects have to be -/

/-- The integer that an object is, if it is one. -/
def integer? (o : Object) : Run (Option Int) := do
  match (← get).plain o with
  | .constant v => return v.count?
  | _ => return none

/-- The integer that an object is; another one is refused. -/
def integer (o : Object) : Run Int := do
  match ← integer? o with
  | some n => return n
  | none => do
    refuse (.other (Text.quote ((← get).typeName o) ++ " object cannot be interpreted as an integer"))

/-- The text that an object is, if it is one. -/
def text? (o : Object) : Run (Option String) := do
  return ((← get).plain o).text?

/-- The text that an object is; another one is refused. -/
def textual (what : String) (o : Object) : Run String := do
  match ← text? o with
  | some s => return s
  | none => do refuse (.other (what ++ " must be str, not " ++ (← get).typeName o))

/-- Is an object the missing value? -/
def isNothing (o : Object) : Bool :=
  o matches .constant .null

end Run

end Mapsmith.Program
