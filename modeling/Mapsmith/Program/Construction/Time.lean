import Mapsmith.Calendar.Reading
import Mapsmith.Program.Construction.Number
import Mapsmith.Program.Member

/-!
# Points in time of what classes are given

Days, times of day, times on days, spans of time and zones, each of its parts. A part that is left out has a value
that stands for it, and one that is out of its bounds is refused.
-/

namespace Mapsmith.Program

namespace Run

/-- An integer that is not too large for a part of a point in time. -/
def smallInteger (o : Object) : Run Int := do
  let n ← integer o
  if n.natAbs ≥ Nat.pow 2 31 then fail "OverflowError"
  return n

/-- The integers that are given, or the ones that stand for them. -/
def integersOr (usual : List Int) (args : List (Option Object)) : Run (List Int) :=
  (args.zip usual).mapM fun (o, n) => match o with
    | some o => smallInteger o
    | none => return n

/-- A day of its numbers. -/
def dayOf (numbers : List Int) : Run Date := do
  match numbers with
  | year :: month :: day :: _ => match Date.of? year month day with
    | some d => return d
    | none => throw .badValue
  | _ => throw .badValue

/-- A time of day of its numbers. -/
def timeOf (numbers : List Int) : Run TimeOfDay := do
  match numbers with
  | hour :: minute :: second :: microsecond :: _ =>
    match TimeOfDay.of? hour minute second microsecond with
    | some t => return t
    | none => throw .badValue
  | _ => throw .badValue

/-- The zone that an object is, if it is not the missing value. -/
def zoneOf (o : Object) : Run (Option TimeZone) := do
  let m ← get
  match m.plain o with
  | .constant .null => return none
  | .datum (.zone z) => return some z
  | _ =>
    if m.isValueOf o (.library ⟨"datetime", "tzinfo"⟩) then fail "NotImplementedError"
    refuse (.other ("tzinfo argument must be None or of a tzinfo subclass, not type "
      ++ Text.quote (m.typeName o)))

/-- A time of day with what else is told of it: which one of two it is, and its zone. -/
def timeWith (t : TimeOfDay) (zone fold : Option Object) : Run TimeOfDay := do
  let n ← match fold with
    | some o => smallInteger o
    | none => pure 0
  if n ≠ 0 && n ≠ 1 then throw .badValue
  let zone ← match zone with
    | some o => zoneOf o
    | none => pure none
  return { t with isSecond := n = 1, zone }

/-- The number that counts as the part of a span, in its own units, with its weight in microseconds: whole ones, and
what is left. -/
def spanPart (name : String) (weight : Int) (o : Object) : Run (Int × Binary64) := do
  let m ← get
  match Number.of? (m.plain o) with
  | some (.int n) => return (n * weight, .zero false)
  | some (.real x) => match x.fraction? with
    | some (num, den) =>
      let whole := Int.tdiv num den
      let part := (Binary64.ofInt weight).mul (.nearest (num - whole * den) den)
      match part.fraction? with
      | some (num, den) =>
        let more := Int.tdiv num den
        return (whole * weight + more, .nearest (num - more * den) den)
      | none => return (whole * weight, .zero false)
    | none => if x = .notANumber then throw .badValue else fail "OverflowError"
  | _ => refuse (.other ("unsupported type for timedelta " ++ name ++ " component: " ++ m.typeName o))

/-- A span of time of its parts. -/
def spanOf (given : Arguments) : Run Object := do
  let args ← namedOnly "__new__" true
    (parametersFrom "days? seconds? microseconds? milliseconds? minutes? hours? weeks?") given
  let parts : List (Nat × String × Int) := [(2, "microseconds", 1), (3, "milliseconds", 1000),
    (1, "seconds", 1000000), (4, "minutes", 60000000), (5, "hours", 3600000000), (0, "days", Duration.perDay),
    (6, "weeks", 7 * Duration.perDay)]
  let told ← parts.filterMapM fun (i, name, weight) => match args.getD i none with
    | some o => do return some (← spanPart name weight o)
    | none => return none
  let whole := told.foldl (fun n (k, _) => n + k) 0
  let rest := told.foldl (fun (x : Binary64) (_, y) => x.add y) (.zero false)
  let (num, den) := (rest.fraction?).getD (0, 1)
  match Outcome.span (Outcome.nearestInt (whole * Int.ofNat den + num) den) with
  | .value o => return o
  | _ => fail "OverflowError"

/-- A zone of its distance and its name. -/
def makeZone (given : Arguments) : Run Object := do
  let m ← get
  match ← namedOnly "timezone" true (parametersFrom "offset name?") given with
  | [some o, name] =>
    let wrong {α : Type} (place : Nat) (what : String) (o : Object) : Run α :=
      refuse (.other ("timezone() argument " ++ toString place ++ " must be " ++ what ++ ", not "
        ++ m.typeName o))
    match m.plain o with
    | .datum (.duration n) =>
      let name ← match name with
        | none => pure none
        | some o => match m.plain o with
          | .constant (.str s) => pure (some s)
          | _ => wrong 2 "str" o
      if n.natAbs ≥ Duration.perDay.natAbs then throw .badValue
      return .datum (.zone ⟨n, name⟩)
    | _ => wrong 1 "datetime.timedelta" o
  | _ => return .none

/-- Refuses what is given in the place of a number before what is missing. -/
def checkNumbers (count most : Nat) (given : Arguments) : Run Unit := do
  if given.inPlace.length + given.byName.length ≤ most then
    for o in given.inPlace.take count do
      let _ ← smallInteger o

/-- A point in time of its parts, as one of the library's classes for these. -/
def makeMoment (name : String) (given : Arguments) : Run Object := do
  match name with
  | "date" =>
    checkNumbers 3 3 given
    let args ← namedOnly "" false (parametersFrom "year month day") given
    return .datum (.date (← dayOf (← integersOr [0, 0, 0] args)))
  | "time" =>
    checkNumbers 4 6 given
    let args ← namedOnly "" false
      (parametersFrom "hour? minute? second? microsecond? tzinfo? * fold?") given
    let t ← timeOf (← integersOr [0, 0, 0, 0] args)
    return .datum (.time (← timeWith t (args.getD 4 none) (args.getD 5 none)))
  | "datetime" =>
    checkNumbers 7 9 given
    let args ← namedOnly "" false
      (parametersFrom "year month day hour? minute? second? microsecond? tzinfo? * fold?") given
    let numbers ← integersOr [0, 0, 0, 0, 0, 0, 0] args
    let d ← dayOf numbers
    let t ← timeOf (numbers.drop 3)
    return .datum (.moment d (← timeWith t (args.getD 7 none) (args.getD 8 none)))
  | "timedelta" => spanOf given
  | "timezone" => makeZone given
  | _ => newMade (.library ⟨"datetime", name⟩) [] [] []

end Run

end Mapsmith.Program
