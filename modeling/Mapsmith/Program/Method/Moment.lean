import Mapsmith.Calendar.Layout
import Mapsmith.Calendar.Reading
import Mapsmith.Program.Construction.Time
import Mapsmith.Program.Method.Number

/-!
# What can be called on points in time

The methods of days, times of day, times on days, spans of time and zones: their parts, how they are exchanged and
laid out, and the same with other parts. A day has the methods of a time on it at midnight where these are alike.
-/

namespace Mapsmith.Program

namespace Run

/-- A time on a day as an object. -/
def momentOf (d : Date) (t : TimeOfDay) : Object :=
  .datum (.moment d t)

/-- A text that is given for an argument. -/
def textFor (name : String) (place : Nat) (o : Object) : Run String :=
  textual (name ++ "() argument " ++ toString place) o

/-! ### Parts and layouts -/

/-- A time of day as it is exchanged, down to a part of a name. -/
def clockText (t : TimeOfDay) (part : String) : Run String := do
  let upTo (n : Nat) : String := String.ofList (t.clock.toList.take n)
  let second := upTo 8
  let clock ← match part with
    | "auto" => pure t.clock
    | "hours" => pure (upTo 2)
    | "minutes" => pure (upTo 5)
    | "seconds" => pure second
    | "milliseconds" => pure (second ++ "." ++ Calendar.padded 3 (t.microsecond / 1000))
    | "microseconds" => pure (second ++ "." ++ Calendar.padded 6 t.microsecond)
    | _ => throw .badValue
  return clock ++ t.zoneText

/-- The part of a name that is given, or all that is needed. -/
def partGiven (name : String) (place : Nat) (o : Option Object) : Run String := do
  match o with
  | some o => textFor name place o
  | none => return "auto"

/-- The numbers of a day. -/
def numbersOfDay (d : Date) : List Nat :=
  [d.year, d.month, d.day]

/-- The numbers of a time of day. -/
def numbersOfTime (t : TimeOfDay) : List Nat :=
  [t.hour, t.minute, t.second, t.microsecond]

/-- Numbers with others in their places where these are given. -/
def replaced (numbers : List Nat) (args : List (Option Object)) : Run (List Int) :=
  integersOr (numbers.map Int.ofNat) args

/-- The year, the week and the day of the week of a day. -/
def weekOf (d : Date) : Run Object := do
  let (year, week, day) := d.week
  namedRow ⟨"datetime", "IsoCalendarDate"⟩ "datetime.IsoCalendarDate"
    ([("year", year), ("week", week), ("weekday", day)].map fun (name, n) => (name, intOf (Int.ofNat n)))

/-- The numbers of a time on a day in a row of nine. -/
def rowOf (d : Date) (t : TimeOfDay) (summer : Int) : Run Object := do
  let numbers := numbersOfDay d ++ (numbersOfTime t).take 3 ++ [d.weekday, d.dayOfYear]
  let names := ["tm_year", "tm_mon", "tm_mday", "tm_hour", "tm_min", "tm_sec", "tm_wday", "tm_yday"]
  namedRow ⟨"time", "struct_time"⟩ "time.struct_time"
    ((names.zip numbers).map (fun (name, n) => (name, intOf (Int.ofNat n))) ++ [("tm_isdst", intOf summer)])

/-- A time on a day with a layout, as it is laid out or, if there is none, as it is. -/
def momentLaidOut (name : String) (d : Date) (t : TimeOfDay) (whole : Datum) (o : Object) : Run Object := do
  let layout ← textFor name 1 o
  if name = "__format__" && layout = "" then return .text whole.display
  return .text (Calendar.laidOut d t layout.toList)

/-- What tells the distance of a zone, its name or how much of it is for the summer. -/
def zonePart (zone : Option TimeZone) (name : String) : Object :=
  match zone, name with
  | some z, "utcoffset" => .datum (.duration z.offset)
  | some z, "tzname" => .text z.shown
  | _, _ => .none

/-! ### Days and times of day -/

/-- What a method that days and times on days have alike yields. -/
def dayMethod (d : Date) (t : TimeOfDay) (whole : Datum) (name : String) (args : List (Option Object)) :
    Run Object := do
  match name with
  | "weekday" => return intOf (Int.ofNat d.weekday)
  | "isoweekday" => return intOf (Int.ofNat d.weekday + 1)
  | "toordinal" => return intOf (Int.ofNat d.ordinal)
  | "isocalendar" => weekOf d
  | "ctime" => return .text (Calendar.longText d t)
  | "timetuple" => rowOf d t (-1)
  | "strftime" | "__format__" => momentLaidOut name d t whole (argOr args 0)
  | _ => fail "NotImplementedError"

/-- What a method of days yields. -/
def dateMethod (d : Date) (name : String) (args : List (Option Object)) : Run Object := do
  match name with
  | "isoformat" => return .text d.text
  | "replace" => return .datum (.date (← dayOf (← replaced (numbersOfDay d) args)))
  | name => dayMethod d {} (.date d) name args

/-- A time of day with another zone and another answer to which one of two it is, where these are given. -/
def replacedZone (old t : TimeOfDay) (zone fold : Option Object) : Run TimeOfDay := do
  let zone ← match zone with
    | some o => zoneOf o
    | none => pure old.zone
  let isSecond ← match fold with
    | some o =>
      let n ← smallInteger o
      if n ≠ 0 && n ≠ 1 then throw .badValue
      pure (decide (n = 1))
    | none => pure old.isSecond
  return { t with zone, isSecond }

/-- What a method of times of day yields. -/
def timeMethod (t : TimeOfDay) (name : String) (args : List (Option Object)) : Run Object := do
  match name with
  | "isoformat" => return .text (← clockText t (← partGiven name 1 (argAt args 0)))
  | "replace" =>
    let u ← timeOf (← replaced (numbersOfTime t) args)
    return .datum (.time (← replacedZone t u (argAt args 4) (argAt args 5)))
  | "strftime" | "__format__" => momentLaidOut name ⟨1900, 1, 1⟩ t (.time t) (argOr args 0)
  | "utcoffset" | "dst" | "tzname" => return zonePart t.zone name
  | _ => fail "NotImplementedError"

/-! ### Times on days -/

/-- The first instant that counts, as clocks of the world show it. -/
def epoch : Int :=
  Datum.instant ⟨1970, 1, 1⟩ {}

/-- A time on a day that is told by its instant. -/
def momentAt (n : Int) (zone : Option TimeZone) : Run Object := do
  match Outcome.ofInstant n zone with
  | .value o => return o
  | .failed e => throw e
  | .unsupported => throw .badValue

/-- A time on a day as clocks of another zone show it; a time that is told for no zone is one of the world's. -/
def inZone (d : Date) (t : TimeOfDay) (o : Option Object) : Run Object := do
  let zone ← match o with
    | some o => zoneOf o
    | none => pure none
  let zone := zone.getD ⟨0, some "UTC"⟩
  momentAt (Datum.instant d t - t.offset + zone.offset) (some zone)

/-- What a method of times on days yields. -/
def momentMethod (d : Date) (t : TimeOfDay) (name : String) (args : List (Option Object)) : Run Object := do
  match name with
  | "isoformat" =>
    let wrong (o : Object) : Run Char := do
      refuse (.other ("isoformat() argument 1 must be a unicode character, not " ++ (← get).typeName o))
    let between ← match argAt args 0 with
      | none => pure 'T'
      | some o => match ← text? o with
        | some s => match s.toList with
          | [c] => pure c
          | _ => wrong o
        | none => wrong o
    let part ← partGiven name 2 (argAt args 1)
    return .text (d.text ++ String.singleton between ++ (← clockText t part))
  | "date" => return .datum (.date d)
  | "time" => return .datum (.time { t with zone := none })
  | "timetz" => return .datum (.time t)
  | "replace" =>
    let numbers ← replaced (numbersOfDay d ++ numbersOfTime t) args
    let e ← dayOf numbers
    let u ← timeOf (numbers.drop 3)
    return momentOf e (← replacedZone t u (argAt args 7) (argAt args 8))
  | "utcoffset" | "dst" | "tzname" => return zonePart t.zone name
  | "astimezone" => inZone d t ((argAt args 0).filter (!·.same .none))
  | "timestamp" => return floatOf (.nearest (Datum.instant d t - t.offset - epoch) 1000000)
  | "utctimetuple" => match ← momentAt (Datum.instant d t - t.offset) none with
    | .datum (.moment e u) => rowOf e u 0
    | _ => throw .badValue
  | name => dayMethod d t (.moment d t) name args

/-- What a method of spans of time yields. -/
def spanMethod (n : Int) (name : String) : Run Object := do
  match name with
  | "total_seconds" => return floatOf (.nearest n 1000000)
  | "__reduce__" =>
    let parts := [Duration.days n, Int.ofNat (Duration.seconds n), Duration.microseconds n]
    return .row [.cls (.library ⟨"datetime", "timedelta"⟩), .row (parts.map intOf)]
  | _ => fail "NotImplementedError"

/-- What a method of zones yields. -/
def zoneMethod (z : TimeZone) (name : String) (args : List (Option Object)) : Run Object := do
  let m ← get
  let o := argOr args 0
  match name with
  | "utcoffset" | "tzname" | "dst" => match m.plain o with
    | .constant .null | .datum (.moment ..) => return zonePart (some z) name
    | _ =>
      refuse (.other (name ++ "(dt) argument must be a datetime instance or None, not " ++ m.typeName o))
  | "fromutc" => match m.plain o with
    | .datum (.moment d t) =>
      if t.zone ≠ some z then throw .badValue
      momentAt (Datum.instant d t + z.offset) (some z)
    | _ => refuse (.other "fromutc: argument must be a datetime")
  | "__getinitargs__" =>
    return .row (.datum (.duration z.offset) :: (z.name.map Object.text).toList)
  | _ => fail "NotImplementedError"

/-! ### Making them in other ways -/

/-- The whole seconds of a number of them, and the microseconds that are left. -/
def secondsOf (o : Object) : Run (Int × Int) := do
  let m ← get
  match m.plain o with
  | .constant (.float x) => match x.fraction? with
    | some (num, den) =>
      let whole := Int.fdiv num den
      if whole.natAbs ≥ Nat.pow 2 63 then fail "OverflowError"
      let part := (Binary64.ofInt 1000000).mul (.nearest (num - Int.tdiv num den * den) den)
      match part.fraction? with
      | some (n, k) => return (whole, (Int.tdiv num den - whole) * 1000000 + Outcome.nearestInt n k)
      | none => return (whole, 0)
    | none => if x = .notANumber then throw .badValue else fail "OverflowError"
  | _ =>
    let n ← integer o
    if n.natAbs ≥ Nat.pow 2 63 then fail "OverflowError"
    return (n, 0)

/-- A point in time of a number of seconds since the first one that counts. -/
def momentSince (seconds more : Int) (zone : Option TimeZone) : Run Object := do
  let n := seconds * 1000000 + more + epoch + ((zone.map (·.offset)).getD 0)
  tryCatch (momentAt n zone) fun _ => throw .badValue

/-- What a class of points in time makes under a name. -/
def makeMomentBy (c : LibraryClass) (name : String) (args : List (Option Object)) : Run Object := do
  let m ← get
  let isMoment := c.name = "datetime"
  let first := argOr args 0
  let ofDay (d : Date) : Object := if isMoment then momentOf d {} else .datum (.date d)
  match name with
  | "fromordinal" => match Date.ofOrdinal? (← smallInteger first) with
    | some d => return ofDay d
    | none => throw .badValue
  | "fromisocalendar" => match ← integersOr [0, 0, 0] args with
    | [year, week, day] =>
      if year < 0 || week < 0 || day < 0 then throw .badValue
      match Date.ofWeek? year.toNat week.toNat day.toNat with
      | some d => return ofDay d
      | none => throw .badValue
    | _ => throw .badValue
  | "fromtimestamp" | "utcfromtimestamp" =>
    let zone ← match argAt args 1 with
      | some o => zoneOf o
      | none => pure none
    let (seconds, more) ← secondsOf first
    match ← momentSince seconds (if isMoment then more else 0) zone with
    | .datum (.moment d t) => return if isMoment then momentOf d t else .datum (.date d)
    | o => return o
  | "fromisoformat" =>
    let some s ← text? first | refuse (.other "fromisoformat: argument must be str")
    let cs := s.toList
    let read : Option Object := match c.name with
      | "date" => (Calendar.day? cs).map fun d => .datum (.date d)
      | "time" =>
        (Calendar.time? (if cs.head? = some 'T' then cs.tail else cs)).map fun t => .datum (.time t)
      | _ => (Calendar.moment? cs).map fun (d, t) => momentOf d t
    match read with
    | some o => return o
    | none => throw .badValue
  | "combine" =>
    let wrong {α : Type} (place : Nat) (what : String) (o : Object) : Run α :=
      refuse (.other ("combine() argument " ++ toString place ++ " must be datetime." ++ what ++ ", not "
        ++ m.typeName o))
    let d ← match m.plain first with
      | .datum (.date d) | .datum (.moment d _) => pure d
      | _ => wrong 1 "date" first
    let t ← match m.plain (argOr args 1) with
      | .datum (.time t) => pure t
      | _ => wrong 2 "time" (argOr args 1)
    match argAt args 2 with
    | some o => return momentOf d { t with zone := ← zoneOf o }
    | none => return momentOf d t
  | "strptime" =>
    let s ← textFor name 1 first
    let layout ← textFor name 2 (argOr args 1)
    if Calendar.repeatsLetter layout.toList then throw (.raised ⟨"re", "error"⟩)
    match Calendar.momentIn? layout.toList s.toList with
    | some (d, t) => return momentOf d t
    | none => throw .badValue
  | "now" =>
    let zone ← match argAt args 0 with
      | some o => zoneOf o
      | none => pure none
    momentSince 0 0 zone
  | "today" => return ofDay ⟨1970, 1, 1⟩
  | "utcnow" => momentSince 0 0 none
  | _ => fail "NotImplementedError"

end Run

end Mapsmith.Program
