/-!
# Dates and times of day

Days of the calendar that reaches back before its introduction, times of day down to microseconds, and
spans of time as a number of microseconds. A day is also known by its number, counted from the first day
of the year one.
-/

namespace Mapsmith

/-- A day of a month of a year. -/
structure Date where
  /-- The year. -/
  year : Nat
  /-- The month, from one on. -/
  month : Nat
  /-- The day, from one on. -/
  day : Nat
  deriving DecidableEq, Repr, Inhabited

/-- A distance from the time that counts for all, with a name for it if it has one of its own. -/
structure TimeZone where
  /-- The distance, in microseconds. -/
  offset : Int := 0
  /-- The name. -/
  name : Option String := none
  deriving DecidableEq, Repr, Inhabited

/-- A time of day. -/
structure TimeOfDay where
  /-- The hour. -/
  hour : Nat := 0
  /-- The minute. -/
  minute : Nat := 0
  /-- The second. -/
  second : Nat := 0
  /-- The microsecond. -/
  microsecond : Nat := 0
  /-- Is it the second one of two such times, as clocks are put back? -/
  isSecond : Bool := false
  /-- The zone that it is told for, if it is told for one. -/
  zone : Option TimeZone := none
  deriving DecidableEq, Repr, Inhabited

namespace Calendar

/-- A number with zeros in front of it up to a width. -/
def padded (width n : Nat) : String :=
  let digits := Nat.toDigits 10 n
  String.ofList (List.replicate (width - digits.length) '0' ++ digits)

/-- Does a year have a day more? -/
def isLeap (year : Nat) : Bool :=
  year % 4 = 0 && (year % 100 ≠ 0 || year % 400 = 0)

/-- The number of days of a month. -/
def daysIn (year month : Nat) : Nat :=
  if month = 2 then (if isLeap year then 29 else 28)
  else if month ∈ [4, 6, 9, 11] then 30 else 31

/-- The number of days of years before one. -/
def daysBeforeYear (year : Nat) : Nat :=
  let y := year - 1
  y * 365 + y / 4 - y / 100 + y / 400

end Calendar

namespace Date

/-- The day of these numbers, if there is one. -/
def of? (year month day : Int) : Option Date :=
  if 1 ≤ year && year ≤ 9999 && 1 ≤ month && month ≤ 12 && 1 ≤ day
      && day ≤ Int.ofNat (Calendar.daysIn year.toNat month.toNat) then
    some ⟨year.toNat, month.toNat, day.toNat⟩
  else none

variable (d : Date)

/-- The number of the day. -/
def ordinal : Nat :=
  Calendar.daysBeforeYear d.year
    + ((List.range (d.month - 1)).map fun m => Calendar.daysIn d.year (m + 1)).foldl (· + ·) 0 + d.day

/-- The month and the day of a day of a year, from a month on. -/
def monthFrom (year : Nat) : Nat → Nat → Nat → Nat × Nat
  | 0, month, day => (month, day)
  | fuel + 1, month, day =>
    let days := Calendar.daysIn year month
    if day ≤ days then (month, day) else monthFrom year fuel (month + 1) (day - days)

/-- The day of a number, if it is in a year of four digits. -/
def ofOrdinal? (n : Int) : Option Date :=
  if n < 1 || n > 3652059 then none
  else
    let guess := n.toNat / 366 + 1
    let later := (List.range 30).map (guess + ·)
    let year := (later.filter fun y => Calendar.daysBeforeYear y < n.toNat).foldl max guess
    let (month, day) := monthFrom year 12 1 (n.toNat - Calendar.daysBeforeYear year)
    some ⟨year, month, day⟩

/-- The day of the week, Monday being the first, counted from zero. -/
def weekday : Nat :=
  (d.ordinal + 6) % 7

/-- The number of the day in its year, from one on. -/
def dayOfYear : Nat :=
  d.ordinal - Calendar.daysBeforeYear d.year

/-- The number of the Monday of the first week of a year, the one that has its fourth day. -/
def firstMonday (year : Nat) : Int :=
  let fourth : Date := ⟨year, 1, 4⟩
  Int.ofNat fourth.ordinal - Int.ofNat fourth.weekday

/-- The year, the week and the day of the week, the two latter from one on. The days before the first week of
a year belong to the year before it, and those after the last one to the next year. -/
def week : Nat × Nat × Nat :=
  let n := Int.ofNat d.ordinal
  let year := if n < firstMonday d.year then d.year - 1
    else if firstMonday (d.year + 1) ≤ n then d.year + 1 else d.year
  (year, ((n - firstMonday year) / 7).toNat + 1, d.weekday + 1)

/-- The day of a year, a week and a day of the week, if there is one. -/
def ofWeek? (year week day : Nat) : Option Date :=
  if year = 0 || week = 0 || day = 0 || day > 7 then none
  else (ofOrdinal? (firstMonday year + Int.ofNat (7 * (week - 1) + (day - 1)))).filter fun d =>
    d.week = (year, week, day)

/-- A day as it is exchanged. -/
def text : String :=
  "-".intercalate [Calendar.padded 4 d.year, Calendar.padded 2 d.month, Calendar.padded 2 d.day]

end Date

namespace TimeZone

/-- The distance of a zone in hours, minutes and, if need be, seconds and microseconds, with something between
them. -/
def offsetText (between : String) (offset : Int) : String :=
  let n := offset.natAbs
  let seconds := n / 1000000
  let part (k : Nat) : String := Calendar.padded 2 k
  (if offset < 0 then "-" else "+") ++ part (seconds / 3600) ++ between ++ part (seconds / 60 % 60)
    ++ (if n % 60000000 = 0 then "" else between ++ part (seconds % 60))
    ++ if n % 1000000 = 0 then "" else "." ++ Calendar.padded 6 (n % 1000000)

variable (z : TimeZone)

/-- The name of a zone: its own, or one that tells its distance. -/
def shown : String :=
  z.name.getD (if z.offset = 0 then "UTC" else "UTC" ++ offsetText ":" z.offset)

end TimeZone

namespace TimeOfDay

/-- The time of these numbers, if there is one. -/
def of? (hour minute second microsecond : Int) : Option TimeOfDay :=
  if 0 ≤ hour && hour < 24 && 0 ≤ minute && minute < 60 && 0 ≤ second && second < 60
      && 0 ≤ microsecond && microsecond < 1000000 then
    some { hour := hour.toNat, minute := minute.toNat, second := second.toNat, microsecond := microsecond.toNat }
  else none

variable (t : TimeOfDay)

/-- The number of microseconds since midnight. -/
def microseconds : Nat :=
  ((t.hour * 60 + t.minute) * 60 + t.second) * 1000000 + t.microsecond

/-- The time so many microseconds after midnight. -/
def ofMicroseconds (n : Nat) : TimeOfDay :=
  let seconds := n / 1000000
  { hour := seconds / 3600, minute := seconds / 60 % 60, second := seconds % 60, microsecond := n % 1000000 }

/-- A time in hours, minutes and seconds. -/
def clock : String :=
  ":".intercalate [Calendar.padded 2 t.hour, Calendar.padded 2 t.minute, Calendar.padded 2 t.second]

/-- The distance of the zone that a time is told for, as it is exchanged. -/
def zoneText : String :=
  match t.zone with
  | some z => TimeZone.offsetText ":" z.offset
  | none => ""

/-- A time as it is exchanged. -/
def text : String :=
  t.clock ++ (if t.microsecond = 0 then "" else "." ++ Calendar.padded 6 t.microsecond) ++ t.zoneText

/-- The distance of the zone that a time is told for. -/
def offset : Int :=
  (t.zone.map (·.offset)).getD 0

/-- The numbers of a time, those at its end left out as far as they are zero. -/
def numbers : List Nat :=
  if t.microsecond ≠ 0 then [t.hour, t.minute, t.second, t.microsecond]
  else if t.second ≠ 0 then [t.hour, t.minute, t.second]
  else [t.hour, t.minute]

end TimeOfDay

/-! ### Spans of time -/

namespace Duration

/-- The number of microseconds of a day. -/
def perDay : Int := 86400000000

/-- The days of a span. -/
def days (n : Int) : Int :=
  Int.fdiv n perDay

/-- The microseconds of a span beside its days. -/
def rest (n : Int) : Nat :=
  (Int.fmod n perDay).toNat

/-- The seconds of a span beside its days. -/
def seconds (n : Int) : Nat :=
  rest n / 1000000

/-- The microseconds of a span beside its days and seconds. -/
def microseconds (n : Int) : Nat :=
  rest n % 1000000

/-- Is the span one that can be told? -/
def isPossible (n : Int) : Bool :=
  -999999999 ≤ days n && days n ≤ 999999999

/-- A span of time in words and numbers. -/
def text (n : Int) : String :=
  let d := days n
  let t := seconds n
  let clock := toString (t / 3600) ++ ":" ++ Calendar.padded 2 (t / 60 % 60) ++ ":"
    ++ Calendar.padded 2 (t % 60)
  let front := if d = 0 then "" else
    toString d ++ (if d.natAbs = 1 then " day, " else " days, ")
  front ++ clock ++ if microseconds n = 0 then "" else "." ++ Calendar.padded 6 (microseconds n)

/-- The parts of a span that are not zero, by their names. -/
def parts (n : Int) : List (String × Int) :=
  [("days", days n), ("seconds", Int.ofNat (seconds n)),
    ("microseconds", Int.ofNat (microseconds n))].filter (·.2 ≠ 0)

end Duration

end Mapsmith
