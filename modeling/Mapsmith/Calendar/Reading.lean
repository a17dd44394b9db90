import Mapsmith.Calendar.Layout

/-!
# Reading times

Days and times of day that texts exchange, with the zone that they are told for, and those that texts spell in a
layout, where a letter after a percent sign stands for a part. A part takes as much as it can; what comes after the
last one is refused.
-/

namespace Mapsmith.Calendar

/-! ### Texts that are exchanged -/

/-- The number that so many digits spell, if they do. -/
def number? (width : Nat) (cs : List Char) : Option (Nat × List Char) :=
  let digits := cs.take width
  if digits.length = width && digits.all Char.isDigit then
    some (digits.foldl (fun n c => 10 * n + (c.toNat - '0'.toNat)) 0, cs.drop width)
  else none

/-- The day that a text exchanges, with dashes or without, by the month or by the week. -/
def date? (cs : List Char) : Option Date := do
  let (year, rest) ← number? 4 cs
  let isDashed := rest.head? = some '-'
  let rest := if isDashed then rest.tail else rest
  match rest with
  | 'W' :: rest =>
    let (week, rest) ← number? 2 rest
    match rest with
    | [] => Date.ofWeek? year week 1
    | rest =>
      let rest ← if isDashed then (if rest.head? = some '-' then some rest.tail else none) else some rest
      let (day, _) ← number? 1 rest
      Date.ofWeek? year week day
  | rest =>
    let (month, rest) ← number? 2 rest
    let rest ← if isDashed then (if rest.head? = some '-' then some rest.tail else none) else some rest
    let (day, _) ← number? 2 rest
    Date.of? year month day

/-- The day that a text of a usual length exchanges. -/
def day? (cs : List Char) : Option Date :=
  if cs.length ∈ [7, 8, 10] then date? cs else none

/-- The microseconds that the first six digits behind a point spell, others behind them not counting, and whether
something else is left. -/
def fraction? (cs : List Char) : Option (Nat × Bool) := do
  let digits := cs.take 6
  if !digits.all Char.isDigit then none
  let left := (cs.drop 6).dropWhile Char.isDigit
  let (n, _) ← number? 6 (digits ++ List.replicate (6 - digits.length) '0')
  return (if digits.isEmpty then 0 else n, !left.isEmpty)

/-- The hours, minutes, seconds and microseconds that a text exchanges: so many numbers of two digits as are there,
with colons or without, and digits behind a point; and whether a character is left. -/
def clockFrom : Nat → Bool → List Nat → List Char → Option (List Nat × Bool)
  | 0, _, _, _ => none
  | left + 1, isSpaced, parts, cs => do
    let (n, rest) ← number? 2 cs
    let parts := parts ++ [n]
    let filled (micro : Nat) : List Nat := (parts ++ List.replicate (3 - parts.length) 0) ++ [micro]
    let withFraction (cs : List Char) : Option (List Nat × Bool) :=
      (fraction? cs).map fun (micro, isLeft) => (filled micro, isLeft)
    match rest with
    | [] => return (filled 0, false)
    | [_] => return (filled 0, true)
    | c :: more =>
      let isSpaced := if parts.length = 1 then c = ':' else isSpaced
      if isSpaced && c = ':' then
        if left = 0 then withFraction more else clockFrom left isSpaced parts more
      else if c = '.' || c = ',' then withFraction more
      else if !isSpaced then
        if left = 0 then withFraction rest else clockFrom left isSpaced parts rest
      else none

/-- The zone that a text exchanges, if one is told: nothing, a letter, or a distance with a sign. -/
def zone? (cs : List Char) : Option (Option TimeZone) :=
  match cs with
  | [] => some none
  | ['Z'] => some (some {})
  | 'Z' :: _ => none
  | sign :: rest => (clockFrom 3 true [] rest).bind fun parts => match parts with
    | ([h, m, s, micro], false) =>
      let n : Int := Int.ofNat (((h * 60 + m) * 60 + s) * 1000000 + micro)
      if n.natAbs < 86400000000 then some (some { offset := if sign = '-' then -n else n }) else none
    | _ => none

/-- The time of day that a text exchanges, down to any of its parts, with a zone behind it if one is told. In front
of a zone a character may be left. -/
def time? (cs : List Char) : Option TimeOfDay := do
  let isMark (c : Char) : Bool := c = '+' || c = '-' || c = 'Z'
  let zone ← zone? (cs.dropWhile (!isMark ·))
  match ← clockFrom 3 true [] (cs.takeWhile (!isMark ·)) with
  | ([h, m, s, micro], isLeft) =>
    if isLeft && zone.isNone then none
    let t ← TimeOfDay.of? h m s micro
    return { t with zone }
  | _ => none

/-- Where the day ends in a text that exchanges a time on a day. -/
def dayLength? (cs : List Char) : Option Nat :=
  let n := cs.length
  let digitAt (i : Nat) : Bool := (cs[i]?).any Char.isDigit
  if n < 7 then none
  else if n = 7 then some 7
  else if cs[4]? = some '-' then
    if cs[5]? = some 'W' then
      if n > 8 && cs[8]? = some '-' then
        if n = 9 then none else if n > 10 && digitAt 10 then some 8 else some 10
      else some 8
    else some 10
  else if cs[4]? = some 'W' then
    let pos := 7 + ((cs.drop 7).takeWhile Char.isDigit).length
    if pos < 9 then some pos else if pos % 2 = 0 then some 7 else some 8
  else some 8

/-- The time on a day that a text exchanges: a day alone, or one, any character, and a time. -/
def moment? (cs : List Char) : Option (Date × TimeOfDay) := do
  let n ← dayLength? cs
  let d ← date? (cs.take n)
  match cs.drop (n + 1) with
  | [] => if cs.length ≤ n then return (d, {}) else none
  | clock => return (d, ← time? clock)

/-! ### Texts in a layout -/

/-- What a part of a text is found to say. -/
inductive Said
  /-- A number, for a letter. -/
  | number (letter : Char) (n : Nat)
  /-- A zone. -/
  | zone (z : TimeZone)
  /-- Nothing. -/
  | nothing
  deriving Repr

/-- The numbers that the first characters of a text spell, the preferred ones first: those of so many digits that lie
between bounds, or a digit after a blank if that counts. -/
def numbersAt (widths : List Nat) (low high : Nat) (hasBlank : Bool) (cs : List Char) :
    List (Nat × List Char) :=
  let found := widths.filterMap fun w => (number? w cs).filter fun (n, _) => low ≤ n && n ≤ high
  if hasBlank then match cs with
    | ' ' :: rest => found ++ ((number? 1 rest).filter fun (n, _) => low ≤ n).toList
    | _ => found
  else found

/-- The places in a list of the names that a text begins with, the longest first. -/
def namesAt (names : List String) (cs : List Char) : List (Nat × List Char) :=
  let all := names.zipIdx.mergeSort fun a b => decide (b.1.length ≤ a.1.length)
  all.filterMap fun (name, i) =>
    if name ≠ "" && (String.ofList (cs.take name.length)).toLower = name.toLower then some (i, cs.drop name.length)
    else none

/-- The microseconds that digits spell, as many as there are up to six. -/
def fractionsAt (cs : List Char) : List (Nat × List Char) :=
  let count := (cs.take 6).takeWhile Char.isDigit |>.length
  (List.range count).reverse.map fun i =>
    let digits := cs.take (i + 1)
    (((number? 6 (digits ++ List.replicate (6 - digits.length) '0')).map (·.1)).getD 0, cs.drop (i + 1))

/-- The zones that the first characters of a text spell. -/
def zonesAt (cs : List Char) : List (TimeZone × List Char) :=
  match cs with
  | 'Z' :: rest => [({}, rest)]
  | sign :: rest =>
    if sign ≠ '+' && sign ≠ '-' then []
    else match number? 2 rest with
      | none => []
      | some (hours, rest) =>
        let colon (cs : List Char) : List Char := if cs.head? = some ':' then cs.tail else cs
        match (number? 2 (colon rest)).filter fun (n, _) => n < 60 with
        | none => []
        | some (minutes, rest') =>
          let isSpaced := rest.head? = some ':'
          let ofParts (seconds micro : Nat) : TimeZone :=
            let n : Int := Int.ofNat (((hours * 60 + minutes) * 60 + seconds) * 1000000 + micro)
            { offset := if sign = '-' then -n else n }
          let short := (ofParts 0 0, rest')
          match if isSpaced = (rest'.head? = some ':') then
              (number? 2 (colon rest')).filter fun (n, _) => n < 60 else none with
          | none => [short]
          | some (seconds, rest'') => match rest'' with
            | '.' :: more => match fractionsAt more with
              | (micro, rest) :: _ => [(ofParts seconds micro, rest), (ofParts seconds 0, rest''), short]
              | [] => [(ofParts seconds 0, rest''), short]
            | _ => [(ofParts seconds 0, rest''), short]
  | [] => []

/-- What a letter of a layout can stand for at the beginning of a text, the preferred readings first. -/
def readingsOf (letter : Char) (cs : List Char) : List (Said × List Char) :=
  let short (names : List String) : List String := names.map fun s => String.ofList (s.toList.take 3)
  let numbers (widths : List Nat) (low high : Nat) (hasBlank : Bool := false) : List (Said × List Char) :=
    (numbersAt widths low high hasBlank cs).map fun (n, rest) => (.number letter n, rest)
  let named (as : Char) (base : Nat) (names : List String) : List (Said × List Char) :=
    (namesAt names cs).map fun (i, rest) => (.number as (i + base), rest)
  match letter with
  | 'd' => numbers [2, 1] 1 31 true
  | 'f' => (fractionsAt cs).map fun (n, rest) => (.number 'f' n, rest)
  | 'H' => numbers [2, 1] 0 23
  | 'I' => numbers [2, 1] 1 12 true
  | 'G' => numbers [4] 0 9999
  | 'j' => numbers [3, 2, 1] 1 366
  | 'm' => numbers [2, 1] 1 12
  | 'M' => numbers [2, 1] 0 59
  | 'S' => numbers [2, 1] 0 61
  | 'U' | 'W' => numbers [2, 1] 0 53
  | 'w' => numbers [1] 0 6
  | 'u' => numbers [1] 1 7
  | 'V' => numbers [2, 1] 1 53 ++ numbers [1] 0 0
  | 'y' => numbers [2] 0 99
  | 'Y' => numbers [4] 0 9999
  | 'a' => named 'a' 0 (short dayNames)
  | 'A' => named 'a' 0 dayNames
  | 'b' => named 'm' 1 (short monthNames)
  | 'B' => named 'm' 1 monthNames
  | 'p' => named 'p' 0 ["am", "pm"]
  | 'z' => (zonesAt cs).map fun (z, rest) => (.zone z, rest)
  | 'Z' => (namesAt ["utc", "gmt"] cs).map fun (_, rest) => (.nothing, rest)
  | '%' => if cs.head? = some '%' then [(.nothing, cs.tail)] else []
  | _ => []

/-- A layout with the layouts that letters stand for in their places. -/
def expanded : List Char → List Char
  | '%' :: c :: cs =>
    (match c with
      | 'c' => "%a %b %d %H:%M:%S %Y".toList
      | 'x' => "%m/%d/%y".toList
      | 'X' => "%H:%M:%S".toList
      | c => ['%', c]) ++ expanded cs
  | c :: cs => c :: expanded cs
  | [] => []

/-- The letters of a layout. -/
def lettersOf : List Char → List Char
  | '%' :: c :: cs => if c = '%' then lettersOf cs else c :: lettersOf cs
  | _ :: cs => lettersOf cs
  | [] => []

/-- Does a letter occur again in a layout? -/
def repeatsLetter (layout : List Char) : Bool :=
  let letters := lettersOf (expanded layout)
  letters.eraseDups.length ≠ letters.length

/-- Is the character a blank of a layout? -/
def isBlank (c : Char) : Bool :=
  c = ' ' || ('\t' ≤ c && c ≤ '\r')

/-- What a text says in a layout, within so many characters, and the rest of the text. Blanks stand for blanks, and
letters for capital ones too. -/
def saidIn : Nat → List Char → List Char → Option (List Said × List Char)
  | 0, _, _ => none
  | _ + 1, [], cs => some ([], cs)
  | fuel + 1, '%' :: letter :: layout, cs =>
    (readingsOf letter cs).findSome? fun (said, rest) =>
      (saidIn fuel layout rest).map fun (others, rest) => (said :: others, rest)
  | fuel + 1, c :: layout, cs =>
    if isBlank c then
      let blanks := (cs.takeWhile isBlank).length
      if blanks = 0 then none
      else
        let layout := layout.dropWhile isBlank
        (List.range blanks).reverse.findSome? fun i => saidIn fuel layout (cs.drop (i + 1))
    else match cs with
      | d :: rest => if d.toLower = c.toLower then saidIn fuel layout rest else none
      | [] => none

/-- The day of the year of a day of a week, where weeks begin with a Monday or with a Sunday; it may lie before the
year. -/
def dayOfWeekIn (year week weekday : Nat) (fromMonday : Bool) : Int :=
  let first := (⟨year, 1, 1⟩ : Date).weekday
  let (first, day) := if fromMonday then (first, weekday) else ((first + 1) % 7, (weekday + 1) % 7)
  let toFirst : Int := Int.ofNat ((7 - first) % 7)
  if week = 0 then 1 + Int.ofNat day - Int.ofNat first
  else 1 + toFirst + 7 * (Int.ofNat week - 1) + Int.ofNat day

/-- The time on a day that a text spells in a layout. -/
def momentIn? (layout cs : List Char) : Option (Date × TimeOfDay) := do
  let layout := expanded layout
  let (said, rest) ← saidIn (layout.length + 1) layout cs
  if !rest.isEmpty then none
  if repeatsLetter layout then none
  let get (letter : Char) : Option Nat := said.findSome? fun x => match x with
    | .number l n => if l = letter then some n else none
    | _ => none
  let zone := said.findSome? fun x => match x with
    | .zone z => some z
    | _ => none
  let weekday := (get 'a').or (((get 'w').map fun n => (n + 6) % 7).or ((get 'u').map fun n => n - 1))
  if (get 'G').isSome && ((get 'V').isNone || weekday.isNone || (get 'j').isSome) then none
  if (get 'V').isSome && (get 'G').isNone then none
  let told := (get 'Y').or ((get 'y').map fun n => if n ≤ 68 then 2000 + n else 1900 + n)
  if (get 'V').isSome && told.isSome && (get 'G').isNone then none
  let month := (get 'm').getD 1
  let day := (get 'd').getD 1
  let isFixed := told.isNone && month = 2 && day = 29
  let year := told.getD (if isFixed then 1904 else 1900)
  let hour := match get 'I' with
    | some h => match get 'p' with
      | some 1 => if h = 12 then 12 else h + 12
      | _ => if h = 12 then 0 else h
    | none => (get 'H').getD 0
  let second ← (get 'S').filter (· < 60) |>.or (if (get 'S').isNone then some 0 else none)
  let t ← TimeOfDay.of? hour ((get 'M').getD 0) second ((get 'f').getD 0)
  let t := { t with zone }
  let byWeek : Option (Nat × Int) := match weekday, get 'W', get 'U', get 'G', get 'V' with
    | some d, some w, _, _, _ => some (year, dayOfWeekIn year w d true)
    | some d, none, some w, _, _ => some (year, dayOfWeekIn year w d false)
    | some d, none, none, some y, some w =>
      (Date.ofWeek? y w (d + 1)).map fun d => (d.year, Int.ofNat d.dayOfYear)
    | _, _, _, _, _ => none
  let place : Option (Nat × Int) := ((get 'j').map fun n => (year, Int.ofNat n)).or byWeek
  if (get 'G').isSome && byWeek.isNone then none
  let d ← match place with
    | some (year, n) =>
      if year = 0 then none
      else Date.ofOrdinal? (Int.ofNat (daysBeforeYear year) + n)
    | none => Date.of? year month day
  return (if isFixed && place.isNone then { d with year := 1900 } else d, t)

end Mapsmith.Calendar
