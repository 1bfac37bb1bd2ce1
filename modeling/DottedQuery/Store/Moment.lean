/-
# DottedQuery.Store.Moment -- dates and times

A moment is a number of milliseconds, counted from noon of a day in a far past, or a date and a
time of day, or both; each is worked out from the other when it is asked for. A moment is read
from a text or a number and can then be moved by modifiers, one after the other, and written
in several ways. What depends on the present, or on the place, is refused.
-/
import DottedQuery.Store.Printing

namespace DottedQuery.Store

/-! ## Moments -/

/-- A day of the calendar. The day of the month need not exist. -/
structure CalendarDay where
  year : Int
  month : Int
  day : Int
  deriving DecidableEq, Repr

/-- A time of day. -/
structure DayTime where
  hour : Nat := 0
  minute : Nat := 0
  second : Float := 0.0

/-- A moment, as far as it is worked out. -/
structure Moment where
  /-- Milliseconds since the beginning of the count of days. -/
  instant : Option Int := none
  date : Option CalendarDay := none
  time : Option DayTime := none
  /-- How many minutes the clock is ahead of universal time. -/
  zone : Int := 0
  /-- The number that the moment was read from, while it can still count something else. -/
  number : Option Float := none
  /-- By how many days the date lies behind the end of its month. -/
  surplus : Int := 0
  /-- Whether the moment is out of range. -/
  lost : Bool := false
  /-- Whether it is written with fractions of a second. -/
  finely : Bool := false

/-- Why there is no moment. -/
inductive Missing where
  | senseless
  /-- It depends on the present or on the place. -/
  | unsteady
  deriving DecidableEq, Repr

/-- A day in milliseconds. -/
def dayLength : Int := 86400000

namespace CalendarDay

/-- How many days half days before noon of the day there are in the count, doubled. -/
def count (d : CalendarDay) : Int :=
  let (y, m) := if d.month ≤ 2 then (d.year - 1, d.month + 12) else (d.year, d.month)
  let century := (y + 4800) / 100
  let leap := 38 - century + century / 4
  2 * (36525 * (y + 4716) / 100 + 306001 * (m + 1) / 10000 + d.day + leap) - 3049

/-- When the day begins. -/
def begin (d : CalendarDay) : Int := d.count * (dayLength / 2)

/-- The day on which an instant lies. -/
def ofInstant (instant : Int) : CalendarDay :=
  let z := (instant + dayLength / 2) / dayLength
  let alpha := (4 * z + 128179) / 146097 - 52
  let b := z + 1 + alpha - (alpha + 100) / 4 + 25 + 1524
  let c := (100 * b - 12210) / 36525
  let d := 36525 * c / 100
  let e := (b - d) * 10000 / 306001
  let month := if e < 14 then e - 1 else e - 13
  ⟨if 2 < month then c - 4716 else c - 4715, month, b - d - 306001 * e / 10000⟩

/-- By how many days a day of at most 31 lies behind the end of its month. -/
def surplus (d : CalendarDay) : Int :=
  let length : Int :=
    if d.month = 2 then
      if d.year.tmod 4 ≠ 0 || (d.year.tmod 100 = 0 && d.year.tmod 400 ≠ 0) then 28 else 29
    else if [4, 6, 9, 11, 0].contains d.month then 30
    else 31
  max 0 (d.day - length)

/-- The same day with its month brought among the months of a year. -/
def carried (d : CalendarDay) : CalendarDay :=
  let years := if 0 < d.month then (d.month - 1).tdiv 12 else (d.month - 12).tdiv 12
  { d with year := d.year + years, month := d.month - 12 * years }

end CalendarDay

/-- A time of day in milliseconds. -/
def DayTime.length (t : DayTime) : Int :=
  t.hour * 3600000 + t.minute * 60000 + (t.second * 1000.0 + 0.5).toInt64.toInt

/-- The time of day of an instant. -/
def DayTime.ofInstant (instant : Int) : DayTime :=
  let rest := (instant + dayLength / 2).tmod dayLength
  let minutes := (rest / 60000).toNat
  ⟨minutes / 60, minutes % 60, Float.ofInt (rest % 60000) / 1000.0⟩

namespace Moment

/-- The greatest instant, the end of the year 9999. -/
def lastInstant : Int := 464269060799999

/-- Whether an instant is in range. -/
def inRange (instant : Int) : Bool := 0 ≤ instant && instant ≤ lastInstant

/-- A moment out of range. -/
def out : Moment := { lost := true }

/-- The moment with its instant worked out. Without a date it lies on the first day of the
year 2000. -/
def withInstant (m : Moment) : Moment :=
  if m.instant.isSome then m
  else
    let d := m.date.getD ⟨2000, 1, 1⟩
    if d.year < -4713 || 9999 < d.year || m.number.isSome then out
    else
      match m.time with
      | none => { m with instant := some d.begin }
      | some t =>
        let instant := d.begin + t.length
        if m.zone = 0 then { m with instant := some instant }
        else
          { m with
            instant := some (instant - m.zone * 60000)
            date := none
            time := none
            zone := 0 }

/-- The instant of a moment in milliseconds. -/
def count (m : Moment) : Int := m.withInstant.instant.getD 0

/-- The moment with its date worked out. -/
def withDate (m : Moment) : Moment :=
  match m.date, m.instant with
  | some _, _ => m
  | none, none => { m with date := some ⟨2000, 1, 1⟩ }
  | none, some instant =>
    if inRange instant then { m with date := some (.ofInstant instant) } else out

/-- The moment with its time of day worked out. -/
def withTime (m : Moment) : Moment :=
  if m.time.isSome then m
  else
    let m := m.withInstant
    { m with time := some (.ofInstant (m.instant.getD 0)), number := none }

/-- The moment with its date and its time of day worked out. -/
def withDateTime (m : Moment) : Moment := m.withDate.withTime

/-- The moment by its instant alone. -/
def bare (m : Moment) : Moment :=
  let m := m.withInstant
  { m with date := none, time := none, zone := 0 }

/-- The moment, so much later. -/
def later (m : Moment) (milliseconds : Int) : Moment :=
  let m := m.bare
  { m with instant := m.instant.map (· + milliseconds) }

/-- The moment on another date. -/
def onDate (m : Moment) (change : CalendarDay → CalendarDay) : Moment :=
  let m := m.withDateTime
  let d := (change (m.date.getD ⟨2000, 1, 1⟩)).carried
  { m with date := some d, instant := none, surplus := d.surplus }

/-! ## Reading -/

/-- A blank between the parts of a moment. -/
def isSpace (c : Char) : Bool := Cell.isNumberBlank c

/-- A number of exactly so many digits that is not below one limit nor above another, and what
follows it. -/
def digits? (width least most : Nat) (s : List Char) : Option (Nat × List Char) :=
  let digits := s.take width
  let n := Decimal.natOfDigits digits
  if digits.length = width && digits.all Char.isDigit && least ≤ n && n ≤ most then
    some (n, s.drop width)
  else none

/-- What follows a character. -/
def after? (c : Char) (s : List Char) : Option (List Char) :=
  if s.head? = some c then some s.tail else none

/-- The fraction of a second that digits spell. -/
def fractionOf (digits : List Char) : Float :=
  let n := digits.foldl (fun n c => n * 10.0 + Float.ofNat c.toNat - 48.0) 0.0
  n / digits.foldl (fun scale _ => scale * 10.0) 1.0

/-- An offset from universal time in minutes, to the end of the text. -/
def zone? (s : List Char) : Option Int := do
  let s := s.dropWhile isSpace
  let (zone, rest) ←
    match s with
    | [] => some (0, [])
    | c :: rest =>
      if c = 'Z' || c = 'z' then some ((0 : Int), rest)
      else if c = '+' || c = '-' then do
        let (hours, rest) ← digits? 2 0 14 rest
        let (minutes, rest) ← digits? 2 0 59 (← after? ':' rest)
        let n : Int := hours * 60 + minutes
        some (if c = '-' then -n else n, rest)
      else none
  if (rest.dropWhile isSpace).isEmpty then return zone else none

/-- A time of day with an offset, to the end of the text. -/
def time? (s : List Char) : Option (DayTime × Int) := do
  let (hour, rest) ← digits? 2 0 24 s
  let (minute, rest) ← digits? 2 0 59 (← after? ':' rest)
  match rest with
  | ':' :: rest =>
    let (second, rest) ← digits? 2 0 59 rest
    match rest with
    | '.' :: c :: more =>
      if c.isDigit then
        let digits := (c :: more).takeWhile Char.isDigit
        let zone ← zone? ((c :: more).dropWhile Char.isDigit)
        return (⟨hour, minute, Float.ofNat second + fractionOf digits⟩, zone)
      else none
    | rest => return (⟨hour, minute, Float.ofNat second⟩, ← zone? rest)
  | rest => return (⟨hour, minute, 0.0⟩, ← zone? rest)

/-- A date and perhaps a time of day, to the end of the text. -/
def dated? (s : List Char) : Option Moment := do
  let negative := s.head? = some '-'
  let s := if negative then s.tail else s
  let (year, rest) ← digits? 4 0 14712 s
  let (month, rest) ← digits? 2 1 12 (← after? '-' rest)
  let (day, rest) ← digits? 2 1 31 (← after? '-' rest)
  let date : CalendarDay := ⟨if negative then -(year : Int) else year, month, day⟩
  let rest := rest.dropWhile fun c => isSpace c || c = 'T'
  let m : Moment := { date := some date, surplus := date.surplus }
  if rest.isEmpty then return m
  else do
    let (time, zone) ← time? rest
    let m := { m with time := some time, zone }
    return if zone = 0 then m else m.withInstant

/-- The moment that a number counts: days, if the number is in their range. -/
def ofNumber (x : Float) : Moment :=
  let days : Option Int :=
    if 0.0 ≤ x && x < 5373484.5 then some (x * 86400000.0 + 0.5).toInt64.toInt else none
  { instant := days, number := some x }

/-- The number that a text spells, as a double. -/
def real? (s : List Char) : Option Float :=
  (Cell.ofNumberText? (s.map fun c => UInt8.ofNat c.toNat)).map Cell.toReal

/-- Whether a text is this word; ASCII case does not count. -/
def isWord (word : String) (s : List Char) : Bool :=
  Text.sameIgnoringCase (String.ofList s) word

/-- Reads a moment. -/
def ofCell : Cell → Except Missing Moment
  | .null => .error .senseless
  | .int n => .ok (ofNumber (Float.ofInt n.toInt))
  | .real x => .ok (ofNumber x)
  | cell =>
    let s := cell.visibleByteChars
    match dated? s, time? s, real? s with
    | some m, _, _ => .ok m
    | none, some (time, zone), _ => .ok { time := some time, zone }
    | none, none, some x => .ok (ofNumber x)
    | none, none, none =>
      if ["now", "subsec", "subsecond"].any (isWord · s) then .error .unsteady
      else .error .senseless

/-! ## Modifiers -/

/-- Units by which a moment is moved: their length in seconds, and how many there may be. -/
def units : List (String × Float × Float) :=
  [("second", 1.0, 4.6427e+14), ("minute", 60.0, 7.7379e+12), ("hour", 3600.0, 1.2897e+11),
   ("day", 86400.0, 5373485.0), ("month", 2592000.0, 176546.0), ("year", 31536000.0, 14713.0)]

/-- Moves a moment by a number of units. Of months and years the whole ones follow the
calendar. -/
def moveBy (m : Moment) (x : Float) (name : String) (length : Float) : Moment :=
  let whole := x.toInt64.toInt
  let follows := name = "month" || name = "year"
  let m : Moment := { m.withInstant with surplus := 0 }
  let m :=
    if name = "month" then m.onDate fun d => { d with month := d.month + whole }
    else if name = "year" then m.onDate fun d => { d with year := d.year + whole }
    else m
  let x' := if follows then x - Float.ofInt whole else x
  m.later (x' * 1000.0 * length + (if x < 0.0 then -0.5 else 0.5)).toInt64.toInt

/-- The length of the number at the beginning of a modifier. -/
def numberLength (s : List Char) : Nat :=
  let isEnd (i : Nat) : Bool :=
    match s[i]? with
    | none => true
    | some c =>
      c = ':' || isSpace c ||
        (c = '-' && ((i = 5 && (digits? 4 0 14712 s.tail).isSome) ||
          (i = 6 && (digits? 5 0 14712 s.tail).isSome)))
  ((List.range (s.length + 1)).find? fun i => 0 < i && isEnd i).getD s.length

/-- Moves a moment by a time of day, given with a sign or without. -/
def moveByTime (m : Moment) (negative : Bool) (s : List Char) : Except Missing Moment :=
  match time? (if s.head?.any Char.isDigit then s else s.tail) with
  | none => .error .senseless
  | some (time, zone) =>
    let moved : Moment := { time := some time, zone }
    let length := (moved.count - dayLength / 2).tmod dayLength
    .ok (m.later (if negative then -length else length))

/-- Moves a moment by years, months and days, and perhaps by a time of day. -/
def moveByDate (m : Moment) (width : Nat) (s : List Char) : Except Missing Moment :=
  let negative := s.head? = some '-'
  let parts : Option (Nat × Nat × Nat × List Char) := do
    let (year, rest) ← digits? width 0 14712 s.tail
    let (month, rest) ← digits? 2 0 11 (← after? '-' rest)
    let (day, rest) ← digits? 2 0 30 (← after? '-' rest)
    return (year, month, day, rest)
  match parts with
  | none => .error .senseless
  | some (years, months, days, rest) =>
    let way (n : Nat) : Int := if negative then -(n : Int) else n
    let m := m.onDate fun d =>
      { d with year := d.year + way years, month := d.month + way months }
    let m := m.later (way days * dayLength)
    match rest with
    | [] => .ok m
    | c :: rest =>
      if isSpace c && rest.head?.any Char.isDigit then m.moveByTime negative rest
      else .error .senseless

/-- Moves a moment by what a modifier with a number at its beginning says. -/
def moveByNumber (m : Moment) (s : List Char) : Except Missing Moment :=
  let length := numberLength s
  match real? (s.take length), s[length]? with
  | none, _ => .error .senseless
  | some _, some '-' =>
    if s.head? = some '+' || s.head? = some '-' then m.moveByDate (length - 1) s
    else .error .senseless
  | some _, some ':' => m.moveByTime (s.head? = some '-') s
  | some x, _ =>
    let unit := (s.drop length).dropWhile isSpace
    let name := if unit.getLast?.any (·.toLower = 's') then unit.dropLast else unit
    let fits (entry : String × Float × Float) : Bool :=
      isWord entry.1 name && -entry.2.2 < x && x < entry.2.2
    if unit.length < 3 || 10 < unit.length then .error .senseless
    else
      match units.find? fits with
      | some (name, length, _) => .ok (m.moveBy x name length)
      | none => .error .senseless

/-- Moves a moment to the same time on the next day of the week of this number, counted from
Sunday. -/
def toWeekday (m : Moment) (n : Int) : Moment :=
  let m : Moment := { m.withDateTime with zone := 0, instant := none }
  let today := ((m.count + 3 * (dayLength / 2)) / dayLength) % 7
  m.later ((if n < today then n - today + 7 else n - today) * dayLength)

/-- Moves a moment to the beginning of its day, its month or its year. -/
def toStart (m : Moment) (part : List Char) : Except Missing Moment :=
  let m := m.withDate
  let d := m.date.getD ⟨2000, 1, 1⟩
  let start (d : CalendarDay) : Except Missing Moment :=
    .ok { m with date := some d, time := some {}, number := none, zone := 0, instant := none }
  if m.date.isNone then .ok m
  else if isWord "month" part then start { d with day := 1 }
  else if isWord "year" part then start { d with month := 1, day := 1 }
  else if isWord "day" part then start d
  else .error .senseless

/-- The moment that a number of seconds since the year 1970 counts. -/
def ofSeconds (m : Moment) (x : Float) : Moment :=
  { m with
    instant := some (x * 1000.0 + 210866760000000.0 + 0.5).toInt64.toInt
    date := none
    time := none
    zone := 0
    number := none }

/-- Whether a number of seconds since the year 1970 is in range. -/
def countsSeconds (x : Float) : Bool :=
  let r := x * 1000.0 + 210866760000000.0
  0.0 ≤ r && r < 464269060800000.0

/-- What follows a beginning of a modifier; ASCII case does not count. -/
def afterStart? (start : String) (s : List Char) : Option (List Char) :=
  if isWord start (s.take start.length) then some (s.drop start.length) else none

/-- Lets a number count what a modifier says, which has to be the first. -/
def reinterpreted (m : Moment) (s : List Char) : Except Missing Moment :=
  if isWord "auto" s then
    match m.number, m.instant with
    | some x, none =>
      if -210866760000.0 ≤ x && x ≤ 253402300799.0 then .ok (m.ofSeconds x) else .ok m
    | _, _ => .ok { m with number := none }
  else if isWord "julianday" s then
    if m.number.isSome && m.instant.isSome then .ok { m with number := none }
    else .error .senseless
  else
    match m.number with
    | some x => if countsSeconds x then .ok (m.ofSeconds x) else .error .senseless
    | none => .error .senseless

/-- Applies a modifier. -/
def modified (m : Moment) (isFirst : Bool) (cell : Cell) : Except Missing Moment :=
  let s := cell.visibleByteChars
  if cell matches .null then .error .senseless
  else if ["auto", "julianday", "unixepoch"].any (isWord · s) then
    if isFirst then m.reinterpreted s else .error .senseless
  else if isWord "ceiling" s then .ok { m.bare with surplus := 0 }
  else if isWord "floor" s then .ok (m.later (-m.surplus * dayLength))
  else if isWord "localtime" s || isWord "utc" s then .error .unsteady
  else if isWord "subsec" s || isWord "subsecond" s then .ok { m with finely := true }
  else
    match afterStart? "weekday " s, afterStart? "start of " s with
    | some rest, _ =>
      match real? rest with
      | some x =>
        if 0.0 ≤ x && x < 7.0 && Float.ofInt x.toInt64.toInt == x then
          .ok (m.toWeekday x.toInt64.toInt)
        else .error .senseless
      | none => .error .senseless
    | none, some rest =>
      if m.instant.isNone && m.date.isNone && m.time.isNone then .error .senseless
      else m.toStart rest
    | none, none =>
      if s.head?.any fun c => c = '+' || c = '-' || c.isDigit then m.moveByNumber s
      else .error .senseless

/-- The moment that a value and modifiers spell. -/
def ofCells : List Cell → Except Missing Moment
  | [] => .error .unsteady
  | first :: modifiers => do
    let m ← modifiers.zipIdx.foldlM (fun m (cell, i) => m.modified (i = 0) cell) (← ofCell first)
    let m := m.withInstant
    if m.lost || !inRange (m.instant.getD 0) then throw .senseless
    if modifiers.isEmpty && m.date.any (28 < ·.day) then return { m with date := none }
    return m

/-! ## Writing -/

/-- A number in at least so many digits. -/
def digits (width : Nat) (n : Int) : List Char :=
  let digits := Nat.toDigits 10 n.natAbs
  let room := width - (if n < 0 then 1 else 0)
  (if n < 0 then ['-'] else []) ++ List.replicate (room - digits.length) '0' ++ digits

/-- A number in at least two places. -/
def spaced (n : Int) : List Char :=
  let digits := Nat.toDigits 10 n.natAbs
  List.replicate (2 - digits.length) ' ' ++ digits

/-- Seconds with three digits after the point. -/
def fineSeconds (x : Float) : List Char :=
  Directive.double { zeros := true, width := 6, precision := some 3 } .positional 'e' x

/-- The date of a moment. -/
def day (m : Moment) : CalendarDay := m.withDate.date.getD ⟨2000, 1, 1⟩

/-- The time of day of a moment. -/
def clock (m : Moment) : DayTime := m.withTime.time.getD {}

/-- The date in figures. The sign of the year stands before its four digits. -/
def dateText (m : Moment) : List Char :=
  let d := m.day
  (if d.year < 0 then ['-'] else []) ++ digits 4 (d.year.natAbs % 10000) ++
    '-' :: digits 2 d.month ++ '-' :: digits 2 d.day

/-- The time of day in figures. -/
def timeText (m : Moment) : List Char :=
  let t := m.clock
  let seconds :=
    if m.finely then
      let n := (1000.0 * t.second + 0.5).toInt64.toInt
      digits 2 (n / 1000 % 100) ++ '.' :: digits 3 (n % 1000)
    else digits 2 t.second.toInt64.toInt
  digits 2 t.hour ++ ':' :: digits 2 t.minute ++ ':' :: seconds

/-- The beginning of the year 1970 in milliseconds. -/
def epoch : Int := 210866760000000

/-- The seconds since the year 1970. -/
def seconds (m : Moment) : Cell :=
  if m.finely then .real (Float.ofInt (m.count - epoch) / 1000.0)
  else .int (Int64.ofInt (m.count / 1000 - epoch / 1000))

/-- The days since the beginning of the count. -/
def days (m : Moment) : Float := Float.ofInt m.count / 86400000.0

/-- How many days lie between the first of the year and the moment. -/
def dayOfYear (m : Moment) : Int :=
  let first : Moment := { m.withDateTime with
    instant := none
    date := some { m.day with month := 1, day := 1 } }
  (m.count - first.count + dayLength / 2) / dayLength

/-- How many days ago the last Monday was. -/
def sinceMonday (m : Moment) : Int := (m.count + dayLength / 2) / dayLength % 7

/-- How many days ago the last Sunday was. -/
def sinceSunday (m : Moment) : Int := (m.count + 3 * (dayLength / 2)) / dayLength % 7

/-- The Thursday of the week that begins on a Monday. -/
def thursday (m : Moment) : Moment :=
  { m with instant := some (m.count + (3 - m.sinceMonday) * dayLength), date := none }

/-- What a letter after a percent sign stands for. -/
def lettered? (m : Moment) (letter : Char) : Option (List Char) :=
  let d := m.day
  let t := m.clock
  let second := t.second.toInt64.toInt
  let hour : Int := if t.hour % 12 = 0 then 12 else if 12 < t.hour then t.hour - 12 else t.hour
  match letter with
  | 'd' => some (digits 2 d.day)
  | 'e' => some (spaced d.day)
  | 'f' => some (fineSeconds (if t.second > 59.999 then 59.999 else t.second))
  | 'F' => some (digits 4 d.year ++ '-' :: digits 2 d.month ++ '-' :: digits 2 d.day)
  | 'G' => some (digits 4 m.thursday.day.year)
  | 'g' => some (digits 2 (m.thursday.day.year.tmod 100))
  | 'H' => some (digits 2 t.hour)
  | 'k' => some (spaced t.hour)
  | 'I' => some (digits 2 hour)
  | 'l' => some (spaced hour)
  | 'j' => some (digits 3 (m.dayOfYear + 1))
  | 'J' => some (Directive.double { precision := some 16 } .general 'e' m.days)
  | 'm' => some (digits 2 d.month)
  | 'M' => some (digits 2 t.minute)
  | 'p' => some (if 12 ≤ t.hour then ['P', 'M'] else ['A', 'M'])
  | 'P' => some (if 12 ≤ t.hour then ['p', 'm'] else ['a', 'm'])
  | 'R' => some (digits 2 t.hour ++ ':' :: digits 2 t.minute)
  | 's' =>
    match m.seconds with
    | .real x => some (Directive.double { precision := some 3 } .positional 'e' x)
    | cell => some cell.visibleByteChars
  | 'S' => some (digits 2 second)
  | 'T' => some (digits 2 t.hour ++ ':' :: digits 2 t.minute ++ ':' :: digits 2 second)
  | 'u' => some (digits 1 (if m.sinceSunday = 0 then 7 else m.sinceSunday))
  | 'w' => some (digits 1 m.sinceSunday)
  | 'U' => some (digits 2 ((m.dayOfYear - m.sinceSunday + 7) / 7))
  | 'V' => some (digits 2 (m.thursday.dayOfYear / 7 + 1))
  | 'W' => some (digits 2 ((m.dayOfYear - m.sinceMonday + 7) / 7))
  | 'Y' => some (digits 4 d.year)
  | '%' => some ['%']
  | _ => none

/-- A pattern with the parts of a moment filled in; nothing if a letter is not known. -/
def filledIn? (m : Moment) : List Char → Option (List Char)
  | [] => some []
  | '%' :: letter :: rest => do return (← m.lettered? letter) ++ (← m.filledIn? rest)
  | ['%'] => none
  | c :: rest => (m.filledIn? rest).map (c :: ·)

/-! ## Differences -/

/-- Brings a date, which lies so many years and months before a moment, back or ahead by
months until it is not beyond the moment. -/
def approach (goal : Int) (ahead : Bool) : Nat → Int × Int × Moment → Int × Int × Moment
  | 0, found => found
  | limit + 1, (years, months, m) =>
    if (if ahead then goal < m.count else m.count < goal) then
      let (years, months) := if months = 0 then (years - 1, 11) else (years, months - 1)
      let d := m.day
      let d : CalendarDay :=
        if ahead then
          if d.month ≤ 1 then { d with year := d.year - 1, month := 12 }
          else { d with month := d.month - 1 }
        else if 12 ≤ d.month then { d with year := d.year + 1, month := 1 }
        else { d with month := d.month + 1 }
      approach goal ahead limit (years, months, { m with date := some d, instant := none })
    else (years, months, m)

/-- The time from one moment to another: years, months, days and the time of day. -/
def difference (target origin : Moment) : List Char :=
  let target := target.withDateTime
  let origin := origin.withDateTime
  let ahead := origin.count ≤ target.count
  let years := if ahead then target.day.year - origin.day.year else origin.day.year - target.day.year
  let months := if ahead then target.day.month - origin.day.month else origin.day.month - target.day.month
  let (years', months) := if months < 0 then (years - 1, months + 12) else (years, months)
  let m : Moment :=
    if years = 0 then origin
    else { origin with date := some { origin.day with year := target.day.year }, instant := none }
  let m : Moment :=
    if months = 0 then m
    else { m with date := some { m.day with month := target.day.month }, instant := none }
  let (years, months, m) := approach target.count ahead 30 (years', months, m)
  let rest : Moment := { instant := some ((target.count - m.count).natAbs + 148699540800000) }
  let t := rest.clock
  (if ahead then '+' else '-') :: digits 4 years ++ '-' :: digits 2 months ++
    '-' :: digits 2 (rest.day.day - 1) ++ ' ' :: digits 2 t.hour ++ ':' :: digits 2 t.minute ++
    ':' :: fineSeconds t.second

end Moment

/-! ## Functions -/

/-- The value of a function of moments of this name. Where there is no moment, it is null. -/
def Moment.call (name : String) (cells : List Cell) : Worked Cell :=
  let found : Except Missing Cell :=
    match name, cells with
    | "julianday", cells => do return .real (← ofCells cells).days
    | "unixepoch", cells => do return (← ofCells cells).seconds
    | "date", cells => do return .ofByteChars (← ofCells cells).dateText
    | "time", cells => do return .ofByteChars (← ofCells cells).timeText
    | "datetime", cells => do
      let m ← ofCells cells
      return .ofByteChars (m.dateText ++ ' ' :: m.timeText)
    | "strftime", .null :: _ => .error .senseless
    | "strftime", pattern :: cells => do
      let m ← ofCells cells
      let m := m.withInstant.withDateTime
      return ((m.filledIn? pattern.visibleByteChars).map Cell.ofByteChars).getD .null
    | "timediff", [target, origin] => do
      return .ofByteChars ((← ofCells [target]).difference (← ofCells [origin]))
    | _, _ => .error .senseless
  match found with
  | .ok cell => .ok cell
  | .error .senseless => .ok .null
  | .error .unsteady => .error (.unsteady name)

end DottedQuery.Store
