import CheckedCurry.Duration

/-!
# Dates and times of day

* `Moment`: a day, a time of day, or both together.  A time may lie in a time zone.
* `Moment.readDay?`, `Moment.readClock?`, `Moment.readBoth?`: the ISO form of each.
* `Moment.literal`, `Moment.text`: how a moment is written in an expression and plainly.
* `Moment.dayNumber`, `Moment.dayWithNumber?`: the number of a day, and back.
* `Moment.since?`, `Moment.later?`: the time between two moments, and a moment after some time.
* `Moment.least`, `Moment.greatest`: the first and the last moment of a sort.
* `Moment.instant?`: where a moment in a time zone lies on the line that all zones share.
-/

namespace CheckedCurry

/-- A day of the calendar. -/
structure Day where
  year : Nat
  month : Nat
  day : Nat
  deriving DecidableEq, Repr, Inhabited

/-- A time of day, to the microsecond, and how many microseconds its time zone is ahead, if it lies
in one. -/
structure Clock where
  hour : Nat
  minute : Nat
  second : Nat
  micro : Nat
  zone : Option Int
  deriving DecidableEq, Repr, Inhabited

/-- A day, a time of day, or a day with a time. -/
inductive Moment where
  | date (day : Day)
  | time (clock : Clock)
  | both (day : Day) (clock : Clock)
  deriving DecidableEq, Repr, Inhabited

namespace Moment

/-! ## Reading -/

/-- The number that a list of digits writes, if it is one and has the right length. -/
def number? (width : Nat) (cs : List Char) : Option Nat :=
  if cs.length = width && cs.all Char.isDigit then some (Digits.value 10 cs) else none

/-- A day written `YYYY-MM-DD`, or without the lines between. -/
def readDay? (cs : List Char) : Option Day :=
  match cs.filter (· != '-') with
  | [a, b, c, d, e, f, g, h] => do
    return ⟨← number? 4 [a, b, c, d], ← number? 2 [e, f], ← number? 2 [g, h]⟩
  | _ => none

/-- The microseconds that the digits behind a point write; those after the sixth do not count. -/
def readMicro? (cs : List Char) : Option Nat :=
  number? 6 ((cs ++ List.replicate 6 '0').take 6)

/-- The microseconds since midnight. -/
def microsOf (c : Clock) : Int := ((c.hour * 60 + c.minute) * 60 + c.second) * 1000000 + c.micro

/-- Whether a character begins a time zone. -/
def isZoneMark (c : Char) : Bool := c = 'Z' || c = '+' || c = '-'

/-- A time written `HH`, `HH:MM`, `HH:MM:SS` or with digits behind a point; the colons may be
missing. -/
def readTime? (zone : Option Int) (cs : List Char) : Option Clock := do
  let micro ← readMicro? ((cs.dropWhile fun c => c != '.' && c != ',').drop 1)
  match (cs.takeWhile fun c => c != '.' && c != ',').filter (· != ':') with
  | [a, b] => return ⟨← number? 2 [a, b], 0, 0, micro, zone⟩
  | [a, b, c, d] => return ⟨← number? 2 [a, b], ← number? 2 [c, d], 0, micro, zone⟩
  | [a, b, c, d, e, f] =>
    return ⟨← number? 2 [a, b], ← number? 2 [c, d], ← number? 2 [e, f], micro, zone⟩
  | _ => none

/-- A time zone: `Z`, or the time that it is ahead or behind. -/
def readZone? : List Char → Option Int
  | ['Z'] => some 0
  | '+' :: cs => (readTime? none cs).map microsOf
  | '-' :: cs => (readTime? none cs).map fun c => -microsOf c
  | _ => none

/-- A time of day, which may be followed by a time zone. -/
def readClock? (cs : List Char) : Option Clock :=
  match cs.dropWhile (! isZoneMark ·) with
  | [] => readTime? none cs
  | zone => do readTime? (some (← readZone? zone)) (cs.takeWhile (! isZoneMark ·))

/-- A day and a time with one character between them. -/
def readBoth? (cs : List Char) : Option Moment := do
  let size := if cs[4]? = some '-' then 10 else 8
  let day ← readDay? (cs.take size)
  match cs.drop size with
  | [] => return .both day ⟨0, 0, 0, 0, none⟩
  | _ :: rest => return .both day (← readClock? rest)

/-! ## Time zones -/

/-- How a time zone is written in an expression. -/
def zoneLiteral (zone : Int) : String :=
  if zone = 0 then "datetime.timezone.utc"
  else "datetime.timezone(" ++ Duration.literal ⟨zone⟩ ++ ")"

/-- How far a time zone is ahead or behind, with a separator: hours and minutes, and the rest as far
as it matters. -/
def zoneText (separator : String) (zone : Int) : String :=
  let micros := zone.natAbs
  let seconds := micros / 1000000
  (if zone < 0 then "-" else "+") ++ padZeros 2 (seconds / 3600) ++ separator ++
    padZeros 2 (seconds / 60 % 60) ++
    (if micros % 60000000 = 0 then "" else separator ++ padZeros 2 (seconds % 60)) ++
    (if micros % 1000000 = 0 then "" else "." ++ padZeros 6 (micros % 1000000))

/-- The name of a time zone. -/
def zoneName (zone : Int) : String := if zone = 0 then "UTC" else "UTC" ++ zoneText ":" zone

/-! ## Writing -/

/-- The arguments that write a time: seconds and microseconds only as far as they matter. -/
def clockArguments (c : Clock) : List Nat :=
  [c.hour, c.minute] ++
    (if c.micro ≠ 0 then [c.second, c.micro] else if c.second ≠ 0 then [c.second] else [])

/-- The arguments that write a day. -/
def dayArguments (d : Day) : List Nat := [d.year, d.month, d.day]

/-- The name of the sort of moment. -/
def sortName : Moment → String
  | .date _ => "date"
  | .time _ => "time"
  | .both .. => "datetime"

/-- The time zone of a moment. -/
def zone? : Moment → Option Int
  | .date _ => none
  | .time c | .both _ c => c.zone

/-- How a moment is written in an expression. -/
def literal (m : Moment) : String :=
  let numbers := match m with
    | .date d => dayArguments d
    | .time c => clockArguments c
    | .both d c => dayArguments d ++ clockArguments c
  let zone := m.zone?.toList.map fun z => "tzinfo=" ++ zoneLiteral z
  "datetime." ++ m.sortName ++ "(" ++ ", ".intercalate (numbers.map toString ++ zone) ++ ")"

/-- The ISO form of a day. -/
def dayText (d : Day) : String :=
  padZeros 4 d.year ++ "-" ++ padZeros 2 d.month ++ "-" ++ padZeros 2 d.day

/-- The ISO form of a time. -/
def clockText (c : Clock) : String :=
  padZeros 2 c.hour ++ ":" ++ padZeros 2 c.minute ++ ":" ++ padZeros 2 c.second ++
    (if c.micro = 0 then "" else "." ++ padZeros 6 c.micro) ++
    (match c.zone with
      | some zone => zoneText ":" zone
      | none => "")

/-- The plain text of a moment. -/
def text : Moment → String
  | .date d => dayText d
  | .time c => clockText c
  | .both d c => dayText d ++ " " ++ clockText c

/-! ## Bounds -/

/-- The first moment of the same sort. -/
def least : Moment → Moment
  | .date _ => .date ⟨1, 1, 1⟩
  | .time _ => .time ⟨0, 0, 0, 0, none⟩
  | .both .. => .both ⟨1, 1, 1⟩ ⟨0, 0, 0, 0, none⟩

/-- The last moment of the same sort. -/
def greatest : Moment → Moment
  | .date _ => .date ⟨9999, 12, 31⟩
  | .time _ => .time ⟨23, 59, 59, 999999, none⟩
  | .both .. => .both ⟨9999, 12, 31⟩ ⟨23, 59, 59, 999999, none⟩

/-! ## Days on a line -/

/-- The numbers of days of the months of a year. -/
def monthLengths (year : Nat) : List Nat :=
  let isLeap := year % 4 = 0 && (year % 100 ≠ 0 || year % 400 = 0)
  [31, if isLeap then 29 else 28, 31, 30, 31, 30, 31, 31, 30, 31, 30, 31]

/-- The number of a day, counted from the first day of year one. -/
def dayNumber (d : Day) : Int :=
  let y := (d.year : Int) - 1
  let before : Nat := ((monthLengths d.year).take (d.month - 1)).foldr (· + ·) 0
  365 * y + y / 4 - y / 100 + y / 400 + before + d.day - 1

/-- The month and the day of the month, both counted from zero, of a day that is `n` days after the
first day of the months that are left. -/
def dayInMonths : Nat → List Nat → Nat × Nat
  | n, length :: lengths =>
    if n < length then (0, n)
    else ((dayInMonths (n - length) lengths).1 + 1, (dayInMonths (n - length) lengths).2)
  | n, [] => (0, n)

/-- The day with a number: four hundred years have the same number of days each, and so have one
hundred, four and one, but for the last ones. -/
def dayWithNumber (n : Nat) : Day :=
  let centuries := min (n % 146097 / 36524) 3
  let inCentury := n % 146097 - centuries * 36524
  let years := min (inCentury % 1461 / 365) 3
  let year := n / 146097 * 400 + centuries * 100 + inCentury / 1461 * 4 + years + 1
  let (month, day) := dayInMonths (inCentury % 1461 - years * 365) (monthLengths year)
  ⟨year, month + 1, day + 1⟩

/-- The last day that there is a number for. -/
def lastDayNumber : Int := dayNumber ⟨9999, 12, 31⟩

/-- The day with a number, if it lies in the calendar. -/
def dayWithNumber? (n : Int) : Option Day :=
  if 0 ≤ n && n ≤ lastDayNumber then some (dayWithNumber n.toNat) else none

/-- The time of day so many microseconds after midnight. -/
def clockOf (zone : Option Int) (micros : Nat) : Clock :=
  let seconds := micros / 1000000
  ⟨seconds / 3600, seconds / 60 % 60, seconds % 60, micros % 1000000, zone⟩

/-- Whether a moment has a day. -/
def hasDay : Moment → Bool
  | .time _ => false
  | _ => true

/-- The moment that is later than a moment with a day by whole days, or by microseconds if it has a
time. -/
def later? (m : Moment) (days micros : Int) : Option Moment :=
  match m with
  | .date d => (dayWithNumber? (dayNumber d + days)).map .date
  | .both d c =>
    let line := dayNumber d * Duration.dayMicros + microsOf c + micros
    (dayWithNumber? (line / Duration.dayMicros)).map fun e =>
      .both e (clockOf c.zone (line % Duration.dayMicros).toNat)
  | .time _ => none

/-- Where a moment in a time zone lies on the line that all zones share, in microseconds. -/
def instant? : Moment → Option Int
  | .date _ => none
  | .time c => c.zone.map fun zone => microsOf c - zone
  | .both d c => c.zone.map fun zone => (dayNumber d + 1) * Duration.dayMicros + microsOf c - zone

/-! ## Differences -/

/-- The microseconds from the second moment to the first.  Both are days, or days with a time, and
either both lie in a time zone or none does. -/
def since? : Moment → Moment → Option Int
  | .date d, .date e => some ((dayNumber d - dayNumber e) * Duration.dayMicros)
  | .both d c, .both e f =>
    match (both d c).instant?, (both e f).instant? with
    | some s, some t => some (s - t)
    | none, none =>
      some ((dayNumber d - dayNumber e) * Duration.dayMicros + (microsOf c - microsOf f))
    | _, _ => none
  | _, _ => none

/-! ## Comparison -/

/-- The bytes by which moments outside time zones are told apart when they are looked up. -/
def bytes (m : Moment) : List Nat :=
  let ofDay (d : Day) := [d.year / 256, d.year % 256, d.month, d.day]
  let ofClock (c : Clock) :=
    [c.hour, c.minute, c.second, c.micro / 65536, c.micro / 256 % 256, c.micro % 256]
  match m with
  | .date d => ofDay d
  | .time c => ofClock c
  | .both d c => ofDay d ++ ofClock c

/-- Whether a moment of one sort comes after another one.  Either both lie in a time zone or none
does. -/
def exceeds? (m n : Moment) : Option Bool :=
  if m.sortName ≠ n.sortName then none
  else match m.instant?, n.instant? with
    | some s, some t => some (t < s)
    | none, none => some (n.bytes < m.bytes)
    | _, _ => none

end Moment

end CheckedCurry
