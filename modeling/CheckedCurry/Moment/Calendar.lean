import CheckedCurry.Moment

/-!
# The calendar

* `Day.weekday`, `Day.dayOfYear`: where a day stands in its week and in its year.
* `Day.weekFrom`: the number of a week, for weeks that start on one weekday.
* `Day.weekYear`, `Day.week`: the week that a day belongs to when weeks belong to the year of their
  Thursday.
* `Clock.hour12`: the hour on a face of twelve hours.
-/

namespace CheckedCurry

namespace Day

/-! ## Weekdays -/

/-- The first day of a year. -/
def first (year : Nat) : Day := ⟨year, 1, 1⟩

/-- The place of a day in its week; Sunday is zero. -/
def weekday (d : Day) : Nat := ((Moment.dayNumber d + 1) % 7).toNat

/-- The place of a day in a week that starts on Monday, which is zero. -/
def fromMonday (d : Day) : Nat := (Moment.dayNumber d % 7).toNat

/-- The days of its year before a day. -/
def dayOfYear (d : Day) : Nat := (Moment.dayNumber d - Moment.dayNumber (first d.year)).toNat

/-- The names of the weekdays, from Sunday on. -/
def weekdayNames : List String :=
  ["Sunday", "Monday", "Tuesday", "Wednesday", "Thursday", "Friday", "Saturday"]

/-- The name of the weekday of a day. -/
def weekdayName (d : Day) : String := (weekdayNames[d.weekday]?).getD ""

/-- The names of the months. -/
def monthNames : List String :=
  ["January", "February", "March", "April", "May", "June", "July", "August", "September",
   "October", "November", "December"]

/-- The name of the month of a day. -/
def monthName (d : Day) : String := (monthNames[d.month - 1]?).getD ""

/-! ## Weeks -/

/-- The number of the week of a day, where `place` is its place in the week; days before the first
full week of the year are in week zero. -/
def weekFrom (d : Day) (place : Nat) : Nat := (d.dayOfYear + 7 - place) / 7

/-- The number of the Thursday in the week of a day. -/
def thursday (d : Day) : Int := Moment.dayNumber d - d.fromMonday + 3

/-- The year that the week of a day belongs to. -/
def weekYear (d : Day) : Nat :=
  if d.thursday < Moment.dayNumber (first d.year) then d.year - 1
  else if Moment.dayNumber (first (d.year + 1)) ≤ d.thursday then d.year + 1
  else d.year

/-- The number of the week of a day in the year that the week belongs to, from one on. -/
def week (d : Day) : Nat :=
  ((d.thursday - Moment.dayNumber (first d.weekYear)) / 7 + 1).toNat

end Day

namespace Clock

/-- Midnight. -/
def midnight : Clock := ⟨0, 0, 0, 0, none⟩

/-- The hour on a face of twelve hours. -/
def hour12 (c : Clock) : Nat := if c.hour % 12 = 0 then 12 else c.hour % 12

/-- Whether a time is before or after noon, in capital letters. -/
def halfName (c : Clock) : String := if c.hour < 12 then "AM" else "PM"

end Clock

namespace Moment

/-- The day that a time of day without a day belongs to. -/
def defaultDay : Day := ⟨1900, 1, 1⟩

/-- The day of a moment. -/
def day : Moment → Day
  | date d => d
  | time _ => defaultDay
  | both d _ => d

/-- The time of a moment. -/
def clock : Moment → Clock
  | date _ => .midnight
  | time c => c
  | both _ c => c

/-- The first day of the count of seconds. -/
def epoch : Day := ⟨1970, 1, 1⟩

/-- The seconds from the start of the count to a moment. -/
def seconds (m : Moment) : Int :=
  (dayNumber m.day - dayNumber epoch) * 86400 +
    ((m.clock.hour * 60 + m.clock.minute) * 60 + m.clock.second : Nat)

end Moment

end CheckedCurry
