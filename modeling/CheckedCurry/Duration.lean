import CheckedCurry.Number.Binary64
import CheckedCurry.Number.Literal

/-!
# Durations

* `Duration`: a span of time, which may be negative.
* `Duration.days`, `Duration.seconds`, `Duration.rest`: its parts, of which only the days may be
  negative.
* `Duration.ofMicros?`: the durations that can be held.
* `Duration.times?`: a duration multiplied by a quotient.
* `Duration.literal`, `Duration.text`: how a duration is written in an expression and plainly.
-/

namespace CheckedCurry

/-- A span of time in microseconds. -/
structure Duration where
  micros : Int
  deriving DecidableEq, Repr, Inhabited

namespace Duration

/-! ## Parts -/

/-- The microseconds of a day. -/
def dayMicros : Int := 86400000000

/-- The whole days, rounded down. -/
def days (d : Duration) : Int := d.micros / dayMicros

/-- The seconds besides the days. -/
def seconds (d : Duration) : Int := d.micros % dayMicros / 1000000

/-- The microseconds besides the seconds. -/
def rest (d : Duration) : Int := d.micros % 1000000

/-! ## Making durations -/

/-- The duration of some microseconds; it must be shorter than a thousand million days. -/
def ofMicros? (micros : Int) : Option Duration :=
  if (Duration.days ⟨micros⟩).natAbs < 1000000000 then some ⟨micros⟩ else none

/-- The least duration. -/
def least : Duration := ⟨-999999999 * dayMicros⟩

/-- The greatest duration. -/
def greatest : Duration := ⟨1000000000 * dayMicros - 1⟩

/-- The duration in the other direction. -/
def neg? (d : Duration) : Option Duration := ofMicros? (-d.micros)

/-- One duration after another. -/
def add? (d e : Duration) : Option Duration := ofMicros? (d.micros + e.micros)

/-- What a duration is longer than another one. -/
def sub? (d e : Duration) : Option Duration := ofMicros? (d.micros - e.micros)

/-- A duration multiplied by a quotient; a half of a microsecond goes to the even neighbour. -/
def times? (d : Duration) (q : Rat) : Option Duration :=
  let n := d.micros * q.num
  let rounded : Int := Binary64.roundHalfEven n.natAbs q.den
  ofMicros? (if n < 0 then -rounded else rounded)

/-! ## Writing -/

/-- How a duration is written in an expression, by its parts that are not zero. -/
def literal (d : Duration) : String :=
  let parts := [("days", d.days), ("seconds", d.seconds), ("microseconds", d.rest)].filter
    (·.2 != 0)
  let written := parts.map fun (name, n) => name ++ "=" ++ toString n
  "datetime.timedelta(" ++ (if written.isEmpty then "0" else ", ".intercalate written) ++ ")"

/-- The plain text of a duration: the days if there are any, hours, minutes and seconds, and
microseconds if there are any. -/
def text (d : Duration) : String :=
  let seconds := d.seconds.toNat
  (if d.days = 0 then "" else
    toString d.days ++ (if d.days.natAbs = 1 then " day, " else " days, ")) ++
    toString (seconds / 3600) ++ ":" ++ padZeros 2 (seconds / 60 % 60) ++ ":" ++
    padZeros 2 (seconds % 60) ++
    (if d.rest = 0 then "" else "." ++ padZeros 6 d.rest.toNat)

end Duration

end CheckedCurry
