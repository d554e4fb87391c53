import CheckedCurry.Moment.Calendar
import CheckedCurry.Text.Letters

/-!
# Patterns for moments

A pattern says how a moment is written: `%Y-%m-%d`.  A directive is a percent sign, flags, a width,
a modifier and a letter; all else stands for itself.

* `Directive`, `Directive.take`: a directive and how it is read.
* `Moment.part?`: what a letter stands for.
* `Moment.write`: a moment as a pattern says.
-/

namespace CheckedCurry

/-- A directive of a pattern: what fills it up, whether its letters are to be capital or of the
other case, its width, the modifier in front of its letter, and its source.  The letter is missing
at the end of a pattern. -/
structure Directive where
  pad : Option Char
  capital : Bool
  swapped : Bool
  width : Nat
  modifier : Option Char
  letter : Option Char
  source : String
  deriving DecidableEq, Repr

namespace Directive

/-! ## Reading -/

/-- Whether a character is a flag that says how a directive is filled up. -/
def isPad (c : Char) : Bool := c = '_' || c = '-' || c = '0'

/-- Whether a character is a flag. -/
def isFlag (c : Char) : Bool := isPad c || c = '^' || c = '#'

/-- The modifier at the front of a text, and the rest. -/
def takeModifier : List Char → Option Char × List Char
  | 'E' :: cs => (some 'E', cs)
  | 'O' :: cs => (some 'O', cs)
  | cs => (none, cs)

/-- The directive behind a percent sign, and the rest.  Of flags that say how it is filled up the
last one counts. -/
def take (cs : List Char) : Directive × List Char :=
  let flags := cs.takeWhile isFlag
  let digits := (cs.dropWhile isFlag).takeWhile Char.isDigit
  let (modifier, rest) := takeModifier ((cs.dropWhile isFlag).dropWhile Char.isDigit)
  ({ pad := flags.reverse.find? isPad
     capital := flags.contains '^'
     swapped := flags.contains '#'
     width := Digits.value 10 digits
     modifier := modifier
     letter := rest.head?
     source := String.ofList ('%' :: flags ++ digits ++ modifier.toList ++ rest.head?.toList) },
   rest.drop 1)

theorem length_takeModifier_le (cs : List Char) : (takeModifier cs).2.length ≤ cs.length := by
  unfold takeModifier
  split <;> simp

theorem length_take_le (cs : List Char) : (take cs).2.length ≤ cs.length := by
  have h1 := (List.dropWhile_sublist isFlag (l := cs)).length_le
  have h2 := (List.dropWhile_sublist Char.isDigit (l := cs.dropWhile isFlag)).length_le
  have h3 := length_takeModifier_le ((cs.dropWhile isFlag).dropWhile Char.isDigit)
  simp only [take, List.length_drop]
  omega

/-- Whether a letter does not go with the modifier in front of it. -/
def isRefused (d : Directive) (letter : Char) : Bool :=
  match d.modifier with
  | some 'E' => "aAbBhdDeFgGHIjklmMSUVwW".toList.contains letter
  | some 'O' => "aAcDFxXY".toList.contains letter
  | _ => false

/-! ## Filling -/

/-- A text with characters in front up to a width. -/
def padded (c : Char) (width : Nat) (s : String) : String := "".pushn c (width - s.length) ++ s

/-- A text that is filled up to the width of a directive. -/
def fill (d : Directive) (s : String) : String :=
  padded (if d.pad = some '0' then '0' else ' ') d.width s

/-- A number with its least count of digits, which are blanks or zeros in front. -/
def number (d : Directive) (pad : Char) (digits n : Nat) : String :=
  match d.pad.getD pad with
  | '-' => d.fill (toString n)
  | '_' => padded ' ' (max digits d.width) (toString n)
  | _ => padded '0' (max digits d.width) (toString n)

/-- A text in capital letters, letter by letter. -/
def capitals (s : String) : String :=
  String.ofList (s.toList.map fun c =>
    match (Text.upper (String.singleton c)).toList with
    | [u] => u
    | _ => c)

end Directive

namespace Moment

/-! ## Parts of a moment -/

/-- What a letter stands for: a number that is filled up to a count of digits, the text of a moment,
a name, the half of the day, a text as it is, or the name or the offset of a time zone, which is
left out where it is written with a flag. -/
inductive Part where
  | number (pad : Char) (digits n : Nat)
  | text (s : String)
  | name (s : String)
  | half (s : String)
  | fixed (s : String)
  | zone
  | offset
  deriving DecidableEq, Repr

/-- The first three letters of a name. -/
def short (name : String) : String := String.ofList (name.toList.take 3)

/-- A number of at least two digits. -/
def two (n : Nat) : Part := .number '0' 2 n

/-- A day with the month in front and a short year. -/
def slashed (d : Day) : String :=
  padZeros 2 d.month ++ "/" ++ padZeros 2 d.day ++ "/" ++ padZeros 2 (d.year % 100)

/-- The hour and the minute. -/
def minuteText (hour : Nat) (c : Clock) : String := padZeros 2 hour ++ ":" ++ padZeros 2 c.minute

/-- The hour, the minute and the second. -/
def secondText (hour : Nat) (c : Clock) : String := minuteText hour c ++ ":" ++ padZeros 2 c.second

/-- A day and a time in words. -/
def worded (d : Day) (c : Clock) : String :=
  short d.weekdayName ++ " " ++ short d.monthName ++ " " ++
    Directive.padded ' ' 2 (toString d.day) ++ " " ++ secondText c.hour c ++ " " ++ toString d.year

/-- What a letter stands for. -/
def part? (m : Moment) (letter : Char) : Option Part :=
  let d := m.day
  let c := m.clock
  match letter with
  | 'a' => some (.name (short d.weekdayName))
  | 'A' => some (.name d.weekdayName)
  | 'b' | 'h' => some (.name (short d.monthName))
  | 'B' => some (.name d.monthName)
  | 'c' => some (.text (worded d c))
  | 'C' => some (.number '0' 1 (d.year / 100))
  | 'd' => some (two d.day)
  | 'D' | 'x' => some (.text (slashed d))
  | 'e' => some (.number '_' 2 d.day)
  | 'F' =>
    some (.text (toString d.year ++ "-" ++ padZeros 2 d.month ++ "-" ++ padZeros 2 d.day))
  | 'g' => some (two (d.weekYear % 100))
  | 'G' => some (.number '0' 1 d.weekYear)
  | 'H' => some (two c.hour)
  | 'I' => some (two c.hour12)
  | 'j' => some (.number '0' 3 (d.dayOfYear + 1))
  | 'k' => some (.number '_' 2 c.hour)
  | 'l' => some (.number '_' 2 c.hour12)
  | 'm' => some (two d.month)
  | 'M' => some (two c.minute)
  | 'n' => some (.fixed "\n")
  | 'p' => some (.half c.halfName)
  | 'P' => some (.fixed (String.ofList (c.halfName.toList.map Char.toLower)))
  | 'r' => some (.text (secondText c.hour12 c ++ " " ++ c.halfName))
  | 'R' => some (.text (minuteText c.hour c))
  | 's' => some (.fixed (toString m.seconds))
  | 'S' => some (two c.second)
  | 't' => some (.fixed "\t")
  | 'T' | 'X' => some (.text (secondText c.hour c))
  | 'u' => some (.number '0' 1 (d.fromMonday + 1))
  | 'U' => some (two (d.weekFrom d.weekday))
  | 'V' => some (two d.week)
  | 'w' => some (.number '0' 1 d.weekday)
  | 'W' => some (two (d.weekFrom d.fromMonday))
  | 'y' => some (two (d.year % 100))
  | 'Y' => some (.number '0' 1 d.year)
  | 'z' => some .offset
  | 'Z' => some .zone
  | '%' => some (.fixed "%")
  | _ => none

/-- A part of a moment as a directive says. -/
def Part.write (d : Directive) : Part → String
  | number pad digits n => d.number pad digits n
  | text s => d.fill (if d.capital then Directive.capitals s else s)
  | name s => d.fill (if d.capital || d.swapped then Directive.capitals s else s)
  | half s => d.fill (if d.swapped then String.ofList (s.toList.map Char.toLower) else s)
  | fixed s => d.fill s
  | zone => if d.pad = some '-' then "" else d.fill ""
  | offset => ""

/-- A moment as a directive says.  A directive that says nothing stands for itself; the flag for the
other case counts for a short month also then. -/
def directed (m : Moment) (d : Directive) : String :=
  let part := do
    let letter ← d.letter
    if d.isRefused letter then none else m.part? letter
  match part with
  | some p => p.write d
  | none =>
    let isMonth := d.letter = some 'b' || d.letter = some 'h'
    let isCapital := d.capital || (d.swapped && isMonth)
    d.fill (if isCapital then Directive.capitals d.source else d.source)

/-! ## Patterns -/

/-- The characters of a pattern with some letters replaced by what they stand for. -/
def withTexts (texts : List (Char × List Char)) : List Char → List Char
  | '%' :: c :: cs =>
    match texts.lookup c with
    | some text => text ++ withTexts texts cs
    | none => '%' :: c :: withTexts texts cs
  | c :: cs => c :: withTexts texts cs
  | [] => []

/-- The letters that are replaced first: the microseconds, and the offset and the name of the time
zone, which are empty outside time zones. -/
def zoneTexts (m : Moment) : List (Char × List Char) :=
  let ofZone (write : Int → String) := ((m.zone?.map write).getD "").toList
  [('f', (padZeros 6 m.clock.micro).toList), ('z', ofZone (zoneText "")), ('Z', ofZone zoneName)]

/-- The text of a pattern, in which no directive is wider than `room`. -/
def writeChars (m : Moment) (room : Nat) : List Char → String
  | [] => ""
  | c :: cs =>
    if c = '%' then
      let d := (Directive.take cs).1
      m.directed { d with width := min d.width room } ++ writeChars m room (Directive.take cs).2
    else String.singleton c ++ writeChars m room cs
termination_by cs => cs.length
decreasing_by
  · exact Nat.lt_succ_of_le (Directive.length_take_le cs)
  · exact Nat.lt_succ_self _

/-- The room for the text of a pattern of `size` characters: the first of 1024, 2048, … that is at
least 256 times as large. -/
def room (size : Nat) : Nat :=
  let quarter := (size + 3) / 4
  1024 * (if quarter ≤ 1 then 1 else Nat.pow 2 (Nat.log2 (quarter - 1) + 1))

/-- A moment as a pattern says.  A pattern ends where a null character is, and a text that does not
fit into its room is not written at all. -/
def write (m : Moment) (pattern : String) : String :=
  let cs := withTexts m.zoneTexts (pattern.toList.takeWhile (· != '\x00'))
  let text := m.writeChars (room cs.length) cs
  if text.length < room cs.length then text else ""

end Moment

end CheckedCurry
