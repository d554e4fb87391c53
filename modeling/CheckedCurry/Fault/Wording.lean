/-!
# The wording of messages

Programs match on messages, so their wording is fixed here and nowhere else.

* `Wording.counted?`, `Wording.ordinal`: how counts and positions are spelled out.
* `Report`: a message of several parts about values that a signature rejects.
* `Report.invalidValue`, `Report.typeVariable`, `Report.typeClass`: the three reports.
-/

namespace CheckedCurry

namespace Wording

/-- A name between typographic quotes (`quote`). -/
def quoted (name : String) : String := "‘" ++ name ++ "’"

/-! ## Counts and positions -/

/-- The counts that are spelled out (`_NUMBER_WORDS`). -/
def countWords : List String :=
  ["zero", "one", "two", "three", "four", "five", "six", "seven", "eight", "nine", "ten"]

/-- The word for a count: its name up to ten, digits above.  Counts below zero go back from ten
through the names, and there is no word where the names end. -/
def countWord? (n : Int) : Option String :=
  if (countWords.length : Int) ≤ n then some (toString n)
  else if 0 ≤ n then countWords[n.toNat]?
  else if 0 ≤ n + countWords.length then countWords[(n + countWords.length).toNat]?
  else none

/-- A count of things (`number_of`): `one argument`, `three arguments`. -/
def counted? (n : Int) (noun : String) : Option String := do
  let word ← countWord? n
  return word ++ " " ++ noun ++ (if n = 1 then "" else "s")

/-- A count of things that is not negative. -/
def counted (n : Nat) (noun : String) : String :=
  (countWords[n]?.getD (toString n)) ++ " " ++ noun ++ (if n = 1 then "" else "s")

/-- The ending of a position written in digits. -/
def ordinalEnding (n : Int) : String :=
  if 10 ≤ n % 100 && n % 100 ≤ 20 then "th"
  else if n % 10 = 1 then "st"
  else if n % 10 = 2 then "nd"
  else if n % 10 = 3 then "rd"
  else "th"

/-- A position counted from one (`ordinal`): `first`, `second`, `third`, `4th`. -/
def ordinal (n : Int) : String :=
  if n = 1 then "first"
  else if n = 2 then "second"
  else if n = 3 then "third"
  else toString n ++ ordinalEnding n

theorem counted?_ofNat (n : Nat) (noun : String) :
    counted? n noun = some (counted n noun) := by
  by_cases h : n < 11
  · have : n = 0 ∨ n = 1 ∨ n = 2 ∨ n = 3 ∨ n = 4 ∨ n = 5 ∨ n = 6 ∨ n = 7 ∨ n = 8 ∨ n = 9 ∨
        n = 10 := by
      omega
    rcases this with rfl | rfl | rfl | rfl | rfl | rfl | rfl | rfl | rfl | rfl | rfl <;> rfl
  · have h' : (11 : Int) ≤ n := by omega
    have hw : countWords[n]? = none := by
      rw [List.getElem?_eq_none_iff]
      exact Nat.le_of_not_lt h
    have h1 : (n : Int) = 1 ↔ n = 1 := by omega
    have ht : toString (n : Int) = toString n := rfl
    simp [counted?, countWord?, counted, countWords, h', h1, ht] at hw ⊢
    simp [hw]

/-! ## Sentences -/

/-- Too many arguments (`format_arity_error`). -/
def arity (name required received : String) : String :=
  quoted name ++ " requires " ++ required ++ "; received " ++ received

/-- A null argument where properties are read, at a position that is spelled out. -/
def accessibilityAt (name place : String) : String :=
  "The " ++ place ++ " argument to " ++ quoted name ++ " cannot be None or undefined"

/-- A null argument where properties are read (`format_accessibility_error`); positions count from
one. -/
def accessibility (name : String) (position : Int) : String :=
  accessibilityAt name (ordinal position)

/-- A value that lacks a capability (`format_capability_error`). -/
def capability (shown capability : String) : String :=
  shown ++ " does not support " ++ quoted capability

/-- An argument outside its range (`format_range_error`). -/
def range (name text : String) : String := quoted name ++ ": " ++ text

end Wording

/-! ## Reports -/

/-- A message in four parts, with empty lines between them and a line end behind. -/
structure Report where
  headline : String
  lines : List String
  entries : List String
  closing : String
  deriving DecidableEq, Repr, Inhabited

namespace Report

/-- The text of a report (`_format_report`). -/
def text (r : Report) : String :=
  "\n".intercalate ([r.headline, ""] ++ r.lines ++ [""] ++ r.entries ++ ["", r.closing, ""])

/-- A value in a report: as it is shown, with the names of the types it is a member of. -/
structure Entry where
  shown : String
  names : List String
  deriving DecidableEq, Repr, Inhabited

/-- The text of an entry. -/
def Entry.text (e : Entry) : String :=
  if e.names.isEmpty then e.shown else e.shown ++ " :: " ++ ", ".intercalate e.names

/-- The lines of one group: the first behind its number, the others in line with it. -/
def groupLines (number : Nat) (group : List Entry) : List String :=
  let label := toString number ++ ")  "
  match group with
  | [] => []
  | e :: es => (label ++ e.text) :: es.map fun e => "".pushn ' ' label.length ++ e.text

/-- The lines of groups numbered from `number` on. -/
def entryLinesFrom (number : Nat) : List (List Entry) → List String
  | [] => []
  | group :: groups => groupLines number group ++ entryLinesFrom (number + 1) groups

/-- The lines of groups numbered from one (`format_entries`). -/
def entryLines (groups : List (List Entry)) : List String := entryLinesFrom 1 groups

/-- A value is no member of a type (`format_invalid_value_error`); the address of the type's
description is given if there is one. -/
def invalidValue (lines entries : List String) (expected : String) (url : Option String) :
    Report where
  headline := "Invalid value"
  lines := lines
  entries := entries
  closing :=
    "The value at position 1 is not a member of " ++ Wording.quoted expected ++ "." ++
    match url with
    | none => ""
    | some url => "\n\nSee " ++ url ++ " for information about the " ++ expected ++ " type."

/-- The values of a type variable have no type in common (`format_type_variable_error`). -/
def typeVariable (lines entries : List String) : Report where
  headline := "Type-variable constraint violation"
  lines := lines
  entries := entries
  closing := "Since there is no type of which all the above values are members, " ++
    "the type-variable constraint has been violated."

/-- A value lacks a capability that its type variable requires (`format_type_class_error`). -/
def typeClass (lines entries : List String) (name var capability : String) : Report where
  headline := "Type-class constraint violation"
  lines := lines
  entries := entries
  closing := Wording.quoted name ++ " requires " ++ Wording.quoted var ++
    " to satisfy the " ++ capability ++
    " type-class constraint; the value at position 1 does not."

end Report

end CheckedCurry
