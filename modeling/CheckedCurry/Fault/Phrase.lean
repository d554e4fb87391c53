import CheckedCurry.Value.Arithmetic

/-!
# Phrases

The wording of messages is open to programs, which may ask for a phrase with any values as its
parts.  A phrase takes a part of the wrong sort as far as the words need it: a name may be any
value, a count must be an integer as long as it is spelled out.

* `Phrase`: the phrases that have a name.
* `Phrase.say`: a phrase with its parts.
-/

namespace CheckedCurry

/-- The phrases. -/
inductive Phrase where
  /-- A count of things. -/
  | count
  /-- A position. -/
  | position
  /-- A name between quotes. -/
  | quotation
  /-- A function got too many arguments. -/
  | arity
  /-- A null value where properties are read. -/
  | accessibility
  /-- A value lacks a capability. -/
  | capability
  /-- An argument is outside its range. -/
  | range
  /-- A value is no member of a type. -/
  | invalidValue
  /-- The values of a type variable have no type in common. -/
  | typeVariable
  /-- A value lacks a capability that its type variable requires. -/
  | typeClass
  /-- The lines about groups of values. -/
  | entries
  /-- A report of all its parts. -/
  | report
  deriving DecidableEq, Repr

namespace Phrase

/-! ## Names -/

/-- The name of a phrase. -/
def name : Phrase → String
  | count => "number_of"
  | position => "ordinal"
  | quotation => "quote"
  | arity => "format_arity_error"
  | accessibility => "format_accessibility_error"
  | capability => "format_capability_error"
  | range => "format_range_error"
  | invalidValue => "format_invalid_value_error"
  | typeVariable => "format_type_variable_error"
  | typeClass => "format_type_class_error"
  | entries => "format_entries"
  | report => "_format_report"

/-- All phrases. -/
def all : List Phrase :=
  [count, position, quotation, arity, accessibility, capability, range, invalidValue,
   typeVariable, typeClass, entries, report]

/-- The phrase with a name. -/
def ofName? (s : String) : Option Phrase := all.find? fun p => p.name == s

theorem mem_all (p : Phrase) : p ∈ all := by cases p <;> decide

/-! ## Counts and positions -/

/-- The word for a count: only counts below eleven are spelled out and have to be integers. -/
def countWord [Host] (n : Value) : Attempt String := do
  if ← n.compare? "<" Extended.lt (.int 11) then
    match n.integer? with
    | none => Attempt.fail (.notInteger n.operandName)
    | some i =>
      match Wording.countWord? i with
      | some word => return word
      | none => Attempt.fail (.outOfRange "tuple index")
  else n.plain

/-- A count of things. -/
def counted [Host] (n noun : Value) : Attempt String := do
  let word ← countWord n
  return word ++ " " ++ (← noun.plain) ++ (if n.integer? = some 1 then "" else "s")

/-- The ending of a position written in digits. -/
def ending (n : Value) : Attempt String := do
  let r ← n.remainder 100
  if Extended.le (.finite 10) r && r.le (.finite 20) then return "th"
  let r ← n.remainder 10
  return if r = .finite 1 then "st" else if r = .finite 2 then "nd"
    else if r = .finite 3 then "rd" else "th"

/-- A position: the first three are spelled out and have to be integers. -/
def ordinal [Host] (n : Value) : Attempt String := do
  let isCounted ← Value.compare? "<=" Extended.le (.int 1) n
  if ← (if isCounted then n.compare? "<=" Extended.le (.int 3) else pure false) then
    match n.integer? with
    | some i => return Wording.ordinal i
    | none => Attempt.fail (.notInteger n.operandName)
  else
    let tail ← ending n
    return (← n.plain) ++ tail

/-! ## Parts of reports -/

/-- The texts that a value holds. -/
def texts (v : Value) : Attempt (List String) := do (← v.elements).mapM Value.messageText

/-- A value in a report, with the names that it comes with. -/
def entry [Host] (v : Value) : Attempt Report.Entry := do
  match ← v.elements with
  | [shown, names] =>
    if names.truth then
      let shown ← shown.plain
      return ⟨shown, [", ".intercalate (← texts names)]⟩
    else return ⟨← shown.messageText, []⟩
  | _ => Attempt.fail .notEntry

/-- The groups of values of a report. -/
def groups [Host] (v : Value) : Attempt (List (List Report.Entry)) := do
  (← v.elements).mapM fun group => do (← group.elements).mapM entry

/-- The text of a report, given its lines and its entries. -/
def reported (ls es : Value) (make : List String → List String → Report) : Attempt Value := do
  let ls ← texts ls
  return .text (make ls (← texts es)).text

/-! ## All phrases -/

/-- A phrase with its parts. -/
def say [Host] : Phrase → List Value → Attempt Value
  | count, [n, noun] => Value.text <$> counted n noun
  | position, [n] => Value.text <$> ordinal n
  | quotation, [word] => do return .text (Wording.quoted (← word.plain))
  | arity, [word, takes, given] => do
    let word ← word.plain
    let takes ← counted takes (.text "argument")
    return .text (Wording.arity word takes (← counted given (.text "argument")))
  | accessibility, [word, index] => do
    let place ← ordinal (← Value.plus 0 index (.int 1))
    return .text (Wording.accessibilityAt (← word.plain) place)
  | capability, [v, lacking] => do
    let shown ← v.plain
    return .text (Wording.capability shown (← lacking.plain))
  | range, [word, message] => do
    let word ← word.plain
    return .text (Wording.range word (← message.plain))
  | invalidValue, [ls, es, expected, url] => do
    let expected ← expected.plain
    let url ← match url with
      | .null => pure none
      | url => some <$> url.plain
    reported ls es fun ls es => .invalidValue ls es expected url
  | typeVariable, [ls, es] => reported ls es .typeVariable
  | typeClass, [ls, es, word, var, lacking] => do
    let word ← word.plain
    let var ← var.plain
    let lacking ← lacking.plain
    reported ls es fun ls es => .typeClass ls es word var lacking
  | entries, [v] => do return .list ((Report.entryLines (← groups v)).map .text)
  | report, [headline, ls, es, closing] => do
    let headline ← headline.messageText
    let closing ← closing.messageText
    reported ls es fun ls es => ⟨headline, ls, es, closing⟩
  | p, _ => Attempt.fail (.argumentCount p.name)

/-! ## Small laws -/

@[simp] theorem ofName?_name (p : Phrase) : ofName? p.name = some p := by
  cases p <;> decide

end Phrase

end CheckedCurry
