import CheckedCurry.Value.Display

/-!
# Plain data in a log file

* `Value.plainLine`: the line that a log file holds for a value made of null, truth values, numbers,
  texts, lists and maps.  Tuples are written as lists, and the keys of a map as texts, so two keys
  may get one text.  No other value can be written to a log file.
-/

namespace CheckedCurry.Value

/-- The text of a value that is a key of a map. -/
def plainKey (v : Value) : Attempt String :=
  match v.core with
  | text s => .ok s
  | null => .ok "null"
  | bool b => .ok (if b then "true" else "false")
  | number (.ratio _) => Attempt.fail (.notSerializable "Fraction")
  | number n => Attempt.ofNumber n.display
  | v => Attempt.fail (.notSerializable v.className)

/-- The parts of an identifier as a list. -/
def identifierLine (i : Identifier) : Attempt String := do
  return bracketed [match i.space with
    | some s => Text.quote s
    | none => "null", Text.quote i.name, ← integerText i.version]

mutual

/-- The line for a value (`JSONFormatter.format`). -/
def plainLine : Value → Attempt String
  | null => .ok "null"
  | bool b => .ok (if b then "true" else "false")
  | number (.ratio _) => Attempt.fail (.notSerializable "Fraction")
  | number n => Attempt.ofNumber n.display
  | text s => .ok (Text.quote s)
  | list vs => do return bracketed (← plainItems vs)
  | tuple vs => do return bracketed (← plainItems vs)
  | identifier i => identifierLine i
  | map es => do return braced (← plainEntries es)
  | object _ _ (some (.list vs)) => do return bracketed (← plainItems vs)
  | object _ _ (some (.text s)) => .ok (Text.quote s)
  | object _ _ (some (.number n)) => Attempt.ofNumber n.display
  | v => Attempt.fail (.notSerializable v.className)

/-- The lines for values. -/
def plainItems : List Value → Attempt (List String)
  | [] => .ok []
  | v :: vs => do
    let s ← plainLine v
    return s :: (← plainItems vs)

/-- The lines for the entries of a map. -/
def plainEntries : List (Value × Value) → Attempt (List String)
  | [] => .ok []
  | (k, v) :: rest => do
    let key ← plainKey k
    let s ← plainLine v
    return (Text.quote key ++ ": " ++ s) :: (← plainEntries rest)

end

/-! ## Small laws -/

@[simp] theorem plainLine_text (s : String) : (text s).plainLine = .ok (Text.quote s) := by
  simp [plainLine]

end CheckedCurry.Value
