import CheckedCurry.Text.Expression
import CheckedCurry.Value.Host
import CheckedCurry.Value.Kind

/-!
# The texts of a value

* `Value.display`: how messages show a value.  Strings are quoted, functions are shown by name.
* `Value.literal`: how an expression writes a value.
* `Value.plain`: the text that a value becomes where a text is asked for.
* `Fault.message`: the text of a fault.

A number that is no integer is turned into a binary64 number before it is shown, so showing a
value fails when that is impossible.  It also fails on integers of too many digits, on progressions of
too many elements, and on regular expressions for bytes.
-/

namespace CheckedCurry

variable [Host]

namespace Value

/-! ## Shapes of texts -/

/-- Texts between brackets. -/
def bracketed (items : List String) : String := "[" ++ ", ".intercalate items ++ "]"

/-- Texts between parentheses; a comma follows a single one. -/
def parenthesized : List String → String
  | [item] => "(" ++ item ++ ",)"
  | items => "(" ++ ", ".intercalate items ++ ")"

/-- Texts between braces. -/
def braced (items : List String) : String := "\x7b" ++ ", ".intercalate items ++ "\x7d"

/-- A truth value. -/
def boolText (b : Bool) : String := if b then "True" else "False"

/-- The arguments of an error behind the name of its class. -/
def errorText (c : ErrorClass) (arguments : List String) : String :=
  c.name ++ "(" ++ ", ".intercalate arguments ++ ")"

/-- A regular expression, given its quoted source. -/
def patternText (quoted : String) : String := "re.compile(" ++ quoted ++ ")"

/-- The text of an integer. -/
def integerText (n : Int) : Attempt String := Attempt.ofNumber (Number.integerText n)

/-- The parts of an identifier with their names. -/
def identifierLiteral (i : Identifier) : Attempt String := do
  return "TypeIdentifier(namespace=" ++ (match i.space with
    | some s => Text.literal s
    | none => "None") ++ ", name=" ++ Text.literal i.name ++ ", version=" ++
    (← integerText i.version) ++ ")"

/-- The parts of an identifier as a tuple. -/
def identifierDisplay (i : Identifier) : Attempt String := do
  return parenthesized [match i.space with
    | some s => Text.quote s
    | none => "None", Text.quote i.name, ← integerText i.version]

/-- The elements of a progression, shown one after the other as long as there is room for them. -/
def rangeDisplay (p : Progression) : Attempt String := do
  let items ← (p.front Host.room).mapM integerText
  if Host.room ≤ p.length then Attempt.fail .tooLong else return bracketed items

/-- A regular expression for texts; the source of one for bytes is not shown. -/
def patternDisplay : Text.Expression → Attempt String
  | .text s => .ok (patternText (Text.quote s))
  | .bytes _ => Attempt.fail (.notSerializable "bytes")

/-- The name that an object gives itself, if it is a text and not empty. -/
def givenName? (attrs : List (String × Value)) (name : String) : Option String :=
  match attrs.lookup name with
  | some (.text s) => if s.isEmpty then none else some s
  | _ => none

/-- How a callable object is shown: by a name that it gives itself, or as it is written. -/
def callableText (shape : Shape) (attrs : List (String × Value)) : String :=
  match givenName? attrs "__qualname__" with
  | some s => s
  | none =>
    match attrs.lookup "__name__" with
    | some (.text s) => s
    | _ => shape.printed

/-- The message of a mistake. -/
def misuseText (m : Misuse) : String := m.messageWith Text.literal

/-! ## Display and literals -/

mutual

/-- How messages show a value (`show`). -/
def display : Value → Attempt String
  | number n => Attempt.ofNumber n.display
  | text s => .ok (Text.quote s)
  | pattern source => patternDisplay source
  | list items | deque items => do return bracketed (← displayAll items)
  | tuple items => do return parenthesized (← displayAll items)
  | range p => rangeDisplay p
  | identifier i => identifierDisplay i
  | map entries => do return braced (← displayEntries entries)
  | just v => do return "Just(" ++ (← display v) ++ ")"
  | left v => do return "Left(" ++ (← display v) ++ ")"
  | right v => do return "Right(" ++ (← display v) ++ ")"
  | object shape attrs none =>
    .ok (if shape.tag.identifier?.isNone && shape.callable then callableText shape attrs
      else shape.printed)
  | object shape _ (some (.number n)) =>
    if shape.tag.identifier?.isNone then Attempt.ofNumber (n.displayAs (.ok shape.printed))
    else .ok shape.printed
  | object shape _ (some (.text s)) =>
    .ok (if shape.tag.identifier?.isNone then Text.quote s else shape.printed)
  | object shape _ (some (.list items)) =>
    if shape.tag.identifier?.isNone then do return bracketed (← displayAll items)
    else .ok shape.printed
  | cls c => .ok c.name
  | helper h => .ok h.qualifiedName
  | standard s => .ok s.name
  | constant .. => .ok "const"
  | failing .. => .ok "fail"
  | collecting .. => .ok "collect"
  | bound f _ => display f
  | curried _ signature _ _ slots => do
    -- the written form is computed even though the name is shown
    let _ ← literalAll slots
    return signature.name
  | null => .ok "None"
  | undefined => .ok "undefined"
  | placeholder => .ok "__"
  | bool b => .ok (boolText b)
  | decimal d => .ok ("Decimal('" ++ d.render ++ "')")
  | bytes bs => .ok (Text.bytesLiteral bs)
  | moment m => .ok m.literal
  | duration d => .ok d.literal
  | nothing => .ok "Nothing"
  | error _ f => literalFault f
  | type _ t => .ok t.literal
  | constructor c => .ok c.literal

/-- How messages show values. -/
def displayAll : List Value → Attempt (List String)
  | [] => .ok []
  | v :: vs => do return (← display v) :: (← displayAll vs)

/-- How messages show the entries of a map (`_show_key`).  A key that is a text is shown as one,
whatever else it is. -/
def displayEntries : List (Value × Value) → Attempt (List String)
  | [] => .ok []
  | (k, v) :: rest => do
    let key ← match k.core with
      | text s => .ok (Text.quote s)
      | _ => display k
    let value ← display v
    return (key ++ ": " ++ value) :: (← displayEntries rest)

/-- How an expression writes a value. -/
def literal : Value → Attempt String
  | number n => Attempt.ofNumber n.literal
  | text s => .ok (Text.literal s)
  | pattern source => .ok (Text.expressionLiteral source)
  | list items => do return bracketed (← literalAll items)
  | tuple items => do return parenthesized (← literalAll items)
  | range p => Attempt.ofNumber p.literal
  | deque items => do return "deque(" ++ bracketed (← literalAll items) ++ ")"
  | identifier i => identifierLiteral i
  | map entries => do return braced (← literalEntries entries)
  | just v => do return "Just(" ++ (← display v) ++ ")"
  | left v => do return "Left(" ++ (← display v) ++ ")"
  | right v => do return "Right(" ++ (← display v) ++ ")"
  | object shape _ _ => .ok shape.printed
  | cls c => .ok c.literal
  | helper h => .ok (match h with
    | .length | .maximum => "<built-in function " ++ h.name ++ ">"
    | .upper => "<method 'upper' of 'str' objects>"
    | _ => "<function " ++ h.name ++ ">")
  | standard s => .ok ("<function " ++ s.name ++ ">")
  | constant .. => .ok "<function const>"
  | failing .. => .ok "<function fail>"
  | collecting .. => .ok "<function collect>"
  | bound f v => do
    let name ← display f
    return "<bound method " ++ name ++ " of " ++ (← literal v) ++ ">"
  | curried _ signature _ _ slots => do
    let arguments ← literalAll slots
    return "<CurriedFunction " ++ signature.text ++
      (if slots.all isOpen then "" else " (" ++ ", ".intercalate arguments ++ ")") ++ ">"
  | null => .ok "None"
  | undefined => .ok "undefined"
  | placeholder => .ok "__"
  | bool b => .ok (boolText b)
  | decimal d => .ok ("Decimal('" ++ d.render ++ "')")
  | bytes bs => .ok (Text.bytesLiteral bs)
  | moment m => .ok m.literal
  | duration d => .ok d.literal
  | nothing => .ok "Nothing"
  | error _ f => literalFault f
  | type _ t => .ok t.literal
  | constructor c => .ok c.literal

/-- How an expression writes values. -/
def literalAll : List Value → Attempt (List String)
  | [] => .ok []
  | v :: vs => do return (← literal v) :: (← literalAll vs)

/-- How an expression writes the entries of a map. -/
def literalEntries : List (Value × Value) → Attempt (List String)
  | [] => .ok []
  | (k, v) :: rest => do
    let key ← literal k
    let value ← literal v
    return (key ++ ": " ++ value) :: (← literalEntries rest)

/-- How an expression writes a fault: its class and its arguments. -/
def literalFault : Fault Value → Attempt String
  | .made c arguments => do return errorText c (← literalAll arguments)
  | .invalidValue report .. => .ok (errorText .invalidValue [Text.literal report.text])
  | .typeVariable report .. => .ok (errorText .typeVariable [Text.literal report.text])
  | .typeClass report .. => .ok (errorText .typeClass [Text.literal report.text])
  | .arity name required received =>
    .ok (errorText .arity [Text.literal (Wording.arity name
      (Wording.counted required "argument") (Wording.counted received "argument"))])
  | .accessibility name index =>
    .ok (errorText .accessibility [Text.literal (Wording.accessibility name (index + 1))])
  | .capability shown capability =>
    .ok (errorText .capability [Text.literal (Wording.capability shown capability)])
  | .misuse m => .ok (errorText m.errorClass [Text.literal (misuseText m)])
  | .basic (.missingKey written) => .ok (errorText .key [written])
  | .basic cause => .ok (errorText cause.errorClass [Text.literal cause.message])

end

/-! ## Small laws -/

@[simp] theorem display_text (s : String) : (text s).display = .ok (Text.quote s) := by rw [display]

theorem display_just (v : Value) :
    (just v).display = do return "Just(" ++ (← v.display) ++ ")" := by rw [display]

theorem display_left (v : Value) :
    (left v).display = do return "Left(" ++ (← v.display) ++ ")" := by rw [display]

theorem display_right (v : Value) :
    (right v).display = do return "Right(" ++ (← v.display) ++ ")" := by rw [display]

/-! ## Plain texts -/

/-- The message that a program gives an error of the library, which must be a text. -/
def messageText (v : Value) : Attempt String :=
  match v.core with
  | text s => .ok s
  | _ => Attempt.fail (.notText v.className)

mutual

/-- The text that a value becomes where a text is asked for. -/
def plain : Value → Attempt String
  | text s => .ok s
  | object _ _ (some (.text s)) => .ok s
  | object shape _ none => .ok (shape.shown.getD shape.printed)
  | number n => Attempt.ofNumber n.text
  | decimal d => .ok d.render
  | moment m => .ok m.text
  | duration d => .ok d.text
  | type _ t => .ok t.text
  | error _ f => messageOf f
  | v => v.literal

/-- The text of a fault. -/
def messageOf : Fault Value → Attempt String
  | .arity name required received => .ok (Wording.arity name
      (Wording.counted required "argument") (Wording.counted received "argument"))
  | .invalidValue report .. => .ok report.text
  | .typeVariable report .. => .ok report.text
  | .typeClass report .. => .ok report.text
  | .accessibility name index => .ok (Wording.accessibility name (index + 1))
  | .capability shown capability => .ok (Wording.capability shown capability)
  | .misuse m => .ok (misuseText m)
  | .made _ [] => .ok ""
  | .made .key [v] => v.literal
  | .made c [v] => if c.isLibrary then messageText v else plain v
  | .made _ vs => do return parenthesized (← literalAll vs)
  | .basic cause => .ok cause.message

end

end Value

namespace Fault

/-- The text of a fault. -/
def message (f : Fault Value) : Attempt String := Value.messageOf f

end Fault

end CheckedCurry
