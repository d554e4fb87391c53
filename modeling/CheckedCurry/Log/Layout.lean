import CheckedCurry.Text.Numeral
import CheckedCurry.Value.Arithmetic

/-!
# The layout of a field

How a value is laid out where a message has a field for it.

* `Layout`: what a field asks for: a width and what fills it, a sign, a number of digits.
* `Layout.read?`: the layout that a text such as `>8.2f` writes.
* `Layout.fit`, `Layout.text`: a text that is filled up, and one that is laid out.
-/

namespace CheckedCurry

variable [Host]

/-- On which side a field is filled up; `inner` fills between a sign and the digits. -/
inductive Align where
  | left
  | right
  | center
  | inner
  deriving DecidableEq, Repr

/-- The alignment that a character stands for. -/
def Align.ofChar? : Char → Option Align
  | '<' => some .left
  | '>' => some .right
  | '^' => some .center
  | '=' => some .inner
  | _ => none

/-- How a field is laid out.  `plainZero` asks for zeros without a sign, `alternate` for the mark of
a radix or for a point, `zero` for zeros in front of a number, `group` for a character between
groups of digits. -/
structure Layout where
  fill : Option Char
  align : Option Align
  sign : Option Char
  plainZero : Bool
  alternate : Bool
  zero : Bool
  width : Nat
  group : Option Char
  precision : Option Nat
  letter : Option Char
  deriving DecidableEq, Repr

namespace Layout

/-- No wishes at all. -/
def empty : Layout := ⟨none, none, none, false, false, false, 0, none, none, none⟩

/-! ## Reading -/

/-- The number at the front of a text, written in digits of any script, and the rest. -/
def takeNumber (cs : List Char) : Option Nat × List Char :=
  match cs.takeWhile Text.isDecimal with
  | [] => (none, cs)
  | ds => (some (Digits.value 10 (ds.map Text.asciiDigit)), cs.dropWhile Text.isDecimal)

/-- The fill and the alignment at the front of a layout. -/
def takeAlign (l : Layout) : List Char → Layout × List Char
  | c :: d :: cs =>
    match Align.ofChar? d, Align.ofChar? c with
    | some a, _ => ({ l with fill := some c, align := some a }, cs)
    | none, some a => ({ l with align := some a }, d :: cs)
    | none, none => (l, c :: d :: cs)
  | [c] =>
    match Align.ofChar? c with
    | some a => ({ l with align := some a }, [])
    | none => (l, [c])
  | [] => (l, [])

/-- The sign at the front of a layout. -/
def takeSign (l : Layout) : List Char → Layout × List Char
  | c :: cs =>
    if c = '+' || c = '-' || c = ' ' then ({ l with sign := some c }, cs) else (l, c :: cs)
  | [] => (l, [])

/-- The wish for zeros without a sign at the front of a layout. -/
def takePlainZero (l : Layout) : List Char → Layout × List Char
  | 'z' :: cs => ({ l with plainZero := true }, cs)
  | cs => (l, cs)

/-- The wish for an alternate form at the front of a layout. -/
def takeAlternate (l : Layout) : List Char → Layout × List Char
  | '#' :: cs => ({ l with alternate := true }, cs)
  | cs => (l, cs)

/-- The wish for zeros at the front of a layout that names no other fill. -/
def takeZero (l : Layout) : List Char → Layout × List Char
  | '0' :: cs =>
    if l.fill.isNone then ({ l with fill := some '0', zero := true }, cs) else (l, '0' :: cs)
  | cs => (l, cs)

/-- The wish for groups of digits at the front of a layout. -/
def takeGroup (l : Layout) : List Char → Layout × List Char
  | c :: cs => if c = ',' || c = '_' then ({ l with group := some c }, cs) else (l, c :: cs)
  | [] => (l, [])

/-- The precision behind a point at the front of a layout. -/
def takePrecision? (l : Layout) : List Char → Option (Layout × List Char)
  | '.' :: cs =>
    match takeNumber cs with
    | (some n, cs) => some ({ l with precision := some n }, cs)
    | (none, _) => none
  | cs => some (l, cs)

/-- What stands in front of the width of a layout, and the rest. -/
def takeFront (cs : List Char) : Layout × List Char :=
  let (l, cs) := takeAlign empty cs
  let (l, cs) := l.takeSign cs
  let (l, cs) := l.takePlainZero cs
  let (l, cs) := l.takeAlternate cs
  l.takeZero cs

/-- The layout with all that follows its front. -/
def takeBack? (l : Layout) (cs : List Char) : Option Layout := do
  let (width, cs) := takeNumber cs
  let (l, cs) := { l with width := width.getD 0 }.takeGroup cs
  let (l, cs) ← l.takePrecision? cs
  match cs with
  | [] => some l
  | [c] => some { l with letter := some c }
  | _ => none

/-- A precision as large as this is none. -/
def precisionBound : Nat := Nat.pow 2 31

/-- Whether the numbers of a layout can be counted, and whether a text of its width can be held. -/
def isBounded (l : Layout) : Bool :=
  l.width < Host.room && l.precision.all (· < Value.countBound)

/-- The layout that a text writes. -/
def read? (text : String) : Option Layout := do
  let (l, cs) := takeFront text.toList
  let l ← l.takeBack? cs
  if l.isBounded then some l else none

/-! ## Filling -/

/-- A text filled up to the width; `lead` stays in front of an inner filling. -/
def fit (l : Layout) (default : Align) (lead body : String) : String :=
  let missing := l.width - (lead.length + body.length)
  let fill (n : Nat) := "".pushn (l.fill.getD ' ') n
  match l.align.getD default with
  | .left => lead ++ body ++ fill missing
  | .right => fill missing ++ lead ++ body
  | .center => fill (missing / 2) ++ lead ++ body ++ fill (missing - missing / 2)
  | .inner => lead ++ fill missing ++ body

/-- Whether a layout has wishes that only a number can fulfil. -/
def isForNumbers (l : Layout) : Bool :=
  l.align = some .inner || l.sign.isSome || l.plainZero || l.alternate || l.group.isSome

/-- A text that is laid out: cut off at the precision, then filled up. -/
def text (l : Layout) (t : String) : Attempt String :=
  if l.isForNumbers || !(l.letter.all (· == 's')) then Attempt.fail .formatting
  else .ok (l.fit .left "" (match l.precision with
    | some n => String.ofList (t.toList.take n)
    | none => t))

end Layout

end CheckedCurry
