import CheckedCurry.Log.Layout
import CheckedCurry.Log.Numeral

/-!
# Numbers that are laid out

* `Layout.place`: a numeral that is filled up, with groups of digits.
* `Layout.integerNumeral?`, `Layout.floatNumeral?`: the numeral that a letter asks for.
* `Layout.number`: a number that is laid out.
-/

namespace CheckedCurry.Layout

/-! ## Placing -/

/-- The sign in front of a number. -/
def signText (l : Layout) (negative : Bool) : String :=
  if negative then "-"
  else match l.sign with
    | some '+' => "+"
    | some ' ' => " "
    | _ => ""

/-- The digits of a number in a radix. -/
def digitsIn (radix n : Nat) : String := String.ofList (Nat.toDigits radix n)

/-- The size of the groups of digits: four in the radices of two, three in all others. -/
def groupSize (l : Layout) : Nat :=
  if l.letter = some 'b' || l.letter = some 'o' || l.letter = some 'x' || l.letter = some 'X' then 4
  else 3

/-- On which side a number is filled up without an alignment. -/
def numberAlign (l : Layout) : Align := if l.zero then .inner else .right

/-- Whether the filling of a number is zeros in front of its digits. -/
def fillsZeros (l : Layout) : Bool :=
  l.fill = some '0' && l.align.getD l.numberAlign = .inner

/-- A numeral that is filled up, given its sign; `zeros` says whether zeros are put in front of its
digits as members of their groups. -/
def place (l : Layout) (zeros negative : Bool) (n : Numeral) : String :=
  let lead := l.signText negative ++ n.mark
  match l.group with
  | none => l.fit l.numberAlign lead (n.whole ++ n.rest)
  | some separator =>
    let width := if zeros then l.width - (lead.length + n.rest.length) else 0
    let whole :=
      if n.whole.isEmpty then "" else Numeral.groupedTo separator l.groupSize width n.whole
    l.fit l.numberAlign lead (whole ++ n.rest)

/-! ## Integers -/

/-- The text of an integer, for the letters that are about integers. -/
def integerNumeral? (l : Layout) (n : Nat) : Option Numeral :=
  let mark (s : String) := if l.alternate then s else ""
  if l.precision.isSome || l.plainZero then none
  else match l.letter with
    | none | some 'd' => some ⟨"", toString n, ""⟩
    | some 'n' => if l.group.isSome then none else some ⟨"", toString n, ""⟩
    | some 'b' => inRadix (mark "0b") (digitsIn 2 n)
    | some 'o' => inRadix (mark "0o") (digitsIn 8 n)
    | some 'x' => inRadix (mark "0x") (digitsIn 16 n)
    | some 'X' => inRadix (mark "0X") (String.ofList ((Nat.toDigits 16 n).map Char.toUpper))
    | _ => none
where
  /-- Digits of a radix of two, which commas do not group. -/
  inRadix (mark digits : String) : Option Numeral :=
    if l.group = some ',' then none else some ⟨mark, digits, ""⟩

/-- The character with a code, which is placed like a number but has nothing else of one. -/
def character (l : Layout) (n : Int) : Attempt String :=
  if l.sign.isSome || l.plainZero || l.alternate || l.group.isSome || l.precision.isSome then
    Attempt.fail .formatting
  else if 0 ≤ n && n.toNat.isValidChar then
    .ok (l.place false false ⟨"", "", String.singleton (Char.ofNat n.toNat)⟩)
  else Attempt.fail .formatting

/-! ## Binary64 numbers -/

/-- The text of the magnitude of a binary64 number that is finite, given as a quotient. -/
def quotientNumeral? (l : Layout) (x : Binary64) (num den : Nat) : Option Numeral :=
  match l.letter, l.precision with
  | some 'f', p | some 'F', p => some (.fixed l.alternate (p.getD 6) num den)
  | some 'e', p => some (.scientific l.alternate (p.getD 6) num den)
  | some 'E', p => some (Numeral.scientific l.alternate (p.getD 6) num den).capital
  | some 'g', p | some 'n', p => some (general p)
  | some 'G', p => some (general p).capital
  | none, some p =>
    let count := max 1 p
    some ((if l.alternate then Numeral.pointed else Numeral.withPlace)
      (.general l.alternate count (count - 1) num den))
  | none, none =>
    let n := Numeral.ofText x.render
    some (if l.alternate then n.pointed else n)
  | _, _ => none
where
  /-- The general form with a number of digits, six if none is given. -/
  general (p : Option Nat) : Numeral :=
    let count := max 1 (p.getD 6)
    .general l.alternate count count num den

/-- The name of a value that is no finite number, in capital letters for a capital letter. -/
def named (l : Layout) (name : String) : Numeral :=
  let n : Numeral := ⟨"", "", name⟩
  if l.letter.any Char.isUpper then n.capital else n

/-- Whether a binary64 number can be laid out: by its letter, where `n` has groups of its own, and
with digits that can be held. -/
def isForFloats (l : Layout) : Bool :=
  l.precision.all (· < precisionBound) &&
    l.letter.all fun c => "eEfFgG%".toList.contains c || (c = 'n' && l.group.isNone)

/-- A percentage: the layout of its number and what follows it. -/
def percentage (l : Layout) : Layout × String :=
  if l.letter = some '%' then ({ l with letter := some 'f' }, "%") else (l, "")

/-- The text of the magnitude of a binary64 number. -/
def floatNumeral? (l : Layout) (x : Binary64) : Option Numeral :=
  match x with
  | .infinite _ => some (l.named "inf")
  | .finite _ m e =>
    let (num, den) := Binary64.fraction m e
    l.quotientNumeral? (.finite false m e) num den

/-- A binary64 number that is laid out. -/
def float (l : Layout) (x : Binary64) : Attempt String :=
  if l.isForFloats then
    let (l, unit) := l.percentage
    match l.floatNumeral? x with
    | some n =>
      let negative := x.isNegative && !(l.plainZero && n.isZero)
      .ok (l.place l.fillsZeros negative { n with rest := n.rest ++ unit })
    | none => Attempt.fail .formatting
  else Attempt.fail .formatting

/-- A binary64 number that is laid out; for a percentage it is multiplied by a hundred. -/
def scaled (l : Layout) (x : Binary64) : Attempt String := do
  if l.letter = some '%' then
    match ← Attempt.ofNumber (Number.mul 0 (.float x) (.int 100)) with
    | .float y => l.float y
    | _ => Attempt.fail .formatting
  else l.float x

/-! ## Numbers -/

/-- An integer that is laid out, if need be as the binary64 number that is nearest to it. -/
def integer (l : Layout) (n : Int) : Attempt String :=
  if l.letter = some 'c' then l.character n
  else match l.integerNumeral? n.natAbs with
    | some m => .ok (l.place l.fillsZeros (n < 0) m)
    | none =>
      if l.letter.isSome && l.letter != some 'n' then do
        match ← Attempt.ofNumber (Number.int n).toFloat? with
        | some x => l.scaled x
        | none => Attempt.fail .formatting
      else Attempt.fail .formatting

/-- A number that is laid out. -/
def number (l : Layout) (n : Number) : Attempt String :=
  match n with
  | .int i => l.integer i
  | .float x => l.scaled x
  | .nan _ =>
    if l.isForFloats then
      let (l, unit) := l.percentage
      let n := l.named "nan"
      .ok (l.place false false { n with rest := n.rest ++ unit })
    else Attempt.fail .formatting
  | .ratio _ => Attempt.fail .formatting

end CheckedCurry.Layout
