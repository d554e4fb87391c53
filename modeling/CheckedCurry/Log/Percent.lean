import CheckedCurry.Log.Format

/-!
# Messages with percent fields

Values are put into a message by fields behind a percent sign: `%s`, `%(name)r`, `%03d`.  A doubled
sign stands for itself.

* `Percent.Piece`, `Percent.pieces`: the pieces of a format.
* `Percent.Source`: what a format takes its values from.
* `Percent.render`: a format with its arguments; `Percent.renderOne`: with a single value.
-/

namespace CheckedCurry.Percent

variable [Host]

/-! ## Pieces -/

/-- A width or a precision: none, a number, a number that is given by the next value, or one that is
too large. -/
inductive Amount where
  | absent
  | given (n : Nat)
  | asked
  | excessive
  deriving DecidableEq, Repr

/-- The key of a field, if it has one; the end of a key may be missing. -/
inductive FieldKey where
  | absent
  | named (s : String)
  | unfinished
  deriving DecidableEq, Repr

/-- A field: its key, its flags, a width, a precision and the letter that ends it.  The letter is
missing at the end of a format. -/
structure Field where
  key : FieldKey
  flags : List Char
  width : Amount
  precision : Amount
  letter : Option Char
  deriving DecidableEq, Repr

/-- A piece of a format. -/
inductive Piece where
  | char (c : Char)
  | field (f : Field)
  deriving DecidableEq, Repr

/-- The key up to the parenthesis that closes it, and the rest.  `depth` counts the parentheses that
are open in it, and what was read is held in reverse. -/
def takeKey (depth : Nat) (read : List Char) : List Char → FieldKey × List Char
  | [] => (.unfinished, [])
  | c :: cs =>
    if c = ')' then
      match depth with
      | 0 => (.named (String.ofList read.reverse), cs)
      | depth + 1 => takeKey depth (c :: read) cs
    else takeKey (if c = '(' then depth + 1 else depth) (c :: read) cs

/-- An amount below a bound at the front of a text, and the rest. -/
def takeAmount (bound : Nat) : List Char → Amount × List Char
  | [] => (.absent, [])
  | c :: cs =>
    if c = '*' then (.asked, cs)
    else match (c :: cs).takeWhile Char.isDigit with
      | [] => (.absent, c :: cs)
      | ds =>
        (if Digits.value 10 ds < bound then .given (Digits.value 10 ds) else .excessive,
          (c :: cs).dropWhile Char.isDigit)

/-- A precision behind a point, zero if nothing follows the point, and the rest. -/
def takePrecision : List Char → Amount × List Char
  | '.' :: cs =>
    match takeAmount Layout.precisionBound cs with
    | (.absent, cs) => (.given 0, cs)
    | found => found
  | cs => (.absent, cs)

/-- The rest behind a letter about the size of a number, which says nothing. -/
def dropSize : List Char → List Char
  | c :: cs => if c = 'h' || c = 'l' || c = 'L' then cs else c :: cs
  | [] => []

/-- Whether a character is a flag. -/
def isFlag (c : Char) : Bool := c = '-' || c = '0' || c = '+' || c = ' ' || c = '#'

/-- The field behind a percent sign, and the rest. -/
def takeField (cs : List Char) : Field × List Char :=
  let (key, cs) := match cs with
    | '(' :: cs => takeKey 0 [] cs
    | cs => (.absent, cs)
  let (width, rest) := takeAmount Value.countBound (cs.dropWhile isFlag)
  let (precision, rest) := takePrecision rest
  let rest := dropSize rest
  (⟨key, cs.takeWhile isFlag, width, precision, rest.head?⟩, rest.drop 1)

/-- The pieces of a format; `fuel` bounds their number. -/
def piecesFrom : Nat → List Char → List Piece
  | 0, _ | _, [] => []
  | fuel + 1, '%' :: '%' :: cs => .char '%' :: piecesFrom fuel cs
  | fuel + 1, c :: cs =>
    if c = '%' then .field (takeField cs).1 :: piecesFrom fuel (takeField cs).2
    else .char c :: piecesFrom fuel cs

/-- The pieces of a format. -/
def pieces (format : List Char) : List Piece := piecesFrom format.length format

/-! ## Values -/

/-- What a format takes its values from: the values that come next, and the entries that keys are
looked up in. -/
structure Source where
  next : List Value
  entries : Option (List (Value × Value))

/-- A computation that takes values from a source. -/
abbrev Taking := StateT Source Attempt

/-- The end in a fault. -/
def refuse {α : Type} (cause : Cause) : Taking α := fun _ => Attempt.fail cause

/-- The next value. -/
def nextValue : Taking Value := fun source =>
  match source.next with
  | v :: vs => .ok (v, { source with next := vs })
  | [] => Attempt.fail .formatting

/-- The value under the key of a field comes next. -/
def seekKey (key : FieldKey) : Taking Unit := fun source =>
  match key, source.entries with
  | .absent, _ => .ok ((), source)
  | _, none => Attempt.fail .formatting
  | .unfinished, some _ => Attempt.fail .unreadableFormat
  | .named key, some es =>
    match Value.valueAt? (.text key) es with
    | some v => .ok ((), { source with next := [v] })
    | none => Attempt.fail (.missingKey (Text.literal key))

/-- The number that an amount is, which a value must have between the bounds if it is asked for
it. -/
def amount (bound : Nat) : Amount → Taking (Option Int)
  | .absent => pure none
  | .given n => pure (some n)
  | .excessive => refuse .unreadableFormat
  | .asked => do
    match (← nextValue).integer? with
    | some n => if -(bound : Int) ≤ n && n < bound then return some n else refuse .uncountable
    | none => refuse .formatting

/-! ## Values in a field -/

/-- The layout of a field.  A negative width fills up on the right, and a negative precision is
none of its digits. -/
def layout (flags : List Char) (width precision : Option Int) : Layout :=
  let isLeft := flags.contains '-' || width.any (· < 0)
  let isZero := !isLeft && flags.contains '0'
  { fill := if isZero then some '0' else none
    align := if isLeft then some .left else none
    sign := if flags.contains '+' then some '+' else if flags.contains ' ' then some ' ' else none
    plainZero := false
    alternate := flags.contains '#'
    zero := isZero
    width := (width.getD 0).natAbs
    group := none
    precision := precision.map Int.toNat
    letter := none }

/-- A text in a field, which is never filled with zeros. -/
def text (l : Layout) (t : String) : Attempt String :=
  let align := some (l.align.getD .right)
  { Layout.empty with align := align, width := l.width, precision := l.precision }.text t

/-- An integer in a field; the precision is the least number of digits. -/
def integer (l : Layout) (letter : Option Char) (n : Int) : Attempt String :=
  let plain := { l with letter := letter, precision := none }
  match plain.integerNumeral? n.natAbs with
  | some m =>
    let zeros := "".pushn '0' (l.precision.getD 0 - m.whole.length)
    .ok (l.place l.fillsZeros (n < 0) { m with whole := zeros ++ m.whole })
  | none => Attempt.fail .formatting

/-- A character, given by its code or as a text. -/
def character (l : Layout) (v : Value) : Attempt String :=
  let l := { l with precision := none }
  match v.core, v.integer? with
  | .text t, _ => if t.length = 1 then text l t else Attempt.fail .formatting
  | _, some n =>
    if 0 ≤ n && n.toNat.isValidChar then text l (String.singleton (Char.ofNat n.toNat))
    else Attempt.fail .uncountable
  | _, none => Attempt.fail .formatting

/-- A binary64 number in a field, with six places if no precision is given. -/
def float (l : Layout) (letter : Char) (v : Value) : Attempt String := do
  let l := { l with letter := some letter }
  match ← v.toFloat 0 with
  | .number n => l.number n
  | _ => Attempt.fail .formatting

/-- A value in a field, for the letter that ends it.  Only numbers are taken as numbers, and among
bytes there are no texts. -/
def written (isBytes : Bool) (l : Layout) (letter : Char) (v : Value) : Attempt String :=
  let isNumber := v.number?.isSome || v.decimal?.isSome
  match letter with
  | 's' => do if isBytes then Attempt.fail .formatting else text l (← v.plain)
  | 'b' => Attempt.fail (if isBytes then .formatting else .unreadableFormat)
  | 'r' => do text l (← v.literal)
  | 'a' => do text l (Format.escaped (← v.literal))
  | 'c' => character l v
  | 'd' | 'i' | 'u' => do
    if isNumber then integer l none (← v.toInteger) else Attempt.fail .formatting
  | 'x' | 'X' | 'o' =>
    match v.integer? with
    | some n => integer l (some letter) n
    | none => Attempt.fail .formatting
  | 'e' | 'E' | 'f' | 'F' | 'g' | 'G' =>
    if isNumber then float l letter v else Attempt.fail .formatting
  | _ => Attempt.fail .unreadableFormat

/-- A field with the values that it takes. -/
def fieldText (isBytes : Bool) (f : Field) : Taking String := do
  seekKey f.key
  let width ← amount Value.countBound f.width
  let precision ← amount Layout.precisionBound f.precision
  match f.letter with
  | none => refuse .unreadableFormat
  | some letter =>
    let v ← nextValue
    let l := layout f.flags width precision
    if Host.room ≤ l.width then refuse .tooLong
    else written isBytes l letter v

/-! ## Formats -/

/-- The text of pieces.  After a field nothing may be left of a value that has entries, and at the
end nothing of values in order. -/
def renderPieces (isBytes : Bool) : List Piece → Taking String
  | [] => do
    let source ← get
    if source.entries.isNone && !source.next.isEmpty then refuse .formatting else return ""
  | .char c :: rest => do return String.singleton c ++ (← renderPieces isBytes rest)
  | .field f :: rest => do
    let here ← fieldText isBytes f
    let source ← get
    if source.entries.isSome && !source.next.isEmpty then refuse .formatting
    else return here ++ (← renderPieces isBytes rest)

/-- A format with its arguments; without arguments it is taken as it is.  A map that is the only
argument and has entries is asked by keys. -/
def render (format : String) (arguments : List Value) : Attempt String :=
  let source : Source := match arguments with
    | [.map (e :: es)] => ⟨arguments, some (e :: es)⟩
    | _ => ⟨arguments, none⟩
  if arguments.isEmpty then .ok format
  else do return (← (renderPieces false (pieces format.toList)).run source).1

/-- A format with a single value that has no entries. -/
def renderOne (isBytes : Bool) (format : List Char) (v : Value) : Attempt String := do
  return (← (renderPieces isBytes (pieces format)).run ⟨[v], none⟩).1

end CheckedCurry.Percent
