import CheckedCurry.Log.Layout.Decimal
import CheckedCurry.Moment.Pattern

/-!
# Formatted messages

Values are put into a message by fields between braces: `{}`, `{0}`, `{name!r:>5}`.  A doubled brace
stands for itself.

* `Format.Piece`, `Format.pieces?`: the pieces of a format.
* `Format.render`: a format with its arguments.
-/

namespace CheckedCurry.Format

variable [Host]

/-! ## Values in a field -/

/-- A text in which all characters beyond ASCII are escaped. -/
def escaped (t : String) : String :=
  String.join (t.toList.map fun c =>
    let n := c.toNat
    if n < 0x80 then String.singleton c
    else if n < 0x100 then "\\x" ++ Text.hex 2 n
    else if n < 0x10000 then "\\u" ++ Text.hex 4 n
    else "\\U" ++ Text.hex 8 n)

/-- A value after the conversion that a letter stands for. -/
def convert (conversion : Option Char) (v : Value) : Attempt Value :=
  match conversion with
  | none => .ok v
  | some 's' => do return .text (← v.plain)
  | some 'r' => do return .text (← v.literal)
  | some 'a' => do return .text (escaped (← v.literal))
  | some _ => Attempt.fail .formatting

/-- What a layout that can be read makes of a value. -/
def laidOut {α : Type} (layout : Option α) (write : α → Attempt String) : Attempt String :=
  match layout with
  | some l => write l
  | none => Attempt.fail .formatting

/-- A value in a field with a layout.  Without a layout it is written plainly; the layout of a
moment is a pattern. -/
def field (layout : String) (v : Value) : Attempt String :=
  if layout.isEmpty then v.plain
  else
    match v.core, v.number? with
    | .text t, _ => laidOut (Layout.read? layout) (·.text t)
    | .decimal d, _ => laidOut (Layout.readForDecimal? layout) (·.decimal d)
    | .moment m, _ => .ok (m.write layout)
    | _, some n => laidOut (Layout.read? layout) (·.number n)
    | _, none => Attempt.fail .formatting

/-! ## Pieces -/

/-- A piece of a format: a character, or a field with its name, its conversion and its layout. -/
inductive Piece where
  | char (c : Char)
  | field (name : List Char) (conversion : Option Char) (layout : List Char)
  deriving DecidableEq, Repr

/-- Where in a format a character stands: outside of fields, in a name, where nothing between
brackets ends the name, behind the mark of a conversion, behind a conversion, or in a layout, with
the number of its braces that are open.  What was read of a name or a layout is held in reverse. -/
inductive Place where
  | outside
  | name (inBrackets : Bool) (read : List Char)
  | conversion (name : List Char)
  | converted (name : List Char) (conversion : Char)
  | layout (name : List Char) (conversion : Option Char) (depth : Nat) (read : List Char)

/-- The pieces of a format from a place on; `none` if its braces do not match. -/
def piecesFrom? : Place → List Char → Option (List Piece)
  | .outside, [] => some []
  | _, [] => none
  | .outside, '\x7b' :: '\x7b' :: cs => do return .char '\x7b' :: (← piecesFrom? .outside cs)
  | .outside, '\x7d' :: '\x7d' :: cs => do return .char '\x7d' :: (← piecesFrom? .outside cs)
  | .outside, c :: cs =>
    if c = '\x7b' then piecesFrom? (.name false []) cs
    else if c = '\x7d' then none
    else do return .char c :: (← piecesFrom? .outside cs)
  | .name true read, c :: cs => piecesFrom? (.name (c != ']') (c :: read)) cs
  | .name false read, c :: cs =>
    if c = '\x7d' then do return .field read.reverse none [] :: (← piecesFrom? .outside cs)
    else if c = ':' then piecesFrom? (.layout read.reverse none 0 []) cs
    else if c = '!' then piecesFrom? (.conversion read.reverse) cs
    else if c = '\x7b' then none
    else piecesFrom? (.name (c = '[') (c :: read)) cs
  | .conversion name, c :: cs => piecesFrom? (.converted name c) cs
  | .converted name conversion, c :: cs =>
    if c = '\x7d' then do return .field name conversion [] :: (← piecesFrom? .outside cs)
    else if c = ':' then piecesFrom? (.layout name conversion 0 []) cs
    else none
  | .layout name conversion depth read, c :: cs =>
    if c = '\x7d' then
      match depth with
      | 0 => do return .field name conversion read.reverse :: (← piecesFrom? .outside cs)
      | depth + 1 => piecesFrom? (.layout name conversion depth (c :: read)) cs
    else
      let depth := if c = '\x7b' then depth + 1 else depth
      piecesFrom? (.layout name conversion depth (c :: read)) cs

/-- The pieces of a format. -/
def pieces? (format : List Char) : Option (List Piece) := piecesFrom? .outside format

/-! ## Looking up values -/

/-- A step from a value to a value inside it. -/
inductive Step where
  | property (name : String)
  | item (key : String)
  deriving DecidableEq, Repr

/-- The steps that follow the first part of a name; `fuel` bounds their number. -/
def steps? : Nat → List Char → Option (List Step)
  | _, [] => some []
  | 0, _ :: _ => none
  | fuel + 1, '.' :: cs => do
    let isEnd (c : Char) := c = '.' || c = '['
    let name := cs.takeWhile (!isEnd ·)
    if name.isEmpty then none
    else return .property (String.ofList name) :: (← steps? fuel (cs.dropWhile (!isEnd ·)))
  | fuel + 1, '[' :: cs => do
    let key := cs.takeWhile (· != ']')
    match key, cs.dropWhile (· != ']') with
    | _ :: _, ']' :: rest => return .item (String.ofList key) :: (← steps? fuel rest)
    | _, _ => none
  | _ + 1, _ => none

/-- What a name or a key stands for: a position, written in digits, a text, or nothing if it starts
with a number that is too large. -/
inductive Reference where
  | position (n : Nat)
  | text (s : String)
  | excessive
  deriving DecidableEq, Repr

/-- What a name or a key stands for. -/
def Reference.of (cs : List Char) : Reference :=
  match Layout.takeNumber cs with
  | (some n, rest) =>
    if Value.countBound ≤ n then excessive
    else if rest.isEmpty then position n
    else text (String.ofList cs)
  | (none, _) => text (String.ofList cs)

/-- The value that a step leads to. -/
def Step.follow (v : Value) : Step → Attempt Value
  | property name => v.readAttribute name
  | item key =>
    match Reference.of key.toList, v with
    | .excessive, _ => Attempt.fail .formatting
    | .position n, v => v.item n
    | .text key, .map entries =>
      match Value.valueAt? (.text key) entries with
      | some w => .ok w
      | none => Attempt.fail (.missingKey (Text.literal key))
    | .text _, v => Attempt.fail (.notSubscriptable v.className)

/-- How the fields of a format that name no argument are numbered: not yet, by themselves from a
number on, or by the format. -/
inductive Numbering where
  | undecided
  | automatic (next : Nat)
  | manual
  deriving DecidableEq, Repr

/-- The argument at a position. -/
def positional (arguments : List Value) (n : Nat) : Attempt Value :=
  match arguments[n]? with
  | some v => .ok v
  | none => Attempt.fail (.outOfRange "Replacement index")

/-- The argument that the first part of a name stands for: the next one, one at a position, or one
with a name.  Positions that are given and positions that are counted do not go together. -/
def argument (arguments : List Value) (named : List (String × Value)) (numbering : Numbering)
    (name : List Char) : Attempt (Value × Numbering) :=
  match name, Reference.of name, numbering with
  | [], _, .manual | _ :: _, .position _, .automatic _ => Attempt.fail .formatting
  | [], _, .automatic n => do return (← positional arguments n, .automatic (n + 1))
  | [], _, .undecided => do return (← positional arguments 0, .automatic 1)
  | _, .position n, _ => do return (← positional arguments n, .manual)
  | _, .text name, _ =>
    match named.lookup name with
    | some v => .ok (v, numbering)
    | none => Attempt.fail (.missingKey (Text.literal name))
  | _, .excessive, _ => Attempt.fail .formatting

/-- The value that the name of a field stands for. -/
def lookup (arguments : List Value) (named : List (String × Value)) (numbering : Numbering)
    (name : List Char) : Attempt (Value × Numbering) := do
  let isEnd (c : Char) := c = '.' || c = '['
  let (v, numbering) ← argument arguments named numbering (name.takeWhile (!isEnd ·))
  match steps? name.length (name.dropWhile (!isEnd ·)) with
  | some steps => return (← steps.foldlM Step.follow v, numbering)
  | none => Attempt.fail .formatting

/-! ## Rendering -/

/-- The text of pieces.  A layout may have fields of its own, up to the depth. -/
def renderPieces (arguments : List Value) (named : List (String × Value)) :
    Nat → Numbering → List Piece → Attempt (String × Numbering)
  | 0, _, _ => Attempt.fail .formatting
  | _, numbering, [] => .ok ("", numbering)
  | depth + 1, numbering, .char c :: rest => do
    let (text, numbering) ← renderPieces arguments named (depth + 1) numbering rest
    return (String.singleton c ++ text, numbering)
  | depth + 1, numbering, .field name conversion layout :: rest => do
    let (v, numbering) ← lookup arguments named numbering name
    let v ← convert conversion v
    let (layout, numbering) ←
      if !layout.contains '\x7b' then .ok (String.ofList layout, numbering)
      else match pieces? layout with
        | some pieces => renderPieces arguments named depth numbering pieces
        | none => Attempt.fail .formatting
    let here ← field layout v
    let (text, numbering) ← renderPieces arguments named (depth + 1) numbering rest
    return (here ++ text, numbering)

/-- A format with its arguments (`_DelayedFormat`). -/
def render (format : String) (arguments : List Value) (named : List (String × Value)) :
    Attempt String :=
  match pieces? format.toList with
  | some pieces => do return (← renderPieces arguments named 2 .undecided pieces).1
  | none => Attempt.fail .formatting

end CheckedCurry.Format
