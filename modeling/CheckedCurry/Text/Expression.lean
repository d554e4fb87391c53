import CheckedCurry.Text.Quoted

/-!
# Regular expressions

* `Text.Expression`: a regular expression, for texts or for bytes.
* `Text.leadingFlags`: the flags that a regular expression begins with, such as `(?im)`.
* `Text.expressionLiteral`: how a regular expression is written with its flags.
* `Text.flagSum`, `Text.groupCount`: its flags as one number, and how many groups it has.
-/

namespace CheckedCurry.Text

/-- A regular expression, given by its source: a text, or bytes. -/
inductive Expression where
  | text (s : String)
  | bytes (bs : List UInt8)
  deriving DecidableEq, Repr, Inhabited

namespace Expression

/-- The characters of the source. -/
def chars : Expression → List Char
  | text s => s.toList
  | bytes bs => bs.map fun b => Char.ofNat b.toNat

/-- How the source is written. -/
def written : Expression → String
  | text s => literal s
  | bytes bs => bytesLiteral bs

/-- Whether the source is a text. -/
def isText : Expression → Bool
  | text _ => true
  | bytes _ => false

end Expression

/-- Whether a letter is a flag of a regular expression. -/
def isFlag (c : Char) : Bool := "aimsux".contains c

/-- The flags in the groups at the front of a regular expression. -/
def leadingFlags : List Char → List Char
  | '(' :: '?' :: cs =>
    if (cs.dropWhile isFlag).head? = some ')' then
      cs.takeWhile isFlag ++ leadingFlags ((cs.dropWhile isFlag).drop 1)
    else []
  | _ => []
termination_by cs => cs.length
decreasing_by
  have := (List.dropWhile_sublist isFlag (l := cs)).length_le
  simp only [List.length_drop, List.length_cons]
  omega

/-- The names of the flags that are written, in their order. -/
def flagNames : List (Char × String) :=
  [('i', "re.IGNORECASE"), ('m', "re.MULTILINE"), ('s', "re.DOTALL"), ('x', "re.VERBOSE"),
   ('a', "re.ASCII")]

/-- How a regular expression is written: the front of its source, and its flags. -/
def expressionLiteral (source : Expression) : String :=
  let set := leadingFlags source.chars
  let flags := (flagNames.filter fun f => set.contains f.1).map (·.2)
  "re.compile(" ++ String.ofList (source.written.toList.take 200) ++
    (if flags.isEmpty then "" else ", " ++ "|".intercalate flags) ++ ")"

/-- The sum of the numbers of the flags; a regular expression for texts has the flag 32 unless it is
for ASCII alone. -/
def flagSum (source : Expression) : Nat :=
  let set := leadingFlags source.chars
  let numbers := [('i', 2), ('m', 8), ('s', 16), ('x', 64), ('a', 256)]
  (if set.contains 'a' || !source.isText then 0 else 32) +
    ((numbers.filter fun f => set.contains f.1).map (·.2)).foldr (· + ·) 0

/-- The groups that a regular expression remembers, read within a set of characters or outside. -/
def groupsFrom : Bool → List Char → Nat
  | inside, '\\' :: _ :: cs => groupsFrom inside cs
  | false, '[' :: '^' :: ']' :: cs | false, '[' :: ']' :: cs | false, '[' :: cs =>
    groupsFrom true cs
  | true, ']' :: cs => groupsFrom false cs
  | false, '(' :: '?' :: 'P' :: '<' :: cs => 1 + groupsFrom false cs
  | false, '(' :: '?' :: cs => groupsFrom false cs
  | false, '(' :: cs => 1 + groupsFrom false cs
  | inside, _ :: cs => groupsFrom inside cs
  | _, [] => 0

/-- The number of groups that a regular expression remembers. -/
def groupCount (source : Expression) : Nat := groupsFrom false source.chars

/-! ## Small laws -/

@[simp] theorem leadingFlags_nil : leadingFlags [] = [] := by
  simp [leadingFlags]

end CheckedCurry.Text
