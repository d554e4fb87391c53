import CheckedCurry.Number.Shortest

/-!
# Numerals in parts

* `Numeral`: the text of a number in parts, so that signs, groups of digits and zeros in front can
  be put in their places.
* `Numeral.fixed`, `Numeral.scientific`, `Numeral.general`: a quotient with a number of digits.
* `Numeral.grouped`, `Numeral.groupedTo`: digits with separators between groups of them.
-/

namespace CheckedCurry

/-- The text of a number without its sign: the mark of a radix, the digits before the point, and
what follows them. -/
structure Numeral where
  mark : String
  whole : String
  rest : String
  deriving DecidableEq, Repr

namespace Numeral

/-! ## Quotients -/

/-- The digits behind a point; without digits the point is written only if it is asked for. -/
def behindPoint (keepPoint : Bool) (digits : String) : String :=
  if digits.isEmpty then (if keepPoint then "." else "") else "." ++ digits

/-- Digits without the zeros at their end. -/
def stripZeros (digits : String) : String :=
  String.ofList (digits.toList.reverse.dropWhile (· == '0')).reverse

/-- No binary64 number has as many digits from the first to the last one that is no zero, nor as
many of them behind the point. -/
def digitBound : Nat := 1100

/-- A binary64 number, given as a quotient, with a number of places; a half goes to the even
neighbour. -/
def fixed (keepPoint : Bool) (places num den : Nat) : Numeral :=
  let shown := min places digitBound
  let n := Binary64.roundHalfEven (num * Nat.pow 10 shown) den
  ⟨"", toString (n / Nat.pow 10 shown),
    behindPoint keepPoint (if places = 0 then ""
      else (padZeros shown (n % Nat.pow 10 shown)).pushn '0' (places - shown))⟩

/-- The first `count` digits of a quotient, rounded, and the power of ten of the first one. -/
def leading (count num den : Nat) : Nat × Int :=
  if num = 0 then (0, 0)
  else
    let k := Decimals.magnitude num den
    let (n, d) := Decimals.scale num den ((count : Int) - 1 - k)
    let c := Binary64.roundHalfEven n d
    if Nat.pow 10 count ≤ c then (c / 10, k + 1) else (c, k)

/-- Digits with the point behind the first one and an exponent. -/
def withExponent (keepPoint : Bool) (digits : String) (k : Int) : Numeral :=
  ⟨"", String.ofList (digits.toList.take 1),
    behindPoint keepPoint (String.ofList (digits.toList.drop 1)) ++
      FloatStyle.standard.exponentText k⟩

/-- A binary64 number, given as a quotient, with an exponent and a number of places. -/
def scientific (keepPoint : Bool) (places num den : Nat) : Numeral :=
  let shown := min places digitBound
  let (c, k) := leading (shown + 1) num den
  withExponent keepPoint ((padZeros (shown + 1) c).pushn '0' (places - shown)) k

/-- A binary64 number, given as a quotient, with `count` digits, written with an exponent if its
power of ten is below `-4` or from `limit` on.  Zeros at the end are kept only if they are asked
for. -/
def general (keepZeros : Bool) (count : Nat) (limit : Int) (num den : Nat) : Numeral :=
  let shown := min count digitBound
  let count := if keepZeros then count else shown
  let (c, k) := leading shown num den
  let digits := (padZeros shown c).pushn '0' (count - shown)
  let strip (s : String) := if keepZeros then s else stripZeros s
  if -4 ≤ k && k < limit then
    if 0 ≤ k then
      let place := (k + 1).toNat
      ⟨"", String.ofList (digits.toList.take place) ++ "".pushn '0' (place - count),
        behindPoint keepZeros (strip (String.ofList (digits.toList.drop place)))⟩
    else ⟨"", "0", behindPoint keepZeros (strip ("".pushn '0' (-k - 1).toNat ++ digits))⟩
  else withExponent keepZeros (String.ofList (digits.toList.take 1) ++
    strip (String.ofList (digits.toList.drop 1))) k

/-! ## Parts -/

/-- A text that starts with digits. -/
def ofText (s : String) : Numeral :=
  ⟨"", String.ofList (s.toList.takeWhile Char.isDigit),
    String.ofList (s.toList.dropWhile Char.isDigit)⟩

/-- The same numeral with a point, if it has none. -/
def pointed (n : Numeral) : Numeral :=
  if n.rest.startsWith "." then n else { n with rest := "." ++ n.rest }

/-- The same numeral with a digit behind the point, if it has neither a point nor an exponent. -/
def withPlace (n : Numeral) : Numeral := if n.rest.isEmpty then { n with rest := ".0" } else n

/-- The same numeral in capital letters. -/
def capital (n : Numeral) : Numeral :=
  { n with rest := String.ofList (n.rest.toList.map Char.toUpper) }

/-- Whether all digits before an exponent are zeros. -/
def isZero (n : Numeral) : Bool :=
  (n.whole ++ n.rest).toList.takeWhile (fun c => c != 'e' && c != 'E') |>.all fun c =>
    c == '0' || c == '.'

/-! ## Groups -/

/-- Digits with a separator between groups of `size` of them, counted from the end. -/
def grouped (separator : Char) (size : Nat) (digits : String) : String :=
  let cs := digits.toList
  let count := cs.length
  String.ofList (cs.zipIdx.flatMap fun (c, i) =>
    if i ≠ 0 && (count - i) % size = 0 then [separator, c] else [c])

/-- Digits with as many zeros in front as it takes for their groups to reach a width. -/
def groupedTo (separator : Char) (size width : Nat) (digits : String) : String :=
  let least := digits.length
  let count := ((List.range (width + 1)).find? fun n =>
    least ≤ n && width ≤ n + (n - 1) / size).getD least
  grouped separator size ("".pushn '0' (count - least) ++ digits)

end Numeral

end CheckedCurry
