/-!
# Sets of characters as ranges

A set of characters is a list of ranges of code points, both ends included, in ascending order.
-/

namespace CheckedCurry

/-- A list of ranges of code points, both ends included. -/
abbrev CharRanges := List (Nat × Nat)

namespace CharRanges

/-- Whether a character lies in one of the ranges. -/
def holds (ranges : CharRanges) (c : Char) : Bool :=
  ranges.any fun (first, last) => first ≤ c.toNat && c.toNat ≤ last

@[simp] theorem holds_nil (c : Char) : holds [] c = false := rfl

@[simp] theorem holds_cons (first last : Nat) (ranges : CharRanges) (c : Char) :
    holds ((first, last) :: ranges) c =
      ((decide (first ≤ c.toNat) && decide (c.toNat ≤ last)) || ranges.holds c) := rfl

end CharRanges

end CheckedCurry
