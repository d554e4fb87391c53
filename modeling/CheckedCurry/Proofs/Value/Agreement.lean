import CheckedCurry.Proofs.Ty.Numeric
import CheckedCurry.Proofs.Value.Meaning
import CheckedCurry.Proofs.Value.Dispatch

/-!
# Agreement and equality

The operation that compares two values follows optional values, failures and successes inside, and
leaves all else to equality of values.  Before it does so it asks whether both values are not a number,
and for that question a quotient is turned into a binary64 number: beside another number or a truth
value, a quotient that is too large for one makes the operation fail.

- `Value.Overflows`: the pairs of values on which this happens.
- `Value.IsPlain.agreesOrOverflows`: on all other plain values the operation is equality.
- `Value.agreement_equivalence`: it is reflexive, symmetric and transitive where it answers.
-/

namespace CheckedCurry.Value

variable {v w x y z : Value} {n : Number}

/-- Comparing two values turns a quotient into a binary64 number that is too large for one. -/
inductive Overflows : Value → Value → Prop
  | here {n : Number} {w : Value} (large : n.IsTooLarge) (beside : w.number?.isSome = true) :
    Overflows (number n) w
  | just {v w : Value} (inside : Overflows v w) : Overflows (just v) (just w)
  | left {v w : Value} (inside : Overflows v w) : Overflows (left v) (left w)
  | right {v w : Value} (inside : Overflows v w) : Overflows (right v) (right w)

theorem overflows_number_iff :
    Overflows (number n) w ↔ n.IsTooLarge ∧ w.number?.isSome = true := by
  constructor
  · rintro (⟨large, beside⟩)
    exact ⟨large, beside⟩
  · rintro ⟨large, beside⟩
    exact .here large beside

/-! ## Values that are not a number -/

theorem bothNaN_of_number?_left (h : v.number? = none) (w : Value) : bothNaN v w = .ok false := by
  unfold bothNaN
  rw [h]
  rfl

theorem bothNaN_of_number?_right (h : w.number? = none) (v : Value) : bothNaN v w = .ok false := by
  unfold bothNaN
  rw [h, Option.isSome_none, Bool.and_false]
  rfl

theorem isNaN_of_number? (h : v.number? = some n) :
    v.isNaN = do return !(← Attempt.ofNumber n.isValid) := by
  unfold isNaN
  rw [h]

theorem bothNaN_of_isValid (h : v.number? = some n) (hn : n.isValid = .ok true) (w : Value) :
    bothNaN v w = .ok false := by
  unfold bothNaN
  rw [isNaN_of_number? h, hn]
  split <;> rfl

/-- The second value is not even looked at. -/
theorem bothNaN_of_isTooLarge (h : v.number? = some n) (hn : n.IsTooLarge)
    (hw : w.number?.isSome = true) : bothNaN v w = .error (.basic (.number .quotientTooLarge)) := by
  unfold bothNaN
  rw [isNaN_of_number? h, (Number.fails_of_isTooLarge hn).1, h, hw]
  rfl

/-- A value is no quotient that is too large for a binary64 number, so that it can be told whether it
is a number at all. -/
def IsSmall (v : Value) : Prop := ∀ n, v.number? = some n → ¬ n.IsTooLarge

variable [Host]

/-! ## Comparing plain values -/

theorem agreeFlat_of_bothNaN (hv : v.supports .equals = true) (h : bothNaN v w = .ok false) :
    agreeFlat v w = do return bool (← equals v w) := by
  unfold agreeFlat
  rw [if_pos hv, h]
  rfl

/-- The operation goes on with the contents of two optional values that are present. -/
theorem agreesWith_just (v w : Value) :
    agreesWith (just v) (just w) = do return bool (← agreesWith v w).truth :=
  agreesWith_of_descends ⟨⟨rfl, .inl ⟨rfl, ⟨no, rfl, rfl⟩, no, rfl, rfl⟩⟩, rfl, rfl⟩

theorem agreesWith_left (v w : Value) :
    agreesWith (left v) (left w) = do return bool (← agreesWith v w).truth :=
  agreesWith_of_descends
    ⟨⟨rfl, .inr ⟨rfl, no, no, rfl, rfl, (IsPlain.bool false).equals_self⟩⟩, rfl, rfl⟩

theorem agreesWith_right (v w : Value) :
    agreesWith (right v) (right w) = do return bool (← agreesWith v w).truth :=
  agreesWith_of_descends
    ⟨⟨rfl, .inr ⟨rfl, yes, yes, rfl, rfl, (IsPlain.bool true).equals_self⟩⟩, rfl, rfl⟩

/-- Comparing two values is equality, unless a quotient is too large for it. -/
def AgreesOrOverflows (v w : Value) : Prop :=
  Overflows v w ∧ agreesWith v w = .error (.basic (.number .quotientTooLarge)) ∨
    ¬ Overflows v w ∧ agreesWith v w = do return bool (← equals v w)

theorem AgreesOrOverflows.of_not_overflows (hover : ¬ Overflows v w)
    (h : agreesWith v w = do return bool (← equals v w)) : AgreesOrOverflows v w :=
  .inr ⟨hover, h⟩

/-- Optional values, failures and successes are compared by what is inside. -/
theorem AgreesOrOverflows.wrap {wrap : Value → Value} (h : AgreesOrOverflows v w)
    (hagrees : agreesWith (wrap v) (wrap w) = do return bool (← agreesWith v w).truth)
    (hequals : equals (wrap v) (wrap w) = equals v w)
    (hoverflows : Overflows (wrap v) (wrap w) ↔ Overflows v w) :
    AgreesOrOverflows (wrap v) (wrap w) := by
  unfold AgreesOrOverflows
  rw [hagrees, hequals, hoverflows]
  obtain ⟨hover, heq⟩ | ⟨hover, heq⟩ := h
  · rw [heq]
    exact .inl ⟨hover, rfl⟩
  · rw [heq]
    refine .inr ⟨hover, ?_⟩
    cases equals v w <;> rfl

/-- A quotient is turned into a binary64 number only beside a number or a truth value. -/
theorem agreesOrOverflows_ratio (q : Rat) (w : Value) :
    AgreesOrOverflows (number (.ratio q)) w := by
  unfold AgreesOrOverflows agreesWith
  rw [overflows_number_iff]
  by_cases hlarge : (Number.ratio q).IsTooLarge
  · cases hnumber : w.number? with
    | none =>
      refine .inr ⟨fun h => ?_, agreeFlat_of_bothNaN rfl (bothNaN_of_number?_right hnumber _)⟩
      cases h.2
    | some n =>
      refine .inl ⟨⟨hlarge, rfl⟩, ?_⟩
      unfold agreeFlat
      rw [bothNaN_of_isTooLarge rfl hlarge (by rw [hnumber]; rfl)]
      rfl
  · refine .inr ⟨fun h => hlarge h.1, agreeFlat_of_bothNaN rfl (bothNaN_of_isValid rfl ?_ w)⟩
    exact (Number.tells_isValid hlarge).eq_ok_iff.mpr fun h => by cases h

/-- **The operation is equality**, except where a quotient is too large for it. -/
theorem IsPlain.agreesOrOverflows (hv : v.IsPlain) (hw : w.IsPlain) : AgreesOrOverflows v w := by
  induction hv generalizing w with
  | null | undefined | text | list | tuple | map =>
    refine .of_not_overflows (by rintro ⟨⟩) ?_
    unfold agreesWith
    exact agreeFlat_of_bothNaN rfl (bothNaN_of_number?_left rfl w)
  | bool b =>
    refine .of_not_overflows (by rintro ⟨⟩) ?_
    unfold agreesWith
    exact agreeFlat_of_bothNaN rfl (bothNaN_of_isValid rfl rfl w)
  | int n =>
    refine .of_not_overflows (fun h => ?_) ?_
    · obtain ⟨⟨q, hq, -⟩, -⟩ := overflows_number_iff.mp h
      cases hq
    · unfold agreesWith
      exact agreeFlat_of_bothNaN rfl (bothNaN_of_isValid rfl rfl w)
  | ratio q => exact agreesOrOverflows_ratio q w
  | nothing =>
    refine .of_not_overflows (by rintro ⟨⟩) ?_
    unfold agreesWith equals
    cases hw <;> rfl
  | just plain ih =>
    cases hw with
    | just plain' =>
      refine (ih plain').wrap (agreesWith_just _ _) ?_ ⟨fun h => ?_, .just⟩
      · rw [equals]
      · cases h with
        | just inside => exact inside
    | _ =>
      refine .of_not_overflows (by rintro ⟨⟩) ?_
      unfold agreesWith equals
      rfl
  | left plain ih =>
    cases hw with
    | left plain' =>
      refine (ih plain').wrap (agreesWith_left _ _) ?_ ⟨fun h => ?_, .left⟩
      · rw [equals]
      · cases h with
        | left inside => exact inside
    | _ =>
      refine .of_not_overflows (by rintro ⟨⟩) ?_
      unfold agreesWith equals
      rfl
  | right plain ih =>
    cases hw with
    | right plain' =>
      refine (ih plain').wrap (agreesWith_right _ _) ?_ ⟨fun h => ?_, .right⟩
      · rw [equals]
      · cases h with
        | right inside => exact inside
    | _ =>
      refine .of_not_overflows (by rintro ⟨⟩) ?_
      unfold agreesWith equals
      rfl

omit [Host] in
/-- A value that means the same as one that is compared with a too large quotient in it would have
done so too. -/
theorem Overflows.of_meaning (h : Overflows x z) (hy : y.IsPlain)
    (hxy : x.meaning = y.meaning) : Overflows x y := by
  induction h generalizing y with
  | here large _ =>
    obtain ⟨q, rfl, -⟩ := id large
    refine .here large ?_
    cases hy with
    | bool | int | ratio => rfl
    | _ => cases hxy
  | just _ ih =>
    cases hy with
    | just plain => exact .just (ih plain (by simpa [meaning] using hxy))
    | _ => cases hxy
  | left _ ih =>
    cases hy with
    | left plain => exact .left (ih plain (by simpa [meaning] using hxy))
    | _ => cases hxy
  | right _ ih =>
    cases hy with
    | right plain => exact .right (ih plain (by simpa [meaning] using hxy))
    | _ => cases hxy

/-- The operation answers that two values agree exactly if they mean the same, and no quotient is
too large. -/
theorem IsPlain.perform_equals_iff (hx : x.IsPlain) (hy : y.IsPlain) (mark : Nat) :
    perform mark .equals x [y] = .ok yes ↔ ¬ Overflows x y ∧ x.meaning = y.meaning := by
  rw [perform_equals]
  obtain ⟨b, hb, hequal⟩ := hx.tells_equals hy
  rw [← hequal]
  obtain ⟨hover, heq⟩ | ⟨hover, heq⟩ := hx.agreesOrOverflows hy
  · rw [heq]
    exact iff_of_false (fun h => by cases h) fun h => h.1 hover
  · rw [heq, hb]
    refine ⟨fun h => ⟨hover, ?_⟩, ?_⟩
    · exact bool.inj (Except.ok.inj h)
    · rintro ⟨-, rfl⟩
      rfl

/-- **Comparing values agrees with equality and is an equivalence.**  On plain values equality always
answers and is an equivalence.  The operation answers the same, except that it fails where it comes
upon a quotient that is too large for a binary64 number; and it is reflexive, symmetric and transitive
where it does not fail. -/
theorem agreement_equivalence (hx : x.IsPlain) (hy : y.IsPlain) (hz : z.IsPlain) (mark : Nat) :
    (∃ b, equals x y = .ok b ∧
      (¬ Overflows x y → perform mark .equals x [y] = .ok (bool b)) ∧
      (Overflows x y →
        perform mark .equals x [y] = .error (.basic (.number .quotientTooLarge)))) ∧
    (equals x x = .ok true ∧ (equals x y = .ok true → equals y x = .ok true) ∧
      (equals x y = .ok true → equals y z = .ok true → equals x z = .ok true)) ∧
    (¬ Overflows x x → perform mark .equals x [x] = .ok yes) ∧
    (¬ Overflows y x → perform mark .equals x [y] = .ok yes →
      perform mark .equals y [x] = .ok yes) ∧
    (perform mark .equals x [y] = .ok yes → perform mark .equals y [z] = .ok yes →
      perform mark .equals x [z] = .ok yes) := by
  refine ⟨?_, ⟨?_, ?_, ?_⟩, ?_, ?_, ?_⟩
  · obtain ⟨b, hb, -⟩ := hx.tells_equals hy
    refine ⟨b, hb, ?_⟩
    rw [perform_equals]
    obtain ⟨hover, heq⟩ | ⟨hover, heq⟩ := hx.agreesOrOverflows hy
    · exact ⟨fun h => absurd hover h, fun _ => heq⟩
    · rw [heq, hb]
      exact ⟨fun _ => rfl, fun h => absurd h hover⟩
  · exact hx.equals_self
  · rw [(hx.tells_equals hy).eq_ok_iff, (hy.tells_equals hx).eq_ok_iff]
    exact Eq.symm
  · rw [(hx.tells_equals hy).eq_ok_iff, (hy.tells_equals hz).eq_ok_iff,
      (hx.tells_equals hz).eq_ok_iff]
    exact Eq.trans
  · intro hover
    exact (hx.perform_equals_iff hx mark).mpr ⟨hover, rfl⟩
  · rw [hx.perform_equals_iff hy, hy.perform_equals_iff hx]
    exact fun hover h => ⟨hover, h.2.symm⟩
  · rw [hx.perform_equals_iff hy, hy.perform_equals_iff hz, hx.perform_equals_iff hz]
    rintro ⟨hxy, hdxy⟩ ⟨-, hdyz⟩
    exact ⟨fun h => hxy (h.of_meaning hy hdxy), hdxy.trans hdyz⟩

omit [Host] in
/-- Two maps agree whatever the order of their entries, and a quotient of four hundred digits is not
compared with one: the comparison fails, although the two are not equal. -/
theorem agreement_of_maps : letI : Host := .bare
    let large := number (.ratio (mkRat (Nat.pow 10 400) 3))
    let x := just (map [(text "a", int 1), (text "b", list [nothing])])
    let y := just (map [(text "b", list [nothing]), (text "a", yes)])
    x.IsPlain ∧ y.IsPlain ∧ large.IsPlain ∧ ¬ Overflows x y ∧
      perform 0 .equals x [y] = .ok yes ∧ equals large (int 1) = .ok false ∧
      perform 0 .equals large [int 1] = .error (.basic (.number .quotientTooLarge)) := by
  let _ : Host := .bare
  intro large x y
  have hitems : (list [nothing]).IsPlain := .list (List.forall_mem_singleton.mpr .nothing)
  have hx : x.IsPlain :=
    .just (.map (.cons (by simp [sameKey, key]) (List.pairwise_singleton ..)) (by simp [key])
      (List.forall_mem_cons.mpr ⟨.int 1, List.forall_mem_singleton.mpr hitems⟩))
  have hy : y.IsPlain :=
    .just (.map (.cons (by simp [sameKey, key]) (List.pairwise_singleton ..)) (by simp [key])
      (List.forall_mem_cons.mpr ⟨hitems, List.forall_mem_singleton.mpr (.bool true)⟩))
  have hxy : ¬ Overflows x y := by
    unfold x y
    rintro (_ | inside)
    cases inside
  have hlarge : Overflows large (int 1) := by
    refine .here ?_ rfl
    rw [← not_not (a := Number.IsTooLarge _), ← Number.isTractable_iff]
    decide +kernel
  obtain ⟨⟨b, hb, hanswer, -⟩, -⟩ := agreement_equivalence hx hy hx 0
  obtain ⟨⟨c, hc, -, hfails⟩, -⟩ := agreement_equivalence (.ratio _) (.int 1) hx 0
  have hunder : meantUnder [(text "a", int 1), (text "b", list [nothing])] =
      meantUnder [(text "b", list [nothing]), (text "a", yes)] := by
    funext k
    simp only [meantUnder]
    by_cases ha : (text "a").key.toOption = some k
    · have hb : (text "b").key.toOption ≠ some k := by
        rw [← ha]
        decide
      rw [if_pos ha, if_neg hb, if_pos ha]
      rfl
    · rw [if_neg ha, if_neg ha]
  have hequal : equals x y = .ok true := by
    rw [(hx.tells_equals hy).eq_ok_iff]
    unfold x y
    rw [meaning, meaning, meaning, meaning, hunder]
  obtain rfl : b = true := Except.ok.inj (hb.symm.trans hequal)
  refine ⟨hx, hy, .ratio _, hxy, hanswer hxy, ?_, hfails hlarge⟩
  refine (IsPlain.ratio _).equals_of_ne (.int 1) fun h => ?_
  have hone : mkRat (Nat.pow 10 400) 3 = (1 : Int) := Key.rational.inj (Meaning.atom.inj h)
  revert hone
  decide +kernel

end CheckedCurry.Value
