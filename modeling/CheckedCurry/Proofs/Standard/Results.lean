import CheckedCurry.Proofs.Run.Calls
import CheckedCurry.Proofs.Ty.Standard
import CheckedCurry.Proofs.Value.Operations
import CheckedCurry.Run.Standard

/-!
# What the standard functions answer

What is known of the arguments of a function, and what follows for its answer.  Where an answer
comes from the arguments it fits whatever they fit; where it is new, its unifier is known.

- `Number.isValid_neg`: a number stays a valid one with the other sign.
- `unifier_of_exclusive`, `unifier_of_concat`: the functions that answer a new value for a variable.
- `fits_of_itemIfAny`, `fits_of_contents`: values read from arrays.
- `eq_of_get`, `eq_of_gets`: values read from objects.
- `Standard.fits_of_keysOf`, `Standard.fits_of_valuesOf`, `Standard.fits_of_contentOr`: maps and
  optional values.
- `Standard.eq_of_encased`, `Standard.eq_of_encasedEither`: calls whose faults are caught.
-/

namespace CheckedCurry

variable [Host]

/-! ## Numbers -/

namespace Number

omit [Host] in
/-- Whether a quotient is too large for a binary64 number is not a matter of its sign. -/
theorem isFinite_ofRatio (s t : Bool) (num den : Nat) :
    (Binary64.ofRatio s num den).isFinite = (Binary64.ofRatio t num den).isFinite := by
  unfold Binary64.ofRatio
  by_cases hzero : num = 0
  · rw [if_pos hzero, if_pos hzero]
    rfl
  · rw [if_neg hzero, if_neg hzero]
    dsimp only
    split <;> split <;> rfl

omit [Host] in
theorem isFinite_ofRat_neg (q : Rat) :
    (Binary64.ofRat false (-q)).isFinite = (Binary64.ofRat false q).isFinite := by
  unfold Binary64.ofRat
  rw [Rat.neg_num, Rat.neg_den, Int.natAbs_neg]
  by_cases hzero : q.num = 0
  · rw [if_pos hzero, if_pos (by omega)]
  · rw [if_neg hzero, if_neg (by omega)]
    exact isFinite_ofRatio _ _ _ _

omit [Host] in
/-- A number with the other sign is not "not a number" either. -/
theorem isValid_neg {n : Number} (mark : Nat) (h : n.isValid = .ok true) :
    (n.neg mark).isValid = .ok true := by
  cases n with
  | int n => rfl
  | float x => rfl
  | nan mark => cases h
  | ratio q =>
    have hfinite : (Binary64.ofRat false q).isFinite = true := by
      by_contra hnot
      have herror : (ratio q).isValid = .error .quotientTooLarge := by
        simp [isValid, toFloat?, hnot, bind, Except.bind]
      cases herror.symm.trans h
    have hneg := (isFinite_ofRat_neg q).trans hfinite
    simp [neg, isValid, toFloat?, hneg, bind, Except.bind, pure, Except.pure]

end Number

namespace Value

open Ty (array maybe)

variable {P : TypeVar → Value → Prop} {t : Ty} {v w r : Value} {mark : Nat}

/-- A valid number with the other sign is one. -/
theorem fits_of_negative (hv : Ty.validNumber.Fits P v) (h : v.negative mark = .ok r) :
    Ty.validNumber.Fits P r := by
  obtain ⟨-, n, hn, hvalid⟩ := Ty.fits_validNumber.mp hv
  have hnumber : v.number? = some n := by
    rw [number?, hn]
  rw [negative, hnumber] at h
  obtain rfl := Except.ok.inj h
  exact Ty.fits_validNumber.mpr ⟨rfl, n.neg mark, rfl, Number.isValid_neg mark hvalid⟩

/-- The numbers from one up to another are integers. -/
theorem fits_of_between (h : v.between w = .ok r) : (array Ty.integer).Fits P r := by
  obtain ⟨first, -, h⟩ := bind_eq_ok.mp h
  obtain ⟨last, -, h⟩ := bind_eq_ok.mp h
  obtain ⟨-, -, h⟩ := bind_eq_ok.mp h
  obtain rfl := Except.ok.inj h
  exact Ty.fits_list.mpr (List.forall_mem_map.mpr fun n _ => Ty.fits_int n)

/-- What is read as an integer is an optional integer. -/
theorem fits_of_parseInt (h : v.parseInt w = .ok r) : (maybe Ty.integer).Fits P r := by
  obtain ⟨fromTwo, -, h⟩ := bind_eq_ok.mp h
  dsimp only at h
  split at h <;> obtain ⟨isRadix, -, h⟩ := bind_eq_ok.mp h
  all_goals
    split at h
    · obtain ⟨_, hthrow, -⟩ := bind_eq_ok.mp h
      cases hthrow
    · -- the radix is known to be one; what is read is a text
      obtain ⟨radix, -, h⟩ := bind_eq_ok.mp h
      split at h
      · split at h
        · obtain ⟨n, -, h⟩ := bind_eq_ok.mp h
          obtain rfl := Except.ok.inj h
          exact Ty.fits_just.mpr (Ty.fits_int n)
        · obtain rfl := Except.ok.inj h
          exact Ty.fits_nothing
      · cases h

/-! ## Logic -/

/-- The answer of a choice between two values is one of them. -/
theorem eq_of_both (h : v.both w = .ok r) : r = v ∨ r = w := by
  obtain ⟨truth, -, h⟩ := bind_eq_ok.mp h
  obtain rfl := Except.ok.inj h
  split
  · exact .inr rfl
  · exact .inl rfl

theorem eq_of_oneOf (h : v.oneOf w = .ok r) : r = v ∨ r = w := by
  obtain ⟨truth, -, h⟩ := bind_eq_ok.mp h
  obtain rfl := Except.ok.inj h
  split
  · exact .inl rfl
  · exact .inr rfl

omit [Host] in
/-- The empty front part of an array is an array. -/
theorem unifier_of_front (hv : v.kind = .array) (h : v.front = .ok r) :
    r.unifier = Kind.array.name := by
  unfold front at h
  rcases core_of_kind_array hv with
    ⟨items, hcore⟩ | ⟨items, hcore⟩ | ⟨p, hcore⟩ | ⟨i, hcore⟩ | ⟨items, hcore⟩
  all_goals
    rw [hcore] at h
    cases h
    try rfl

/-- An empty value has the unifier of the value that it is made for. -/
theorem unifier_of_emptyLike (hv : v.Genuine) (h : v.emptyLike = .ok r) :
    r.unifier = v.unifier := by
  unfold emptyLike at h
  split at h
  · rename_i hboolean
    obtain rfl := Except.ok.inj h
    exact hboolean.symm
  split at h
  · rename_i harray
    rw [harray]
    exact unifier_of_front (hv.kind_of_unifier harray) h
  split at h
  · rename_i hstring
    obtain rfl := Except.ok.inj h
    exact hstring.symm
  split at h
  · rename_i hmaybe
    obtain rfl := Except.ok.inj h
    exact hmaybe.symm
  split at h
  · rename_i hobject
    obtain rfl := Except.ok.inj h
    exact hobject.symm
  · exact absurd h (lacks_ne_ok v .empty)

/-- The value that alone counts as true, or an empty one, has the unifier that both have. -/
theorem unifier_of_exclusive (hv : v.Genuine) (hvw : w.unifier = v.unifier)
    (h : v.exclusive w = .ok r) : r.unifier = v.unifier := by
  obtain ⟨first, -, h⟩ := bind_eq_ok.mp h
  obtain ⟨second, -, h⟩ := bind_eq_ok.mp h
  obtain ⟨same, -, h⟩ := bind_eq_ok.mp h
  split at h
  · split at h
    · exact unifier_of_emptyLike hv h
    · exact absurd h (lacks_ne_ok v .empty)
  · obtain rfl := Except.ok.inj h
    split
    · rfl
    · exact hvw

/-! ## Joining -/

omit [Host] in
/-- Two texts joined are a text. -/
theorem unifier_of_plus_string (hv : v.kind = .string) (hw : w.kind = .string)
    (h : plus mark v w = .ok r) : r.unifier = Kind.string.name := by
  obtain ⟨s, hs⟩ := exists_text_of_kind hv
  obtain ⟨t, ht⟩ := exists_text_of_kind hw
  unfold plus at h
  rw [hs, ht] at h
  obtain rfl := Except.ok.inj h
  rfl

omit [Host] in
/-- An array is not an operand of arithmetic. -/
theorem numeric_ne_ok {symbol : String} {onNumbers : Number → Number → Except NumberFault Number}
    {onDecimals : Decimal → Decimal → Except DecimalFault Decimal} (hv : v.kind = .array) :
    numeric symbol onNumbers onDecimals v w ≠ .ok r := by
  have hnone : v.number? = none ∧ v.decimal? = none := by
    unfold decimal? number?
    rcases core_of_kind_array hv with
      ⟨items, hcore⟩ | ⟨items, hcore⟩ | ⟨p, hcore⟩ | ⟨i, hcore⟩ | ⟨items, hcore⟩
    all_goals
      rw [hcore]
      exact ⟨rfl, rfl⟩
  unfold numeric
  rw [hnone.1, hnone.2]
  intro h
  cases h

omit [Host] in
/-- Two arrays that can be added are an array. -/
theorem unifier_of_plus_array (hv : v.kind = .array) (h : plus mark v w = .ok r) :
    r.unifier = Kind.array.name := by
  have hcore := structuralKind_core hv (by decide)
  unfold plus at h
  -- two lists make a list, two deques a deque, and tuples of either sort a tuple; texts, bytes and
  -- times are no arrays
  split at h
  case h_2 | h_4 =>
    obtain rfl := Except.ok.inj h
    rfl
  case h_5 => cases h
  case h_9 =>
    split at h
    · obtain rfl := Except.ok.inj h
      rfl
    · exact absurd h (numeric_ne_ok hv)
  all_goals
    rename_i hx hy
    rw [hx] at hcore
    cases hcore

/-- Two arrays joined are an array. -/
theorem unifier_of_joinArrays (hv : v.kind = .array)
    (h : joinArrays mark v w = .ok r) : r.unifier = Kind.array.name := by
  unfold joinArrays at h
  split at h
  · split at h
    · cases h
    · exact unifier_of_plus_array hv h
  · obtain ⟨front, -, h⟩ := bind_eq_ok.mp h
    obtain ⟨back, -, h⟩ := bind_eq_ok.mp h
    obtain rfl := Except.ok.inj h
    rfl

omit [Host] in
/-- Two maps joined are a map. -/
theorem unifier_of_joinMaps (h : joinMaps v w = .ok r) : r.unifier = Kind.object.name := by
  obtain ⟨front, -, h⟩ := bind_eq_ok.mp h
  obtain ⟨back, -, h⟩ := bind_eq_ok.mp h
  obtain rfl := Except.ok.inj h
  rfl

/-- Two values that are not optional have the unifier of the first one when they are joined. -/
theorem unifier_of_joinFlat (hv : v.Genuine) (hw : w.Genuine) (hvw : w.unifier = v.unifier)
    (h : joinFlat mark v w = .ok r) : r.unifier = v.unifier := by
  unfold joinFlat at h
  split at h
  · rename_i hstring
    rw [hstring] at hvw ⊢
    exact unifier_of_plus_string (hv.kind_of_unifier hstring) (hw.kind_of_unifier hvw) h
  split at h
  · rename_i harray
    rw [harray]
    exact unifier_of_joinArrays (hv.kind_of_unifier harray) h
  split at h
  · rename_i hobject
    rw [hobject]
    exact unifier_of_joinMaps h
  · exact absurd h (lacks_ne_ok v .concat)

/-- **One value followed by another has the unifier that both have.** -/
theorem unifier_of_joinWith (hv : v.Genuine) (hw : w.Genuine) (hvw : w.unifier = v.unifier)
    (h : joinWith mark v w = .ok r) : r.unifier = v.unifier := by
  cases v with
  | nothing =>
    rw [joinWith_nothing] at h
    obtain rfl := Except.ok.inj h
    exact hvw
  | just x =>
    unfold joinWith at h
    obtain ⟨absent, -, h⟩ := bind_eq_ok.mp h
    split at h
    · obtain rfl := Except.ok.inj h
      rfl
    · obtain ⟨content, -, h⟩ := bind_eq_ok.mp h
      obtain ⟨joined, -, h⟩ := bind_eq_ok.mp h
      obtain rfl := Except.ok.inj h
      rfl
  | object shape attrs base =>
    -- a genuine object is not an optional value
    have htag : shape.tag.identifier? ≠ some maybeIdentifier := by
      intro htag
      rcases hv.maybe htag with hobject | ⟨x, hobject⟩ <;> cases hobject
    unfold joinWith at h
    rw [if_neg htag] at h
    exact unifier_of_joinFlat hv hw hvw h
  | _ =>
    unfold joinWith at h
    exact unifier_of_joinFlat hv hw hvw h

/-- The operation that joins two values answers a value with the unifier that both have. -/
theorem unifier_of_concat (hv : v.Genuine) (hw : w.Genuine) (hvw : w.unifier = v.unifier)
    (h : perform mark .concat v [w] = .ok r) : r.unifier = v.unifier := by
  unfold perform at h
  split at h
  · exact unifier_of_joinWith hv hw hvw h
  · exact absurd h (lacks_ne_ok v .concat)

/-! ## Reading from values -/

omit [Host] in
theorem presentIf_eq (passes : Bool) (v : Value) :
    presentIf passes v = nothing ∨ ∃ x, presentIf passes v = just x := by
  cases passes with
  | false => exact .inl rfl
  | true => exact .inr ⟨v, rfl⟩

/-- An optional value of a value that fits. -/
theorem fits_of_presentIf {passes : Bool} (hv : t.Fits P v) :
    (maybe t).Fits P (presentIf passes v) := by
  cases passes with
  | false => exact Ty.fits_nothing
  | true => exact Ty.fits_just.mpr hv

/-- An element of an array, if it has any, fits what all elements fit. -/
theorem fits_of_itemIfAny {index : Int} (hv : (array t).Fits P v)
    (h : v.itemIfAny index = .ok r) : (maybe t).Fits P r := by
  obtain ⟨hkind, items, hitems, hall⟩ := Ty.fits_array.mp hv
  obtain ⟨count, -, h⟩ := bind_eq_ok.mp h
  split at h
  · obtain ⟨x, hx, h⟩ := bind_eq_ok.mp h
    obtain rfl := Except.ok.inj h
    exact Ty.fits_just.mpr (hall x (mem_of_item hkind hitems hx))
  · obtain rfl := Except.ok.inj h
    exact Ty.fits_nothing

/-- The contents of optional values fit what they fit. -/
theorem fits_of_presentContents {vs rs : List Value} (hgenuine : ∀ v ∈ vs, v.Genuine)
    (hvs : ∀ v ∈ vs, (maybe t).Fits P v) (h : presentContents vs = .ok rs) :
    ∀ r ∈ rs, t.Fits P r := by
  induction vs generalizing rs with
  | nil =>
    obtain rfl := Except.ok.inj h
    exact List.forall_mem_nil _
  | cons v vs ih =>
    obtain ⟨hv, hrest⟩ := List.forall_mem_cons.mp hvs
    obtain ⟨hg, hgrest⟩ := List.forall_mem_cons.mp hgenuine
    rw [presentContents] at h
    rcases Ty.fits_maybe hg hv with rfl | ⟨w, rfl, hw⟩
    · exact ih hgrest hrest h
    · obtain ⟨present, -, h⟩ := bind_eq_ok.mp h
      split at h
      · obtain ⟨content, hcontent, h⟩ := bind_eq_ok.mp h
        obtain ⟨rest, hrs, h⟩ := bind_eq_ok.mp h
        obtain rfl := Except.ok.inj hcontent
        obtain rfl := Except.ok.inj h
        exact List.forall_mem_cons.mpr ⟨hw, ih hgrest hrest hrs⟩
      · exact ih hgrest hrest h

/-- What the optional values in an array contain fits what they fit. -/
theorem fits_of_contents {rs : List Value} (hgenuine : v.Genuine)
    (hv : (array (maybe t)).Fits P v)
    (h : (do presentContents (← v.elements)) = .ok rs) : ∀ r ∈ rs, t.Fits P r := by
  obtain ⟨hkind, items, hitems, hall⟩ := Ty.fits_array.mp hv
  obtain ⟨items', hsequence, helements, -⟩ := exists_items_of_kind hkind
  obtain rfl := Except.ok.inj (hitems.symm.trans helements)
  rw [hitems] at h
  exact fits_of_presentContents (fun x hx => hgenuine.item hsequence hx) hall h

/-- What is read from a value is an optional value. -/
theorem eq_of_get {representative name : Value} (h : get representative name v = .ok r) :
    r = nothing ∨ ∃ x, r = just x := by
  obtain ⟨found, -, h⟩ := bind_eq_ok.mp h
  obtain ⟨passes, -, h⟩ := bind_eq_ok.mp h
  obtain rfl := Except.ok.inj h
  exact presentIf_eq passes found

theorem eq_of_gets {representative names : Value} (h : gets representative names v = .ok r) :
    r = nothing ∨ ∃ x, r = just x := by
  obtain ⟨path, -, h⟩ := bind_eq_ok.mp h
  obtain ⟨answer, -, h⟩ := bind_eq_ok.mp h
  cases answer with
  | none =>
    obtain rfl := Except.ok.inj h
    exact .inl rfl
  | some found =>
    obtain ⟨passes, -, h⟩ := bind_eq_ok.mp h
    obtain rfl := Except.ok.inj h
    exact presentIf_eq passes found

end Value

namespace Run

variable {α : Type} {m m' : Machine}

omit [Host] in
theorem eq_ok_of_ofAttempt {x : Attempt α} {a : α} (h : ofAttempt x m = (.ok a, m')) :
    x = .ok a := (Prod.mk.inj h).1

omit [Host] in
theorem eq_of_pure {a b : α} (h : (pure a : Run α) m = (.ok b, m')) : b = a :=
  (Except.ok.inj (Prod.mk.inj h).1).symm

omit [Host] in
/-- The answer of a part that is put into something else. -/
theorem eq_of_return {x : Attempt α} {f : α → Value} {r : Value}
    (h : (do return f (← ofAttempt x) : Run Value) m = (.ok r, m')) :
    ∃ a, x = .ok a ∧ r = f a := by
  obtain ⟨a, m₁, ha, h⟩ := eq_ok_of_bind h
  exact ⟨a, eq_ok_of_ofAttempt ha, eq_of_pure h⟩

end Run

namespace Standard

open Run

variable {P : TypeVar → Value → Prop} {t : Ty} {call : Call} {v f g x r : Value} {m m' : Machine}

/-- A function of texts answers what it makes of a text. -/
theorem eq_of_onText {name : String} {ofText : String → Value} {ofBytes : List UInt8 → Value}
    (hv : v.kind = .string) (h : onText call name ofText ofBytes v m = (.ok r, m')) :
    ∃ s, r = ofText s := by
  obtain ⟨s, hs⟩ := Value.exists_text_of_kind hv
  unfold onText at h
  rw [hs] at h
  exact ⟨s, eq_of_pure h⟩

/-- The keys of a map of strings are strings. -/
theorem fits_of_keysOf (hgenuine : v.Genuine) (hv : (Ty.stringMap t).Fits P v)
    (h : keysOf call v m = (.ok r, m')) : (Ty.array Ty.string).Fits P r := by
  obtain ⟨entries, rfl, hkeys, -⟩ := Ty.fits_stringMap.mp hv
  obtain rfl := eq_of_pure h
  refine Ty.fits_list.mpr (List.forall_mem_map.mpr fun e he => ?_)
  exact Ty.fits_string.mpr ((hgenuine.key he).kind_of_isText (hkeys e he))

/-- The values of a map fit what they fit. -/
theorem fits_of_valuesOf (hv : (Ty.stringMap t).Fits P v) (h : valuesOf call v m = (.ok r, m')) :
    (Ty.array t).Fits P r := by
  obtain ⟨entries, rfl, -, hvalues⟩ := Ty.fits_stringMap.mp hv
  obtain rfl := eq_of_pure h
  exact Ty.fits_list.mpr (List.forall_mem_map.mpr hvalues)

/-- The content of an optional value fits what it fits, and so does a default that does. -/
theorem fits_of_contentOr (hgenuine : v.Genuine) (hx : t.Fits P x) (hv : (Ty.maybe t).Fits P v)
    (h : contentOr call x v m = (.ok r, m')) : t.Fits P r := by
  rcases Ty.fits_maybe hgenuine hv with rfl | ⟨w, rfl, hw⟩
  · obtain rfl := eq_of_pure h
    exact hx
  · obtain rfl := eq_of_pure h
    exact hw

/-- A call whose faults are caught answers an optional value. -/
theorem eq_of_encased (h : encased call f x m = (.ok r, m')) : r = .nothing ∨ ∃ v, r = .just v := by
  obtain ⟨answer, m₁, -, h⟩ := eq_ok_of_bind h
  cases answer with
  | ok v => exact .inr ⟨v, eq_of_pure h⟩
  | error e =>
    -- the record that is made of the fault has no part in the answer
    cases hnote : caughtNote f x with
    | ok note =>
      rw [hnote] at h
      obtain ⟨_, _, -, h⟩ := eq_ok_of_bind h
      exact .inl (eq_of_pure h)
    | error e' =>
      rw [hnote] at h
      exact .inl (eq_of_pure h)

omit [Host] in
/-- A call whose faults are answered by another one answers a failure or a success. -/
theorem eq_of_encasedEither (h : encasedEither call f g x m = (.ok r, m')) :
    ∃ v, r = .left v ∨ r = .right v := by
  obtain ⟨answer, m₁, -, h⟩ := eq_ok_of_bind h
  cases answer with
  | ok v => exact ⟨v, .inr (eq_of_pure h)⟩
  | error e =>
    obtain ⟨caught, m₂, -, h⟩ := eq_ok_of_bind h
    obtain ⟨w, m₃, -, h⟩ := eq_ok_of_bind h
    exact ⟨w, .inl (eq_of_pure h)⟩

end Standard

end CheckedCurry
