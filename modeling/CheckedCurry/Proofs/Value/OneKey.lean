import CheckedCurry.Proofs.Value.Comparing

/-!
# Values that are one key

In lists and tuples, elements that are one key are not compared: they are taken to be equal.  That is
what comparing them would have found, unless they are not a number, which is looked up by where it
came from and does not equal itself.

- `leafEquals_of_sameKey`, `equals_of_shapedKey`: values without contents, and with contents.
- `Value.bare`: what is under optional values, failures and successes.
- `Value.Stands`: the values for which a key decides.
- `Stands.equals_of_sameKey`: values that are one key are equal.
-/

namespace CheckedCurry

theorem Identifier.key_injective {i j : Identifier} (h : i.key = j.key) : i = j := by
  obtain ⟨space, name, version⟩ := i
  obtain ⟨space', name', version'⟩ := j
  unfold Identifier.key at h
  cases space <;> cases space' <;> simp_all

namespace Value

variable {v w : Value} {vs ws : List Value} {k : Key}

/-! ## Values without contents -/

/-- Values with one key, which is not about where they came from, are equal. -/
theorem leafEq_of_key (hv : v.key = .ok k) (hw : w.key = .ok k) (hmarked : k.isMarked = false) :
    leafEq v w = true := by
  unfold leafEq
  rw [point?_of_key hv hmarked, point?_of_key hw hmarked]
  cases hpoint : k.point? with
  | none => exact sameKey_of_key hv hw
  | some x =>
    have heq : x.eq x = true := by
      cases k <;> simp only [Key.point?, Option.some.injEq, reduceCtorEq] at hpoint
      all_goals
        subst hpoint
        exact beq_self_eq_true _
    exact heq

/-- Values without contents that are one key are equal, unless they are nowhere. -/
theorem leafEquals_of_sameKey (h : sameKey v w = true) (hv : v.core.point? ≠ some .nowhere)
    (hw : w.core.point? ≠ some .nowhere) : leafEquals v w = .ok true := by
  rw [leafEquals_answers (isSignaling_of_point? hv) (isSignaling_of_point? hw)]
  obtain ⟨k, hkv, hkw⟩ := exists_of_sameKey h
  cases hmarked : k.isMarked with
  | false => rw [leafEq_of_key hkv hkw hmarked]
  | true =>
    unfold leafEq
    rw [point?_of_isMarked hkv hmarked hv, point?_of_isMarked hkw hmarked hw]
    exact congrArg Except.ok h

/-! ## Tuples -/

/-- The elements of tuples that are one key are equal in turn, since none of them is compared. -/
theorem equalElements_of_keyTuple (hv : keyTuple vs = .ok k) (hw : keyTuple ws = .ok k) :
    equalElements vs ws = .ok true := by
  induction vs generalizing ws k with
  | nil =>
    obtain rfl := Except.ok.inj hv
    obtain rfl := eq_nil_of_keyTuple hw
    rw [equalElements]
  | cons v vs ih =>
    obtain ⟨_, _, rfl, hfirst, hrest⟩ := exists_of_keyTuple_cons hv
    obtain ⟨w, ws', rfl, hfirst', hrest'⟩ := exists_of_keyTuple_item hw
    rw [equalElements, if_pos (sameKey_of_key hfirst hfirst')]
    exact ih hrest hrest'

/-- A tuple with the key of an identifier has the parts of the identifier. -/
theorem identifierEq_of_keyTuple {i : Identifier} (h : keyTuple ws = .ok i.key) :
    identifierEq i ws = true := by
  obtain ⟨space, name, version⟩ := i
  obtain ⟨x, ws, rfl, hx, h⟩ := exists_of_keyTuple_item h
  obtain ⟨y, ws, rfl, hy, h⟩ := exists_of_keyTuple_item h
  obtain ⟨z, ws, rfl, hz, h⟩ := exists_of_keyTuple_item h
  obtain rfl := eq_nil_of_keyTuple h
  have hname : leafEq (text name) y = true := leafEq_of_key rfl hy rfl
  have hversion : leafEq (int version) z = true := leafEq_of_key rfl hz rfl
  unfold identifierEq
  cases space with
  | none => simp [leafEq_of_key (v := null) rfl hx rfl, hname, hversion]
  | some s => simp [leafEq_of_key (v := text s) rfl hx rfl, hname, hversion]

/-! ## All values -/

/-- What is under optional values, failures and successes. -/
def bare : Value → Value
  | just v | left v | right v => bare v
  | v => v

/-- Comparing a value with itself would find it to be equal: it is not a number that is nowhere, under
optional values, failures and successes. -/
structure Stands (v : Value) : Prop where
  number : v.bare.core.point? ≠ some .nowhere

/-- A value is the content of another one. -/
inductive IsContent (v : Value) : Value → Prop
  | just : IsContent v (just v)
  | left : IsContent v (left v)
  | right : IsContent v (right v)

/-- Two values with one shaped key are equal if their contents are. -/
theorem equals_of_shapedKey (hv : ShapedKey v k) (hw : ShapedKey w k)
    (ih : ∀ v' w', IsContent v' v → IsContent w' w → sameKey v' w' = true →
      equals v' w' = .ok true) : equals v w = .ok true := by
  cases hv with
  | empty =>
    cases hw with
    | empty => rw [equals, equalElements]
  | item head tail =>
    generalize hk : Key.item _ _ = k at hw
    cases hw with
    | item head' tail' =>
      obtain ⟨rfl, rfl⟩ := Key.item.inj hk
      rw [equals]
      exact equalElements_of_keyTuple (keyTuple_cons head tail) (keyTuple_cons head' tail')
    | identifier i =>
      rw [equals, identifierEq_of_keyTuple ((keyTuple_cons head tail).trans (congrArg _ hk))]
    | _ => cases hk
  | identifier i =>
    generalize hk : Identifier.key i = k at hw
    cases hw with
    | item head tail =>
      rw [equals, identifierEq_of_keyTuple ((keyTuple_cons head tail).trans (congrArg _ hk.symm))]
    | identifier j =>
      obtain rfl := Identifier.key_injective hk
      rw [equals, beq_self_eq_true]
    | _ => cases hk
  | nothing =>
    cases hw with
    | nothing => rw [equals]
  | just content =>
    cases hw with
    | just content' =>
      rw [equals]
      exact ih _ _ .just .just (sameKey_of_key content content')
  | left content =>
    cases hw with
    | left content' =>
      rw [equals]
      exact ih _ _ .left .left (sameKey_of_key content content')
  | right content =>
    cases hw with
    | right content' =>
      rw [equals]
      exact ih _ _ .right .right (sameKey_of_key content content')

theorem IsContent.bare_eq (h : IsContent v w) : w.bare = v.bare := by
  cases h <;> rw [bare]

theorem IsContent.depth_lt (h : IsContent v w) : v.depth < w.depth := by
  cases h <;>
    · conv => rhs; rw [depth]
      exact Nat.lt_succ_self _

theorem Stands.content (h : w.Stands) (hv : IsContent v w) : v.Stands :=
  ⟨hv.bare_eq ▸ h.number⟩

theorem bare_of_not_isShaped (h : v.isShaped = false) : v.bare = v := by
  cases v <;> first | rfl | cases h

/-- Two values that are no containers, and one key, are equal. -/
theorem equals_of_not_isShaped (hv : v.isShaped = false) (hw : w.isShaped = false)
    (hleaf : leafEquals v w = .ok true) (hk : v.key = .ok k) : equals v w = .ok true := by
  rw [← hleaf]
  cases v with
  | object shape attrs base =>
    refine equals_object (fun vs ws hbase _ => ?_) ?_
    · subst hbase
      cases hk
    · rintro (rfl | ⟨_, rfl | rfl | rfl⟩) <;> cases hw
  | list | deque | tuple | identifier | map | nothing | just | left | right => cases hv
  | _ => exact equals_of_isLeaf rfl w

/-- **Values that are one key are equal**, as far as they stand for themselves. -/
theorem Stands.equals_of_sameKey (hv : v.Stands) (hw : w.Stands) (h : sameKey v w = true) :
    equals v w = .ok true := by
  obtain ⟨k, hkv, hkw⟩ := exists_of_sameKey h
  induction hn : v.depth using Nat.strongRecOn generalizing v w k with
  | ind n ih =>
    cases hshaped : k.isShaped with
    | true =>
      refine equals_of_shapedKey (shapedKey_of_key hkv hshaped) (shapedKey_of_key hkw hshaped) ?_
      intro v' w' hv' hw' hsame
      obtain ⟨l, hl, hl'⟩ := exists_of_sameKey hsame
      exact ih v'.depth (hn ▸ hv'.depth_lt) (hv.content hv') (hw.content hw') hsame l hl hl' rfl
    | false =>
      have hother {u : Value} (hu : u.key = .ok k) : u.isShaped = false := by
        by_contra hnot
        rw [(shapedKey_of_isShaped (by simpa using hnot) hu).isShaped] at hshaped
        cases hshaped
      have hvbare := bare_of_not_isShaped (hother hkv)
      have hwbare := bare_of_not_isShaped (hother hkw)
      refine equals_of_not_isShaped (hother hkv) (hother hkw) ?_ hkv
      exact leafEquals_of_sameKey h (hvbare ▸ hv.number) (hwbare ▸ hw.number)

end Value

end CheckedCurry
