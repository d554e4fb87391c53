import CheckedCurry.Proofs.Value.Dispatch
import CheckedCurry.Proofs.Value.Merging

/-!
# Joining values of one sort

Texts, arrays, maps, and optional values whose contents are of one of these sorts again, are joined
without a fault, in either order of grouping, and joining with the empty value changes nothing.

An array of two sorts becomes a list, whichever of the two comes first.  A map keeps the keys of the
first value in their places and takes what the second one has under them.

- `JoinSort`, `JoinSort.Has`: the sorts, and the values of each.
- `Value.joined`: two values of one sort joined; `perform_concat_eq_joined`: it is what joining does.
- `joined_assoc`, `exists_empty`: the laws.
- `concat_empty_monoid`: the laws of the operations themselves.
-/

namespace CheckedCurry.Value

/-! ## Sorts -/

/-- A sort of values that can be joined. -/
inductive JoinSort where
  | text
  /-- Lists and tuples. -/
  | array
  | map
  /-- Optional values, the contents being of one sort. -/
  | optional (content : JoinSort)

/-- The values of a sort. -/
inductive JoinSort.Has : JoinSort → Value → Prop
  | text (s : String) : Has .text (.text s)
  | list (items : List Value) : Has .array (.list items)
  | tuple (items : List Value) : Has .array (.tuple items)
  | map {entries : List (Value × Value)} (distinct : HasDistinctKeys entries) :
    Has .map (.map entries)
  | nothing (σ : JoinSort) : Has (.optional σ) .nothing
  | just {σ : JoinSort} {v : Value} (content : Has σ v) : Has (.optional σ) (.just v)

/-- Two values of one sort joined.  Of two values of different sorts the first one is left. -/
def joined : Value → Value → Value
  | text s, text t => text (s ++ t)
  | list xs, list ys => list (xs ++ ys)
  | tuple xs, tuple ys => tuple (xs ++ ys)
  | list xs, tuple ys | tuple xs, list ys => list (xs ++ ys)
  | map es, map fs => map (putAll es fs)
  | nothing, w => w
  | just v, just w => just (joined v w)
  | v, _ => v

variable {σ : JoinSort} {x y z : Value}

/-- What is joined is of the sort again. -/
theorem JoinSort.Has.joined (hx : σ.Has x) (hy : σ.Has y) : σ.Has (x.joined y) := by
  induction hx generalizing y with
  | text s =>
    cases hy
    exact .text _
  | list xs =>
    cases hy <;> exact .list _
  | tuple xs =>
    cases hy with
    | list ys => exact .list _
    | tuple ys => exact .tuple _
  | map hes =>
    cases hy
    exact .map (hes.putAll _)
  | nothing σ => exact hy
  | just hv ih =>
    cases hy with
    | nothing => exact .just hv
    | just hw => exact .just (ih hw)

variable [Host]

/-! ## What joining does -/

theorem joinWith_just_nothing (mark : Nat) (v : Value) :
    joinWith mark (just v) nothing = .ok (just v) := by
  rw [joinWith]
  rfl

theorem joinWith_just_just (mark : Nat) (v w : Value) :
    joinWith mark (just v) (just w) = just <$> joinWith mark v w := by
  rw [joinWith]
  rfl

theorem joinWith_map (mark : Nat) {es fs : List (Value × Value)} (hes : HasDistinctKeys es) :
    joinWith mark (map es) (map fs) = .ok (map (putAll es fs)) := by
  have hjoin : joinWith mark (map es) (map fs) = .ok (mapOf (es ++ fs)) := by
    unfold joinWith
    rfl
  rw [hjoin, mapOf_append, putAll_nil_left hes]

/-- Two values of one sort are joined without a fault. -/
theorem joinWith_eq_joined (mark : Nat) (hx : σ.Has x) (hy : σ.Has y) :
    joinWith mark x y = .ok (x.joined y) := by
  induction hx generalizing y with
  | text s =>
    cases hy
    unfold joinWith
    rfl
  | list xs | tuple xs =>
    cases hy <;> (unfold joinWith; rfl)
  | map hes =>
    cases hy
    exact joinWith_map mark hes
  | nothing σ => exact joinWith_nothing mark y
  | just hv ih =>
    cases hy with
    | nothing => exact joinWith_just_nothing mark _
    | just hw =>
      rw [joinWith_just_just, ih hw]
      rfl

theorem perform_concat_eq_joined (mark : Nat) (hx : σ.Has x) (hy : σ.Has y) :
    perform mark .concat x [y] = .ok (x.joined y) :=
  (perform_concat mark x y).trans (joinWith_eq_joined mark hx hy)

/-! ## The laws -/

omit [Host] in
/-- Three values of one sort may be joined in either order. -/
theorem joined_assoc (hx : σ.Has x) (hy : σ.Has y) (hz : σ.Has z) :
    (x.joined y).joined z = x.joined (y.joined z) := by
  induction hx generalizing y z with
  | text s =>
    cases hy
    cases hz
    exact congrArg text (String.append_assoc ..)
  | list xs =>
    -- the result is a list, whatever the other two are
    cases hy <;> cases hz <;> exact congrArg list (List.append_assoc ..)
  | tuple xs =>
    cases hy with
    | list ys => cases hz <;> exact congrArg list (List.append_assoc ..)
    | tuple ys =>
      cases hz with
      | list zs => exact congrArg list (List.append_assoc ..)
      | tuple zs => exact congrArg tuple (List.append_assoc ..)
  | map hes =>
    cases hy with
    | map hfs =>
      cases hz
      exact congrArg map (putAll_putAll hfs _ _).symm
  | nothing σ => rfl
  | just hv ih =>
    cases hy with
    | nothing => rfl
    | just hw =>
      cases hz with
      | nothing => rfl
      | just hu => exact congrArg just (ih hw hu)

/-- Joining with the empty value of a value changes nothing. -/
theorem exists_empty (hx : σ.Has x) :
    ∃ e, (∀ mark, perform mark .empty x [] = .ok e) ∧ σ.Has e ∧ x.joined e = x ∧
      e.joined x = x := by
  cases hx with
  | text s =>
    exact ⟨text "", fun _ => rfl, .text "", congrArg text String.append_empty,
      congrArg text String.empty_append⟩
  | list xs => exact ⟨list [], fun _ => rfl, .list [], congrArg list (List.append_nil xs), rfl⟩
  | tuple xs => exact ⟨tuple [], fun _ => rfl, .tuple [], congrArg tuple (List.append_nil xs), rfl⟩
  | map hes =>
    exact ⟨map [], fun _ => rfl, .map .nil, rfl, congrArg map (putAll_nil_left hes)⟩
  | nothing σ => exact ⟨nothing, fun _ => rfl, .nothing σ, rfl, rfl⟩
  | just hv => exact ⟨nothing, fun _ => rfl, .nothing _, rfl, rfl⟩

/-- **Joining and emptying are the operations of a monoid** on the values of each sort: three values
are joined without a fault and alike in either order, and joining a value with its empty value, on
either side, gives the value. -/
theorem concat_empty_monoid (hx : σ.Has x) (hy : σ.Has y) (hz : σ.Has z) (m n : Nat) :
    (∃ r, σ.Has r ∧
      (do perform n .concat (← perform m .concat x [y]) [z]) = .ok r ∧
      (do perform n .concat x [← perform m .concat y [z]]) = .ok r) ∧
    (do perform n .concat x [← perform m .empty x []]) = .ok x ∧
    (do perform n .concat (← perform m .empty x []) [x]) = .ok x := by
  obtain ⟨e, hempty, he, hright, hleft⟩ := exists_empty hx
  refine ⟨⟨x.joined (y.joined z), hx.joined (hy.joined hz), ?_, ?_⟩, ?_, ?_⟩
  · rw [perform_concat_eq_joined m hx hy, ← joined_assoc hx hy hz]
    exact perform_concat_eq_joined n (hx.joined hy) hz
  · rw [perform_concat_eq_joined m hy hz]
    exact perform_concat_eq_joined n hx (hy.joined hz)
  · rw [hempty m]
    exact (perform_concat_eq_joined n hx he).trans (congrArg Except.ok hright)
  · rw [hempty m]
    exact (perform_concat_eq_joined n he hx).trans (congrArg Except.ok hleft)

/-- Optional maps with keys in common: zero is written in three ways. -/
def optionalMaps : Value × Value × Value :=
  (just (map [(text "a", int 1), (int 0, int 2)]),
    just (map [(number (.float (.ofRatio false 0 1)), int 3), (text "b", int 4)]),
    just (map [(text "b", int 5), (no, int 6)]))

omit [Host] in
theorem concat_empty_monoid_optionalMaps : letI : Host := .bare
    let x := optionalMaps.1
    let y := optionalMaps.2.1
    let z := optionalMaps.2.2
    (∃ r, (JoinSort.optional .map).Has r ∧
      (do perform 1 .concat (← perform 0 .concat x [y]) [z]) = .ok r ∧
      (do perform 1 .concat x [← perform 0 .concat y [z]]) = .ok r) ∧
    (do perform 1 .concat x [← perform 0 .empty x []]) = .ok x ∧
    (do perform 1 .concat (← perform 0 .empty x []) [x]) = .ok x := by
  let _ : Host := .bare
  exact concat_empty_monoid (.just (.map (by unfold HasDistinctKeys; decide)))
    (.just (.map (by unfold HasDistinctKeys; decide)))
    (.just (.map (by unfold HasDistinctKeys; decide))) 0 1

end CheckedCurry.Value
