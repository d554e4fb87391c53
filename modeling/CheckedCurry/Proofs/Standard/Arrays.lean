import CheckedCurry.Proofs.Standard.Logic
import CheckedCurry.Proofs.Value.Genuine
import CheckedCurry.Proofs.Value.Spread

/-!
# Joining arrays

Lists, tuples, named tuples, progressions and sequences that are extended at both ends are arrays, and so
are objects that are lists in addition.  Two arrays of different classes are joined by spreading both
into a new list; two of one class are added, which keeps their sort.  Progressions cannot be added.

- `Value.ArraySort`, `Value.IsArray`: the sorts of arrays, and the arrays of a sort with their elements.
- `Value.IsArray.plus`: the sum of two arrays of one sort.
- `Library.concat_arrays`: what joining two arrays comes to, in every case.
-/

namespace CheckedCurry

open Capability (Operation)

namespace Value

variable {v w : Value} {xs ys : List Value} {p : Progression} {mark : Nat}

/-! ## Sorts of arrays -/

/-- The sorts of arrays.  A tuple whose elements have names is a tuple. -/
inductive ArraySort where
  | list
  | tuple
  | range
  | deque
  deriving DecidableEq

/-- The sort of an array. -/
def arraySort? (v : Value) : Option ArraySort :=
  match v.core with
  | list _ => some .list
  | tuple _ | identifier _ => some .tuple
  | range _ => some .range
  | deque _ => some .deque
  | _ => none

/-- A value is an array of a sort and has the elements. -/
inductive IsArray (v : Value) (xs : List Value) : ArraySort → Prop
  | list (core : v.core = list xs) : IsArray v xs .list
  | tuple (core : v.core.tuple? = some xs) : IsArray v xs .tuple
  | range {p : Progression} (core : v.core = range p) (elements : xs = p.elements.map int) :
    IsArray v xs .range
  | deque (core : v.core = deque xs) : IsArray v xs .deque

theorem isArray_of_kind (h : v.kind = .array) (hxs : v.elements = .ok xs) :
    ∃ σ, v.IsArray xs σ ∧ v.arraySort? = some σ := by
  obtain ⟨items, hsequence, helements, -⟩ := exists_items_of_kind h
  obtain rfl := Except.ok.inj (hxs.symm.trans helements)
  unfold sequence? at hsequence
  unfold arraySort?
  rcases core_of_kind_array h with ⟨vs, hv⟩ | ⟨vs, hv⟩ | ⟨p, hv⟩ | ⟨i, hv⟩ | ⟨vs, hv⟩
  all_goals
    rw [hv] at hsequence ⊢
    obtain rfl := Option.some.inj hsequence
  · exact ⟨.list, .list hv, rfl⟩
  · exact ⟨.tuple, .tuple (by rw [hv]; rfl), rfl⟩
  · exact ⟨.range, .range hv rfl, rfl⟩
  · exact ⟨.tuple, .tuple (by rw [hv]; rfl), rfl⟩
  · exact ⟨.deque, .deque hv, rfl⟩

/-! ## Sums -/

theorem plus_of_lists (hv : v.core = list xs) (hw : w.core = list ys) :
    plus mark v w = .ok (list (xs ++ ys)) := by
  unfold plus
  rw [hv, hw]

theorem plus_of_deques (hv : v.core = deque xs) (hw : w.core = deque ys) :
    plus mark v w = .ok (deque (xs ++ ys)) := by
  unfold plus
  rw [hv, hw]

theorem plus_of_tuples (hv : v.core.tuple? = some xs) (hw : w.core.tuple? = some ys) :
    plus mark v w = .ok (tuple (xs ++ ys)) := by
  unfold plus
  cases hvcore : v.core with
  | tuple | identifier =>
    rw [hvcore] at hv
    simp only [hv, hw]
  | _ =>
    rw [hvcore] at hv
    cases hv

/-- **Two arrays of one sort, other than progressions, can be added.**  The sum is an array: the
elements of the first one and then those of the second. -/
theorem IsArray.plus {σ : ArraySort} (hv : v.IsArray xs σ) (hw : w.IsArray ys σ)
    (hσ : σ ≠ .range) :
    ∃ r, (∀ mark, plus mark v w = .ok r) ∧ r.kind = .array ∧ r.elements = .ok (xs ++ ys) := by
  cases hv with
  | list hv =>
    cases hw with
    | list hw => exact ⟨_, fun _ => plus_of_lists hv hw, rfl, rfl⟩
  | tuple hv =>
    cases hw with
    | tuple hw => exact ⟨_, fun _ => plus_of_tuples hv hw, rfl, rfl⟩
  | range => exact absurd rfl hσ
  | deque hv =>
    cases hw with
    | deque hw => exact ⟨_, fun _ => plus_of_deques hv hw, rfl, rfl⟩

/-! ## Joining -/

/-- Arrays that are no optional values are joined as arrays. -/
theorem perform_concat_array [Host] (hv : v.kind = .array) (w : Value) (mark : Nat) :
    perform mark .concat v [w] = joinArrays mark v w := by
  have hunifier : v.unifier = Kind.array.name := unifier_of_kind hv (by decide)
  have hflat : joinFlat mark v w = joinArrays mark v w := by
    unfold joinFlat
    rw [hunifier, if_neg (by decide), if_pos rfl]
  have hnone : v.identifier? = none := identifier?_of_kind (by rw [hv]; decide)
  rw [perform_concat, ← hflat]
  cases v with
  | nothing | just => cases hnone
  | object shape attrs base =>
    have htag : shape.tag.identifier? = none := hnone
    rw [joinWith, htag, if_neg (by simp)]
  | _ => unfold joinWith; rfl

/-- Progressions of one class are not joined. -/
theorem joinArrays_of_ranges [Host] (hclass : v.classOf = w.classOf) (hv : v.core = range p) :
    joinArrays mark v w = .error (.basic (.unsupported "+" "range" "range")) := by
  unfold joinArrays
  rw [if_pos hclass, hv]
  rfl

/-- Other arrays of one class are joined by adding them. -/
theorem joinArrays_of_class [Host] (hclass : v.classOf = w.classOf) (hv : ∀ p, v.core ≠ range p) :
    joinArrays mark v w = plus mark v w := by
  unfold joinArrays
  rw [if_pos hclass]
  split
  · rename_i p hp
    exact absurd hp (hv p)
  · rfl

end Value

namespace Library

open Standard Value

variable {l : Library} {x y : Value} {out : Attempt Value}

/-- Joining two values ends in an outcome: the operation does, and so does a call in any state. -/
def Joins [Host] (l : Library) (x y : Value) (out : Attempt Value) : Prop :=
  (∀ mark, perform mark .concat x [y] = out) ∧
    ∀ m, Run.call (l.function .concat) [x, y] m = (out, m.advance)

variable [Host]

/-- A call with two values that can be joined comes to what the operation comes to. -/
theorem joins_of_perform (hsuit : Standard.concat.Suit x y)
    (h : ∀ mark, perform mark .concat x [y] = out)
    (hr : ∀ r, out = .ok r → r.unifier = x.unifier) : l.Joins x y out := by
  refine ⟨h, fun m => ?_⟩
  have hclosed : ∀ v ∈ [x, y], v.isOpen = false := by
    simp [hsuit.left_closed, hsuit.right_closed]
  have hrun (call : Call) : Standard.concat.run call [x, y] m = (out, m.advance) :=
    congrArg (·, m.advance) (h m.nextMark)
  obtain ⟨σ, hfit⟩ := (suit_iff_fitAll (by decide) hsuit.left_closed hsuit.right_closed).mp hsuit
  cases out with
  | error f => exact call_eq_error rfl hclosed (admitsAll_of_fitAll hfit) hrun
  | ok r =>
    refine call_eq_ok rfl hclosed (admitsAll_of_fitAll hfit) (admits_iff_reading.mpr ?_) hrun
    rw [params_of_operating (by decide)] at hfit
    obtain ⟨_, _, hpair, hx, -⟩ := hfit.two
    cases hpair
    rw [Ty.fits_var] at hx
    exact (Ty.fits_var _).mpr ((oneUnifier_reading _ σ a x r hx).mpr (hr r rfl))

/-- **Joining arrays.**  Let two arrays be given whose classes do not mix sorts of arrays.

Unless both are progressions, and as long as the progressions among them can be held, they are joined:
the outcome is an array, which has the elements of the first one followed by those of the second.

Two progressions are never joined, however short they are: they are of one class, and their sum is
not defined.  A progression that is too long to be held is not joined with anything. -/
theorem concat_arrays (l : Library) (hx : x.kind = .array) (hy : y.kind = .array)
    (hxclosed : x.isOpen = false) (hyclosed : y.isOpen = false)
    (hsorts : x.classOf = y.classOf → x.arraySort? = y.arraySort?) :
    ∃ xs ys, x.elements = .ok xs ∧ y.elements = .ok ys ∧
      ((x.classOf = y.classOf → x.arraySort? ≠ some .range) → x.IsHeld → y.IsHeld →
        ∃ r, l.Joins x y (.ok r) ∧ r.kind = .array ∧ r.elements = .ok (xs ++ ys)) ∧
      (x.classOf = y.classOf → x.arraySort? = some .range →
        l.Joins x y (.error (.basic (.unsupported "+" "range" "range")))) ∧
      (x.classOf ≠ y.classOf → ¬ (x.IsHeld ∧ y.IsHeld) →
        ∃ f, l.Joins x y (.error f) ∧ IsTooLong f) := by
  obtain ⟨xs, -, hxs, -⟩ := exists_items_of_kind hx
  obtain ⟨ys, -, hys, -⟩ := exists_items_of_kind hy
  obtain ⟨σ, hxsort, hσ⟩ := isArray_of_kind hx hxs
  obtain ⟨τ, hysort, hτ⟩ := isArray_of_kind hy hys
  have hunifier : x.unifier = Kind.array.name := unifier_of_kind hx (by decide)
  have hsuit : Standard.concat.Suit x y := by
    refine ⟨hxclosed, hyclosed, (unifier_of_kind hy (by decide)).trans hunifier.symm, ?_⟩
    refine List.forall_mem_singleton.mpr ?_
    unfold Value.supports
    rw [hunifier]
    decide
  have hjoins {out : Attempt Value} (h : ∀ mark, joinArrays mark x y = out)
      (hr : ∀ r, out = .ok r → r.kind = .array) : l.Joins x y out := by
    refine joins_of_perform hsuit (fun mark => ?_) fun r hout => ?_
    · rw [perform_concat_array hx, h mark]
    · rw [unifier_of_kind (hr r hout) (by decide), hunifier]
  refine ⟨xs, ys, hxs, hys, fun hrange hxheld hyheld => ?_, fun hclass hrange => ?_,
    fun hclass hlong => ?_⟩
  · by_cases hclass : x.classOf = y.classOf
    · -- both are of one sort that can be added
      obtain rfl : σ = τ := Option.some.inj (hσ.symm.trans ((hsorts hclass).trans hτ))
      have hne : σ ≠ .range := fun h => hrange hclass (hσ.trans (congrArg some h))
      obtain ⟨r, hr, hkind, helements⟩ := hxsort.plus hysort hne
      refine ⟨r, hjoins (fun mark => ?_) ?_, hkind, helements⟩
      · rw [joinArrays_of_class hclass, hr mark]
        intro p hp
        exact hrange hclass (by rw [arraySort?, hp])
      · rintro _ ⟨⟩
        exact hkind
    · refine ⟨list (xs ++ ys), hjoins (fun mark => ?_) ?_, rfl, rfl⟩
      · rw [joinArrays, if_neg hclass, spread_of_isHeld hxheld, spread_of_isHeld hyheld, hxs, hys]
        rfl
      · rintro _ ⟨⟩
        rfl
  · obtain rfl : σ = .range := Option.some.inj (hσ.symm.trans hrange)
    cases hxsort with
    | range hcore => exact hjoins (fun _ => joinArrays_of_ranges hclass hcore) nofun
  · have hspread : ∃ f, (∀ mark, joinArrays mark x y = .error f) ∧ IsTooLong f := by
      by_cases hxheld : x.IsHeld
      · obtain ⟨f, hf, htoo⟩ := spread_of_not_isHeld fun hyheld => hlong ⟨hxheld, hyheld⟩
        refine ⟨f, fun mark => ?_, htoo⟩
        rw [joinArrays, if_neg hclass, spread_of_isHeld hxheld, hxs, hf]
        rfl
      · obtain ⟨f, hf, htoo⟩ := spread_of_not_isHeld hxheld
        refine ⟨f, fun mark => ?_, htoo⟩
        rw [joinArrays, if_neg hclass, hf]
        rfl
    obtain ⟨f, hf, htoo⟩ := hspread
    exact ⟨f, hjoins hf nofun, htoo⟩

omit [Host] in
/-- Two numbers in a row, followed by the parts of an identifier, become a list of five; followed by
themselves they become nothing. -/
theorem concat_arrays_row : letI : Host := .bare
    let l := Library.standard true
    let x : Value := .range ⟨0, 2, 1⟩
    let y : Value := .identifier ⟨some "haven", "Maybe", 1⟩
    x.kind = .array ∧ y.kind = .array ∧ x.isOpen = false ∧ y.isOpen = false ∧
    x.classOf ≠ y.classOf ∧ x.arraySort? = some .range ∧
    (∃ r, l.Joins x y (.ok r) ∧ r.kind = .array ∧
      r.elements = .ok [int 0, int 1, text "haven", text "Maybe", int 1]) ∧
    l.Joins x x (.error (.basic (.unsupported "+" "range" "range"))) := by
  let _ : Host := .bare
  intro l x y
  have hclass : x.classOf ≠ y.classOf := by decide
  have hxheld : x.IsHeld := by
    intro p hp
    obtain rfl := range.inj hp
    decide
  have hyheld : y.IsHeld := nofun
  obtain ⟨xs, ys, hxs, hys, hjoined, -, -⟩ :=
    concat_arrays l (x := x) (y := y) rfl rfl rfl rfl fun h => absurd h hclass
  obtain ⟨-, -, -, -, -, hranges, -⟩ :=
    concat_arrays l (x := x) (y := x) rfl rfl rfl rfl fun _ => rfl
  obtain ⟨r, hr, hkind, helements⟩ := hjoined (fun h => absurd h hclass) hxheld hyheld
  obtain rfl := Except.ok.inj hxs
  obtain rfl := Except.ok.inj hys
  exact ⟨rfl, rfl, rfl, rfl, hclass, rfl, ⟨r, hr, hkind, helements⟩, hranges rfl rfl⟩

end Library

end CheckedCurry
