import CheckedCurry.Proofs.Standard.Calls
import CheckedCurry.Proofs.Standard.Capability
import CheckedCurry.Proofs.Standard.Truth

/-!
# Logic on values

The functions of logic choose one of two values of the same kind by their truth.  Truth goes along
with the choice: what is answered is as true as the operator of that name says, and the first two
functions are associative like their operators, since they keep the values themselves.

- `Standard.Suit`, `Library.accepts_iff`: which two arguments a call accepts.
- `Library.Gives`: a call answers, in any state; `gives_and`, `gives_or`, `gives_xor`.
- `Library.logic_boolean`: the laws.
- `Library.logic_unanswered`: arguments that are accepted, and no answer.
-/

namespace CheckedCurry

open Capability (Operation)

namespace Standard

variable {s : Standard} {x y z : Value}

/-- Two values of one unifier, with all that a function needs of them. -/
structure Suit (s : Standard) (x y : Value) : Prop where
  left_closed : x.isOpen = false
  right_closed : y.isOpen = false
  unifier : y.unifier = x.unifier
  supported : ∀ o ∈ s.operations, x.supports o = true

/-- Values that have the same unifier support the same operations. -/
theorem supports_congr {o : Operation} (h : y.unifier = x.unifier) :
    y.supports o = x.supports o := by
  unfold Value.supports
  rw [h]

theorem Suit.right_supported (h : s.Suit x y) : ∀ o ∈ s.operations, y.supports o = true :=
  fun o ho => (supports_congr h.unifier).trans (h.supported o ho)

theorem Suit.trans (hxy : s.Suit x y) (hyz : s.Suit y z) : s.Suit x z :=
  ⟨hxy.left_closed, hyz.right_closed, hyz.unifier.trans hxy.unifier, hxy.supported⟩

/-- Values suit a function exactly if they fit its parameters. -/
theorem suit_iff_fitAll [Host] (hs : s ∈ operating) (hx : x.isOpen = false) (hy : y.isOpen = false) :
    s.Suit x y ↔ ∃ σ, FitAll (s.reading σ) s.params [x, y] := by
  rw [params_of_operating hs]
  constructor
  · intro h
    have hreads {v : Value} (hunifier : v.unifier = x.unifier)
        (hsupported : ∀ o ∈ s.operations, v.supports o = true) :
        (Ty.var a).Fits (s.reading fun _ => x.unifier) v := by
      refine (Ty.fits_var a).mpr ⟨hunifier, ?_⟩
      rw [required_of_operating hs]
      exact List.forall_mem_map.mpr hsupported
    exact ⟨fun _ => x.unifier,
      .cons (hreads rfl h.supported) (.cons (hreads h.unifier h.right_supported) .nil)⟩
  · rintro ⟨σ, hfit⟩
    obtain ⟨x', y', hpair, hx', hy'⟩ := hfit.two
    cases hpair
    rw [Ty.fits_var] at hx' hy'
    refine ⟨hx, hy, hy'.1.trans hx'.1.symm, fun o ho => ?_⟩
    exact hx'.2 _ (ofOperation_mem_required hs ho)

/-- The functions of logic on two values. -/
def logical : List Standard := [and, or, xor]

theorem operating_of_logical (hs : s ∈ logical) : s ∈ operating := by
  cases s <;> revert hs <;> decide

theorem returns_of_logical (hs : s ∈ logical) : s.returns = .var a := by
  cases s with
  | and | or | xor => rfl
  | _ => exact absurd hs (by decide)

theorem toBoolean_of_logical (hs : s ∈ logical) : .toBoolean ∈ s.operations := by
  cases s <;> revert hs <;> decide

end Standard

namespace Library

open Curried Standard

variable {l : Library} {s : Standard} {x y z r : Value} {b c : Bool}

/-- A call with all arguments passes the checks of the arguments. -/
def Accepts [Host] (l : Library) (s : Standard) (vs : List Value) : Prop :=
  isSaturated vs = true ∧ (l.curriedOf s).supply? vs = .ok vs

/-- A call with two arguments answers, whatever the state, and leaves it as it is. -/
def Gives [Host] (l : Library) (s : Standard) (x y r : Value) : Prop :=
  ∀ m, Run.call (l.function s) [x, y] m = (.ok r, m)

variable [Host]

/-- **Two arguments are accepted exactly if they have one unifier, which supports what is needed.** -/
theorem accepts_iff (hchecked : l.isChecked = true) (hs : s ∈ operating) :
    l.Accepts s [x, y] ↔ s.Suit x y := by
  have harity : s.signature.arity = 2 := congrArg List.length (params_of_operating hs)
  constructor
  · rintro ⟨hfull, hsupply⟩
    have hclosed := isSaturated_iff_closed.mp hfull
    obtain ⟨hlen, σ, hσ⟩ := coherent_of_supplyAll? (c := l.curriedOf s) (if_pos hchecked)
      List.length_replicate (Signature.coherent_placeholders _ _)
      ((supplyAll?_concat_of_ok (supplyAll?_nil (l.curriedOf s)) [x, y]).trans hsupply)
    refine (suit_iff_fitAll hs (hclosed x (by simp)) (hclosed y (by simp))).mpr ⟨σ, ?_⟩
    exact fitAll_of_admitsAll hlen ((Signature.admitsFilled_iff_admitsAll hlen hclosed).mp hσ)
  · intro h
    have hclosed : ∀ v ∈ [x, y], v.isOpen = false := by simp [h.left_closed, h.right_closed]
    obtain ⟨σ, hfit⟩ := (suit_iff_fitAll hs h.left_closed h.right_closed).mp h
    exact ⟨isSaturated_iff_closed.mpr hclosed,
      supply?_of_admitted harity.symm hclosed (admitsAll_of_fitAll hfit)⟩

/-- A function of logic on two values that suit it answers what it makes of them, if that has their
unifier. -/
theorem gives_of_suit (hs : s ∈ logical) (h : s.Suit x y) (hr : r.unifier = x.unifier)
    (hrun : ∀ (call : Call) m, s.run call [x, y] m = (.ok r, m)) : l.Gives s x y r := by
  have hoperating := operating_of_logical hs
  have harity : s.signature.arity = 2 := congrArg List.length (params_of_operating hoperating)
  obtain ⟨σ, hfit⟩ := (suit_iff_fitAll hoperating h.left_closed h.right_closed).mp h
  intro m
  refine call_eq_ok harity.symm (by simp [h.left_closed, h.right_closed])
    (admitsAll_of_fitAll hfit) (admits_iff_reading.mpr ?_) fun call => hrun call m
  rw [params_of_operating hoperating] at hfit
  obtain ⟨_, _, hpair, hx, -⟩ := hfit.two
  cases hpair
  rw [Ty.fits_var] at hx
  rw [returns_of_logical hs, Ty.fits_var]
  exact (oneUnifier_reading s σ a x r hx).mpr hr

omit [Host] in
/-- A choice between two values of one unifier has that unifier. -/
theorem unifier_ite (h : y.unifier = x.unifier) :
    (if b then x else y).unifier = x.unifier := by
  cases b with
  | false => exact h
  | true => rfl

/-- The second of two values is answered if the first one is true. -/
theorem gives_and (h : Standard.and.Suit x y) (hx : x.HasTruth b) :
    l.Gives Standard.and x y (if b then y else x) := by
  refine gives_of_suit (by decide) h ?_ fun call m => congrArg (·, m) (hx.both_eq y)
  cases b with
  | false => rfl
  | true => exact h.unifier

/-- The first of two values is answered if it is true. -/
theorem gives_or (h : Standard.or.Suit x y) (hx : x.HasTruth b) :
    l.Gives Standard.or x y (if b then x else y) :=
  gives_of_suit (by decide) h (unifier_ite h.unifier) fun _ m => congrArg (·, m) (hx.oneOf_eq y)

/-- Of two values the one that alone is true is answered, or else an empty one, if there is one. -/
theorem gives_xor (h : Standard.xor.Suit x y) (hown : x.IsOwn) (hx : x.HasTruth b)
    (hy : y.HasTruth c) (hparts : x.HasParts ∨ b ≠ c) :
    ∃ r, l.Gives Standard.xor x y r ∧ r.HasTruth (b != c) := by
  have hempty := h.supported .empty (by decide)
  have hrun := hx.exclusive_eq hy hempty
  by_cases hbc : b = c
  · obtain ⟨e, he, hfalse, hunifier⟩ := hown.exists_empty (hparts.resolve_right (not_not.mpr hbc))
      (h.supported .toBoolean (by decide)) hempty
    rw [if_pos hbc, he] at hrun
    refine ⟨e, gives_of_suit (by decide) h hunifier fun _ m => congrArg (·, m) hrun, ?_⟩
    rwa [hbc, bne_self_eq_false]
  · rw [if_neg hbc] at hrun
    refine ⟨_, gives_of_suit (by decide) h (unifier_ite h.unifier)
      fun _ m => congrArg (·, m) hrun, ?_⟩
    cases b <;> cases c
    · exact absurd rfl hbc
    · exact hy
    · exact hx
    · exact absurd rfl hbc

/-- Two arrays that are both true, or both false, ask for an empty one, which is not there if the first
one has no parts. -/
theorem call_xor_of_no_parts (h : Standard.xor.Suit x y) (hx : x.HasTruth b) (hy : y.HasTruth b)
    (harray : x.unifier = Kind.array.name) (hfront : x.front = .error (.basic .noParts))
    (m : Machine) : Run.call (l.function Standard.xor) [x, y] m = (.error (.basic .noParts), m) := by
  have hoperating : Standard.xor ∈ operating := by decide
  have hrun : x.exclusive y = .error (.basic .noParts) := by
    rw [hx.exclusive_eq hy (h.supported .empty (by decide)), if_pos rfl, Value.emptyLike,
      if_neg (by rw [harray]; decide), if_pos harray, hfront]
  obtain ⟨σ, hfit⟩ := (suit_iff_fitAll hoperating h.left_closed h.right_closed).mp h
  exact call_eq_error rfl (by simp [h.left_closed, h.right_closed]) (admitsAll_of_fitAll hfit)
    fun _ => congrArg (·, m) hrun

/-! ## Either grouping -/

/-- Each of the first two functions answers its second value at one truth of the first one. -/
theorem exists_gives_choice (l : Library) (hs : s ∈ [Standard.and, Standard.or]) :
    ∃ k : Bool, ∀ {x y : Value} {b : Bool}, s.Suit x y → x.HasTruth b →
      l.Gives s x y (if b = k then y else x) := by
  obtain rfl | rfl : s = .and ∨ s = .or := by simpa using hs
  · exact ⟨true, gives_and⟩
  · refine ⟨false, fun {x y b} h hx => ?_⟩
    have hgives := gives_or (l := l) h hx
    cases b <;> exact hgives

/-- Both groupings of three values come to the same value.  If the second value is chosen at the
truth of the first one, what remains to be done is the same on both sides; otherwise the first value
stands against all others. -/
theorem gives_assoc (hs : s ∈ [Standard.and, Standard.or]) (hxy : s.Suit x y) (hyz : s.Suit y z)
    (hx : x.HasTruth b) (hy : y.HasTruth c) :
    ∃ p q r, l.Gives s x y p ∧ l.Gives s p z r ∧ l.Gives s y z q ∧ l.Gives s x q r := by
  obtain ⟨k, hgives⟩ := exists_gives_choice l hs
  have hq : s.Suit x (if c = k then z else y) := by
    split
    · exact hxy.trans hyz
    · exact hxy
  refine ⟨_, _, if b = k then (if c = k then z else y) else x, hgives hxy hx, ?_, hgives hyz hy,
    hgives hq hx⟩
  by_cases hb : b = k
  · rw [if_pos hb, if_pos hb]
    exact hgives hyz hy
  · rw [if_neg hb, if_neg hb]
    have hxz := hgives (hxy.trans hyz) hx
    rwa [if_neg hb] at hxz

/-- **Logic on values is Boolean logic on their truths.**  Let a library that checks accept two values
whose size can be told and whose classes do not declare identifiers of other programs.

Both have a truth.  The first two functions answer one of the two values.  The exclusive one answers
the value that alone is true, or else an empty one, which needs parts of the first value.  The answer is
as true as the Boolean operator makes of the two truths.
Three values, each accepted with the next one, may be grouped in either way by the first two
functions: the same value is answered, and nothing is refused on the way. -/
theorem logic_boolean (hchecked : l.isChecked = true) (hown : ∀ v ∈ [x, y], v.IsOwn)
    (hcount : ∀ v ∈ [x, y], v.IsCountable) :
    (l.Accepts Standard.and [x, y] → ∃ b c r, x.HasTruth b ∧ y.HasTruth c ∧
      l.Gives Standard.and x y r ∧ (r = x ∨ r = y) ∧ r.HasTruth (b && c)) ∧
    (l.Accepts Standard.or [x, y] → ∃ b c r, x.HasTruth b ∧ y.HasTruth c ∧
      l.Gives Standard.or x y r ∧ (r = x ∨ r = y) ∧ r.HasTruth (b || c)) ∧
    (l.Accepts Standard.xor [x, y] → ∃ b c, x.HasTruth b ∧ y.HasTruth c ∧
      (x.HasParts ∨ b ≠ c → ∃ r, l.Gives Standard.xor x y r ∧ r.HasTruth (b != c))) ∧
    ∀ s ∈ [Standard.and, Standard.or], ∀ z, l.Accepts s [x, y] → l.Accepts s [y, z] →
      ∃ p q r, l.Gives s x y p ∧ l.Gives s p z r ∧ l.Gives s y z q ∧ l.Gives s x q r := by
  have htruths {s : Standard} (hs : s ∈ logical) (h : s.Suit x y) :
      ∃ b c, x.HasTruth b ∧ y.HasTruth c := by
    have htruth := toBoolean_of_logical hs
    obtain ⟨b, hx⟩ := (hown x (by simp)).exists_truth (hcount x (by simp)) (h.supported _ htruth)
    obtain ⟨c, hy⟩ :=
      (hown y (by simp)).exists_truth (hcount y (by simp)) (h.right_supported _ htruth)
    exact ⟨b, c, hx, hy⟩
  refine ⟨fun h => ?_, fun h => ?_, fun h => ?_, fun s hs z hxy hyz => ?_⟩
  · rw [accepts_iff hchecked (by decide)] at h
    obtain ⟨b, c, hx, hy⟩ := htruths (by decide) h
    refine ⟨b, c, _, hx, hy, gives_and h hx, ?_⟩
    cases b with
    | false => exact ⟨.inl rfl, hx⟩
    | true => exact ⟨.inr rfl, hy⟩
  · rw [accepts_iff hchecked (by decide)] at h
    obtain ⟨b, c, hx, hy⟩ := htruths (by decide) h
    refine ⟨b, c, _, hx, hy, gives_or h hx, ?_⟩
    cases b with
    | false => exact ⟨.inr rfl, hy⟩
    | true => exact ⟨.inl rfl, hx⟩
  · rw [accepts_iff hchecked (by decide)] at h
    obtain ⟨b, c, hx, hy⟩ := htruths (by decide) h
    exact ⟨b, c, hx, hy, gives_xor h (hown x (by simp)) hx hy⟩
  · have hlogical : s ∈ logical := List.mem_append_left [Standard.xor] hs
    rw [accepts_iff hchecked (operating_of_logical hlogical)] at hxy hyz
    obtain ⟨b, c, hx, hy⟩ := htruths hlogical hxy
    exact gives_assoc hs hxy hyz hx hy

omit [Host] in
/-- A progression is true and an empty list is false, and a pair can be grouped with them. -/
theorem logic_boolean_arrays : letI : Host := .bare
    let l := Library.standard true
    let x : Value := .range ⟨0, 3, 1⟩
    let y : Value := .list []
    let z : Value := .tuple [.nothing, .int 0]
    l.isChecked = true ∧ (∀ v ∈ [x, y], v.IsOwn) ∧ (∀ v ∈ [x, y], v.IsCountable) ∧
    l.Accepts Standard.and [x, y] ∧ l.Accepts Standard.and [y, z] ∧
    l.Accepts Standard.xor [x, y] ∧
    (∃ r, l.Gives Standard.and x y r ∧ (r = x ∨ r = y) ∧ r.HasTruth false) ∧
    (∃ r, l.Gives Standard.xor x y r ∧ r.HasTruth true) ∧
    ∃ p q r, l.Gives Standard.and x y p ∧ l.Gives Standard.and p z r ∧
      l.Gives Standard.and y z q ∧ l.Gives Standard.and x q r := by
  let _ : Host := .bare
  intro l x y z
  have hown : ∀ v ∈ [x, y], v.IsOwn :=
    List.forall_mem_cons.mpr ⟨fun h => absurd rfl h,
      List.forall_mem_singleton.mpr fun h => absurd rfl h⟩
  have hsize {v : Value} {k : Nat} (hv : v.count? = some k) (hk : k < Value.countBound) :
      v.IsCountable := by
    intro n hn
    obtain rfl := Option.some.inj (hv.symm.trans hn)
    exact hk
  have hcount : ∀ v ∈ [x, y], v.IsCountable :=
    List.forall_mem_cons.mpr ⟨hsize (k := 3) rfl (by decide),
      List.forall_mem_singleton.mpr (hsize (k := 0) rfl (by decide))⟩
  have hand : l.Accepts Standard.and [x, y] := ⟨rfl, rfl⟩
  have hthird : l.Accepts Standard.and [y, z] := ⟨rfl, rfl⟩
  have hxor : l.Accepts Standard.xor [x, y] := ⟨rfl, rfl⟩
  have hx : x.HasTruth true := fun mark => ⟨.bool true, rfl, rfl⟩
  have hy : y.HasTruth false := fun mark => ⟨.bool false, rfl, rfl⟩
  obtain ⟨hboth, -, hexclusive, hassoc⟩ := logic_boolean (l := l) rfl hown hcount
  refine ⟨rfl, hown, hcount, hand, hthird, hxor, ?_, ?_, hassoc _ (by decide) z hand hthird⟩
  · obtain ⟨b, c, r, hb, hc, hgives, hone, htruth⟩ := hboth hand
    rw [hb.unique hx, hc.unique hy] at htruth
    exact ⟨r, hgives, hone, htruth⟩
  · obtain ⟨b, c, hb, hc, hexclusive⟩ := hexclusive hxor
    obtain ⟨r, hgives, htruth⟩ := hexclusive (.inl nofun)
    rw [hb.unique hx, hc.unique hy] at htruth
    exact ⟨r, hgives, htruth⟩

omit [Host] in
/-- **No answer for all arrays.**  A progression of too many numbers is accepted together with an empty
list, but its size cannot be told, and so its truth is not found.  Two sequences that have no parts are
accepted, and both are true, but there is no empty one to answer. -/
theorem logic_unanswered : letI : Host := .bare
    let l := Library.standard true
    let x : Value := .range ⟨0, Value.countBound, 1⟩
    let y : Value := .list []
    let d (n : Int) : Value := .deque [.int n]
    l.isChecked = true ∧ x.IsOwn ∧ y.IsOwn ∧ l.Accepts Standard.and [x, y] ∧
    (∀ m, (Run.call (l.function Standard.and) [x, y] m).1 = .error (.basic .uncountable)) ∧
    (∀ n, (d n).IsOwn) ∧ l.Accepts Standard.xor [d 1, d 2] ∧
    ∀ m, (Run.call (l.function Standard.xor) [d 1, d 2] m).1 = .error (.basic .noParts) := by
  let _ : Host := .bare
  intro l x y d
  have haccepts : l.Accepts Standard.xor [d 1, d 2] := ⟨rfl, rfl⟩
  refine ⟨rfl, fun h => absurd rfl h, fun h => absurd rfl h, ⟨rfl, rfl⟩, fun _ => rfl,
    fun _ h => absurd rfl h, haccepts, ?_⟩
  exact fun m => congrArg (·.1) (call_xor_of_no_parts ((accepts_iff rfl (by decide)).mp haccepts)
    (fun mark => ⟨.bool true, rfl, rfl⟩) (fun mark => ⟨.bool true, rfl, rfl⟩) rfl rfl m)

end Library

end CheckedCurry
