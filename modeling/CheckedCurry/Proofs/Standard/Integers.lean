import CheckedCurry.Proofs.Number.Radix
import CheckedCurry.Proofs.Standard.Calls
import CheckedCurry.Proofs.Standard.Results

/-!
# Texts read as integers

The function that reads texts as integers is given a radix by any number without a fractional part:
an integer, a quotient or a binary64 number.  It answers what the text writes in that radix.

- `Value.StandsFor`: a number stands for an integer.
- `Value.parseInt_eq`: what is asked of the radix and of the text, one after the other.
- `Value.parseInt_of_writes`, `Value.parseInt_of_not_writes`: the outcomes in a radix.
- `Library.integers_read`: the law, for calls in libraries with and without checks.
-/

namespace CheckedCurry

namespace Value

variable {v w radix : Value} {j k n : Int} {s : String}

/-! ## Numbers that stand for integers -/

/-- A number stands for an integer if it is at the same point. -/
def StandsFor (v : Value) (k : Int) : Prop := ∃ x, v.core = .number x ∧ x.exact = .finite k

theorem standsFor_int (k : Int) : (int k).StandsFor k := ⟨.int k, rfl, rfl⟩

theorem equals_int (k : Int) (v : Value) : (int k).equals v = (int k).leafEquals v := by
  unfold int equals
  rfl

/-- A number that equals an integer is at the same point. -/
theorem standsFor_of_equals {x : Number} (hcore : v.core = .number x)
    (h : (int k).equals v = .ok true) : v.StandsFor k := by
  rw [equals_int, leafEquals] at h
  split at h
  · cases h
  · have hpoint : v.core.point? = some x.exact := by
      rw [hcore]
      rfl
    have heq : leafEq (int k) v = true := Except.ok.inj h
    rw [leafEq, hpoint] at heq
    have heq : (Extended.finite k).eq x.exact = true := heq
    refine ⟨x, hcore, ?_⟩
    cases hx : x.exact with
    | finite q =>
      rw [hx] at heq
      exact congrArg Extended.finite (beq_iff_eq.mp heq).symm
    | infinite negative =>
      rw [hx] at heq
      cases heq
    | nowhere =>
      rw [hx] at heq
      cases heq

/-- A member of the type of integers that equals an integer stands for it. -/
theorem standsFor_of_isMember [Host] (hmember : Ty.integer.isMember v = .ok true)
    (h : (int k).equals v = .ok true) : v.StandsFor k := by
  have hfits : Ty.integer.Fits (fun _ _ => True) v := Ty.fits_of_isMember_nullary hmember
  have htest : Test.onNumber Number.isInteger v = .ok true := (Ty.fits_nullary _).mp hfits
  unfold Test.onNumber numberOfKind? at htest
  by_cases hkind : v.kind = .number
  · obtain ⟨x, hx⟩ := exists_number_of_kind hkind
    exact standsFor_of_equals hx h
  · rw [if_neg hkind] at htest
    cases htest

theorem point?_standsFor (h : v.StandsFor k) : v.core.point? = some (.finite k) := by
  obtain ⟨x, hcore, hx⟩ := h
  rw [hcore]
  exact congrArg some hx

theorem isDecimal_standsFor (h : v.StandsFor k) : v.isDecimal = false := by
  obtain ⟨x, hcore, -⟩ := h
  rw [isDecimal, hcore]

/-- Comparing what stands for integers is comparing the integers. -/
theorem compare?_standsFor (hv : v.StandsFor j) (hw : w.StandsFor k) (symbol : String) :
    compare? symbol Extended.le v w = .ok (decide (j ≤ k)) := by
  have hordered : areUnordered v w = false := by
    rw [areUnordered, isDecimal_standsFor hv, isDecimal_standsFor hw]
    rfl
  have hle : Extended.le (.finite j) (.finite k) = decide (j ≤ k) := by
    rw [Bool.eq_iff_iff]
    simp [Extended.le, Extended.lt, Extended.eq, le_iff_lt_or_eq]
  unfold compare?
  rw [point?_standsFor hv, point?_standsFor hw]
  dsimp only
  rw [hordered, if_neg Bool.false_ne_true, hle]

/-- The integer part of a number at the point of an integer is the integer. -/
theorem truncate_of_exact {x : Number} (h : x.exact = .finite k) : x.truncate = .ok k := by
  have hcast {q : Rat} (hq : Extended.finite q = .finite k) : q.num.tdiv q.den = k := by
    rw [Extended.finite.inj hq, Rat.num_intCast, Rat.den_intCast]
    exact Int.tdiv_one k
  cases x with
  | int n =>
    have hn : (n : Rat) = k := Extended.finite.inj h
    exact congrArg Except.ok (by exact_mod_cast hn)
  | ratio q => exact congrArg Except.ok (hcast h)
  | float x =>
    have hfloat : Extended.ofBinary64 x = .finite k := h
    unfold Extended.ofBinary64 at hfloat
    unfold Number.truncate
    dsimp only
    cases hx : x.toRat? with
    | none =>
      rw [hx] at hfloat
      cases hfloat
    | some q =>
      rw [hx] at hfloat
      exact congrArg Except.ok (hcast hfloat)
  | nan mark => cases h

theorem toInteger_standsFor (h : v.StandsFor k) : v.toInteger = .ok k := by
  obtain ⟨x, hcore, hx⟩ := h
  have hnumber : v.number? = some x := by
    rw [number?, hcore]
  unfold toInteger
  rw [hnumber]
  dsimp only
  rw [truncate_of_exact hx]
  rfl

/-! ## Reading -/

/-- A text is read in a radix if the radix is one, and if the text is nothing but a number. -/
theorem parseInt_eq (hradix : radix.StandsFor k) (hv : v.core = .text s) :
    parseInt radix v =
      if 2 ≤ k ∧ k ≤ 36 then
        if Radix.isPlain k.toNat s then do return just (int (← v.toIntegerIn (int k)))
        else return nothing
      else throw (.misuse .radix) := by
  unfold parseInt
  rw [compare?_standsFor (standsFor_int 2) hradix, compare?_standsFor hradix (standsFor_int 36),
    toInteger_standsFor hradix, hv]
  by_cases htwo : 2 ≤ k
  · by_cases hmax : k ≤ 36
    · rw [if_pos ⟨htwo, hmax⟩, decide_eq_true htwo, decide_eq_true hmax]
      rfl
    · rw [if_neg fun h => hmax h.2, decide_eq_true htwo, decide_eq_false hmax]
      rfl
  · rw [if_neg fun h => htwo h.1, decide_eq_false htwo]
    rfl

section Radix

variable (hradix : radix.StandsFor k) (hv : v.core = .text s)

include hradix hv in
/-- Outside 2 to 36 there is no radix. -/
theorem parseInt_of_no_radix (h : ¬ (2 ≤ k ∧ k ≤ 36)) :
    parseInt radix v = .error (.misuse .radix) := by
  rw [parseInt_eq hradix hv, if_neg h]
  rfl

variable (htwo : 2 ≤ k) (hmax : k ≤ 36)

include hv htwo hmax in
/-- The text is read with its sign and its mark. -/
theorem toIntegerIn_of_writes (h : Radix.Writes k.toNat s n) :
    v.toIntegerIn (int k) = .ok n := by
  have hread := Radix.readLiteral?_of_writes (by omega) h
  unfold toIntegerIn
  rw [show (int k).integer? = some k from rfl, hv]
  dsimp only
  rw [if_pos (by simp [htwo, hmax]), hread]

include hradix hv htwo hmax in
theorem parseInt_of_writes (h : Radix.Writes k.toNat s n) :
    parseInt radix v = .ok (just (int n)) := by
  rw [parseInt_eq hradix hv, if_pos ⟨htwo, hmax⟩, if_pos (Radix.isPlain_iff.mpr ⟨n, h⟩),
    toIntegerIn_of_writes hv htwo hmax h]
  rfl

include hradix hv htwo hmax in
theorem parseInt_of_not_writes (h : ∀ n, ¬ Radix.Writes k.toNat s n) :
    parseInt radix v = .ok nothing := by
  have hplain : ¬ Radix.isPlain k.toNat s = true := fun hplain => by
    obtain ⟨n, hn⟩ := Radix.isPlain_iff.mp hplain
    exact h n hn
  rw [parseInt_eq hradix hv, if_pos ⟨htwo, hmax⟩, if_neg hplain]
  rfl

end Radix

end Value

namespace Library

variable {l : Library} {radix v r : Value} {m : Machine}

variable [Host]

/-- An integer and a string are admitted. -/
theorem admitsAll_parseInt (hradix : Ty.integer.isMember radix = .ok true)
    (hv : v.kind = .string) (σ : TypeVar → String) :
    (Standard.signature .parseInt).AdmitsAll σ [radix, v] := by
  intro i t w ht hw
  match i with
  | 0 =>
    obtain rfl := Option.some.inj ht
    obtain rfl := Option.some.inj hw
    exact ⟨Ty.fits_of_isMember_nullary hradix, Ty.fits_of_isMember_nullary hradix⟩
  | 1 =>
    obtain rfl := Option.some.inj ht
    obtain rfl := Option.some.inj hw
    exact ⟨Ty.fits_string.mpr hv, Ty.fits_string.mpr hv⟩
  | i + 2 => cases hw

/-- A call with an integer and a string comes to what the function makes of them, and to no more. -/
theorem call_parseInt (hradix : radix.isOpen = false)
    (hmember : Ty.integer.isMember radix = .ok true) (hv : v.isOpen = false)
    (hkind : v.kind = .string) (m : Machine) :
    Run.call (l.function .parseInt) [radix, v] m = (Value.parseInt radix v, m) := by
  have hvs : ∀ w ∈ [radix, v], w.isOpen = false := by simp [hradix, hv]
  have hσ := admitsAll_parseInt hmember hkind fun _ => ""
  have hrun (call : Call) :
      Standard.parseInt.run call [radix, v] m = (Value.parseInt radix v, m) := by
    show Run.ofAttempt (Value.parseInt radix v) m = _
    cases Value.parseInt radix v <;> rfl
  cases hparse : Value.parseInt radix v with
  | ok r =>
    have hr {P : TypeVar → Value → Prop} : (Ty.maybe Ty.integer).Fits P r :=
      Value.fits_of_parseInt hparse
    exact call_eq_ok rfl hvs hσ ⟨hr, hr⟩ fun call => by rw [hrun, hparse]
  | error f => exact call_eq_error rfl hvs hσ fun call => by rw [hrun, hparse]

omit [Host] in
/-- The answer to a text is decided by what the text writes. -/
theorem exists_answer_parseInt {s : String} {k : Int} (hradix : radix.StandsFor k)
    (hcore : v.core = .text s) (htwo : 2 ≤ k) (hmax : k ≤ 36) :
    ∃ r, Value.parseInt radix v = .ok r ∧ (∀ n, r = .just (.int n) ↔ Radix.Writes k.toNat s n) ∧
      (r = .nothing ↔ ∀ n, ¬ Radix.Writes k.toNat s n) := by
  by_cases hwrites : ∃ n, Radix.Writes k.toNat s n
  · obtain ⟨n, hn⟩ := hwrites
    refine ⟨_, Value.parseInt_of_writes hradix hcore htwo hmax hn, fun n' => ⟨fun heq => ?_, ?_⟩,
      fun h => (by cases h), fun h => absurd hn (h n)⟩
    · cases heq
      exact hn
    · intro hn'
      rw [hn.unique (by omega) hn']
  · have hnone : ∀ n, ¬ Radix.Writes k.toNat s n := fun n hn => hwrites ⟨n, hn⟩
    exact ⟨_, Value.parseInt_of_not_writes hradix hcore htwo hmax hnone,
      fun n => ⟨fun h => (by cases h), fun hn => absurd hn (hnone n)⟩, fun _ => hnone, fun _ => rfl⟩

/-- **Integers are read back.**  Let the radix be a member of the type of integers that equals `k`.

If `k` is from 2 to 36 then a string is read as an integer if and only if it writes the integer in
that radix: a sign, the mark of radix sixteen and digits of either case, where only the digits must
be there.  Any other string is read as nothing, and none raises.  So what is written of an integer,
with capitals or small letters, is read as that integer.

If `k` is not from 2 to 36 then the call raises a range error, whatever the string. -/
theorem integers_read (l : Library) (m : Machine) {radix : Value} {k : Int}
    (hopen : radix.isOpen = false) (hmember : Ty.integer.isMember radix = .ok true)
    (hequal : (Value.int k).equals radix = .ok true) :
    let read := fun v : Value => Run.call (l.function .parseInt) [radix, v] m
    (2 ≤ k ∧ k ≤ 36 →
      (∀ (v : Value) (s : String), v.isOpen = false → v.kind = .string → v.core = .text s →
        ∃ r, read v = (.ok r, m) ∧ (∀ n, r = .just (.int n) ↔ Radix.Writes k.toNat s n) ∧
          (r = .nothing ↔ ∀ n, ¬ Radix.Writes k.toNat s n)) ∧
      ∀ (capitals : Bool) (n : Int),
        read (.text (Radix.write capitals k.toNat n)) = (.ok (.just (.int n)), m)) ∧
    (¬ (2 ≤ k ∧ k ≤ 36) → Misuse.radix.errorClass = .range ∧
      ∀ v : Value, v.isOpen = false → v.kind = .string →
        read v = (.error (.misuse .radix), m)) := by
  intro read
  have hradix := Value.standsFor_of_isMember hmember hequal
  have hread {v : Value} (hv : v.isOpen = false) (hkind : v.kind = .string) :
      read v = (Value.parseInt radix v, m) := call_parseInt hopen hmember hv hkind m
  refine ⟨fun ⟨htwo, hmax⟩ => ⟨fun v s hv hkind hcore => ?_, fun capitals n => ?_⟩,
    fun houtside => ⟨rfl, fun v hv hkind => ?_⟩⟩
  · obtain ⟨r, hr, hanswer⟩ := exists_answer_parseInt hradix hcore htwo hmax
    exact ⟨r, by rw [hread hv hkind, hr], hanswer⟩
  · have hn := Radix.writes_write capitals (by omega : 2 ≤ k.toNat) (by omega) n
    rw [hread rfl rfl, Value.parseInt_of_writes hradix rfl htwo hmax hn]
  · obtain ⟨s, hcore⟩ := Value.exists_text_of_kind hkind
    rw [hread hv hkind, Value.parseInt_of_no_radix hradix hcore houtside]

omit [Host] in
/-- The radix is a quotient that equals sixteen; the text has a sign, a mark and digits of both
cases.  A quotient that equals thirty-seven is no radix. -/
theorem integers_read_in_sixteen : letI : Host := .bare
    let l := Library.standard true
    let m := Machine.start none
    let sixteen : Value := .number (.ratio 16)
    let beyond : Value := .number (.ratio 37)
    (sixteen.isOpen = false ∧ Ty.integer.isMember sixteen = .ok true ∧
      (Value.int 16).equals sixteen = .ok true) ∧
    (beyond.isOpen = false ∧ Ty.integer.isMember beyond = .ok true ∧
      (Value.int 37).equals beyond = .ok true) ∧
    Run.call (l.function .parseInt) [sixteen, .text "-0xFf"] m = (.ok (.just (.int (-255))), m) ∧
    Run.call (l.function .parseInt) [sixteen, .text (Radix.write true 16 (-255))] m =
      (.ok (.just (.int (-255))), m) ∧
    Run.call (l.function .parseInt) [beyond, .text "1"] m = (.error (.misuse .radix), m) := by
  let _ : Host := .bare
  intro l m sixteen beyond
  have hsixteen : (Value.int 16).equals sixteen = .ok true := by
    rw [Value.equals_int]
    rfl
  have hbeyond : (Value.int 37).equals beyond = .ok true := by
    rw [Value.equals_int]
    rfl
  have hwrites : Radix.Writes 16 "-0xFf" (-255) :=
    ⟨['-'], true, ['0', 'x'], ['F', 'f'], 255, by decide, by decide, rfl,
      ⟨by decide, [15, 15], by decide, by decide, by decide⟩, rfl⟩
  obtain ⟨hall, hwritten⟩ := (integers_read l m rfl rfl hsixteen).1 (by decide)
  obtain ⟨r, hr, hjust, -⟩ := hall (.text "-0xFf") "-0xFf" rfl rfl rfl
  obtain rfl : r = .just (.int (-255)) := (hjust (-255)).mpr hwrites
  exact ⟨⟨rfl, rfl, hsixteen⟩, ⟨rfl, rfl, hbeyond⟩, hr, hwritten true (-255),
    ((integers_read l m rfl rfl hbeyond).2 (by decide)).2 (.text "1") rfl rfl⟩

end Library

end CheckedCurry
