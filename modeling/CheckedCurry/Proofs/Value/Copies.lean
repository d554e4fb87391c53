import CheckedCurry.Proofs.Value.Agreement
import CheckedCurry.Proofs.Value.OneKey

/-!
# Containers and copies

The operation that compares two values looks through optional values, failures and successes itself,
and leaves lists, tuples and maps to equality.  So what it takes to be equal counts under the former,
and what equality takes to be equal counts in the latter.  The two differ for numbers that are not a
number, of which two agree and no two are equal.

- `Value.IsFirm`, `agreesWith_of_isFirm`: elements on which the operation is equality.
- `equalElements_eq_ok_iff`: sequences are equal if their elements are, one by one.
- `Value.nans`: where the numbers inside a value that are not a number came from.
- `Value.Copies`: a value and another one that was made in the same way.
- `Copies.tells_equals`, `Copies.agrees`: when a value is equal to a copy, and when it agrees with one.
- `agreement_of_containers`: what holds of containers.
-/

namespace CheckedCurry

open Attempt

namespace Value

variable {v w x y : Value} {vs ws : List Value} {es fs : List (Value × Value)} {k : Key}

/-! ## Elements on which the operation is equality -/

/-- A value that can be compared all the way through, and that the operation takes to be what equality
takes it to be: it is a number, as far as it is one; it is not too large for one; and it does not
declare to be an optional value, a failure or a success that it is not. -/
structure IsFirm (v : Value) : Prop extends Stands v where
  supported : v.bare.supports .equals = true
  own : IsFamily v.bare.unifier → v.bare = nothing
  small : v.bare.IsSmall

theorem IsFirm.content (h : w.IsFirm) (hv : IsContent v w) : v.IsFirm where
  toStands := h.toStands.content hv
  supported := hv.bare_eq ▸ h.supported
  own := hv.bare_eq ▸ h.own
  small := hv.bare_eq ▸ h.small

theorem isTagged_of_bare_ne (h : v.bare ≠ v) : v.IsTagged := by
  cases v with
  | just v => exact .inr ⟨v, .inl rfl⟩
  | left v => exact .inr ⟨v, .inr (.inl rfl)⟩
  | right v => exact .inr ⟨v, .inr (.inr rfl)⟩
  | _ => exact absurd rfl h

/-- A firm value of a family is an optional value, a failure or a success. -/
theorem IsFirm.isTagged (h : v.IsFirm) (hv : IsFamily v.unifier) : v.IsTagged := by
  by_cases hbare : v.bare = v
  · have hnothing := h.own (hbare.symm ▸ hv)
    rw [hbare] at hnothing
    exact .inl hnothing
  · exact isTagged_of_bare_ne hbare

/-- No number that stands is taken for one that is not a number. -/
theorem bothNaN_of_point? (hnumber : v.core.point? ≠ some .nowhere)
    (hsmall : v.IsSmall) (w : Value) :
    bothNaN v w = .ok false := by
  cases hn : v.number? with
  | none => exact bothNaN_of_number?_left hn w
  | some n =>
    refine bothNaN_of_isValid hn ((Number.tells_isValid (hsmall n hn)).eq_ok_iff.mpr ?_) w
    intro hexact
    refine hnumber ?_
    unfold number? at hn
    split at hn
    · obtain rfl := Option.some.inj hn
      cases hexact
    · rename_i hcore
      obtain rfl := Option.some.inj hn
      rw [hcore, point?, hexact]
    · cases hn

/-- An optional value, a failure or a success equals no other value that does not declare to be
one. -/
theorem equals_of_not_isFamily (hv : v.IsTagged) (hw : ¬ IsFamily w.unifier) :
    equals v w = .ok false := by
  have hmaybe : w.identifier? ≠ some maybeIdentifier := fun h =>
    hw (.inl (unifier_of_identifier? h))
  have heither : w.identifier? ≠ some eitherIdentifier := fun h =>
    hw (.inr (unifier_of_identifier? h))
  rcases hv with rfl | ⟨v, rfl | rfl | rfl⟩
  all_goals
    cases w with
    | nothing | just => exact absurd rfl hmaybe
    | left | right => exact absurd rfl heither
    | object shape attrs base =>
      have htag : ¬ shape.tag.identifier? = some maybeIdentifier := hmaybe
      have htag' : ¬ shape.tag.identifier? = some eitherIdentifier := heither
      unfold equals
      simp only [htag, htag', if_false]
    | _ => unfold equals; rfl

theorem isFamily_of_isTagged (h : v.IsTagged) : IsFamily v.unifier := by
  rcases h with rfl | ⟨v, rfl | rfl | rfl⟩
  · exact .inl rfl
  · exact .inl rfl
  · exact .inr rfl
  · exact .inr rfl

/-- **On firm values the operation is equality.** -/
theorem agreesWith_of_isFirm [Host] (hv : v.IsFirm) (hw : w.IsFirm) :
    agreesWith v w = do return bool (← equals v w) := by
  induction hn : v.depth using Nat.strongRecOn generalizing v w with
  | ind n ih =>
    by_cases hfamily : IsFamily v.unifier
    case neg =>
      have hbare : v.bare = v := by
        by_contra hne
        exact hfamily (isFamily_of_isTagged (isTagged_of_bare_ne hne))
      rw [agreesWith_of_not_isFamily hfamily]
      exact agreeFlat_of_bothNaN (hbare ▸ hv.supported)
        (bothNaN_of_point? (hbare ▸ hv.number) (hbare ▸ hv.small) w)
    have htagged := hv.isTagged hfamily
    by_cases hfamily' : IsFamily w.unifier
    case neg =>
      rw [agreesWith_of_ne hfamily fun h => hfamily' (h ▸ hfamily),
        equals_of_not_isFamily htagged hfamily']
      rfl
    -- what is inside two values of one sort is compared in its turn
    have hinside {v' w' : Value} (hv' : IsContent v' v) (hw' : IsContent w' w)
        (hgoes : agreesWith v w = do return bool (← agreesWith v' w').truth)
        (hequals : equals v w = equals v' w') : agreesWith v w = do return bool (← equals v w) := by
      rw [hgoes, hequals, ih v'.depth (hn ▸ hv'.depth_lt) (hv.content hv') (hw.content hw') rfl]
      cases equals v' w' <;> rfl
    rcases htagged with rfl | ⟨v, rfl | rfl | rfl⟩ <;>
      rcases hw.isTagged hfamily' with rfl | ⟨w, rfl | rfl | rfl⟩
    case inr.inl.inr.inl => exact hinside .just .just (agreesWith_just v w) (by rw [equals])
    case inr.inr.inl.inr.inr.inl => exact hinside .left .left (agreesWith_left v w) (by rw [equals])
    case inr.inr.inr.inr.inr.inr =>
      exact hinside .right .right (agreesWith_right v w) (by rw [equals])
    case inr.inr.inl.inr.inr.inr | inr.inr.inr.inr.inr.inl =>
      -- a failure and a success
      rw [agreesWith_either rfl rfl]
      unfold equals
      rfl
    all_goals
      unfold agreesWith equals
      rfl

/-! ## Lists and tuples -/

/-- Two elements at one position are taken to be equal. -/
def EqualInPlace (v w : Value) : Prop := (if sameKey v w then .ok true else equals v w) = .ok true

/-- **Two sequences are equal exactly if their elements are, one by one.** -/
theorem equalElements_eq_ok_iff :
    equalElements vs ws = .ok true ↔ List.Forall₂ EqualInPlace vs ws := by
  induction vs generalizing ws with
  | nil =>
    cases ws with
    | nil => simp [equalElements]
    | cons w ws => simp [equalElements]
  | cons v vs ih =>
    cases ws with
    | nil => simp [equalElements]
    | cons w ws =>
      rw [equalElements, List.forall₂_cons, ← ih, bind_eq_ok]
      constructor
      · rintro ⟨same, hsame, hrest⟩
        cases same with
        | false => cases hrest
        | true => exact ⟨hsame, hrest⟩
      · rintro ⟨hsame, hrest⟩
        exact ⟨true, hsame, hrest⟩

/-- What the operation makes of a truth value. -/
theorem bind_bool_eq_yes {a : Attempt Bool} : (do return bool (← a)) = .ok yes ↔ a = .ok true := by
  cases a with
  | error f => exact iff_of_false nofun nofun
  | ok b =>
    cases b with
    | false => exact iff_of_false nofun nofun
    | true => exact iff_of_true rfl rfl

/-- Two firm elements are taken to be equal exactly if they agree. -/
theorem equalInPlace_iff [Host] (hv : v.IsFirm) (hw : w.IsFirm) :
    EqualInPlace v w ↔ agreesWith v w = .ok yes := by
  rw [agreesWith_of_isFirm hv hw, bind_bool_eq_yes]
  unfold EqualInPlace
  split
  · rename_i hsame
    exact iff_of_true rfl (hv.equals_of_sameKey hw.toStands hsame)
  · exact Iff.rfl

/-- Of two properties of pairs, only the members of two lists matter. -/
theorem forall₂_congr_of_mem {R S : Value → Value → Prop}
    (h : ∀ v ∈ vs, ∀ w ∈ ws, (R v w ↔ S v w)) :
    List.Forall₂ R vs ws ↔ List.Forall₂ S vs ws := by
  rw [List.forall₂_iff_zip, List.forall₂_iff_zip]
  refine and_congr_right fun _ => ⟨fun hall v w hpair => ?_, fun hall v w hpair => ?_⟩
  · obtain ⟨hv, hw⟩ := List.of_mem_zip hpair
    exact (h v hv w hw).mp (hall hpair)
  · obtain ⟨hv, hw⟩ := List.of_mem_zip hpair
    exact (h v hv w hw).mpr (hall hpair)

theorem not_isFamily_of_identifier? (h : v.identifier? = none) : ¬ IsFamily v.unifier := by
  rintro (hv | hv)
  · rw [unifier_eq_iff (.inl rfl), h] at hv
    cases hv
  · rw [unifier_eq_iff (.inr rfl), h] at hv
    cases hv

/-- Whether a value is one of the containers that the operation leaves to equality. -/
def isCompound : Value → Bool
  | list _ | tuple _ | deque _ | map _ => true
  | _ => false

theorem isFirm_of_isCompound (h : v.isCompound = true) : v.IsFirm := by
  cases v with
  | list | tuple | deque | map =>
    exact ⟨⟨nofun⟩, rfl, fun h => absurd h (not_isFamily_of_identifier? rfl), nofun⟩
  | _ => cases h

/-- **Lists and tuples of firm elements agree exactly if the elements do, one by one.** -/
theorem agreesWith_sequence_iff [Host] (hvs : ∀ v ∈ vs, v.IsFirm) (hws : ∀ w ∈ ws, w.IsFirm) :
    (agreesWith (list vs) (list ws) = .ok yes ↔
      List.Forall₂ (fun v w => agreesWith v w = .ok yes) vs ws) ∧
    (agreesWith (tuple vs) (tuple ws) = .ok yes ↔
      List.Forall₂ (fun v w => agreesWith v w = .ok yes) vs ws) := by
  have helements : equalElements vs ws = .ok true ↔
      List.Forall₂ (fun v w => agreesWith v w = .ok yes) vs ws := by
    rw [equalElements_eq_ok_iff]
    exact forall₂_congr_of_mem fun v hv w hw => equalInPlace_iff (hvs v hv) (hws w hw)
  constructor
  · rw [agreesWith_of_isFirm (isFirm_of_isCompound rfl) (isFirm_of_isCompound rfl),
      bind_bool_eq_yes, equals_of_lists (.inl rfl) (.inl rfl), ← helements]
    split
    · exact Iff.rfl
    · rename_i hlength
      refine iff_of_false nofun fun h => hlength ?_
      exact (equalElements_eq_ok_iff.mp h).length_eq
  · rw [agreesWith_of_isFirm (isFirm_of_isCompound rfl) (isFirm_of_isCompound rfl),
      bind_bool_eq_yes, equals, helements]

/-! ## Numbers that are not a number -/

mutual

/-- Where the numbers inside a value that are not a number came from. -/
def nans : Value → List Nat
  | number (.nan mark) | decimal (.notANumber mark ..) => [mark]
  | list items | tuple items => nansAll items
  | map entries => nansEntries entries
  | just v | left v | right v => nans v
  | _ => []

def nansAll : List Value → List Nat
  | [] => []
  | v :: vs => nans v ++ nansAll vs

def nansEntries : List (Value × Value) → List Nat
  | [] => []
  | (k, v) :: es => nans k ++ nans v ++ nansEntries es

end

theorem nansAll_eq (vs : List Value) : nansAll vs = vs.flatMap nans := by
  induction vs with
  | nil => rw [nansAll]; rfl
  | cons v vs ih => rw [nansAll, ih, List.flatMap_cons]

theorem nansEntries_eq (es : List (Value × Value)) :
    nansEntries es = es.flatMap fun e => e.1.nans ++ e.2.nans := by
  induction es with
  | nil => rw [nansEntries]; rfl
  | cons e es ih => rw [nansEntries, ih, List.flatMap_cons]

theorem nansAll_eq_nil_iff : nansAll vs = [] ↔ ∀ v ∈ vs, v.nans = [] := by
  rw [nansAll_eq, List.flatMap_eq_nil_iff]

theorem nansEntries_eq_nil_iff : nansEntries es = [] ↔ ∀ e ∈ es, e.1.nans = [] ∧ e.2.nans = [] := by
  rw [nansEntries_eq, List.flatMap_eq_nil_iff]
  simp only [List.append_eq_nil_iff]

theorem nans_subset_nansEntries {e : Value × Value} (he : e ∈ es) :
    e.1.nans ⊆ nansEntries es ∧ e.2.nans ⊆ nansEntries es := by
  rw [nansEntries_eq]
  exact ⟨fun mark hmark => List.mem_flatMap.mpr ⟨e, he, List.mem_append_left _ hmark⟩,
    fun mark hmark => List.mem_flatMap.mpr ⟨e, he, List.mem_append_right _ hmark⟩⟩

end Value

namespace Key

/-- The values in a key that are looked up by where they came from. -/
def marks : Key → List Nat
  | marked mark => [mark]
  | item first rest => first.marks ++ rest.marks
  | just k | left k | right k => k.marks
  | _ => []

end Key

namespace Value

variable {v w x y : Value} {vs ws : List Value} {es fs : List (Value × Value)} {k : Key}

/-! ## Copies -/

/-- Whether a value is data without contents that equals itself. -/
def isAtom : Value → Bool
  | null | undefined | bool _ | text _ | range _ | identifier _ => true
  | number (.nan _) | decimal (.notANumber ..) => false
  | number _ | decimal _ => true
  | _ => false

/-- A value and another one that is made of the same data in the same way.  Only numbers that are not
a number show that there are two of them. -/
inductive Copies : Value → Value → Prop
  | atom {v : Value} (atom : v.isAtom = true) : Copies v v
  | nan (mark mark' : Nat) : Copies (number (.nan mark)) (number (.nan mark'))
  | decimal (mark mark' : Nat) (negative : Bool) (payload : Nat) :
    Copies (decimal (.notANumber mark negative false payload))
      (decimal (.notANumber mark' negative false payload))
  | list {vs ws : List Value} (length : vs.length = ws.length)
    (items : ∀ p ∈ vs.zip ws, Copies p.1 p.2) : Copies (list vs) (list ws)
  | tuple {vs ws : List Value} (length : vs.length = ws.length)
    (items : ∀ p ∈ vs.zip ws, Copies p.1 p.2) : Copies (tuple vs) (tuple ws)
  | map {es fs : List (Value × Value)} (length : es.length = fs.length)
    (distinct : HasDistinctKeys es) (distinct' : HasDistinctKeys fs)
    (keyed : ∀ e ∈ es, ∃ k, e.1.key = .ok k) (keyed' : ∀ f ∈ fs, ∃ k, f.1.key = .ok k)
    (keys : ∀ p ∈ es.zip fs, Copies p.1.1 p.2.1) (values : ∀ p ∈ es.zip fs, Copies p.1.2 p.2.2) :
    Copies (map es) (map fs)
  | nothing : Copies nothing nothing
  | just {v w : Value} (content : Copies v w) : Copies (just v) (just w)
  | left {v w : Value} (content : Copies v w) : Copies (left v) (left w)
  | right {v w : Value} (content : Copies v w) : Copies (right v) (right w)

section Zip

variable {α β : Type} {as : List α} {bs : List β}

theorem forall_of_zip_left {P : α → Prop} (h : as.length = bs.length)
    (hP : ∀ p ∈ as.zip bs, P p.1) : ∀ a ∈ as, P a := by
  rw [← List.map_fst_zip (Nat.le_of_eq h), List.forall_mem_map]
  exact hP

theorem forall_of_zip_right {P : β → Prop} (h : as.length = bs.length)
    (hP : ∀ p ∈ as.zip bs, P p.2) : ∀ b ∈ bs, P b := by
  rw [← List.map_snd_zip (Nat.le_of_eq h.symm), List.forall_mem_map]
  exact hP

theorem eq_of_zip {as bs : List α} (h : as.length = bs.length) (heq : ∀ p ∈ as.zip bs, p.1 = p.2) :
    as = bs :=
  List.forall₂_eq_eq_eq ▸ List.forall₂_iff_zip.mpr ⟨h, fun hpair => heq _ hpair⟩

end Zip

/-- **Copies of a value in which every number is one are the value itself.** -/
theorem Copies.eq_of_nans (h : Copies v w) (hnans : v.nans = []) : v = w := by
  induction h with
  | atom => rfl
  | nan | decimal => simp [nans] at hnans
  | list length items ih | tuple length items ih =>
    rw [nans, nansAll_eq_nil_iff] at hnans
    congr 1
    exact eq_of_zip length fun p hp => ih p hp (hnans _ (List.of_mem_zip hp).1)
  | map length _ _ _ _ _ _ ihkeys ihvalues =>
    rw [nans, nansEntries_eq_nil_iff] at hnans
    congr 1
    refine eq_of_zip length fun p hp => ?_
    obtain ⟨hkey, hvalue⟩ := hnans _ (List.of_mem_zip hp).1
    exact Prod.ext (ihkeys p hp hkey) (ihvalues p hp hvalue)
  | nothing => rfl
  | just _ ih | left _ ih | right _ ih =>
    rw [nans] at hnans
    rw [ih hnans]

/-! ## Keys of copies -/

theorem marks_of_keyTuple (ih : ∀ v ∈ vs, ∀ k, v.key = .ok k → k.marks = v.nans)
    (hk : keyTuple vs = .ok k) : k.marks = nansAll vs := by
  induction vs generalizing k with
  | nil =>
    obtain rfl := Except.ok.inj hk
    rw [nansAll, Key.marks]
    all_goals nofun
  | cons v vs ihvs =>
    obtain ⟨hv, hvs⟩ := List.forall_mem_cons.mp ih
    obtain ⟨first, rest, rfl, hfirst, hrest⟩ := exists_of_keyTuple_cons hk
    rw [nansAll, Key.marks, hv first hfirst, ihvs hvs hrest]

/-- A number is not looked up by where it came from. -/
theorem marks_of_point? {x : Extended} (h : k.point? = some x) : k.marks = [] := by
  cases k with
  | rational | infinite => rfl
  | _ => cases h

/-- Data without contents has a key, in which nothing is looked up by where it came from. -/
theorem exists_key_of_isAtom (h : v.isAtom = true) : ∃ k, v.key = .ok k ∧ k.marks = [] := by
  cases v with
  | number n =>
    rcases n.key_cases with ⟨-, hpoint⟩ | ⟨mark, rfl⟩
    · exact ⟨_, rfl, marks_of_point? hpoint⟩
    · cases h
  | decimal d =>
    cases d with
    | notANumber => cases h
    | _ => exact ⟨_, rfl, rfl⟩
  | range p =>
    refine ⟨_, rfl, ?_⟩
    unfold Progression.key
    split <;> rfl
  | identifier i =>
    obtain ⟨space, name, version⟩ := i
    cases space <;> exact ⟨_, rfl, rfl⟩
  | null | undefined | bool | text => exact ⟨_, rfl, rfl⟩
  | _ => cases h

theorem nans_of_isAtom (h : v.isAtom = true) : v.nans = [] := by
  cases v with
  | number n => cases n <;> first | rfl | cases h
  | decimal d => cases d <;> first | rfl | cases h
  | null | undefined | bool | text | range | identifier => rfl
  | _ => cases h

theorem marks_of_isAtom (h : v.isAtom = true) (hk : v.key = .ok k) : k.marks = v.nans := by
  obtain ⟨l, hl, hmarks⟩ := exists_key_of_isAtom h
  obtain rfl := Except.ok.inj (hk.symm.trans hl)
  rw [hmarks, nans_of_isAtom h]

/-- A copied value is looked up by where the numbers inside it came from that are not a number. -/
theorem Copies.marks_eq (h : Copies v w) :
    (∀ k, v.key = .ok k → k.marks = v.nans) ∧ ∀ k, w.key = .ok k → k.marks = w.nans := by
  induction h with
  | atom hatom => exact ⟨fun _ => marks_of_isAtom hatom, fun _ => marks_of_isAtom hatom⟩
  | nan | decimal =>
    constructor <;> rintro k ⟨⟩ <;> rfl
  | list | map => exact ⟨nofun, nofun⟩
  | tuple length items ih =>
    constructor
    · intro k hk
      rw [nans]
      exact marks_of_keyTuple (forall_of_zip_left length fun p hp => (ih p hp).1) hk
    · intro k hk
      rw [nans]
      exact marks_of_keyTuple (forall_of_zip_right length fun p hp => (ih p hp).2) hk
  | nothing => constructor <;> rintro k ⟨⟩ <;> rfl
  | just _ ih | left _ ih | right _ ih =>
    constructor
    · intro k hk
      obtain ⟨l, hl, hk⟩ := bind_eq_ok.mp hk
      obtain rfl := Except.ok.inj hk
      rw [Key.marks, ih.1 l hl, nans]
    · intro k hk
      obtain ⟨l, hl, hk⟩ := bind_eq_ok.mp hk
      obtain rfl := Except.ok.inj hk
      rw [Key.marks, ih.2 l hl, nans]

/-- Copies are one key only if all numbers inside them are one. -/
theorem Copies.nans_of_sameKey [Host] (h : Copies v w) (hdisjoint : v.nans.Disjoint w.nans)
    (hsame : sameKey v w = true) : v.nans = [] := by
  obtain ⟨k, hk, hk'⟩ := exists_of_sameKey hsame
  rw [← h.marks_eq.2 k hk', ← h.marks_eq.1 k hk] at hdisjoint
  rw [← h.marks_eq.1 k hk]
  exact List.eq_nil_iff_forall_not_mem.mpr fun mark hmark => hdisjoint hmark hmark

/-- No comparison of copied values fails. -/
theorem Copies.isComparable (h : Copies v w) : IsComparable true v ∧ IsComparable true w := by
  induction h with
  | @atom v hatom =>
    have hboth : IsComparable true v := by
      cases v with
      | identifier i => exact .identifier true i
      | decimal d =>
        cases d with
        | notANumber => cases hatom
        | _ => exact .leaf rfl fun _ => rfl
      | null | undefined | bool | text | range | number => exact .leaf rfl fun _ => rfl
      | _ => cases hatom
    exact ⟨hboth, hboth⟩
  | nan | decimal => exact ⟨.leaf rfl fun _ => rfl, .leaf rfl fun _ => rfl⟩
  | list length items ih =>
    exact ⟨.list (forall_of_zip_left length fun p hp => (ih p hp).1),
      .list (forall_of_zip_right length fun p hp => (ih p hp).2)⟩
  | tuple length items ih =>
    exact ⟨.tuple (forall_of_zip_left length fun p hp => (ih p hp).1),
      .tuple (forall_of_zip_right length fun p hp => (ih p hp).2)⟩
  | map length distinct distinct' keyed keyed' _ _ _ ih =>
    exact ⟨.map distinct keyed (forall_of_zip_left length fun p hp => (ih p hp).1),
      .map distinct' keyed' (forall_of_zip_right length fun p hp => (ih p hp).2)⟩
  | nothing => exact ⟨.nothing true, .nothing true⟩
  | just _ ih => exact ⟨.just ih.1, .just ih.2⟩
  | left _ ih => exact ⟨.left ih.1, .left ih.2⟩
  | right _ ih => exact ⟨.right ih.1, .right ih.2⟩

/-! ## Copies are equal where all numbers are one -/

/-- Data without contents stands for itself. -/
theorem stands_of_isAtom (h : v.isAtom = true) : v.Stands := by
  cases v with
  | number n =>
    refine ⟨fun hn => ?_⟩
    cases n with
    | nan => cases h
    | float x => exact Number.exact_ne_nowhere_iff.mpr rfl (Option.some.inj hn)
    | _ => cases hn
  | decimal d =>
    cases d with
    | notANumber => cases h
    | _ => exact ⟨nofun⟩
  | null | undefined | bool | text | range | identifier => exact ⟨nofun⟩
  | _ => cases h

/-- So it equals itself. -/
theorem equals_of_isAtom (h : v.isAtom = true) : equals v v = .ok true := by
  obtain ⟨k, hk, -⟩ := exists_key_of_isAtom h
  exact (stands_of_isAtom h).equals_of_sameKey (stands_of_isAtom h) (sameKey_of_key hk hk)

variable [Host]

/-- Copies at one position of two sequences are taken to be equal if all numbers in them are one. -/
theorem Copies.tells_inPlace (h : Copies v w) (hdisjoint : v.nans.Disjoint w.nans)
    (hequals : Tells (equals v w) (v.nans = [])) :
    Tells (if sameKey v w then .ok true else equals v w) (v.nans = []) := by
  split
  · rename_i hsame
    exact tells_ok (iff_of_true rfl (h.nans_of_sameKey hdisjoint hsame))
  · exact hequals

theorem tells_equalElements_of_copies (hlength : vs.length = ws.length)
    (hitems : ∀ p ∈ vs.zip ws, Copies p.1 p.2) (hdisjoint : (nansAll vs).Disjoint (nansAll ws))
    (ih : ∀ p ∈ vs.zip ws, p.1.nans.Disjoint p.2.nans → Tells (equals p.1 p.2) (p.1.nans = [])) :
    Tells (equalElements vs ws) (nansAll vs = []) := by
  induction vs generalizing ws with
  | nil =>
    obtain rfl := List.length_eq_zero_iff.mp hlength.symm
    rw [equalElements]
    exact tells_ok (iff_of_true rfl (by rw [nansAll]))
  | cons v vs ihvs =>
    obtain ⟨w, ws, rfl⟩ := List.exists_cons_of_length_eq_add_one hlength.symm
    rw [List.zip_cons_cons, List.forall_mem_cons] at hitems ih
    rw [nansAll, nansAll, List.disjoint_append_left, List.disjoint_append_right,
      List.disjoint_append_right] at hdisjoint
    obtain ⟨⟨hhere, -⟩, -, hthere⟩ := hdisjoint
    obtain ⟨b, hb, hfirst⟩ := hitems.1.tells_inPlace hhere (ih.1 hhere)
    rw [equalElements, hb, nansAll, List.append_eq_nil_iff, ← hfirst]
    cases b with
    | false => exact tells_of_not (by simp)
    | true => exact (ihvs (Nat.succ.inj hlength) hitems.2 hthere ih.2).congr (by simp)

omit [Host] in
/-- The entries of a copied map lie under the same keys if all numbers in them are one. -/
theorem equalUnder_iff_of_copies (hlength : es.length = fs.length) (hdistinct : HasDistinctKeys fs)
    (hkeyed : ∀ e ∈ es, ∃ k, e.1.key = .ok k)
    (hkeys : ∀ p ∈ es.zip fs, Copies p.1.1 p.2.1)
    (hdisjoint : (nansEntries es).Disjoint (nansEntries fs))
    (halike : ∀ p ∈ es.zip fs, Alike p.1.2 p.2.2 ↔ p.1.2.nans = []) :
    EqualUnder es fs ↔ nansEntries es = [] := by
  have hfound {e f : Value × Value} (hpair : (e, f) ∈ es.zip fs) {k : Key} (hk : e.1.key = .ok k)
      (hnans : e.1.nans = []) : valueAt? k fs = some f.2 := by
    refine hdistinct.valueAt?_of_mem (List.of_mem_zip hpair).2 ?_
    rw [← (hkeys _ hpair).eq_of_nans hnans, hk]
  rw [nansEntries_eq_nil_iff]
  constructor
  · intro h
    refine forall_of_zip_left hlength fun ⟨e, f⟩ hpair => ?_
    have he := (List.of_mem_zip hpair).1
    obtain ⟨k, hk⟩ := hkeyed e he
    obtain ⟨w, hunder, hw⟩ := h e he k hk
    obtain ⟨f', hf', hk', -⟩ := exists_of_valueAt? hunder
    -- whatever entry is found, its key tells that all numbers in the key are one
    have hmarks := forall_of_zip_right (P := fun f => ∀ k, f.1.key = .ok k → k.marks = f.1.nans)
      hlength (fun p hp => (hkeys p hp).marks_eq.2) f' hf' k hk'
    rw [(hkeys _ hpair).marks_eq.1 k hk] at hmarks
    have hnans : e.1.nans = [] := List.eq_nil_iff_forall_not_mem.mpr fun mark hmark =>
      hdisjoint ((nans_subset_nansEntries he).1 hmark)
        ((nans_subset_nansEntries hf').1 (hmarks ▸ hmark))
    obtain rfl := Option.some.inj (hunder.symm.trans (hfound hpair hk hnans))
    exact ⟨hnans, (halike _ hpair).mp hw⟩
  · intro h
    refine forall_of_zip_left hlength fun ⟨e, f⟩ hpair k hk => ?_
    obtain ⟨hnans, hnans'⟩ := h e (List.of_mem_zip hpair).1
    exact ⟨f.2, hfound hpair hk hnans, (halike _ hpair).mpr hnans'⟩

/-- **A copy equals the value exactly if all numbers in it are one.** -/
theorem Copies.tells_equals (h : Copies v w) (hdisjoint : v.nans.Disjoint w.nans) :
    Tells (equals v w) (v.nans = []) := by
  induction h with
  | atom hatom =>
    rw [equals_of_isAtom hatom]
    exact tells_ok (iff_of_true rfl (nans_of_isAtom hatom))
  | nan | decimal =>
    unfold equals
    exact tells_of_not (by simp [nans])
  | list length items ih =>
    rw [nans, nans] at hdisjoint
    rw [equals_of_lists (.inl rfl) (.inl rfl), if_pos length, nans]
    exact tells_equalElements_of_copies length items hdisjoint ih
  | tuple length items ih =>
    rw [nans, nans] at hdisjoint
    rw [equals, nans]
    exact tells_equalElements_of_copies length items hdisjoint ih
  | @map es fs length distinct distinct' keyed keyed' keys values _ ih =>
    rw [nans, nans] at hdisjoint
    rw [equals, if_pos length, nans]
    have hleft : ∀ e ∈ es, IsComparable true e.2 :=
      forall_of_zip_left length fun p hp => (values p hp).isComparable.1
    have hright : ∀ f ∈ fs, IsComparable true f.2 :=
      forall_of_zip_right length fun p hp => (values p hp).isComparable.2
    have hanswers : ∀ e ∈ es, ∀ f ∈ fs, (equals e.2 f.2).Answers := fun e he f hf =>
      (hleft e he).answers (hright f hf)
    refine (tells_equalUnder keyed hanswers).congr
      (equalUnder_iff_of_copies length distinct' keyed keys hdisjoint fun p hp => ?_)
    obtain ⟨he, hf⟩ := List.of_mem_zip hp
    have hapart : p.1.2.nans.Disjoint p.2.2.nans := fun mark hmark hmark' =>
      hdisjoint ((nans_subset_nansEntries he).2 hmark) ((nans_subset_nansEntries hf).2 hmark')
    exact (tells_alike (hanswers _ he _ hf)).eq_ok_iff.symm.trans
      ((values p hp).tells_inPlace hapart (ih p hp hapart)).eq_ok_iff
  | nothing =>
    rw [equals]
    exact tells_ok (iff_of_true rfl rfl)
  | just _ ih | left _ ih | right _ ih =>
    rw [nans, nans] at hdisjoint
    rw [equals, nans]
    exact ih hdisjoint

/-! ## Copies agree where only equality would say otherwise -/

omit [Host] in
/-- Data without contents is firm, unless it is a quotient that is too large. -/
theorem isFirm_of_isAtom (h : v.isAtom = true) (hsmall : ¬ Overflows v v) : v.IsFirm := by
  refine ⟨stands_of_isAtom h, ?_, fun hv => absurd hv (not_isFamily_of_identifier? ?_), ?_⟩
  · cases v <;> first | rfl | cases h
  · cases v <;> first | rfl | cases h
  · intro n hn hlarge
    cases v with
    | number m =>
      obtain rfl := Option.some.inj hn
      exact hsmall (.here hlarge rfl)
    | bool b =>
      obtain rfl := Option.some.inj hn
      obtain ⟨q, hq, -⟩ := hlarge
      cases hq
    | null | undefined | text | range | identifier | decimal => cases hn
    | _ => cases h

/-- **When a value agrees with a copy of it.**  It does if all numbers in it are one, or if there is
nothing in it but a binary64 number that is not one. -/
theorem Copies.agrees (h : Copies v w) (hdisjoint : v.nans.Disjoint w.nans)
    (hsmall : ¬ Overflows v w) :
    ∃ b, agreesWith v w = .ok (bool b) ∧
      (b = true ↔ v.nans = [] ∨ ∃ mark, v.bare = number (.nan mark)) := by
  have hfirm {v w : Value} (hv : v.IsFirm) (hw : w.IsFirm)
      (htells : Tells (equals v w) (v.nans = [])) :
      ∃ b, agreesWith v w = .ok (bool b) ∧
        (b = true ↔ v.nans = [] ∨ ∃ mark, v.bare = number (.nan mark)) := by
    obtain ⟨b, hb, hequal⟩ := htells
    refine ⟨b, by rw [agreesWith_of_isFirm hv hw, hb]; rfl, hequal.trans (or_iff_left ?_).symm⟩
    rintro ⟨mark, hbare⟩
    refine hv.number ?_
    rw [hbare]
    rfl
  have htells := h.tells_equals hdisjoint
  induction h with
  | atom hatom =>
    exact hfirm (isFirm_of_isAtom hatom hsmall) (isFirm_of_isAtom hatom hsmall) htells
  | nan mark =>
    exact ⟨true, by unfold agreesWith; rfl, iff_of_true rfl (.inr ⟨mark, rfl⟩)⟩
  | decimal =>
    refine ⟨false, by unfold agreesWith; unfold agreeFlat; unfold equals; rfl,
      iff_of_false Bool.false_ne_true ?_⟩
    rintro (h | ⟨mark, h⟩) <;> cases h
  | list | tuple | map =>
    exact hfirm (isFirm_of_isCompound rfl) (isFirm_of_isCompound rfl) htells
  | nothing =>
    exact ⟨true, by unfold agreesWith; rfl, iff_of_true rfl (.inl rfl)⟩
  | just _ ih | left _ ih | right _ ih =>
    rw [nans, nans] at hdisjoint
    rw [equals, nans] at htells
    obtain ⟨b, hb, hiff⟩ := ih hdisjoint (fun h => hsmall (by constructor; exact h)) htells
    refine ⟨b, ?_, hiff⟩
    first | rw [agreesWith_just, hb] | rw [agreesWith_left, hb] | rw [agreesWith_right, hb]
    rfl

/-- A quotient that is too large for a binary64 number is not compared with a number. -/
theorem agreesWith_of_overflows (h : Overflows v w) :
    agreesWith v w = .error (.basic (.number .quotientTooLarge)) := by
  induction h with
  | @here n w large beside =>
    rw [agreesWith_of_not_isFamily (not_isFamily_of_identifier? rfl)]
    unfold agreeFlat
    rw [bothNaN_of_isTooLarge rfl large beside]
    rfl
  | just _ ih =>
    rw [agreesWith_just, ih]
    rfl
  | left _ ih =>
    rw [agreesWith_left, ih]
    rfl
  | right _ ih =>
    rw [agreesWith_right, ih]
    rfl

/-! ## Containers -/

/-- **What comparing makes of containers.**  Two optional values that are present agree as their
contents do, and so do two failures and two successes, whatever the contents are.

Two lists or two tuples of elements on which the operation is equality agree exactly if they are of
one length and their elements agree, one by one.

Copies are made of the same null values, truth values, numbers, texts, progressions and identifiers by
lists, tuples, maps, optional values, failures and successes, and numbers that are not a number are
others than before.  A value agrees with a copy of it if all numbers in it are one, or if it is
nothing but a binary64 number that is not one, under optional values, failures and successes; and
otherwise it does not.  Only a quotient that is too large for a binary64 number, under the same, makes
the comparison fail. -/
theorem agreement_of_containers (mark : Nat) :
    (∀ v w,
      perform mark .equals (just v) [just w] =
        (do return bool (← perform mark .equals v [w]).truth) ∧
      perform mark .equals (left v) [left w] =
        (do return bool (← perform mark .equals v [w]).truth) ∧
      perform mark .equals (right v) [right w] =
        (do return bool (← perform mark .equals v [w]).truth)) ∧
    (∀ vs ws, (∀ v ∈ vs, v.IsFirm) → (∀ w ∈ ws, w.IsFirm) →
      (perform mark .equals (list vs) [list ws] = .ok yes ↔
        List.Forall₂ (fun v w => perform mark .equals v [w] = .ok yes) vs ws) ∧
      (perform mark .equals (tuple vs) [tuple ws] = .ok yes ↔
        List.Forall₂ (fun v w => perform mark .equals v [w] = .ok yes) vs ws)) ∧
    ∀ v w, Copies v w → v.nans.Disjoint w.nans →
      (Overflows v w → perform mark .equals v [w] = .error (.basic (.number .quotientTooLarge))) ∧
      (¬ Overflows v w → ∃ b, perform mark .equals v [w] = .ok (bool b) ∧
        (b = true ↔ v.nans = [] ∨ ∃ mark, v.bare = number (.nan mark))) := by
  simp only [perform_equals]
  exact ⟨fun v w => ⟨agreesWith_just v w, agreesWith_left v w, agreesWith_right v w⟩,
    fun vs ws => agreesWith_sequence_iff,
    fun v w hcopies hdisjoint => ⟨agreesWith_of_overflows, hcopies.agrees hdisjoint⟩⟩

/-- Two successes that are not a number agree, and two lists of such numbers do not.  A list of an
integer and a present text agrees with one whose integer is a truth value. -/
theorem agreement_of_containers_nan :
    let nan := number (.nan 1)
    let other := number (.nan 2)
    let vs := [int 1, just (text "a")]
    let ws := [yes, just (text "a")]
    Copies (right nan) (right other) ∧ ¬ Overflows (right nan) (right other) ∧
    Copies (list [nan]) (list [other]) ∧ ¬ Overflows (list [nan]) (list [other]) ∧
    nan.nans.Disjoint other.nans ∧ (∀ v ∈ vs, v.IsFirm) ∧ (∀ w ∈ ws, w.IsFirm) ∧
    perform 0 .equals (right nan) [right other] = .ok yes ∧
    perform 0 .equals nan [other] = .ok yes ∧
    perform 0 .equals (list [nan]) [list [other]] = .ok no ∧
    perform 0 .equals (list vs) [list ws] = .ok yes := by
  intro nan other vs ws
  have hcopies : Copies nan other := .nan 1 2
  have hright : Copies (right nan) (right other) := .right hcopies
  have hlist : Copies (list [nan]) (list [other]) :=
    .list rfl (List.forall_mem_singleton.mpr hcopies)
  have hdisjoint : nan.nans.Disjoint other.nans := by
    change List.Disjoint [1] [2]
    exact List.disjoint_singleton.mpr (by decide)
  have hfloat : ¬ Overflows nan other := fun h => by
    obtain ⟨⟨q, hq, -⟩, -⟩ := overflows_number_iff.mp h
    cases hq
  have hoverRight : ¬ Overflows (right nan) (right other) := fun h => by
    cases h with
    | right inside => exact hfloat inside
  have hoverList : ¬ Overflows (list [nan]) (list [other]) := nofun
  have hint : (int 1).IsFirm := isFirm_of_isAtom rfl fun h => by
    obtain ⟨⟨q, hq, -⟩, -⟩ := overflows_number_iff.mp h
    cases hq
  have htext : (just (text "a")).IsFirm :=
    ⟨⟨nofun⟩, rfl, fun h => absurd h (not_isFamily_of_identifier? rfl), nofun⟩
  have hvs : ∀ v ∈ vs, v.IsFirm :=
    List.forall_mem_cons.mpr ⟨hint, List.forall_mem_singleton.mpr htext⟩
  have hws : ∀ w ∈ ws, w.IsFirm :=
    List.forall_mem_cons.mpr ⟨isFirm_of_isAtom rfl nofun, List.forall_mem_singleton.mpr htext⟩
  obtain ⟨hwrapped, hsequences, hcopied⟩ := agreement_of_containers 0
  have hnan : perform 0 .equals nan [other] = .ok yes := by
    obtain ⟨b, hb, hiff⟩ := (hcopied _ _ hcopies hdisjoint).2 hfloat
    rw [hb, hiff.mpr (.inr ⟨1, rfl⟩)]
    rfl
  refine ⟨hright, hoverRight, hlist, hoverList, hdisjoint, hvs, hws, ?_, hnan, ?_, ?_⟩
  · rw [(hwrapped nan other).2.2, hnan]
    rfl
  · obtain ⟨b, hb, hiff⟩ := (hcopied _ _ hlist hdisjoint).2 hoverList
    cases b with
    | false => exact hb
    | true =>
      rcases hiff.mp rfl with h | ⟨mark, h⟩
      · exact absurd h (by decide)
      · cases h
  · have hfirst : perform 0 .equals (int 1) [yes] = .ok yes := by
      rw [perform_equals]
      unfold agreesWith agreeFlat equals
      rfl
    have hsecond : perform 0 .equals (just (text "a")) [just (text "a")] = .ok yes := by
      rw [(hwrapped _ _).1, perform_equals]
      unfold agreesWith agreeFlat equals
      rfl
    exact (hsequences vs ws hvs hws).1.mpr (.cons hfirst (.cons hsecond .nil))

end Value

end CheckedCurry
