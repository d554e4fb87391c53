import CheckedCurry.Proofs.Value.Dispatch
import CheckedCurry.Proofs.Value.Meaning

/-!
# Optional values, failures and successes as keys

A map finds a key by its hash and then by equality, so that keys that are equal must have one hash.
Equality goes by cases: numbers of all sorts are equal to one another, and an absent value has no
content to compare.  The hash of an optional value, a failure or a success is always that of a tuple of
three: the identifier, whether it is present or a success, and the content.  Both depend on nothing
but what a value means.

- `Value.IsHashable`: the contents that this is for.
- `Meaning.key`, `Value.IsHashable.key_eq`: what a value is looked up by, from what it means.
- `Hashing`, `Hashing.hash`: any way to hash values without contents and tuples, and what it makes of
  all values; `Hashing.standard`: the way that hashes of keys are computed.
- `Value.IsHashable.hash_eq`: the hash of a value, from what it means.
- `Value.family_keys`: optional values, failures and successes are sound keys.
-/

namespace CheckedCurry

namespace Value

variable {v w x y z : Value} {items : List Value}

/-! ## Hashable values -/

/-- Null values, truth values, integers, quotients and texts. -/
inductive IsFlat : Value → Prop
  | null : IsFlat null
  | bool (b : Bool) : IsFlat (bool b)
  | int (n : Int) : IsFlat (int n)
  | ratio (q : Rat) : IsFlat (number (.ratio q))
  | text (s : String) : IsFlat (text s)

/-- Values built from flat ones by tuples, optional values, failures and successes. -/
inductive IsHashable : Value → Prop
  | flat {v : Value} (flat : IsFlat v) : IsHashable v
  | tuple {items : List Value} (hashable : ∀ v ∈ items, IsHashable v) : IsHashable (tuple items)
  | nothing : IsHashable nothing
  | just {v : Value} (hashable : IsHashable v) : IsHashable (just v)
  | left {v : Value} (hashable : IsHashable v) : IsHashable (left v)
  | right {v : Value} (hashable : IsHashable v) : IsHashable (right v)

theorem IsFlat.isPlain (h : v.IsFlat) : v.IsPlain := by
  cases h <;> constructor

theorem IsHashable.isPlain (h : v.IsHashable) : v.IsPlain := by
  induction h with
  | flat h => exact h.isPlain
  | tuple _ ih => exact .tuple ih
  | nothing => exact .nothing
  | just _ ih => exact .just ih
  | left _ ih => exact .left ih
  | right _ ih => exact .right ih

end Value

/-! ## Keys -/

namespace Meaning

mutual

/-- What values that mean the same are looked up by. -/
def key : Meaning → Key
  | atom k => k
  | tuple ds => keyTuple ds
  | just d => .just d.key
  | left d => .left d.key
  | right d => .right d.key
  | list _ | map _ => .null

/-- What tuples are looked up by whose elements mean the same. -/
def keyTuple : List Meaning → Key
  | [] => .tuple
  | d :: ds => .item d.key (keyTuple ds)

end

end Meaning

namespace Value

variable {v w x y z : Value} {items : List Value}

theorem IsFlat.key_eq (h : v.IsFlat) : ∃ k, v.key = .ok k ∧ v.meaning = .atom k := by
  cases h <;> exact ⟨_, rfl, rfl⟩

theorem keyTuple_eq (ih : ∀ v ∈ items, v.key = .ok v.meaning.key) :
    keyTuple items = .ok (Meaning.keyTuple (meanings items)) := by
  induction items with
  | nil => rw [keyTuple, meanings, Meaning.keyTuple]
  | cons v vs ihvs =>
    obtain ⟨hv, hvs⟩ := List.forall_mem_cons.mp ih
    rw [keyTuple, hv, ihvs hvs, meanings, Meaning.keyTuple]
    rfl

/-- **A hashable value has a key, and it depends only on what the value means.** -/
theorem IsHashable.key_eq (h : v.IsHashable) : v.key = .ok v.meaning.key := by
  induction h with
  | flat h =>
    obtain ⟨k, hk, hmeaning⟩ := h.key_eq
    rw [hk, hmeaning, Meaning.key]
  | tuple _ ih => rw [key, keyTuple_eq ih, meaning, Meaning.key]
  | nothing => rfl
  | just _ ih | left _ ih | right _ ih =>
    rw [key, ih, meaning, Meaning.key]
    rfl

/-- Hashable values are one key exactly if they mean the same. -/
theorem IsHashable.sameKey_iff (hv : v.IsHashable) (hw : w.IsHashable) :
    sameKey v w = true ↔ v.meaning = w.meaning := by
  constructor
  · exact hv.isPlain.meaning_eq_of_sameKey hw.isPlain
  · intro h
    exact sameKey_of_key hv.key_eq (h ▸ hw.key_eq)

end Value

/-! ## Hashes -/

/-- A way to hash values without contents, and tuples by the hashes of their elements.  Values without
contents that are equal have one hash. -/
structure Hashing (H : Type) where
  flat : Value → H
  tuple : List H → H
  flat_congr : ∀ v w : Value, v.IsFlat → w.IsFlat → Value.equals v w = .ok true → flat v = flat w

namespace Hashing

variable {H : Type} (h : Hashing H)

/-- The hash of an optional value, a failure or a success: that of a tuple of its identifier, whether
it is present or a success, and its content. -/
def family (identifier : String) (flag : Bool) (content : H) : H :=
  h.tuple [h.flat (.text identifier), h.flat (.bool flag), content]

mutual

/-- The hash of a value. -/
def hash : Value → H
  | .tuple items => h.tuple (hashAll items)
  | .nothing => h.family maybeIdentifier false (h.flat .null)
  | .just v => h.family maybeIdentifier true (hash v)
  | .left v => h.family eitherIdentifier false (hash v)
  | .right v => h.family eitherIdentifier true (hash v)
  | v => h.flat v

/-- The hashes of values, one by one. -/
def hashAll : List Value → List H
  | [] => []
  | v :: vs => hash v :: hashAll vs

end

/-- A value without contents that is looked up by a key. -/
def representative : Key → Value
  | .rational q => .number (.ratio q)
  | .text s => .text s
  | _ => .null

mutual

/-- The hash of values that mean the same. -/
def ofMeaning : Meaning → H
  | .atom .nothing => h.family maybeIdentifier false (h.flat .null)
  | .atom k => h.flat (representative k)
  | .tuple ds => h.tuple (ofMeanings ds)
  | .just d => h.family maybeIdentifier true (ofMeaning d)
  | .left d => h.family eitherIdentifier false (ofMeaning d)
  | .right d => h.family eitherIdentifier true (ofMeaning d)
  | .list _ | .map _ => h.flat .null

/-- The hashes of the elements of tuples that mean the same. -/
def ofMeanings : List Meaning → List H
  | [] => []
  | d :: ds => ofMeaning d :: ofMeanings ds

end

end Hashing

namespace Value

variable {v w x y z : Value} {items : List Value} {H : Type}

/-- A value without contents has the hash of the one that stands for what it means. -/
theorem IsFlat.hash_eq (hv : v.IsFlat) (h : Hashing H) : h.hash v = h.ofMeaning v.meaning := by
  have hequals {u : Value} (hu : u.IsFlat) (hmeaning : v.meaning = u.meaning) :
      h.flat v = h.flat u :=
    h.flat_congr v u hv hu ((hv.isPlain.tells_equals hu.isPlain).eq_ok_iff.mpr hmeaning)
  cases hv with
  | null | text => rfl
  | bool b => exact hequals (.ratio (if b then 1 else 0)) rfl
  | int n => exact hequals (.ratio n) rfl
  | ratio q => rfl

theorem hashAll_eq (h : Hashing H) (ih : ∀ v ∈ items, h.hash v = h.ofMeaning v.meaning) :
    h.hashAll items = h.ofMeanings (meanings items) := by
  induction items with
  | nil => rw [Hashing.hashAll, meanings, Hashing.ofMeanings]
  | cons v vs ihvs =>
    obtain ⟨hv, hvs⟩ := List.forall_mem_cons.mp ih
    rw [Hashing.hashAll, hv, ihvs hvs, meanings, Hashing.ofMeanings]

/-- **The hash of a hashable value depends only on what it means**, however values without contents
and tuples are hashed. -/
theorem IsHashable.hash_eq (hv : v.IsHashable) (h : Hashing H) :
    h.hash v = h.ofMeaning v.meaning := by
  induction hv with
  | flat hv => exact hv.hash_eq h
  | tuple _ ih => rw [Hashing.hash, hashAll_eq h ih, meaning, Hashing.ofMeaning]
  | nothing => rfl
  | just _ ih | left _ ih | right _ ih => rw [Hashing.hash, ih, meaning, Hashing.ofMeaning]

/-! ## The hashes of keys -/

end Value

namespace Hashing

/-- The way that hashes of keys are computed. -/
def standard : Hashing Key where
  flat v := (v.key.toOption.getD .null).hash
  tuple := Key.ofList
  flat_congr v w hv hw h := by
    have hmeaning := (hv.isPlain.tells_equals hw.isPlain).eq_ok_iff.mp h
    rw [(Value.IsHashable.flat hv).key_eq, (Value.IsHashable.flat hw).key_eq, hmeaning]

/-- A truth value is hashed as zero or one. -/
theorem standard_family (identifier : String) (flag : Bool) (content : Key) :
    standard.family identifier flag content = Key.hashFamily identifier flag content := by
  have hflag : (Key.rational (if flag then 1 else 0)).hash = .rational (if flag then 1 else 0) := by
    cases flag <;> decide +kernel
  unfold family Key.hashFamily
  rw [← hflag]
  rfl

end Hashing

namespace Value

variable {v w x y z : Value} {items : List Value} {H : Type}

theorem hashAll_standard (ih : ∀ v ∈ items, Hashing.standard.hash v = v.meaning.key.hash) :
    Key.ofList (Hashing.standard.hashAll items) = (Meaning.keyTuple (meanings items)).hash := by
  induction items with
  | nil =>
    rw [Hashing.hashAll, meanings, Meaning.keyTuple]
    rfl
  | cons v vs ihvs =>
    obtain ⟨hv, hvs⟩ := List.forall_mem_cons.mp ih
    rw [Hashing.hashAll, hv, Key.ofList, ihvs hvs, meanings, Meaning.keyTuple, Key.hash]

/-- The standard hash of a value is the hash of its key. -/
theorem IsHashable.standard_hash (hv : v.IsHashable) :
    Hashing.standard.hash v = v.meaning.key.hash := by
  induction hv with
  | flat hv =>
    cases hv <;> rfl
  | tuple _ ih =>
    rw [Hashing.hash, meaning, Meaning.key]
    exact hashAll_standard ih
  | nothing =>
    rw [Hashing.hash, Hashing.standard_family]
    rfl
  | just _ ih | left _ ih | right _ ih =>
    rw [Hashing.hash, Hashing.standard_family, ih, meaning, Meaning.key, Key.hash]

/-! ## Sound keys -/

/-- **Optional values, failures and successes are sound keys.**  On those with hashable contents,
equality always answers, in either order alike; it is transitive, and no optional value equals a failure
or a success.  Two of them that are equal have one hash, however values without contents and tuples
are hashed, and they are one key of a map exactly if they are equal. -/
theorem family_keys (hx : x.IsHashable) (hy : y.IsHashable) (hz : z.IsHashable)
    (hxtagged : x.IsTagged) (hytagged : y.IsTagged) :
    (∃ b, equals x y = .ok b ∧ equals y x = .ok b) ∧
    (equals x y = .ok true → equals y z = .ok true → equals x z = .ok true) ∧
    (x.unifier = maybeIdentifier → y.unifier = eitherIdentifier →
      equals x y = .ok false ∧ equals y x = .ok false) ∧
    (∀ {H : Type} (h : Hashing H), equals x y = .ok true → h.hash x = h.hash y) ∧
    (∃ k, x.key = .ok k ∧ Hashing.standard.hash x = k.hash) ∧
    (sameKey x y = true ↔ equals x y = .ok true) := by
  have hxy := hx.isPlain.tells_equals hy.isPlain
  have hyx := hy.isPlain.tells_equals hx.isPlain
  have hyz := hy.isPlain.tells_equals hz.isPlain
  have hxz := hx.isPlain.tells_equals hz.isPlain
  refine ⟨?_, ?_, fun hmaybe heither => ?_, fun h hequal => ?_, ?_, ?_⟩
  · obtain ⟨b, hb, hequal⟩ := hxy
    obtain ⟨c, hc, hequal'⟩ := hyx
    refine ⟨b, hb, ?_⟩
    rw [hc, Bool.eq_iff_iff.mpr (hequal'.trans (eq_comm.trans hequal.symm))]
  · rw [hxy.eq_ok_iff, hyz.eq_ok_iff, hxz.eq_ok_iff]
    exact Eq.trans
  · rw [unifier_eq_iff (.inl rfl)] at hmaybe
    rw [unifier_eq_iff (.inr rfl)] at heither
    have hne : x.meaning ≠ y.meaning := by
      rcases hxtagged.maybe hmaybe with rfl | ⟨v, rfl⟩ <;>
        obtain ⟨w, rfl | rfl⟩ := hytagged.either heither <;>
          exact fun h => nomatch h
    exact ⟨hx.isPlain.equals_of_ne hy.isPlain hne, hy.isPlain.equals_of_ne hx.isPlain hne.symm⟩
  · rw [hx.hash_eq h, hy.hash_eq h, hxy.eq_ok_iff.mp hequal]
  · exact ⟨_, hx.key_eq, hx.standard_hash⟩
  · rw [hx.sameKey_iff hy, hxy.eq_ok_iff]

/-- A pair of one and a present text, inside a success: the number may be written in any way. -/
theorem family_keys_pair :
    let x := right (tuple [int 1, just (text "a")])
    let y := right (tuple [yes, just (text "a")])
    let z := just (number (.ratio (mkRat 1 2)))
    x.IsHashable ∧ y.IsHashable ∧ z.IsHashable ∧ x.IsTagged ∧ y.IsTagged ∧
      equals x y = .ok true ∧ sameKey x y = true ∧
      Hashing.standard.hash x = Hashing.standard.hash y ∧ equals z y = .ok false := by
  intro x y z
  have hpair {v : Value} (hv : v.IsFlat) : (right (tuple [v, just (text "a")])).IsHashable :=
    .right (.tuple (List.forall_mem_cons.mpr ⟨.flat hv,
      List.forall_mem_singleton.mpr (.just (.flat (.text "a")))⟩))
  have hx : x.IsHashable := hpair (.int 1)
  have hy : y.IsHashable := hpair (.bool true)
  have hz : z.IsHashable := .just (.flat (.ratio _))
  have hxtagged : x.IsTagged := .inr ⟨_, .inr (.inr rfl)⟩
  have hytagged : y.IsTagged := .inr ⟨_, .inr (.inr rfl)⟩
  obtain ⟨-, -, -, hhash, -, hkey⟩ := family_keys hx hy hz hxtagged hytagged
  obtain ⟨-, -, hother, -⟩ := family_keys hz hy hx (.inr ⟨_, .inl rfl⟩) hytagged
  have hsame : sameKey x y = true := by decide +kernel
  have hequal := hkey.mp hsame
  exact ⟨hx, hy, hz, hxtagged, hytagged, hequal, hsame, hhash _ hequal, (hother rfl rfl).1⟩

end Value

end CheckedCurry
