import CheckedCurry.Proofs.Ty.Numeric
import CheckedCurry.Proofs.Value.Meaning

/-!
# What values are looked up by

The key of a value tells what sort of value it is.  Tuples, optional values, failures and successes have
keys of their own shapes, from which their contents can be read.  Numbers of all sorts are looked up by
the point where they are, so that equal ones have one key.  Only what is nowhere, and what is not data,
is looked up by where it came from.

- `Value.ShapedKey`, `Value.shapedKey_of_key`: keys of values with contents, and what they are made of.
- `Key.point?`, `Value.point?_of_key`: keys of numbers, and the points where they are.
- `Value.point?_of_isMarked`: values that are looked up by where they came from.
-/

namespace CheckedCurry

namespace Key

/-- Whether a key is that of a tuple, of an optional value, a failure or a success. -/
def isShaped : Key → Bool
  | tuple | item .. | nothing | just _ | left _ | right _ => true
  | _ => false

/-- The point of the numbers that are looked up by a key. -/
def point? : Key → Option Extended
  | rational q => some (.finite q)
  | infinite s => some (.infinite s)
  | _ => none

/-- Whether a key is that of a value that is looked up by where it came from. -/
def isMarked : Key → Bool
  | marked _ => true
  | _ => false

theorem point?_of_isShaped {k : Key} (h : k.isShaped = true) : k.point? = none := by
  cases k with
  | rational | infinite => cases h
  | _ => rfl

end Key

/-- A number is looked up by its point, unless it is not a number. -/
theorem Number.key_cases (n : Number) :
    n.key.isMarked = false ∧ n.key.point? = some n.exact ∨ ∃ mark, n = nan mark := by
  by_cases hn : n.exact = .nowhere
  · rw [← not_not (a := n.exact = .nowhere), exact_ne_nowhere_iff.not] at hn
    cases n with
    | nan mark => exact .inr ⟨mark, rfl⟩
    | _ => simp [isNaN] at hn
  · left
    cases n with
    | nan mark => exact absurd rfl hn
    | int | ratio => exact ⟨rfl, rfl⟩
    | float x =>
      unfold key
      cases hx : (float x).exact with
      | finite | infinite => exact ⟨rfl, rfl⟩
      | nowhere => exact absurd hx hn

namespace Value

variable {v w : Value} {vs ws : List Value} {k l : Key}

theorem exists_of_sameKey (h : sameKey v w = true) : ∃ k, v.key = .ok k ∧ w.key = .ok k := by
  unfold sameKey at h
  split at h
  · rename_i k l hk hl
    exact ⟨k, hk, by rw [hl, eq_of_beq h]⟩
  · cases h

/-! ## Tuples -/

theorem keyTuple_cons (hv : v.key = .ok k) (hvs : keyTuple vs = .ok l) :
    keyTuple (v :: vs) = .ok (.item k l) := by
  rw [keyTuple, hv, hvs]
  rfl

theorem exists_of_keyTuple_cons (h : keyTuple (v :: vs) = .ok k) :
    ∃ first rest, k = .item first rest ∧ v.key = .ok first ∧ keyTuple vs = .ok rest := by
  rw [keyTuple] at h
  obtain ⟨first, hfirst, h⟩ := bind_eq_ok.mp h
  obtain ⟨rest, hrest, h⟩ := bind_eq_ok.mp h
  exact ⟨first, rest, (Except.ok.inj h).symm, hfirst, hrest⟩

theorem exists_of_keyTuple_item (h : keyTuple vs = .ok (.item k l)) :
    ∃ w ws, vs = w :: ws ∧ w.key = .ok k ∧ keyTuple ws = .ok l := by
  cases vs with
  | nil => cases h
  | cons w ws =>
    obtain ⟨_, _, hitem, hfirst, hrest⟩ := exists_of_keyTuple_cons h
    obtain ⟨rfl, rfl⟩ := Key.item.inj hitem
    exact ⟨w, ws, rfl, hfirst, hrest⟩

theorem eq_nil_of_keyTuple (h : keyTuple vs = .ok .tuple) : vs = [] := by
  cases vs with
  | nil => rfl
  | cons w ws =>
    obtain ⟨_, _, hitem, -⟩ := exists_of_keyTuple_cons h
    cases hitem

/-! ## Shapes -/

/-- Whether a value is one of the values that are compared by their contents. -/
def isShaped : Value → Bool
  | list _ | deque _ | tuple _ | identifier _ | map _ | nothing | just _ | left _ | right _ => true
  | _ => false

theorem core_of_isShaped (h : v.isShaped = true) : v.core = v := by
  cases v with
  | object => cases h
  | _ => rfl

theorem point?_of_isShaped (h : v.isShaped = true) : v.core.point? = none := by
  rw [core_of_isShaped h]
  cases v <;> first | rfl | cases h

/-- The keys of tuples, optional values, failures and successes. -/
inductive ShapedKey : Value → Key → Prop
  | empty : ShapedKey (tuple []) .tuple
  | item {v : Value} {vs : List Value} {k l : Key} (head : v.key = .ok k)
    (tail : keyTuple vs = .ok l) : ShapedKey (tuple (v :: vs)) (.item k l)
  | identifier (i : Identifier) : ShapedKey (identifier i) i.key
  | nothing : ShapedKey nothing .nothing
  | just {v : Value} {k : Key} (content : v.key = .ok k) : ShapedKey (just v) (.just k)
  | left {v : Value} {k : Key} (content : v.key = .ok k) : ShapedKey (left v) (.left k)
  | right {v : Value} {k : Key} (content : v.key = .ok k) : ShapedKey (right v) (.right k)

theorem ShapedKey.isShaped (h : ShapedKey v k) : k.isShaped = true := by
  cases h <;> rfl

theorem shapedKey_of_isShaped (h : v.isShaped = true) (hk : v.key = .ok k) : ShapedKey v k := by
  cases v with
  | list | deque | map => cases hk
  | identifier i =>
    obtain rfl := Except.ok.inj hk
    exact .identifier i
  | nothing =>
    obtain rfl := Except.ok.inj hk
    exact .nothing
  | tuple items =>
    cases items with
    | nil =>
      obtain rfl := Except.ok.inj hk
      exact .empty
    | cons v vs =>
      obtain ⟨_, _, rfl, hfirst, hrest⟩ := exists_of_keyTuple_cons hk
      exact .item hfirst hrest
  | just v | left v | right v =>
    rw [key] at hk
    obtain ⟨l, hl, hk⟩ := bind_eq_ok.mp hk
    obtain rfl := Except.ok.inj hk
    constructor
    exact hl
  | _ => cases h

/-- **The key of any other value is none of these**, and unless it is about where the value came from,
it tells the point of the value, if the value has one. -/
theorem unshaped_key (h : v.isShaped = false) (hk : v.key = .ok k) :
    k.isShaped = false ∧ (k.isMarked = false → v.core.point? = k.point?) := by
  have hmark {mark : Nat} (hk : .marked mark = k) {p : Option Extended} :
      k.isShaped = false ∧ (k.isMarked = false → p = k.point?) := by
    subst hk
    exact ⟨rfl, fun hmarked => by cases hmarked⟩
  have hnumber {n : Number} (hn : n.key = k) :
      k.isShaped = false ∧ (k.isMarked = false → some n.exact = k.point?) := by
    rcases n.key_cases with ⟨-, hpoint⟩ | ⟨mark, rfl⟩
    · rw [hn] at hpoint
      refine ⟨?_, fun _ => hpoint.symm⟩
      by_contra hshaped
      rw [Key.point?_of_isShaped (by simpa using hshaped)] at hpoint
      cases hpoint
    · exact hmark hn
  cases v with
  | list | deque | tuple | identifier | map | nothing | just | left | right => cases h
  | number n => exact hnumber (Except.ok.inj hk)
  | decimal d =>
    rw [key] at hk
    split at hk
    · cases hk
    · cases d with
      | notANumber => exact hmark (Except.ok.inj hk)
      | _ =>
        obtain rfl := Except.ok.inj hk
        exact ⟨rfl, fun _ => rfl⟩
  | object shape attrs base =>
    unfold key at hk
    cases base with
    | none => exact hmark (Except.ok.inj hk)
    | some b =>
      cases b with
      | number n => exact hnumber (Except.ok.inj hk)
      | text s =>
        obtain rfl := Except.ok.inj hk
        exact ⟨rfl, fun _ => rfl⟩
      | list => cases hk
  | moment m =>
    rw [key] at hk
    split at hk <;> (obtain rfl := Except.ok.inj hk; exact ⟨rfl, fun _ => rfl⟩)
  | range p =>
    obtain rfl := Except.ok.inj hk
    unfold Progression.key
    split <;> exact ⟨rfl, fun _ => rfl⟩
  | type mark t =>
    unfold key at hk
    cases mark <;> cases t <;> (obtain rfl := Except.ok.inj hk; exact ⟨rfl, fun _ => rfl⟩)
  | bound f receiver =>
    rw [key] at hk
    obtain ⟨_, -, hk⟩ := bind_eq_ok.mp hk
    obtain ⟨_, -, hk⟩ := bind_eq_ok.mp hk
    obtain rfl := Except.ok.inj hk
    exact ⟨rfl, fun _ => rfl⟩
  | _ =>
    obtain rfl := Except.ok.inj hk
    exact ⟨rfl, fun _ => rfl⟩

theorem shapedKey_of_key (hk : v.key = .ok k) (hshaped : k.isShaped = true) : ShapedKey v k := by
  cases hv : v.isShaped with
  | false =>
    rw [(unshaped_key hv hk).1] at hshaped
    cases hshaped
  | true => exact shapedKey_of_isShaped hv hk

theorem sameKey_of_shaped (hv : v.isShaped = true) (hw : w.isShaped = false) :
    sameKey v w = false := by
  by_contra hsame
  obtain ⟨k, hk, hk'⟩ := exists_of_sameKey (by simpa using hsame)
  have hshaped := (shapedKey_of_isShaped hv hk).isShaped
  rw [(unshaped_key hw hk').1] at hshaped
  cases hshaped

/-! ## Points -/

/-- What is not looked up by where it came from is looked up by its point, if it has one. -/
theorem point?_of_key (hk : v.key = .ok k) (hmarked : k.isMarked = false) :
    v.core.point? = k.point? := by
  cases hv : v.isShaped with
  | false => exact (unshaped_key hv hk).2 hmarked
  | true =>
    rw [point?_of_isShaped hv, Key.point?_of_isShaped (shapedKey_of_isShaped hv hk).isShaped]

/-- What is looked up by where it came from is no number, unless it is nowhere. -/
theorem point?_of_isMarked (hk : v.key = .ok k) (hmarked : k.isMarked = true)
    (hnumber : v.core.point? ≠ some .nowhere) : v.core.point? = none := by
  have hnan {n : Number} (hn : n.key = k) : n.exact = .nowhere := by
    rcases n.key_cases with ⟨hmark, -⟩ | ⟨mark, rfl⟩
    · rw [hn, hmarked] at hmark
      cases hmark
    · rfl
  cases v with
  | bool b =>
    obtain rfl := Except.ok.inj hk
    cases hmarked
  | number n => exact absurd (congrArg some (hnan (Except.ok.inj hk))) hnumber
  | decimal d =>
    rw [key] at hk
    split at hk
    · cases hk
    · obtain rfl := Except.ok.inj hk
      cases d with
      | notANumber => exact absurd rfl hnumber
      | _ => cases hmarked
  | object shape attrs base =>
    cases base with
    | none => rfl
    | some b =>
      cases b with
      | number n =>
        unfold key at hk
        exact absurd (congrArg some (hnan (Except.ok.inj hk))) hnumber
      | text | list => rfl
  | _ => rfl

/-- A decimal that comparisons refuse is nowhere. -/
theorem isSignaling_of_point? (h : v.core.point? ≠ some .nowhere) : v.isSignaling = false := by
  unfold isSignaling
  split
  · rename_i d hd
    rw [hd] at h
    cases d with
    | notANumber => exact absurd rfl h
    | _ => rfl
  · rfl

end Value

end CheckedCurry
