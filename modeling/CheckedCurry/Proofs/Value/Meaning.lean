import CheckedCurry.Proofs.Value.Attempt
import CheckedCurry.Proofs.Value.Merging
import Mathlib.Data.List.Perm.Subperm

/-!
# What values mean

Equality of values is computed by a recursion that skips elements that are one key, and it looks the
entries of one map up in another.  On values without objects, decimals and values that are not numbers
it is equality of what the values mean: numbers and truth values mean points of one line, a map
means a function from keys, whatever the order of its entries.

- `Meaning`, `Value.meaning`: what a value means; `Key.meaning`: the same, from a key.
- `Value.IsPlain`: the values that this is for.
- `Value.meantUnder_eq_iff`: when two maps mean the same function.
- `Value.IsPlain.tells_equals`: values are equal exactly if they mean the same.
-/

namespace CheckedCurry

/-- What a plain value means. -/
inductive Meaning where
  /-- A value without contents, by what it is looked up by. -/
  | atom (k : Key)
  | list (items : List Meaning)
  | tuple (items : List Meaning)
  /-- A map, by what is under each key. -/
  | map (under : Key → Option Meaning)
  | just (d : Meaning)
  | left (d : Meaning)
  | right (d : Meaning)

namespace Key

mutual

/-- What a value means that is looked up by a key. -/
def meaning : Key → Meaning
  | tuple => .tuple []
  | item first rest => .tuple (first.meaning :: rest.meanings)
  | just k => .just k.meaning
  | left k => .left k.meaning
  | right k => .right k.meaning
  | k => .atom k

/-- What the elements of a tuple mean that is looked up by a key. -/
def meanings : Key → List Meaning
  | item first rest => first.meaning :: rest.meanings
  | _ => []

end

end Key

namespace Value

mutual

/-- What a value means. -/
def meaning : Value → Meaning
  | list items => .list (meanings items)
  | tuple items => .tuple (meanings items)
  | map entries => .map (meantUnder entries)
  | just v => .just v.meaning
  | left v => .left v.meaning
  | right v => .right v.meaning
  | v => .atom (v.key.toOption.getD .null)

/-- What values mean, one by one. -/
def meanings : List Value → List Meaning
  | [] => []
  | v :: vs => v.meaning :: meanings vs

/-- What the value under a key means. -/
def meantUnder : List (Value × Value) → Key → Option Meaning
  | [], _ => none
  | (k, v) :: entries, l =>
    if k.key.toOption = some l then some v.meaning else meantUnder entries l

end

/-- Values built from null values, truth values, integers, quotients and texts. -/
inductive IsPlain : Value → Prop
  | null : IsPlain null
  | undefined : IsPlain undefined
  | bool (b : Bool) : IsPlain (bool b)
  | int (n : Int) : IsPlain (int n)
  | ratio (q : Rat) : IsPlain (number (.ratio q))
  | text (s : String) : IsPlain (text s)
  | list {items : List Value} (plain : ∀ v ∈ items, IsPlain v) : IsPlain (list items)
  | tuple {items : List Value} (plain : ∀ v ∈ items, IsPlain v) : IsPlain (tuple items)
  | map {entries : List (Value × Value)} (distinct : HasDistinctKeys entries)
    (keyed : ∀ e ∈ entries, ∃ k, e.1.key = .ok k) (plain : ∀ e ∈ entries, IsPlain e.2) :
    IsPlain (map entries)
  | nothing : IsPlain nothing
  | just {v : Value} (plain : IsPlain v) : IsPlain (just v)
  | left {v : Value} (plain : IsPlain v) : IsPlain (left v)
  | right {v : Value} (plain : IsPlain v) : IsPlain (right v)

variable {v w : Value} {items : List Value} {entries es fs : List (Value × Value)}

/-! ## Keys -/

theorem meaning_of_keyTuple (ih : ∀ v ∈ items, ∀ k, v.key = .ok k → v.meaning = k.meaning)
    {k : Key} (h : keyTuple items = .ok k) :
    meanings items = k.meanings ∧ k.meaning = .tuple k.meanings := by
  induction items generalizing k with
  | nil =>
    obtain rfl := Except.ok.inj h
    exact ⟨rfl, rfl⟩
  | cons v vs ihvs =>
    obtain ⟨hv, hvs⟩ := List.forall_mem_cons.mp ih
    rw [keyTuple] at h
    obtain ⟨first, hfirst, h⟩ := bind_eq_ok.mp h
    obtain ⟨rest, hrest, h⟩ := bind_eq_ok.mp h
    obtain rfl := Except.ok.inj h
    refine ⟨?_, ?_⟩
    · rw [meanings, hv first hfirst, (ihvs hvs hrest).1, Key.meanings]
    · rw [Key.meaning, Key.meanings]

/-- What a plain value means can be read off its key. -/
theorem IsPlain.meaning_of_key (hv : v.IsPlain) {k : Key} (h : v.key = .ok k) :
    v.meaning = k.meaning := by
  induction hv generalizing k with
  | list | map => cases h
  | tuple _ ih =>
    rw [key] at h
    obtain ⟨hitems, hk⟩ := meaning_of_keyTuple (fun v hv k hk => ih v hv hk) h
    rw [meaning, hitems, hk]
  | just _ ih | left _ ih | right _ ih =>
    rw [key] at h
    obtain ⟨k', hk', h⟩ := bind_eq_ok.mp h
    obtain rfl := Except.ok.inj h
    rw [meaning, ih hk', Key.meaning]
  | _ =>
    obtain rfl := Except.ok.inj h
    rfl

/-- Plain values that are one key mean the same. -/
theorem IsPlain.meaning_eq_of_sameKey (hv : v.IsPlain) (hw : w.IsPlain)
    (h : sameKey v w = true) : v.meaning = w.meaning := by
  unfold sameKey at h
  split at h
  · rename_i k l hk hl
    obtain rfl : k = l := eq_of_beq h
    rw [hv.meaning_of_key hk, hw.meaning_of_key hl]
  · cases h

/-! ## Maps as functions -/

theorem toOption_eq_some_iff {k : Key} : v.key.toOption = some k ↔ v.key = .ok k := by
  cases v.key with
  | error => exact iff_of_false (fun h => nomatch h) (fun h => nomatch h)
  | ok l => exact ⟨fun h => congrArg _ (Option.some.inj h), fun h => congrArg _ (Except.ok.inj h)⟩

theorem sameKey_of_key {k : Key} (hv : v.key = .ok k) (hw : w.key = .ok k) : sameKey v w = true := by
  unfold sameKey
  rw [hv, hw]
  exact beq_self_eq_true k

theorem valueAt?_cons (k : Key) (e : Value × Value) (es : List (Value × Value)) :
    valueAt? k (e :: es) = if e.1.key.toOption = some k then some e.2 else valueAt? k es := by
  unfold valueAt?
  by_cases h : e.1.key = .ok k
  · rw [List.find?_cons_of_pos (by rw [h]; exact beq_self_eq_true k),
      if_pos (toOption_eq_some_iff.mpr h)]
    rfl
  · rw [if_neg fun hk => h (toOption_eq_some_iff.mp hk), List.find?_cons_of_neg]
    cases hk : e.1.key with
    | error => exact Bool.false_ne_true
    | ok l =>
      intro hkl
      rw [hk, eq_of_beq hkl] at h
      exact h rfl

/-- What is under a key means what the map does there. -/
theorem meantUnder_eq (es : List (Value × Value)) (k : Key) :
    meantUnder es k = (valueAt? k es).map meaning := by
  induction es with
  | nil =>
    rw [meantUnder]
    rfl
  | cons e es ih =>
    rw [meantUnder, valueAt?_cons, ih]
    split <;> rfl

/-- The keys of entries, in order. -/
def keysOf (es : List (Value × Value)) : List Key := es.filterMap fun e => e.1.key.toOption

theorem mem_keysOf_iff {k : Key} : k ∈ keysOf es ↔ ∃ e ∈ es, e.1.key = .ok k := by
  unfold keysOf
  rw [List.mem_filterMap]
  simp only [toOption_eq_some_iff]

theorem HasDistinctKeys.nodup_keysOf (h : HasDistinctKeys es) : (keysOf es).Nodup := by
  refine List.Pairwise.filterMap _ (fun e f hef k hk l hl => ?_) h
  rintro rfl
  rw [sameKey_of_key (toOption_eq_some_iff.mp hk) (toOption_eq_some_iff.mp hl)] at hef
  cases hef

/-- Every entry has one key. -/
theorem length_keysOf (h : ∀ e ∈ es, ∃ k, e.1.key = .ok k) : (keysOf es).length = es.length := by
  induction es with
  | nil => rfl
  | cons e es ih =>
    obtain ⟨⟨k, hk⟩, h⟩ := List.forall_mem_cons.mp h
    have hcons : keysOf (e :: es) = k :: keysOf es :=
      List.filterMap_cons_some (toOption_eq_some_iff.mpr hk)
    rw [hcons, List.length_cons, List.length_cons, ih h]

theorem exists_of_valueAt? {k : Key} (h : valueAt? k es = some v) :
    ∃ e ∈ es, e.1.key = .ok k ∧ e.2 = v := by
  induction es with
  | nil => cases h
  | cons e es ih =>
    rw [valueAt?_cons] at h
    split at h
    · rename_i hk
      exact ⟨e, List.mem_cons_self, toOption_eq_some_iff.mp hk, Option.some.inj h⟩
    · obtain ⟨f, hf, hrest⟩ := ih h
      exact ⟨f, List.mem_cons_of_mem e hf, hrest⟩

theorem valueAt?_of_not_mem {k : Key} (h : k ∉ keysOf es) : valueAt? k es = none := by
  cases hv : valueAt? k es with
  | none => rfl
  | some v =>
    obtain ⟨e, he, hk, -⟩ := exists_of_valueAt? hv
    exact absurd (mem_keysOf_iff.mpr ⟨e, he, hk⟩) h

/-- The one entry with a key is found. -/
theorem HasDistinctKeys.valueAt?_of_mem (h : HasDistinctKeys es) {e : Value × Value} (he : e ∈ es)
    {k : Key} (hk : e.1.key = .ok k) : valueAt? k es = some e.2 := by
  induction es with
  | nil => cases he
  | cons f es ih =>
    obtain ⟨hfresh, h⟩ := hasDistinctKeys_cons.mp h
    rw [valueAt?_cons]
    rcases List.mem_cons.mp he with rfl | he
    · rw [if_pos (toOption_eq_some_iff.mpr hk)]
    · rw [if_neg, ih h he]
      intro hf
      have hsame := sameKey_of_key hk (toOption_eq_some_iff.mp hf)
      rw [hasKey_eq_false_iff.mp hfresh e he] at hsame
      cases hsame

/-- Each entry of the one list is under its key in the other. -/
def LiesUnder (es fs : List (Value × Value)) : Prop :=
  ∀ e ∈ es, ∀ k, e.1.key = .ok k → meantUnder fs k = some e.2.meaning

theorem LiesUnder.subset (h : LiesUnder es fs) : keysOf es ⊆ keysOf fs := by
  intro k hk
  obtain ⟨e, he, hek⟩ := mem_keysOf_iff.mp hk
  have hunder := h e he k hek
  by_contra hfresh
  rw [meantUnder_eq, valueAt?_of_not_mem hfresh] at hunder
  cases hunder

/-- **Two maps of one size mean the same function if each entry of the first lies under its key in
the second.** -/
theorem meantUnder_eq_iff (hes : HasDistinctKeys es) (hfs : HasDistinctKeys fs)
    (hkes : ∀ e ∈ es, ∃ k, e.1.key = .ok k) (hkfs : ∀ e ∈ fs, ∃ k, e.1.key = .ok k) :
    meantUnder es = meantUnder fs ↔ es.length = fs.length ∧ LiesUnder es fs := by
  constructor
  · intro h
    have hunder {es fs : List (Value × Value)} (hes : HasDistinctKeys es)
        (h : meantUnder es = meantUnder fs) : LiesUnder es fs := by
      intro e he k hk
      rw [← h, meantUnder_eq, hes.valueAt?_of_mem he hk]
      rfl
    refine ⟨?_, hunder hes h⟩
    rw [← length_keysOf hkes, ← length_keysOf hkfs]
    exact ((hes.nodup_keysOf.subperm (hunder hes h).subset).antisymm
      (hfs.nodup_keysOf.subperm (hunder hfs h.symm).subset)).length_eq
  · rintro ⟨hlength, hunder⟩
    -- there are as many keys on both sides, so none is left over
    have hperm : (keysOf es).Perm (keysOf fs) :=
      (hes.nodup_keysOf.subperm hunder.subset).perm_of_length_le
        (Nat.le_of_eq (by rw [length_keysOf hkes, length_keysOf hkfs, hlength]))
    funext k
    by_cases hk : k ∈ keysOf es
    · obtain ⟨e, he, hek⟩ := mem_keysOf_iff.mp hk
      rw [hunder e he k hek, meantUnder_eq, hes.valueAt?_of_mem he hek]
      rfl
    · have hk' : k ∉ keysOf fs := fun h => hk (hperm.mem_iff.mpr h)
      rw [meantUnder_eq, meantUnder_eq, valueAt?_of_not_mem hk, valueAt?_of_not_mem hk']

/-! ## Values without contents -/

theorem tells_of_not {ε : Type} {P : Prop} (h : ¬ P) : Tells (.ok false : Except ε Bool) P :=
  tells_ok (by simp [h])

/-- A plain value stands at a point of the line exactly if it means the point. -/
theorem IsPlain.point?_eq_iff (hw : w.IsPlain) {q : Rat} :
    w.core.point? = some (.finite q) ↔ w.meaning = .atom (.rational q) := by
  cases hw with
  | bool b =>
    show some (Extended.finite (if b then 1 else 0)) = _ ↔
      Meaning.atom (.rational (if b then 1 else 0)) = _
    simp
  | int n =>
    show some (Extended.finite n) = _ ↔ Meaning.atom (.rational n) = _
    simp
  | ratio p =>
    show some (Extended.finite p) = _ ↔ Meaning.atom (.rational p) = _
    simp
  | list | tuple | map | just | left | right =>
    rw [meaning]
    exact iff_of_false (fun h => nomatch h) (fun h => nomatch h)
  | _ => exact iff_of_false (fun h => nomatch h) (fun h => nomatch h)

theorem IsPlain.exists_finite (hw : w.IsPlain) {x : Extended} (h : w.core.point? = some x) :
    ∃ q, x = .finite q := by
  cases hw with
  | bool | int | ratio => exact ⟨_, (Option.some.inj h).symm⟩
  | _ => cases h

theorem IsPlain.leafEquals (hv : v.IsPlain) (hw : w.IsPlain) :
    leafEquals v w = .ok (leafEq v w) := by
  have hquiet {v : Value} (hv : v.IsPlain) : v.isSignaling = false := by cases hv <;> rfl
  unfold Value.leafEquals
  rw [hquiet hv, hquiet hw]
  rfl

/-- A number or a truth value equals what means the same point. -/
theorem IsPlain.tells_leafEquals_of_point (hv : v.IsPlain) (hw : w.IsPlain) {q : Rat}
    (h : v.core.point? = some (.finite q)) :
    Tells (Value.leafEquals v w) (v.meaning = w.meaning) := by
  rw [hv.leafEquals hw, hv.point?_eq_iff.mp h, eq_comm, ← hw.point?_eq_iff]
  refine tells_ok ?_
  unfold leafEq
  rw [h]
  cases hpoint : w.core.point? with
  | none => exact iff_of_false Bool.false_ne_true (fun h => nomatch h)
  | some x =>
    obtain ⟨p, rfl⟩ := hw.exists_finite hpoint
    show (q == p) = true ↔ _
    rw [beq_iff_eq, Option.some.injEq, Extended.finite.injEq, eq_comm]

/-- A null value or a text equals what means the same. -/
theorem IsPlain.tells_leafEquals_of_key (hv : v.IsPlain) (hw : w.IsPlain)
    (hpoint : v.core.point? = none) {k : Key} (hk : v.key = .ok k)
    (heq : v.meaning = w.meaning → w = v) :
    Tells (Value.leafEquals v w) (v.meaning = w.meaning) := by
  rw [hv.leafEquals hw]
  refine tells_ok ⟨fun h => ?_, fun h => ?_⟩
  · unfold leafEq at h
    rw [hpoint] at h
    cases hpoint' : w.core.point? with
    | none =>
      rw [hpoint'] at h
      exact hv.meaning_eq_of_sameKey hw h
    | some x =>
      rw [hpoint'] at h
      cases h
  · rw [heq h]
    unfold leafEq
    rw [hpoint]
    exact sameKey_of_key hk hk

/-! ## Values with contents -/

/-- Elements that are one key are not compared. -/
theorem IsPlain.tells_of_sameKey (hv : v.IsPlain) (hw : w.IsPlain)
    (h : Tells (equals v w) (v.meaning = w.meaning)) :
    Tells (if sameKey v w then .ok true else equals v w) (v.meaning = w.meaning) := by
  by_cases hsame : sameKey v w = true
  · rw [if_pos hsame]
    exact tells_ok (by simp [hv.meaning_eq_of_sameKey hw hsame])
  · rw [if_neg hsame]
    exact h

theorem length_meanings (vs : List Value) : (meanings vs).length = vs.length := by
  induction vs with
  | nil => rw [meanings]; rfl
  | cons v vs ih => rw [meanings, List.length_cons, List.length_cons, ih]

theorem tells_equalElements {vs ws : List Value} (hvs : ∀ v ∈ vs, v.IsPlain)
    (hws : ∀ w ∈ ws, w.IsPlain)
    (ih : ∀ v ∈ vs, ∀ w, w.IsPlain → Tells (equals v w) (v.meaning = w.meaning)) :
    Tells (equalElements vs ws) (meanings vs = meanings ws) := by
  induction vs generalizing ws with
  | nil =>
    cases ws with
    | nil =>
      rw [equalElements]
      exact tells_ok (by simp)
    | cons w ws =>
      unfold equalElements
      exact tells_of_not (by simp [meanings])
  | cons v vs ihvs =>
    cases ws with
    | nil =>
      unfold equalElements
      exact tells_of_not (by simp [meanings])
    | cons w ws =>
      obtain ⟨hv, hvs⟩ := List.forall_mem_cons.mp hvs
      obtain ⟨hw, hws⟩ := List.forall_mem_cons.mp hws
      obtain ⟨ihv, ih⟩ := List.forall_mem_cons.mp ih
      obtain ⟨b, hb, hfirst⟩ := hv.tells_of_sameKey hw (ihv w hw)
      rw [equalElements, hb, meanings, meanings, List.cons.injEq, ← hfirst]
      cases b with
      | false => exact tells_of_not (by simp)
      | true => exact (ihvs hvs hws ih).congr (by simp)

theorem tells_equalEntries (hes : ∀ e ∈ es, e.2.IsPlain) (hkes : ∀ e ∈ es, ∃ k, e.1.key = .ok k)
    (hfs : ∀ e ∈ fs, e.2.IsPlain)
    (ih : ∀ e ∈ es, ∀ w, w.IsPlain → Tells (equals e.2 w) (e.2.meaning = w.meaning)) :
    Tells (equalEntries es fs) (LiesUnder es fs) := by
  induction es with
  | nil =>
    rw [equalEntries]
    exact tells_ok (by simp [LiesUnder])
  | cons e es ihes =>
    obtain ⟨hv, hes⟩ := List.forall_mem_cons.mp hes
    obtain ⟨⟨k, hk⟩, hkes⟩ := List.forall_mem_cons.mp hkes
    obtain ⟨ihv, ih⟩ := List.forall_mem_cons.mp ih
    have hcons : LiesUnder (e :: es) fs ↔
        meantUnder fs k = some e.2.meaning ∧ LiesUnder es fs := by
      unfold LiesUnder
      rw [List.forall_mem_cons, hk]
      simp
    rw [equalEntries, hk, hcons, meantUnder_eq]
    dsimp only [bind, Except.bind]
    cases hunder : valueAt? k fs with
    | none => exact tells_of_not (by simp)
    | some w =>
      obtain ⟨f, hf, -, rfl⟩ := exists_of_valueAt? hunder
      obtain ⟨b, hb, hfirst⟩ := hv.tells_of_sameKey (hfs f hf) (ihv f.2 (hfs f hf))
      rw [Option.map_some, Option.some.injEq, eq_comm, ← hfirst]
      show Tells ((if sameKey e.2 f.2 then .ok true else equals e.2 f.2) >>= _) _
      rw [hb]
      cases b with
      | false => exact tells_of_not (by simp)
      | true => exact (ihes hes hkes ih).congr (by simp)

/-! ## All plain values -/

/-- **Plain values are equal exactly if they mean the same**, and comparing them never fails. -/
theorem IsPlain.tells_equals (hv : v.IsPlain) (hw : w.IsPlain) :
    Tells (equals v w) (v.meaning = w.meaning) := by
  induction hv generalizing w with
  | null | undefined | text =>
    unfold equals
    refine IsPlain.tells_leafEquals_of_key (by constructor) hw rfl rfl fun h => ?_
    cases hw with
    | null | undefined | text => cases h <;> rfl
    | _ => cases h
  | bool | int | ratio =>
    unfold equals
    exact IsPlain.tells_leafEquals_of_point (by constructor) hw rfl
  | list plain ih =>
    unfold equals
    cases hw with
    | list plain' =>
      rename_i vs ws
      show Tells (if vs.length = ws.length then equalElements vs ws else .ok false) _
      split
      · exact (tells_equalElements plain plain' fun v hv w => ih v hv).congr (by simp [meaning])
      · rename_i hlength
        refine tells_of_not fun h => hlength ?_
        rw [meaning, meaning, Meaning.list.injEq] at h
        rw [← length_meanings, h, length_meanings]
    | _ => exact tells_of_not (fun h => nomatch h)
  | tuple plain ih =>
    unfold equals
    cases hw with
    | tuple plain' =>
      exact (tells_equalElements plain plain' fun v hv w => ih v hv).congr (by simp [meaning])
    | _ => exact tells_of_not (fun h => nomatch h)
  | map distinct keyed plain ih =>
    unfold equals
    cases hw with
    | map distinct' keyed' plain' =>
      rename_i es fs
      have hunder := meantUnder_eq_iff distinct distinct' keyed keyed'
      rw [meaning, meaning, Meaning.map.injEq, hunder]
      show Tells (if es.length = fs.length then equalEntries es fs else .ok false) _
      split
      · rename_i hlength
        exact (tells_equalEntries plain keyed plain' fun e he w => ih e he).congr (by simp [hlength])
      · rename_i hlength
        exact tells_of_not fun h => hlength h.1
    | _ => exact tells_of_not (fun h => nomatch h)
  | nothing =>
    unfold equals
    cases hw with
    | nothing => exact tells_ok (by simp)
    | _ => exact tells_of_not (fun h => nomatch h)
  | just plain ih =>
    unfold equals
    cases hw with
    | just plain' => exact (ih plain').congr (by simp [meaning])
    | _ => exact tells_of_not (fun h => nomatch h)
  | left plain ih =>
    unfold equals
    cases hw with
    | left plain' => exact (ih plain').congr (by simp [meaning])
    | _ => exact tells_of_not (fun h => nomatch h)
  | right plain ih =>
    unfold equals
    cases hw with
    | right plain' => exact (ih plain').congr (by simp [meaning])
    | _ => exact tells_of_not (fun h => nomatch h)

theorem IsPlain.equals_self (hv : v.IsPlain) : equals v v = .ok true :=
  (hv.tells_equals hv).eq_ok_iff.mpr rfl

theorem IsPlain.equals_of_ne (hv : v.IsPlain) (hw : w.IsPlain)
    (h : v.meaning ≠ w.meaning) : equals v w = .ok false := by
  obtain ⟨b, hb, hequal⟩ := hv.tells_equals hw
  cases b with
  | false => exact hb
  | true => exact absurd (hequal.mp rfl) h

end Value

end CheckedCurry
