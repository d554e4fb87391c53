import CheckedCurry.Value.Access

/-!
# Entries put into maps

A map is made by putting entries one after the other, and an entry whose key is there already only
changes what is under it.  So what is put last wins, while each key stays where it came first.

- `hasKey`, `update`: the two ways that putting an entry goes.
- `putEntry_putEntry_of_same`, `putEntry_comm`: two entries put one after the other.
- `HasDistinctKeys`: no key comes twice, as in every map.
- `putAll`: entries put one after the other; `putAll_nil_left`: a map is made of its own entries.
- `putAll_putEntry`: an entry may be put among the new entries first, or behind all of them.
- `putAll_putAll`: three lists of entries may be put together in either order.
-/

namespace CheckedCurry.Value

variable {es fs gs : List (Value × Value)} {k l u v : Value}

/-! ## Keys -/

theorem sameKey_comm (k l : Value) : sameKey k l = sameKey l k := by
  unfold sameKey
  cases k.key with
  | error e => cases l.key <;> rfl
  | ok i =>
    cases l.key with
    | error e => rfl
    | ok j => exact Bool.beq_comm

/-- Two values that are one key are the same key as the same values. -/
theorem sameKey_congr_right (h : sameKey k l = true) (w : Value) : sameKey w k = sameKey w l := by
  unfold sameKey at *
  cases hk : k.key with
  | error e =>
    rw [hk] at h
    cases h
  | ok i =>
    cases hl : l.key with
    | error e =>
      rw [hk, hl] at h
      cases h
    | ok j =>
      rw [hk, hl] at h
      obtain rfl : i = j := eq_of_beq h
      rfl

/-- Whether one of the entries has the key. -/
def hasKey (es : List (Value × Value)) (k : Value) : Bool := es.any fun e => sameKey e.1 k

@[simp] theorem hasKey_nil (k : Value) : hasKey [] k = false := rfl

@[simp] theorem hasKey_cons (e : Value × Value) (es : List (Value × Value)) (k : Value) :
    hasKey (e :: es) k = (sameKey e.1 k || hasKey es k) := rfl

@[simp] theorem hasKey_append (es fs : List (Value × Value)) (k : Value) :
    hasKey (es ++ fs) k = (hasKey es k || hasKey fs k) := List.any_append

theorem hasKey_eq_false_iff : hasKey es k = false ↔ ∀ e ∈ es, sameKey e.1 k = false := by
  unfold hasKey
  rw [List.any_eq_false]
  simp only [Bool.not_eq_true]

theorem hasKey_congr (h : sameKey k l = true) (es : List (Value × Value)) :
    hasKey es k = hasKey es l :=
  congrArg es.any (funext fun e => sameKey_congr_right h e.1)

/-! ## What is under a key -/

/-- The entries with something else under a key. -/
def update (es : List (Value × Value)) (k v : Value) : List (Value × Value) :=
  es.map fun e => if sameKey e.1 k then (e.1, v) else e

theorem update_cons (e : Value × Value) (es : List (Value × Value)) (k v : Value) :
    update (e :: es) k v = (if sameKey e.1 k then (e.1, v) else e) :: update es k v := rfl

@[simp] theorem update_append (es fs : List (Value × Value)) (k v : Value) :
    update (es ++ fs) k v = update es k v ++ update fs k v := List.map_append

/-- The keys stay. -/
theorem map_fst_update (es : List (Value × Value)) (k v : Value) :
    (update es k v).map (·.1) = es.map (·.1) := by
  unfold update
  rw [List.map_map]
  refine List.map_congr_left fun e _ => ?_
  rw [Function.comp_apply]
  split <;> rfl

@[simp] theorem hasKey_update (es : List (Value × Value)) (k v l : Value) :
    hasKey (update es k v) l = hasKey es l := by
  have hkeys (fs : List (Value × Value)) : hasKey fs l = (fs.map (·.1)).any (sameKey · l) := by
    rw [List.any_map]
    rfl
  rw [hkeys, hkeys, map_fst_update]

/-- Nothing changes under a key that is not there. -/
theorem update_of_fresh (h : hasKey es k = false) : update es k v = es := by
  refine (List.map_congr_left fun e he => ?_).trans (List.map_id es)
  rw [hasKey_eq_false_iff.mp h e he]
  rfl

/-- The last change under a key is the one that counts. -/
theorem update_update_of_same (h : sameKey k l = true) :
    update (update es k u) l v = update es k v := by
  unfold update
  rw [List.map_map]
  refine List.map_congr_left fun e _ => ?_
  rw [Function.comp_apply]
  cases he : sameKey e.1 k <;> simp [he, ← sameKey_congr_right h]

/-- Changes under two keys do not depend on their order. -/
theorem update_comm (h : sameKey k l = false) :
    update (update es k u) l v = update (update es l v) k u := by
  unfold update
  rw [List.map_map, List.map_map]
  refine List.map_congr_left fun e _ => ?_
  rw [Function.comp_apply, Function.comp_apply]
  cases hk : sameKey e.1 k with
  | false => cases hl : sameKey e.1 l <;> simp [hk, hl]
  | true =>
    have hl : sameKey e.1 l = false := by
      rw [sameKey_comm, sameKey_congr_right hk, sameKey_comm, h]
    simp [hk, hl]

/-! ## Putting two entries -/

theorem putEntry_of_hasKey (h : hasKey es k = true) : putEntry es k v = update es k v := if_pos h

/-- A key that is not there comes last. -/
theorem putEntry_of_fresh (h : hasKey es k = false) : putEntry es k v = es ++ [(k, v)] :=
  if_neg (by simpa [hasKey] using h)

@[simp] theorem hasKey_putEntry (es : List (Value × Value)) (k v l : Value) :
    hasKey (putEntry es k v) l = (hasKey es l || sameKey k l) := by
  cases h : hasKey es k with
  | false =>
    rw [putEntry_of_fresh h]
    simp
  | true =>
    rw [putEntry_of_hasKey h, hasKey_update]
    cases hkl : sameKey k l with
    | false => rw [Bool.or_false]
    | true => rw [← hasKey_congr hkl, h, Bool.or_true]

/-- Of two entries under one key, the second one counts. -/
theorem putEntry_putEntry_of_same (h : sameKey k l = true) :
    putEntry (putEntry es k u) l v = putEntry es k v := by
  rw [putEntry_of_hasKey (by rw [hasKey_putEntry, h, Bool.or_true])]
  cases hk : hasKey es k with
  | false =>
    rw [putEntry_of_fresh hk, putEntry_of_fresh hk, update_append,
      update_of_fresh (by rw [← hasKey_congr h, hk])]
    simp [update, h]
  | true => rw [putEntry_of_hasKey hk, putEntry_of_hasKey hk, update_update_of_same h]

/-- The order of two entries does not matter if the key of one is there already. -/
theorem putEntry_comm (h : sameKey k l = false) (hl : hasKey es l = true) :
    putEntry (putEntry es k u) l v = putEntry (putEntry es l v) k u := by
  rw [putEntry_of_hasKey (by rw [hasKey_putEntry, hl, Bool.true_or]), putEntry_of_hasKey hl]
  cases hk : hasKey es k with
  | false =>
    rw [putEntry_of_fresh hk, putEntry_of_fresh (by rw [hasKey_update, hk]), update_append]
    simp [update, h]
  | true =>
    rw [putEntry_of_hasKey hk, putEntry_of_hasKey (by rw [hasKey_update, hk]), update_comm h]

/-! ## Distinct keys -/

/-- No key comes twice. -/
def HasDistinctKeys (es : List (Value × Value)) : Prop :=
  es.Pairwise fun e f => sameKey e.1 f.1 = false

theorem hasDistinctKeys_cons {e : Value × Value} :
    HasDistinctKeys (e :: es) ↔ hasKey es e.1 = false ∧ HasDistinctKeys es := by
  unfold HasDistinctKeys
  rw [List.pairwise_cons, hasKey_eq_false_iff]
  simp only [sameKey_comm e.1]

theorem hasDistinctKeys_update (k v : Value) :
    HasDistinctKeys (update es k v) ↔ HasDistinctKeys es := by
  have hkeys (fs : List (Value × Value)) :
      HasDistinctKeys fs ↔ (fs.map (·.1)).Pairwise fun i j => sameKey i j = false := by
    rw [List.pairwise_map]
    rfl
  rw [hkeys, hkeys, map_fst_update]

theorem hasDistinctKeys_concat (h : HasDistinctKeys es) (hk : hasKey es k = false) (v : Value) :
    HasDistinctKeys (es ++ [(k, v)]) :=
  List.pairwise_append.mpr ⟨h, List.pairwise_singleton .., fun e he f hf => by
    rw [List.mem_singleton.mp hf]
    exact hasKey_eq_false_iff.mp hk e he⟩

theorem HasDistinctKeys.putEntry (h : HasDistinctKeys es) (k v : Value) :
    HasDistinctKeys (Value.putEntry es k v) := by
  cases hk : hasKey es k with
  | false =>
    rw [putEntry_of_fresh hk]
    exact hasDistinctKeys_concat h hk v
  | true =>
    rw [putEntry_of_hasKey hk]
    exact (hasDistinctKeys_update k v).mpr h

/-! ## Putting many entries -/

/-- Entries put one after the other. -/
def putAll (es fs : List (Value × Value)) : List (Value × Value) :=
  fs.foldl (fun es (k, v) => putEntry es k v) es

@[simp] theorem putAll_nil (es : List (Value × Value)) : putAll es [] = es := rfl

@[simp] theorem putAll_cons (es : List (Value × Value)) (k v : Value)
    (fs : List (Value × Value)) : putAll es ((k, v) :: fs) = putAll (putEntry es k v) fs := rfl

theorem mapOf_append (es fs : List (Value × Value)) :
    mapOf (es ++ fs) = map (putAll (putAll [] es) fs) := by
  unfold mapOf putAll
  rw [List.foldl_append]

theorem HasDistinctKeys.putAll (h : HasDistinctKeys es) (fs : List (Value × Value)) :
    HasDistinctKeys (Value.putAll es fs) := by
  induction fs generalizing es with
  | nil => exact h
  | cons f fs ih => exact ih (h.putEntry f.1 f.2)

/-- Entries that bring no key a second time are put behind the ones that are there. -/
theorem putAll_eq_append (h : HasDistinctKeys (es ++ fs)) : putAll es fs = es ++ fs := by
  induction fs generalizing es with
  | nil => rw [List.append_nil, putAll_nil]
  | cons f fs ih =>
    have hfresh : hasKey es f.1 = false := hasKey_eq_false_iff.mpr fun e he =>
      (List.pairwise_append.mp h).2.2 e he f List.mem_cons_self
    have hsplit : es ++ f :: fs = es ++ [f] ++ fs := by simp
    rw [putAll_cons, putEntry_of_fresh hfresh, hsplit]
    exact ih (hsplit ▸ h)

/-- A map is made of its own entries. -/
theorem putAll_nil_left (h : HasDistinctKeys es) : putAll [] es = es := putAll_eq_append h

/-- What is put under a key that is there may be put before entries with other keys. -/
theorem putEntry_putAll (hes : hasKey es k = true) (hfs : hasKey fs k = false) :
    putEntry (putAll es fs) k v = putAll (putEntry es k v) fs := by
  induction fs generalizing es with
  | nil => rfl
  | cons f fs ih =>
    rw [hasKey_cons, Bool.or_eq_false_iff] at hfs
    rw [putAll_cons, putAll_cons, ih (by rw [hasKey_putEntry, hes, Bool.true_or]) hfs.2,
      putEntry_comm hfs.1 hes]

/-- An entry may be put among the new entries first, or behind all of them. -/
theorem putAll_putEntry (hfs : HasDistinctKeys fs) (es : List (Value × Value)) (k v : Value) :
    putAll es (putEntry fs k v) = putEntry (putAll es fs) k v := by
  induction fs generalizing es with
  | nil => rfl
  | cons f fs ih =>
    obtain ⟨hf, hfs⟩ := hasDistinctKeys_cons.mp hfs
    cases hk : sameKey f.1 k with
    | true =>
      -- the rest of the new entries do not have the key
      have hfresh : hasKey fs k = false := by rw [← hasKey_congr hk, hf]
      rw [putEntry_of_hasKey (by rw [hasKey_cons, hk, Bool.true_or]), update_cons, if_pos hk,
        update_of_fresh hfresh, putAll_cons, putAll_cons,
        putEntry_putAll (by rw [hasKey_putEntry, hk, Bool.or_true]) hfresh,
        putEntry_putEntry_of_same hk]
    | false =>
      have hcons : putEntry (f :: fs) k v = f :: putEntry fs k v := by
        cases hkey : hasKey fs k with
        | false =>
          rw [putEntry_of_fresh hkey, putEntry_of_fresh (by rw [hasKey_cons, hk, hkey]; rfl)]
          rfl
        | true =>
          rw [putEntry_of_hasKey hkey, putEntry_of_hasKey (by rw [hasKey_cons, hkey, Bool.or_true]),
            update_cons, hk]
          rfl
      rw [hcons, putAll_cons, putAll_cons, ih hfs]

/-- **Three lists of entries may be put together in either order.** -/
theorem putAll_putAll (hfs : HasDistinctKeys fs) (es gs : List (Value × Value)) :
    putAll es (putAll fs gs) = putAll (putAll es fs) gs := by
  induction gs generalizing fs with
  | nil => rfl
  | cons g gs ih =>
    rw [putAll_cons, putAll_cons, ih (hfs.putEntry g.1 g.2), putAll_putEntry hfs]

end CheckedCurry.Value
