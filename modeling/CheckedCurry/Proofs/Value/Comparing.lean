import CheckedCurry.Proofs.Value.Genuine
import CheckedCurry.Proofs.Value.Lookup
import CheckedCurry.Proofs.Value.Ordinary

/-!
# Equality in either order

Equality of values asks the first value what it is and then looks at the second one.  Which of the
two comes first makes no difference, to the answer and to the fault in place of one alike.

Maps need care.  The entries of the first map are compared in their order until one is missing or
differs, so that a comparison that fails may be reached in one order and not in the other.  It is asked
of the values in a map that no comparison of them fails: that there is no decimal that refuses to be
compared, and that objects have the attributes that they declare.

- `Value.IsComparable`: the values that this is for.
- `leafEquals_comm`, `leafEquals_of_shaped`: values without contents.
- `IsComparable.answers`: values that may be in a map can be compared.
- `IsComparable.equals_comm`: equality does not depend on the order of the two values.
-/

namespace CheckedCurry

theorem Extended.eq_comm (x y : Extended) : x.eq y = y.eq x := by
  cases x <;> cases y <;> first | rfl | exact Bool.beq_comm

namespace Value

variable {v w : Value} {vs ws : List Value} {es fs : List (Value × Value)} {strict : Bool}

/-! ## Values without contents -/

/-- Whether a value has no contents that it is compared by. -/
def isLeaf : Value → Bool
  | object .. => false
  | v => !v.isShaped

theorem leafEq_comm (v w : Value) : leafEq v w = leafEq w v := by
  unfold leafEq
  cases v.core.point? with
  | none =>
    cases w.core.point? with
    | none => exact sameKey_comm v w
    | some y => rfl
  | some x =>
    cases w.core.point? with
    | none => rfl
    | some y => exact Extended.eq_comm x y

theorem leafEquals_comm (v w : Value) : leafEquals v w = leafEquals w v := by
  unfold leafEquals
  rw [leafEq_comm v w, Bool.or_comm]

/-- What is shaped does not equal what is not. -/
theorem leafEquals_of_shaped (hv : v.isShaped = true) (hw : w.isShaped = false) :
    leafEquals v w = .ok false := by
  have hpoint := point?_of_isShaped hv
  have hquiet : v.isSignaling = false := isSignaling_of_point? (by simp [hpoint])
  unfold leafEquals leafEq
  rw [hpoint, hquiet, sameKey_of_shaped hv hw, Bool.false_and, Option.isSome_none, Bool.and_false]
  cases w.core.point? <;> rfl

theorem leafEquals_answers (hv : v.isSignaling = false) (hw : w.isSignaling = false) :
    leafEquals v w = .ok (leafEq v w) := by
  unfold leafEquals
  rw [hv, hw]
  rfl

/-! ## One value without contents -/

theorem equals_of_isLeaf (hv : v.isLeaf = true) (w : Value) : equals v w = leafEquals v w := by
  cases v with
  | list | deque | tuple | identifier | map | nothing | just | left | right | object => cases hv
  | _ =>
    unfold equals
    rfl

theorem core_of_isLeaf (hv : v.isLeaf = true) : v.core = v := by
  cases v with
  | object => cases hv
  | _ => rfl

theorem isShaped_of_isLeaf (hv : v.isLeaf = true) : v.isShaped = false := by
  cases v with
  | object => cases hv
  | _ => first | rfl | cases hv

/-- What has no contents is compared as such on either side. -/
theorem equals_of_isLeaf_right (hw : w.isLeaf = true) (v : Value) :
    equals v w = leafEquals v w := by
  have hother := isShaped_of_isLeaf hw
  cases v with
  | list vs =>
    rw [leafEquals_of_shaped rfl hother]
    unfold equals
    rw [core_of_isLeaf hw]
    split
    · cases hw
    · rfl
  | deque | tuple | identifier | map | nothing | just | left | right =>
    rw [leafEquals_of_shaped rfl hother]
    unfold equals
    split <;> first | rfl | cases hw
  | object shape attrs base =>
    unfold equals
    split
    case h_5 =>
      rw [core_of_isLeaf hw]
      split
      · cases hw
      · rfl
    all_goals cases hw
  | _ => exact equals_of_isLeaf rfl w

theorem equals_comm_of_isLeaf (hw : w.isLeaf = true) (v : Value) : equals v w = equals w v := by
  rw [equals_of_isLeaf_right hw, equals_of_isLeaf hw, leafEquals_comm]

/-! ## Comparable values -/

/-- The maps inside a value have keys, each of them once, and comparing the values in a map with
others of this kind does not fail.  `strict` is what is asked of values in maps. -/
inductive IsComparable : Bool → Value → Prop
  | leaf {strict : Bool} {v : Value} (leaf : v.isLeaf = true)
    (quiet : strict = true → v.isSignaling = false) : IsComparable strict v
  | list {strict : Bool} {items : List Value} (comparable : ∀ v ∈ items, IsComparable strict v) :
    IsComparable strict (list items)
  | tuple {strict : Bool} {items : List Value} (comparable : ∀ v ∈ items, IsComparable strict v) :
    IsComparable strict (tuple items)
  | deque {strict : Bool} {items : List Value} (comparable : ∀ v ∈ items, IsComparable strict v) :
    IsComparable strict (deque items)
  | identifier (strict : Bool) (i : Identifier) : IsComparable strict (identifier i)
  | map {strict : Bool} {entries : List (Value × Value)} (distinct : HasDistinctKeys entries)
    (keyed : ∀ e ∈ entries, ∃ k, e.1.key = .ok k)
    (comparable : ∀ e ∈ entries, IsComparable true e.2) : IsComparable strict (map entries)
  | nothing (strict : Bool) : IsComparable strict nothing
  | just {strict : Bool} {v : Value} (comparable : IsComparable strict v) :
    IsComparable strict (just v)
  | left {strict : Bool} {v : Value} (comparable : IsComparable strict v) :
    IsComparable strict (left v)
  | right {strict : Bool} {v : Value} (comparable : IsComparable strict v) :
    IsComparable strict (right v)
  | object {strict : Bool} {shape : Shape} {attrs : List (String × Value)}
    {base : Option (Base Value)} (comparable : ∀ a ∈ attrs, IsComparable strict a.2)
    (besides : ∀ b ∈ base, IsComparable strict (ofBase b))
    (declared : strict = true → hasDeclared shape attrs = true) :
    IsComparable strict (object shape attrs base)

/-- What is in a map compares with numbers. -/
theorem IsComparable.isSignaling (h : IsComparable true v) : v.isSignaling = false := by
  cases h with
  | leaf _ quiet => exact quiet rfl
  | @object _ _ _ base _ _ _ =>
    -- only a decimal is refused by comparisons, and no object is one in addition
    cases base with
    | none => rfl
    | some b => cases b <;> rfl
  | _ => rfl

/-! ## Maps -/

/-- Two values in maps are taken to be equal. -/
def Alike (v w : Value) : Prop := sameKey v w = true ∨ equals v w = .ok true

/-- Each entry of the one list is alike to the one under its key in the other. -/
def EqualUnder (es fs : List (Value × Value)) : Prop :=
  ∀ e ∈ es, ∀ k, e.1.key = .ok k → ∃ w, valueAt? k fs = some w ∧ Alike e.2 w

theorem EqualUnder.subset (h : EqualUnder es fs) : keysOf es ⊆ keysOf fs := by
  intro k hk
  obtain ⟨e, he, hek⟩ := mem_keysOf_iff.mp hk
  obtain ⟨w, hw, -⟩ := h e he k hek
  obtain ⟨f, hf, hfk, -⟩ := exists_of_valueAt? hw
  exact mem_keysOf_iff.mpr ⟨f, hf, hfk⟩

/-- **Of two maps of one size, each lies under the keys of the other, or neither does.** -/
theorem EqualUnder.symm (h : EqualUnder es fs) (hes : HasDistinctKeys es) (hfs : HasDistinctKeys fs)
    (hkes : ∀ e ∈ es, ∃ k, e.1.key = .ok k) (hkfs : ∀ e ∈ fs, ∃ k, e.1.key = .ok k)
    (hlength : es.length = fs.length)
    (halike : ∀ e ∈ es, ∀ f ∈ fs, Alike e.2 f.2 → Alike f.2 e.2) : EqualUnder fs es := by
  have hperm : (keysOf es).Perm (keysOf fs) :=
    (hes.nodup_keysOf.subperm h.subset).perm_of_length_le
      (Nat.le_of_eq (by rw [length_keysOf hkes, length_keysOf hkfs, hlength]))
  intro f hf k hfk
  -- the key is one of the first map, whose entry there finds this one again
  obtain ⟨e, he, hek⟩ := mem_keysOf_iff.mp (hperm.mem_iff.mpr (mem_keysOf_iff.mpr ⟨f, hf, hfk⟩))
  obtain ⟨w, hw, hequal⟩ := h e he k hek
  obtain rfl : f.2 = w := Option.some.inj ((hfs.valueAt?_of_mem hf hfk).symm.trans hw)
  exact ⟨e.2, hes.valueAt?_of_mem he hek, halike e he f hf hequal⟩

/-- Values in maps are compared only if they are not one key. -/
theorem tells_alike (h : (equals v w).Answers) :
    Tells (if sameKey v w then .ok true else equals v w) (Alike v w) := by
  unfold Alike
  split
  · rename_i hsame
    exact tells_ok (by simp [hsame])
  · rename_i hsame
    obtain ⟨b, hb⟩ := h
    rw [hb]
    exact tells_ok (by simp [hsame])

theorem tells_equalUnder (hkes : ∀ e ∈ es, ∃ k, e.1.key = .ok k)
    (h : ∀ e ∈ es, ∀ f ∈ fs, (equals e.2 f.2).Answers) :
    Tells (equalEntries es fs) (EqualUnder es fs) := by
  induction es with
  | nil =>
    rw [equalEntries]
    exact tells_ok (by simp [EqualUnder])
  | cons e es ih =>
    obtain ⟨⟨k, hk⟩, hkes⟩ := List.forall_mem_cons.mp hkes
    obtain ⟨hfirst, h⟩ := List.forall_mem_cons.mp h
    have hcons : EqualUnder (e :: es) fs ↔
        (∃ w, valueAt? k fs = some w ∧ Alike e.2 w) ∧ EqualUnder es fs := by
      unfold EqualUnder
      rw [List.forall_mem_cons, hk]
      simp
    rw [equalEntries, hk, hcons]
    dsimp only [bind, Except.bind]
    cases hunder : valueAt? k fs with
    | none => exact tells_of_not (by simp)
    | some w =>
      obtain ⟨f, hf, -, rfl⟩ := exists_of_valueAt? hunder
      obtain ⟨b, hb, hequal⟩ := tells_alike (hfirst f hf)
      show Tells ((if sameKey e.2 f.2 then .ok true else equals e.2 f.2) >>= _) _
      rw [hb]
      cases b with
      | false => exact tells_of_not (by simp [← hequal])
      | true => exact (ih hkes h).congr (by simp [← hequal])

/-! ## Sequences -/

theorem equalElements_comm (hws : ∀ w ∈ ws, IsComparable strict w)
    (ih : ∀ v ∈ vs, ∀ w, IsComparable strict w → equals v w = equals w v) :
    equalElements vs ws = equalElements ws vs := by
  induction vs generalizing ws with
  | nil => cases ws <;> (unfold equalElements; rfl)
  | cons v vs ihvs =>
    cases ws with
    | nil =>
      unfold equalElements
      rfl
    | cons w ws =>
      obtain ⟨hw, hws⟩ := List.forall_mem_cons.mp hws
      obtain ⟨ihv, ih⟩ := List.forall_mem_cons.mp ih
      rw [equalElements, equalElements, sameKey_comm, ihv w hw, ihvs hws ih]

theorem answers_equalElements (hws : ∀ w ∈ ws, IsComparable true w)
    (ih : ∀ v ∈ vs, ∀ w, IsComparable true w → (equals v w).Answers) :
    (equalElements vs ws).Answers := by
  induction vs generalizing ws with
  | nil => cases ws <;> (unfold equalElements; exact Attempt.answers_ok _)
  | cons v vs ihvs =>
    cases ws with
    | nil =>
      unfold equalElements
      exact Attempt.answers_ok _
    | cons w ws =>
      obtain ⟨hw, hws⟩ := List.forall_mem_cons.mp hws
      obtain ⟨ihv, ih⟩ := List.forall_mem_cons.mp ih
      rw [equalElements]
      obtain ⟨b, hb, -⟩ := tells_alike (ihv w hw)
      rw [hb]
      cases b with
      | false => exact Attempt.answers_ok _
      | true => exact ihvs hws ih

/-- Two lists, of which either may be an object in addition. -/
theorem equals_of_lists (hv : v = list vs ∨ ∃ shape attrs, v = object shape attrs (some (.list vs)))
    (hw : w = list ws ∨ ∃ shape attrs, w = object shape attrs (some (.list ws))) :
    equals v w = if vs.length = ws.length then equalElements vs ws else .ok false := by
  rcases hv with rfl | ⟨shape, attrs, rfl⟩ <;> rcases hw with rfl | ⟨shape', attrs', rfl⟩ <;>
    (unfold equals; rfl)

/-! ## Objects -/

section Object

variable {shape shape' : Shape} {attrs attrs' : List (String × Value)}
  {base base' : Option (Base Value)}

/-- Unless both are lists, an object is compared by what it is in addition with all but optional
values, failures and successes. -/
theorem equals_object (hlists : ∀ vs ws, base = some (.list vs) → w.core ≠ list ws)
    (hw : ¬ w.IsTagged) :
    equals (object shape attrs base) w = leafEquals (object shape attrs base) w := by
  unfold equals
  split
  case h_5 =>
    split
    · rename_i hcore
      exact absurd hcore (hlists _ _ rfl)
    · rfl
  · exact absurd (.inl rfl) hw
  · exact absurd (.inr ⟨_, .inl rfl⟩) hw
  · exact absurd (.inr ⟨_, .inr (.inl rfl)⟩) hw
  · exact absurd (.inr ⟨_, .inr (.inr rfl)⟩) hw

/-- Two objects may be compared in either order if the lists that they are may be. -/
theorem equals_object_comm
    (ih : ∀ vs ws, base = some (.list vs) → base' = some (.list ws) →
      equals (list vs) (list ws) = equals (list ws) (list vs)) :
    equals (object shape attrs base) (object shape' attrs' base') =
      equals (object shape' attrs' base') (object shape attrs base) := by
  by_cases hlists : ∃ vs ws, base = some (.list vs) ∧ base' = some (.list ws)
  · obtain ⟨vs, ws, rfl, rfl⟩ := hlists
    rw [equals_of_lists (.inr ⟨_, _, rfl⟩) (.inr ⟨_, _, rfl⟩),
      equals_of_lists (.inr ⟨_, _, rfl⟩) (.inr ⟨_, _, rfl⟩),
      ← equals_of_lists (.inl rfl) (.inl rfl), ← equals_of_lists (.inl rfl) (.inl rfl)]
    exact ih vs ws rfl rfl
  · have hnone {base base' : Option (Base Value)} {shape : Shape} {attrs : List (String × Value)}
        (h : ¬ ∃ vs ws, base = some (.list vs) ∧ base' = some (.list ws)) (vs ws : List Value)
        (hv : base = some (.list vs)) : (object shape attrs base').core ≠ list ws := by
      intro hw
      cases base' with
      | none => cases hw
      | some b =>
        cases b with
        | list items =>
          obtain rfl := list.inj hw
          exact h ⟨vs, _, hv, rfl⟩
        | _ => cases hw
    have hnot {shape : Shape} {attrs : List (String × Value)} {base : Option (Base Value)} :
        ¬ (object shape attrs base).IsTagged := by
      rintro (h | ⟨_, h | h | h⟩) <;> cases h
    rw [equals_object (hnone hlists) hnot,
      equals_object (hnone fun ⟨vs, ws, h, h'⟩ => hlists ⟨ws, vs, h', h⟩) hnot, leafEquals_comm]

/-- So may a list and an object. -/
theorem equals_list_object_comm
    (ih : ∀ ws, base = some (.list ws) →
      equals (list vs) (list ws) = equals (list ws) (list vs)) :
    equals (list vs) (object shape attrs base) = equals (object shape attrs base) (list vs) := by
  by_cases hlist : ∃ ws, base = some (.list ws)
  · obtain ⟨ws, rfl⟩ := hlist
    rw [equals_of_lists (.inl rfl) (.inr ⟨_, _, rfl⟩),
      equals_of_lists (.inr ⟨_, _, rfl⟩) (.inl rfl),
      ← equals_of_lists (.inl rfl) (.inl rfl), ← equals_of_lists (.inl rfl) (.inl rfl)]
    exact ih ws rfl
  · have hnot : ¬ (list vs).IsTagged := by
      rintro (h | ⟨_, h | h | h⟩) <;> cases h
    rw [equals_object (fun ws _ h => absurd ⟨ws, h⟩ hlist) hnot, leafEquals_comm,
      leafEquals_of_shaped rfl rfl]
    unfold equals
    split
    · rename_i ws hcore
      cases base with
      | none => cases hcore
      | some b =>
        cases b with
        | list items => exact absurd ⟨items, rfl⟩ hlist
        | _ => cases hcore
    · rfl

/-- What is no list, and no optional value, failure or success, does not equal an object. -/
theorem equals_shaped_object_comm (hv : v.isShaped = true) (hlist : ∀ vs, v ≠ list vs)
    (hnot : ¬ v.IsTagged) :
    equals v (object shape attrs base) = equals (object shape attrs base) v := by
  have hcore (vs ws : List Value) (_ : base = some (.list vs)) : v.core ≠ list ws := fun h =>
    hlist ws (core_of_isShaped hv ▸ h)
  rw [equals_object hcore hnot, leafEquals_comm, leafEquals_of_shaped hv rfl]
  cases v with
  | list vs => exact absurd rfl (hlist vs)
  | nothing => exact absurd (.inl rfl) hnot
  | just => exact absurd (.inr ⟨_, .inl rfl⟩) hnot
  | left => exact absurd (.inr ⟨_, .inr (.inl rfl)⟩) hnot
  | right => exact absurd (.inr ⟨_, .inr (.inr rfl)⟩) hnot
  | deque | tuple | identifier | map =>
    unfold equals
    rfl
  | _ => cases hv

/-- The content of an object is looked for among its attributes. -/
theorem equalAttribute_eq (name : String) (w : Value) :
    equalAttribute shape name attrs w =
      (do equals (← require shape.className attrs name) w) := by
  unfold require
  induction attrs with
  | nil =>
    unfold equalAttribute
    rfl
  | cons attr attrs ih =>
    obtain ⟨n, v⟩ := attr
    unfold equalAttribute
    by_cases h : n = name
    · subst h
      rw [if_pos rfl, List.lookup_cons_self]
      rfl
    · rw [if_neg h, ih, List.lookup_cons, beq_false_of_ne (Ne.symm h)]

theorem mem_of_lookup {name : String} (h : attrs.lookup name = some v) : (name, v) ∈ attrs := by
  obtain ⟨as, bs, rfl, -⟩ := List.lookup_eq_some_iff.mp h
  exact List.mem_append_right as List.mem_cons_self

/-- The content of an object may come first or second. -/
theorem equalAttribute_comm (name : String) (ih : ∀ a ∈ attrs, equals a.2 v = equals v a.2) :
    equalAttribute shape name attrs v =
      (do equals v (← require shape.className attrs name)) := by
  rw [equalAttribute_eq]
  unfold require
  cases h : attrs.lookup name with
  | none => rfl
  | some w => exact ih _ (mem_of_lookup h)

/-- An optional value, a failure or a success, and an object that may declare to be one. -/
theorem equals_tagged_object_comm (ih : ∀ a ∈ attrs, equals a.2 v = equals v a.2)
    (hw : w = just v ∨ w = left v ∨ w = right v) :
    equals w (object shape attrs base) = equals (object shape attrs base) w := by
  rcases hw with rfl | rfl | rfl
  all_goals
    unfold equals
    dsimp only
    rw [equalAttribute_comm _ ih]

end Object

/-- Two maps whose values can be compared. -/
theorem equals_maps_comm (hes : HasDistinctKeys es) (hfs : HasDistinctKeys fs)
    (hkes : ∀ e ∈ es, ∃ k, e.1.key = .ok k) (hkfs : ∀ e ∈ fs, ∃ k, e.1.key = .ok k)
    (hanswers : ∀ e ∈ es, ∀ f ∈ fs, (equals e.2 f.2).Answers)
    (hcomm : ∀ e ∈ es, ∀ f ∈ fs, equals e.2 f.2 = equals f.2 e.2) :
    equals (map es) (map fs) = equals (map fs) (map es) := by
  unfold equals
  dsimp only
  by_cases hlength : es.length = fs.length
  · rw [if_pos hlength, if_pos hlength.symm]
    have halike {e f : Value × Value} (he : e ∈ es) (hf : f ∈ fs) :
        Alike e.2 f.2 ↔ Alike f.2 e.2 := by
      unfold Alike
      rw [hcomm e he f hf, sameKey_comm]
    obtain ⟨b, hb, hequal⟩ := tells_equalUnder hkes hanswers
    obtain ⟨c, hc, hequal'⟩ := tells_equalUnder hkfs fun f hf e he =>
      hcomm e he f hf ▸ hanswers e he f hf
    rw [hb, hc, Bool.eq_iff_iff.mpr (hequal.trans (Iff.trans ⟨fun h => ?_, fun h => ?_⟩ hequal'.symm))]
    · exact h.symm hes hfs hkes hkfs hlength fun e he f hf => (halike he hf).mp
    · exact h.symm hfs hes hkfs hkes hlength.symm fun f hf e he => (halike he hf).mpr
  · rw [if_neg hlength, if_neg (Ne.symm hlength)]

/-! ## All values -/

/-- What an object is in addition is comparable too. -/
theorem IsComparable.core (h : IsComparable strict v) : IsComparable strict v.core := by
  cases v with
  | object shape attrs base =>
    cases base with
    | none => exact h
    | some b =>
      cases h with
      | leaf leaf => cases leaf
      | object _ besides _ => exact besides b rfl
  | _ => exact h

theorem IsComparable.of_mem_list (h : IsComparable strict (.list vs)) :
    ∀ v ∈ vs, IsComparable strict v := by
  cases h with
  | leaf leaf => cases leaf
  | list comparable => exact comparable

theorem IsComparable.of_mem_tuple (h : IsComparable strict (.tuple vs)) :
    ∀ v ∈ vs, IsComparable strict v := by
  cases h with
  | leaf leaf => cases leaf
  | tuple comparable => exact comparable

theorem IsComparable.of_mem_deque (h : IsComparable strict (.deque vs)) :
    ∀ v ∈ vs, IsComparable strict v := by
  cases h with
  | leaf leaf => cases leaf
  | deque comparable => exact comparable

theorem IsComparable.content (h : IsComparable strict w)
    (hw : w = .just v ∨ w = .left v ∨ w = .right v) : IsComparable strict v := by
  rcases hw with rfl | rfl | rfl <;>
    cases h with
    | leaf leaf => cases leaf
    | _ => assumption

section Object

variable {shape : Shape} {attrs : List (String × Value)} {base : Option (Base Value)}

theorem IsComparable.of_lookup (h : IsComparable strict (.object shape attrs base))
    {name : String} (hv : attrs.lookup name = some v) : IsComparable strict v := by
  cases h with
  | leaf leaf => cases leaf
  | object comparable => exact comparable _ (mem_of_lookup hv)

/-- An attribute tells the two sorts of values apart whose identifier an object declares. -/
inductive IsFlag (shape : Shape) : String → Prop
  | maybe (tag : shape.tag.identifier? = some maybeIdentifier) : IsFlag shape "is_just"
  | either (tag : shape.tag.identifier? = some eitherIdentifier) : IsFlag shape "is_right"

/-- An object in a map has this attribute and its content. -/
theorem IsComparable.exists_declared (h : IsComparable true (.object shape attrs base))
    {name : String} (hname : IsFlag shape name) :
    ∃ u v, attrs.lookup name = some u ∧ attrs.lookup "value" = some v := by
  cases h with
  | leaf leaf => cases leaf
  | object _ _ declared =>
    have hdeclared := declared rfl
    simp only [hasDeclared, Bool.and_eq_true, Bool.or_eq_true, bne_iff_ne,
      Option.isSome_iff_exists] at hdeclared
    cases hname with
    | maybe tag =>
      obtain ⟨⟨u, hu⟩, ⟨v, hv⟩⟩ := hdeclared.1.resolve_left fun hne => hne tag
      exact ⟨u, v, hu, hv⟩
    | either tag =>
      obtain ⟨⟨u, hu⟩, ⟨v, hv⟩⟩ := hdeclared.2.resolve_left fun hne => hne tag
      exact ⟨u, v, hu, hv⟩

theorem IsComparable.answers_flagEq (h : IsComparable true (.object shape attrs base))
    {name : String} (hname : IsFlag shape name) (flag : Bool) :
    (flagEq shape attrs name flag).Answers := by
  obtain ⟨u, -, hu, -⟩ := h.exists_declared hname
  unfold flagEq require
  rw [hu]
  exact Attempt.answers_ok _

/-- So what it contains can be compared if its flag is the right one. -/
theorem IsComparable.answers_content (h : IsComparable true (.object shape attrs base))
    {name : String} (hname : IsFlag shape name) {flag : Bool} {k : Value → Attempt Bool}
    (hk : ∀ v, attrs.lookup "value" = some v → (k v).Answers) :
    Attempt.Answers (do
      if ← flagEq shape attrs name flag then k (← require shape.className attrs "value")
      else return false) := by
  obtain ⟨-, v, -, hv⟩ := h.exists_declared hname
  refine (h.answers_flagEq hname flag).bind fun same _ => ?_
  unfold require
  rw [hv]
  cases same with
  | false => exact Attempt.answers_ok _
  | true => exact hk v hv

/-- What may be in a map can be compared with what is not looked into. -/
theorem IsComparable.answers_leafEquals (hv : IsComparable true v) (hw : IsComparable true w) :
    (leafEquals v w).Answers :=
  ⟨_, leafEquals_answers hv.isSignaling hw.isSignaling⟩

/-- An object that may be in a map can be compared with what may be in one if its contents can. -/
theorem IsComparable.answers_object (hv : IsComparable true (.object shape attrs base))
    (hw : IsComparable true w)
    (ih : ∀ a ∈ attrs, ∀ u, IsComparable true u → (equals a.2 u).Answers)
    (ihbase : ∀ vs ws, base = some (.list vs) → IsComparable true (.list ws) →
      (equals (.list vs) (.list ws)).Answers) :
    (equals (.object shape attrs base) w).Answers := by
  have hcontent {u : Value} (hu : IsComparable true u) {name : String} (hname : IsFlag shape name)
      (flag : Bool) :
      Attempt.Answers (do
        if ← flagEq shape attrs name flag then equalAttribute shape "value" attrs u
        else return false) := by
    simp only [equalAttribute_eq]
    exact hv.answers_content hname fun v hlookup => ih _ (mem_of_lookup hlookup) u hu
  unfold equals
  split
  · split
    · rename_i htag
      exact hv.answers_flagEq (.maybe htag) false
    · exact Attempt.answers_ok _
  · rename_i u
    split
    · rename_i htag
      exact hcontent (hw.content (v := u) (by simp)) (.maybe htag) true
    · exact Attempt.answers_ok _
  · rename_i u
    split
    · rename_i htag
      exact hcontent (hw.content (v := u) (by simp)) (.either htag) false
    · exact Attempt.answers_ok _
  · rename_i u
    split
    · rename_i htag
      exact hcontent (hw.content (v := u) (by simp)) (.either htag) true
    · exact Attempt.answers_ok _
  · split
    · rename_i vs ws hcore
      rw [← equals_of_lists (.inl rfl) (.inl rfl)]
      exact ihbase vs ws rfl (hcore ▸ hw.core)
    · exact hv.answers_leafEquals hw

end Object

/-- **Values that may be in a map can be compared.** -/
theorem IsComparable.answers (hv : IsComparable true v) (hw : IsComparable true w) :
    (equals v w).Answers := by
  have hv' := hv
  generalize hs : true = s at hv'
  induction hv' generalizing w with
  | leaf leaf =>
    rw [equals_of_isLeaf leaf]
    exact hv.answers_leafEquals hw
  | list comparable ih =>
    subst hs
    unfold equals
    split
    · rename_i ws hcore
      split
      · exact answers_equalElements (hcore ▸ hw.core).of_mem_list fun v hv w hw =>
          ih v hv (comparable v hv) hw rfl
      · exact Attempt.answers_ok _
    · exact Attempt.answers_ok _
  | tuple comparable ih =>
    subst hs
    unfold equals
    split
    · exact answers_equalElements hw.of_mem_tuple fun v hv w hw => ih v hv (comparable v hv) hw rfl
    · exact Attempt.answers_ok _
    · exact Attempt.answers_ok _
  | deque comparable ih =>
    subst hs
    unfold equals
    split
    · split
      · exact answers_equalElements hw.of_mem_deque fun v hv w hw =>
          ih v hv (comparable v hv) hw rfl
      · exact Attempt.answers_ok _
    · exact Attempt.answers_ok _
  | identifier =>
    unfold equals
    split <;> exact Attempt.answers_ok _
  | map distinct keyed comparable ih =>
    subst hs
    unfold equals
    split
    · split
      · cases hw with
        | leaf leaf => cases leaf
        | map _ _ comparable' =>
          obtain ⟨b, hb, -⟩ := tells_equalUnder keyed fun e he f hf =>
            ih e he (comparable e he) (comparable' f hf) rfl
          exact ⟨b, hb⟩
      · exact Attempt.answers_ok _
    · exact Attempt.answers_ok _
  | nothing =>
    subst hs
    unfold equals
    split
    · exact Attempt.answers_ok _
    · split
      · rename_i htag
        exact hw.answers_flagEq (.maybe htag) false
      · exact Attempt.answers_ok _
    · exact Attempt.answers_ok _
  | just comparable ih | left comparable ih | right comparable ih =>
    subst hs
    unfold equals
    split
    · rename_i w
      exact ih comparable (hw.content (v := w) (by simp)) rfl
    · split
      · rename_i htag
        exact hw.answers_content (by constructor; exact htag) fun w hlookup =>
          ih comparable (hw.of_lookup hlookup) rfl
      · exact Attempt.answers_ok _
    · exact Attempt.answers_ok _
  | object _ besides _ ih ihbase =>
    subst hs
    refine hv.answers_object hw (fun a ha u hu => ?_) fun vs ws hvs hws => ?_
    · cases hv with
      | leaf leaf => cases leaf
      | object comparable => exact ih a ha (comparable a ha) hu rfl
    · exact ihbase (.list vs) hvs (besides (.list vs) hvs) hws rfl

/-- **Equality does not depend on the order of the two values**: the answers are the same, and so are
the faults. -/
theorem IsComparable.equals_comm (hv : IsComparable strict v) (hw : IsComparable strict w) :
    equals v w = equals w v := by
  induction hv generalizing w with
  | leaf leaf => exact (equals_comm_of_isLeaf leaf w).symm
  | @list s vs _ ih =>
    have hlists (ws : List Value) (hws : IsComparable s (.list ws)) :
        equals (.list vs) (.list ws) = equals (.list ws) (.list vs) := by
      cases hws with
      | leaf leaf => cases leaf
      | list hws =>
        rw [equals_of_lists (.inl rfl) (.inl rfl), equals_of_lists (.inl rfl) (.inl rfl),
          equalElements_comm hws fun v hv w hw => ih v hv hw]
        simp only [eq_comm]
    cases hw with
    | leaf leaf => exact equals_comm_of_isLeaf leaf _
    | list hws => exact hlists _ (.list hws)
    | object _ besides =>
      exact equals_list_object_comm fun ws hws => hlists ws (besides (.list ws) hws)
    | _ =>
      unfold equals
      rfl
  | tuple _ ih =>
    cases hw with
    | leaf leaf => exact equals_comm_of_isLeaf leaf _
    | tuple hws =>
      unfold equals
      exact equalElements_comm hws fun v hv w hw => ih v hv hw
    | object => exact equals_shaped_object_comm rfl (by simp) (by simp [IsTagged])
    | _ =>
      unfold equals
      rfl
  | deque _ ih =>
    cases hw with
    | leaf leaf => exact equals_comm_of_isLeaf leaf _
    | deque hws =>
      unfold equals
      dsimp only
      rw [equalElements_comm hws fun v hv w hw => ih v hv hw]
      simp only [eq_comm]
    | object => exact equals_shaped_object_comm rfl (by simp) (by simp [IsTagged])
    | _ =>
      unfold equals
      rfl
  | identifier _ i =>
    cases hw with
    | leaf leaf => exact equals_comm_of_isLeaf leaf _
    | identifier _ j =>
      unfold equals
      exact congrArg Except.ok Bool.beq_comm
    | object => exact equals_shaped_object_comm rfl (by simp) (by simp [IsTagged])
    | _ =>
      unfold equals
      rfl
  | map distinct keyed comparable ih =>
    cases hw with
    | leaf leaf => exact equals_comm_of_isLeaf leaf _
    | map distinct' keyed' comparable' =>
      exact equals_maps_comm distinct distinct' keyed keyed'
        (fun e he f hf => (comparable e he).answers (comparable' f hf))
        fun e he f hf => ih e he (comparable' f hf)
    | object => exact equals_shaped_object_comm rfl (by simp) (by simp [IsTagged])
    | _ =>
      unfold equals
      rfl
  | nothing =>
    cases hw with
    | leaf leaf => exact equals_comm_of_isLeaf leaf _
    | _ =>
      unfold equals
      rfl
  | just _ ih | left _ ih | right _ ih =>
    cases hw with
    | leaf leaf => exact equals_comm_of_isLeaf leaf _
    | just hw | left hw | right hw =>
      unfold equals
      first | exact ih hw | rfl
    | object comparable =>
      exact equals_tagged_object_comm (fun a ha => (ih (comparable a ha)).symm) (by simp)
    | _ =>
      unfold equals
      rfl
  | object comparable besides _ ih ihbase =>
    cases hw with
    | leaf leaf => exact equals_comm_of_isLeaf leaf _
    | list hvs =>
      exact (equals_list_object_comm fun ws hws => (ihbase (.list ws) hws (.list hvs)).symm).symm
    | tuple | deque | identifier | map =>
      symm
      exact equals_shaped_object_comm rfl (by simp) (by simp [IsTagged])
    | nothing =>
      unfold equals
      rfl
    | just hw | left hw | right hw =>
      exact (equals_tagged_object_comm (fun a ha => ih a ha hw) (by simp)).symm
    | object _ besides' =>
      exact equals_object_comm fun vs ws hvs hws => ihbase (.list vs) hvs (besides' (.list ws) hws)

end Value

end CheckedCurry
