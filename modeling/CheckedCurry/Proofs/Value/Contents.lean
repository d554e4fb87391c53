import CheckedCurry.Proofs.Value.Genuine

/-!
# What a value contains

The content of an object is one of its attributes, and whatever is inside a value is less deep than
the value.  Texts are sequences too, but no type looks into them; counted without their characters,
values have fewer layers than the arrays, the maps and the optional values around them.

- `nativeAttribute?_familyName`: what no built-in class has.
- `readAttribute_of_lookup`, `readAttribute_value_object`: attributes of objects.
- `Value.layers`: how many values deep types look into a value.
- `layers_lt_of_mem_sequence?`, `layers_lt_of_mem_entries`, `layers_lt_of_lookup`: what is inside
  has fewer layers.
-/

namespace CheckedCurry.Value

variable {v x : Value}

/-! ## Attributes of objects -/

section Object

variable {shape : Shape} {attrs : List (String × Value)} {base : Option (Base Value)}

theorem readAttribute_of_lookup [Host] {name : String} (h : attrs.lookup name = some v) :
    (object shape attrs base).readAttribute name = .ok v := by
  unfold readAttribute attribute?
  simp only [h]

/-- Only what an object is besides has parts, and none of them is under a name that optional values,
failures and successes use. -/
theorem part?_familyName {name : String} (hname : name ∈ familyNames) (v : Value) :
    v.part? name = none := by
  simp only [familyNames, List.mem_cons, List.not_mem_nil, or_false] at hname
  rcases hname with rfl | rfl | rfl | rfl | rfl | rfl
  all_goals
    cases v with
    | moment m => cases m <;> rfl
    | error mark fault => cases fault <;> rfl
    | pattern source => cases source <;> rfl
    | _ => rfl

/-- No built-in class has anything under such a name. -/
theorem nativeAttribute?_familyName [Host] {name : String} (hname : name ∈ familyNames) (v : Value) :
    v.nativeAttribute? name = none := by
  rw [nativeAttribute?, part?_familyName hname, Host.method?_familyName v name hname, ite_self,
    Option.or_none]

/-- The content of an object is one of its attributes. -/
theorem readAttribute_value_object [Host] :
    (object shape attrs base).readAttribute "value" = .ok v ↔ attrs.lookup "value" = some v := by
  cases h : attrs.lookup "value" with
  | some w =>
    rw [readAttribute_of_lookup h]
    simp
  | none =>
    have hnone : (object shape attrs base).attribute? "value" = none := by
      unfold attribute?
      simp only [h]
      cases base with
      | none => rfl
      | some b => exact nativeAttribute?_familyName (by decide) (ofBase b)
    unfold readAttribute
    rw [hnone]
    simp [Attempt.fail]

end Object

/-! ## Depth -/

theorem depth_le_depthAttributes {attrs : List (String × Value)} {name : String}
    (h : attrs.lookup name = some v) : v.depth ≤ depthAttributes attrs := by
  induction attrs with
  | nil => cases h
  | cons attr attrs ih =>
    obtain ⟨n, w⟩ := attr
    rw [depthAttributes]
    rw [List.lookup_cons] at h
    split at h
    · obtain rfl := Option.some.inj h
      exact Nat.le_max_left ..
    · exact Nat.le_trans (ih h) (Nat.le_max_right ..)

theorem depthAttributes_lt_depth (shape : Shape) (attrs : List (String × Value))
    (base : Option (Base Value)) : depthAttributes attrs < (object shape attrs base).depth := by
  unfold depth
  exact Nat.lt_succ_of_le (Nat.le_max_left ..)

theorem depth_lt_of_lookup {shape : Shape} {attrs : List (String × Value)} {base : Option (Base Value)}
    {name : String} (h : attrs.lookup name = some v) : v.depth < (object shape attrs base).depth :=
  Nat.lt_of_le_of_lt (depth_le_depthAttributes h) (depthAttributes_lt_depth shape attrs base)

/-- What an object is besides is no deeper than the object. -/
theorem depth_core_le (v : Value) : v.core.depth ≤ v.depth := by
  cases v with
  | object shape attrs base =>
    cases base with
    | none => exact Nat.le_refl _
    | some base =>
      show (ofBase base).depth ≤ (object shape attrs (some base)).depth
      conv => rhs; unfold depth
      refine Nat.le_succ_of_le (Nat.le_trans ?_ (Nat.le_max_right ..))
      cases base <;> (unfold ofBase depth; exact Nat.le_refl _)
  | _ => exact Nat.le_refl _

theorem depth_le_depthEntries {entries : List (Value × Value)} {e : Value × Value}
    (h : e ∈ entries) : e.2.depth ≤ depthEntries entries := by
  induction entries with
  | nil => cases h
  | cons f entries ih =>
    obtain ⟨k, w⟩ := f
    rw [depthEntries]
    rcases List.mem_cons.mp h with rfl | h
    · exact Nat.le_trans (Nat.le_max_right ..) (Nat.le_max_left ..)
    · exact Nat.le_trans (ih h) (Nat.le_max_right ..)

/-! ## Layers -/

/-- How many values deep types look into a value.  They never look into a text. -/
def layers : Value → Nat
  | text _ => 1
  | v => v.depth

theorem layers_pos (v : Value) : 0 < v.layers := by
  unfold layers
  split
  · exact Nat.one_pos
  · exact v.depth_pos

theorem layers_le_depth (v : Value) : v.layers ≤ v.depth := by
  unfold layers
  split
  · rw [depth]
    exact Nat.le_succ 1
  · exact Nat.le_refl _

/-- The elements of an array have fewer layers than the array. -/
theorem layers_lt_of_mem_sequence? {items : List Value} (h : v.kind = .array)
    (hitems : v.sequence? = some items) (hx : x ∈ items) : x.layers < v.layers := by
  have hlayers : v.layers = v.depth := by
    cases v with
    | text s => cases h
    | _ => rfl
  rw [hlayers]
  refine Nat.lt_of_lt_of_le ?_ (depth_core_le v)
  unfold sequence? at hitems
  rcases core_of_kind_array h with ⟨vs, hv⟩ | ⟨vs, hv⟩ | ⟨p, hv⟩ | ⟨i, hv⟩ | ⟨vs, hv⟩
  all_goals
    rw [hv] at hitems ⊢
    obtain rfl := Option.some.inj hitems
    rw [depth]
  · exact Nat.lt_succ_of_le (Nat.le_trans (layers_le_depth x) (depth_le_depthAll hx))
  · exact Nat.lt_succ_of_le (Nat.le_trans (layers_le_depth x) (depth_le_depthAll hx))
  · obtain ⟨n, -, rfl⟩ := List.mem_map.mp hx
    rw [show (int n).layers = 1 from rfl]
    exact Nat.lt_succ_self 1
  · -- an identifier has a text or nothing, a text and an integer as its parts
    have hone : x.layers = 1 := by
      unfold identifierItems at hx
      simp only [List.mem_cons, List.not_mem_nil, or_false] at hx
      rcases hx with rfl | rfl | rfl
      · cases i.space <;> rfl
      · rfl
      · rfl
    rw [hone]
    exact Nat.lt_succ_self 1
  · exact Nat.lt_succ_of_le (Nat.le_trans (layers_le_depth x) (depth_le_depthAll hx))

/-- The values of a map have fewer layers than the map. -/
theorem layers_lt_of_mem_entries {entries : List (Value × Value)} {e : Value × Value}
    (h : e ∈ entries) : e.2.layers < (map entries).layers := by
  show e.2.layers < (map entries).depth
  rw [depth]
  exact Nat.lt_succ_of_le (Nat.le_trans (layers_le_depth e.2) (depth_le_depthEntries h))

theorem layers_lt_content (h : v = just x ∨ v = left x ∨ v = right x) : x.layers < v.layers := by
  refine Nat.lt_of_le_of_lt (layers_le_depth x) ?_
  rcases h with rfl | rfl | rfl
  all_goals
    show x.depth < depth _
    conv => rhs; rw [depth]
    exact Nat.lt_succ_self _

/-- The content of an object has fewer layers than the object. -/
theorem layers_lt_of_lookup {shape : Shape} {attrs : List (String × Value)}
    {base : Option (Base Value)} {name : String} (h : attrs.lookup name = some v) :
    v.layers < (object shape attrs base).layers := by
  have hdepth : v.depth < (object shape attrs base).depth := depth_lt_of_lookup h
  exact Nat.lt_of_le_of_lt (layers_le_depth v) hdepth

end CheckedCurry.Value
