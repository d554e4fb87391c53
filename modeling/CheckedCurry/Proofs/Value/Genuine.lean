import CheckedCurry.Proofs.Value.Attempt
import CheckedCurry.Ty.Membership

/-!
# What is known of a value from its kind

A value of a kind may be an object that is such a value in addition.  An object may also declare the
identifier of optional values, or of failures and successes, without being one; results can be
relied on only if no such object is inside the arguments.

- `kind_eq_structuralKind`: without an identifier, the kind is that of the core of a value.
- `exists_text_of_kind`, `exists_number_of_kind`, `core_of_kind_array`: what the core is;
  `exists_items_of_kind`, `mem_of_item`: the elements of an array.
- `Value.IsOwn`: values that declare an identifier only if they are optional values, failures or
  successes.
- `Value.Inside`, `Value.Genuine`: the values inside a value, and values inside which all are so.
- `IsOwn.kind_of_unifier`, `Genuine.maybe`, `Genuine.either`: what such a value is.
-/

namespace CheckedCurry.Value

variable {v w x : Value}

/-! ## Kinds -/

theorem identifier?_of_kind (h : v.kind ≠ .tagged) : v.identifier? = none := by
  cases hv : v.identifier? with
  | none => rfl
  | some s =>
    refine absurd ?_ h
    unfold kind
    rw [hv]

/-- The unifier of a value without an identifier is the name of its kind. -/
theorem unifier_of_no_identifier (h : v.identifier? = none) : v.unifier = v.kind.name := by
  rw [unifier, h]
  rfl

theorem unifier_of_kind {k : Kind} (h : v.kind = k) (hk : k ≠ .tagged) : v.unifier = k.name := by
  rw [unifier_of_no_identifier (identifier?_of_kind (h ▸ hk)), h]

/-- Without an identifier, the kind of a value is that of its core. -/
theorem kind_eq_structuralKind (h : v.identifier? = none) : v.kind = v.core.structuralKind := by
  unfold kind
  rw [h]
  cases v with
  | object shape attrs base => cases base <;> rfl
  | _ => rfl

/-- A value of an untagged kind has a core of that kind. -/
theorem structuralKind_core {k : Kind} (h : v.kind = k) (hk : k ≠ .tagged) :
    v.core.structuralKind = k := by
  rw [← kind_eq_structuralKind (identifier?_of_kind (h ▸ hk)), h]

theorem structuralKind_boolean (h : v.structuralKind = .boolean) : ∃ b, v = bool b := by
  unfold structuralKind at h
  -- all values without a sort of their own are functions or objects
  split at h <;> first | exact ⟨_, rfl⟩ | (split at h <;> cases h) | cases h

theorem structuralKind_string (h : v.structuralKind = .string) : ∃ s, v = text s := by
  unfold structuralKind at h
  split at h <;> first | exact ⟨_, rfl⟩ | (split at h <;> cases h) | cases h

theorem structuralKind_number (h : v.structuralKind = .number) : ∃ n, v = number n := by
  unfold structuralKind at h
  split at h <;> first | exact ⟨_, rfl⟩ | (split at h <;> cases h) | cases h

theorem structuralKind_array (h : v.structuralKind = .array) :
    (∃ items, v = list items) ∨ (∃ items, v = tuple items) ∨ (∃ p, v = range p) ∨
      (∃ i, v = identifier i) ∨ ∃ items, v = deque items := by
  unfold structuralKind at h
  split at h <;> first | (simp; done) | (split at h <;> cases h) | cases h

/-- The core of a truth value is one. -/
theorem exists_bool_of_kind (h : v.kind = .boolean) : ∃ b, v.core = bool b :=
  structuralKind_boolean (structuralKind_core h (by decide))

/-- The core of a string is a text. -/
theorem exists_text_of_kind (h : v.kind = .string) : ∃ s, v.core = text s :=
  structuralKind_string (structuralKind_core h (by decide))

/-- The core of a number is a number. -/
theorem exists_number_of_kind (h : v.kind = .number) : ∃ n, v.core = number n :=
  structuralKind_number (structuralKind_core h (by decide))

/-- The core of an array is one of the five sorts of sequences whose elements are values. -/
theorem core_of_kind_array (h : v.kind = .array) :
    (∃ items, v.core = list items) ∨ (∃ items, v.core = tuple items) ∨
      (∃ p, v.core = range p) ∨ (∃ i, v.core = identifier i) ∨ ∃ items, v.core = deque items :=
  structuralKind_array (structuralKind_core h (by decide))

/-- An array is a sequence. -/
theorem exists_sequence_of_kind (h : v.kind = .array) : ∃ items, v.sequence? = some items := by
  unfold sequence?
  rcases core_of_kind_array h with
    ⟨items, hv⟩ | ⟨items, hv⟩ | ⟨p, hv⟩ | ⟨i, hv⟩ | ⟨items, hv⟩
  all_goals
    rw [hv]
    exact ⟨_, rfl⟩

/-- What an iteration over an array meets, its size and its elements are those of the sequence. -/
theorem exists_items_of_kind (h : v.kind = .array) : ∃ items, v.sequence? = some items ∧
    v.elements = .ok items ∧ v.count? = some items.length := by
  obtain ⟨items, hitems⟩ := exists_sequence_of_kind h
  refine ⟨items, hitems, ?_, ?_⟩
  · unfold elements
    split
    · cases h
    · cases h
    · cases h
    · rw [hitems]
  · unfold count?
    unfold sequence? at hitems ⊢
    split
    · rename_i p hcore
      rw [hcore] at hitems
      obtain rfl := Option.some.inj hitems
      rw [List.length_map, Progression.length_elements]
    · rw [hitems]
      rfl

/-- An element of an array at an index is among those that an iteration meets. -/
theorem mem_of_item {items : List Value} {index : Int} (h : v.kind = .array)
    (hitems : v.elements = .ok items) (hx : v.item index = .ok x) : x ∈ items := by
  obtain ⟨items', hsequence, helements, -⟩ := exists_items_of_kind h
  obtain rfl := Except.ok.inj (hitems.symm.trans helements)
  unfold item at hx
  split at hx
  · cases h
  · rw [hsequence] at hx
    dsimp only at hx
    -- a negative index counts from the end, but any index that is found is one of the sequence
    generalize (if index < 0 then index + (items.length : Int) else index) = place at hx
    split at hx
    · split at hx
      · rename_i w hw
        obtain rfl := Except.ok.inj hx
        exact List.mem_of_getElem? hw
      · cases hx
    · cases hx

/-! ## Values inside -/

/-- A value is the other one or inside it: an element of a sequence, a key or a value of a map, the
content of an optional value, a failure or a success, or inside one of these. -/
inductive Inside (w : Value) : Value → Prop
  | self : Inside w w
  | item {v x : Value} {items : List Value} (sequence : v.sequence? = some items)
      (mem : x ∈ items) (inside : Inside w x) : Inside w v
  | key {entries : List (Value × Value)} {e : Value × Value} (mem : e ∈ entries)
      (inside : Inside w e.1) : Inside w (map entries)
  | entry {entries : List (Value × Value)} {e : Value × Value} (mem : e ∈ entries)
      (inside : Inside w e.2) : Inside w (map entries)
  | just {x : Value} (inside : Inside w x) : Inside w (just x)
  | left {x : Value} (inside : Inside w x) : Inside w (left x)
  | right {x : Value} (inside : Inside w x) : Inside w (right x)

/-- Whether a value is an optional value, a failure or a success. -/
def IsTagged (v : Value) : Prop := v = nothing ∨ ∃ w, v = just w ∨ v = left w ∨ v = right w

/-- A tagged value with the identifier of optional values is one. -/
theorem IsTagged.maybe (h : v.IsTagged) (hv : v.identifier? = some maybeIdentifier) :
    v = nothing ∨ ∃ w, v = just w := by
  rcases h with rfl | ⟨w, rfl | rfl | rfl⟩
  · exact .inl rfl
  · exact .inr ⟨w, rfl⟩
  · exact absurd (Option.some.inj hv) (by decide)
  · exact absurd (Option.some.inj hv) (by decide)

/-- A tagged value with the identifier of failures and successes is one. -/
theorem IsTagged.either (h : v.IsTagged) (hv : v.identifier? = some eitherIdentifier) :
    ∃ w, v = left w ∨ v = right w := by
  rcases h with rfl | ⟨w, rfl | rfl | rfl⟩
  · exact absurd (Option.some.inj hv) (by decide)
  · exact absurd (Option.some.inj hv) (by decide)
  · exact ⟨w, .inl rfl⟩
  · exact ⟨w, .inr rfl⟩

/-- If the class of a value declares an identifier then the value is an optional value, a failure or a
success. -/
def IsOwn (v : Value) : Prop := v.identifier? ≠ none → v.IsTagged

namespace IsOwn

/-- The identifier of such a value, if it has one, is that of what it is. -/
theorem identifier?_cases (h : IsOwn v) :
    v.identifier? = none ∨ (v.identifier? = some maybeIdentifier ∧ (v = nothing ∨ ∃ w, v = just w)) ∨
      (v.identifier? = some eitherIdentifier ∧ ∃ w, v = left w ∨ v = right w) := by
  by_cases hv : v.identifier? = none
  · exact .inl hv
  · right
    rcases h hv with rfl | ⟨w, rfl | rfl | rfl⟩
    · exact .inl ⟨rfl, .inl rfl⟩
    · exact .inl ⟨rfl, .inr ⟨w, rfl⟩⟩
    · exact .inr ⟨rfl, w, .inl rfl⟩
    · exact .inr ⟨rfl, w, .inr rfl⟩

/-- Such a value has the kind whose name is its unifier. -/
theorem kind_of_unifier {k : Kind} (h : IsOwn v) (hv : v.unifier = k.name) : v.kind = k := by
  rcases h.identifier?_cases with hnone | ⟨hmaybe, -⟩ | ⟨heither, -⟩
  · rw [unifier, hnone] at hv
    exact Kind.name_injective hv
  -- the two identifiers are no names of kinds
  · rw [unifier_of_identifier? hmaybe] at hv
    exact absurd hv (by cases k <;> decide)
  · rw [unifier_of_identifier? heither] at hv
    exact absurd hv (by cases k <;> decide)

end IsOwn

/-- All values inside whose classes declare an identifier are optional values, failures and
successes; no object pretends to be one. -/
def Genuine (v : Value) : Prop := ∀ w, Inside w v → w.identifier? ≠ none → w.IsTagged

namespace Genuine

/-- A genuine value is inside itself. -/
theorem own (h : Genuine v) : IsOwn v := h v .self

theorem item {items : List Value} (h : Genuine v) (hitems : v.sequence? = some items)
    (hx : x ∈ items) : Genuine x :=
  fun w hw => h w (.item hitems hx hw)

theorem key {entries : List (Value × Value)} {e : Value × Value} (h : Genuine (map entries))
    (he : e ∈ entries) : Genuine e.1 :=
  fun w hw => h w (.key he hw)

/-- The identifier of a genuine value, if it has one, is that of what it is. -/
theorem identifier?_cases (h : Genuine v) :
    v.identifier? = none ∨ (v.identifier? = some maybeIdentifier ∧ (v = nothing ∨ ∃ w, v = just w)) ∨
      (v.identifier? = some eitherIdentifier ∧ ∃ w, v = left w ∨ v = right w) :=
  h.own.identifier?_cases

theorem ofInt (n : Int) : Genuine (int n) := by
  intro w hw hidentifier
  cases hw with
  | self => exact absurd rfl hidentifier
  | item sequence => cases sequence

theorem ofList {items : List Value} (h : ∀ x ∈ items, Genuine x) : Genuine (list items) := by
  intro w hw hidentifier
  cases hw with
  | self => exact absurd rfl hidentifier
  | item sequence mem inside =>
    obtain rfl := Option.some.inj sequence
    exact h _ mem w inside hidentifier

theorem ofJust (h : Genuine v) : Genuine (just v) := by
  intro w hw hidentifier
  cases hw with
  | self => exact .inr ⟨v, .inl rfl⟩
  | item sequence => cases sequence
  | just inside => exact h w inside hidentifier

/-- A genuine value with the identifier of optional values is one. -/
theorem maybe (h : Genuine v) (hv : v.identifier? = some maybeIdentifier) :
    v = nothing ∨ ∃ w, v = Value.just w :=
  (h v .self (by simp [hv])).maybe hv

/-- A genuine value with the identifier of failures and successes is one. -/
theorem either (h : Genuine v) (hv : v.identifier? = some eitherIdentifier) :
    ∃ w, v = Value.left w ∨ v = Value.right w :=
  (h v .self (by simp [hv])).either hv

/-- A genuine value whose unifier is the name of a kind has the kind. -/
theorem kind_of_unifier {k : Kind} (h : Genuine v) (hv : v.unifier = k.name) : v.kind = k :=
  h.own.kind_of_unifier hv

/-- A genuine value that is a text is a string. -/
theorem kind_of_isText (h : Genuine v) (hv : v.isText = true) : v.kind = .string := by
  unfold isText at hv
  rcases h.identifier?_cases with hnone | ⟨-, rfl | ⟨w, rfl⟩⟩ | ⟨-, w, rfl | rfl⟩
  · rw [kind_eq_structuralKind hnone]
    split at hv
    · rename_i s hcore
      rw [hcore]
      rfl
    · cases hv
  all_goals cases hv

end Genuine

end CheckedCurry.Value
