import CheckedCurry.Proofs.Value.Attempt
import CheckedCurry.Proofs.Value.Spread

/-!
# Values that can be shown

Showing a value turns the quotients inside it into binary64 numbers, and so does testing it; both
fail on a quotient that is too large.  Integers of too many digits are not written, a progression needs
room for its elements, and the source of a regular expression is shown as a text.  Looking into an
object that declares itself an optional value, a failure or a success needs the attributes that such a
value has.  Nothing else is in the way.

- `Number.isTractable`, `Number.isShort`: numbers that can be turned into a binary64 number, and those
  that can be written.
- `Value.isOrdinary`: all that is inside a value can be shown, and what is declared is there.
- `answers_display`: an ordinary value can be shown, by induction on values.
- `isOrdinary_of_mem_sequence?`, `isOrdinary_of_mem_entries`, `isOrdinary_of_lookup`: what is inside
  an ordinary value is ordinary.
-/

namespace CheckedCurry

namespace Number

/-- Whether a number is no quotient that is too large for a binary64 number.  Integers are never turned
into one. -/
def isTractable : Number → Bool
  | .ratio q => (Binary64.ofRat false q).isFinite
  | _ => true

/-- Whether an integer has few enough digits to be written. -/
def isShortInteger (n : Int) : Bool := hasDigits digitLimit n.natAbs

/-- Whether the integers that a number is written with have few enough digits. -/
def isShort : Number → Bool
  | .int n => isShortInteger n
  | .ratio q => isShortInteger q.num && isShortInteger q.den
  | _ => true

theorem toFloat?_ratio {q : Rat} (h : (ratio q).isTractable = true) :
    (ratio q).toFloat? = .ok (some (Binary64.ofRat false q)) := by
  have hfinite : (Binary64.ofRat false q).isFinite = true := h
  rw [toFloat?, hfinite, if_pos rfl]

theorem toFloat?_quotient {q : Rat} (h : (ratio q).isTractable = false) :
    (ratio q).toFloat? = .error .quotientTooLarge := by
  have hfinite : (Binary64.ofRat false q).isFinite = false := h
  rw [toFloat?, hfinite, if_neg Bool.false_ne_true]

theorem isShortInteger_iff {n : Int} :
    isShortInteger n = true ↔ n.natAbs < Nat.pow 10 digitLimit :=
  hasDigits_iff (by decide)

theorem integerText_of_isShort {n : Int} (h : isShortInteger n = true) :
    integerText n = .ok (toString n) := if_pos h

/-- The number that is not further from zero than two short integers is short. -/
theorem isShortInteger_of_between {m n k : Int} (hm : isShortInteger m = true)
    (hn : isShortInteger n = true) (hk : k.natAbs ≤ max m.natAbs n.natAbs) :
    isShortInteger k = true := by
  rw [isShortInteger_iff] at *
  exact Nat.lt_of_le_of_lt hk (Nat.max_lt.mpr ⟨hm, hn⟩)

/-- A short number can be written. -/
theorem exists_literal {n : Number} (h : n.isShort = true) : ∃ s, n.literal = .ok s := by
  cases n with
  | int n => exact ⟨_, integerText_of_isShort h⟩
  | ratio q =>
    obtain ⟨hnum, hden⟩ := Bool.and_eq_true_iff.mp h
    exact ⟨_, by rw [literal, integerText_of_isShort hnum, integerText_of_isShort hden]; rfl⟩
  | float | nan => exact ⟨_, rfl⟩

/-- A number that can be turned into a binary64 number is shown if it is written in some way. -/
theorem exists_displayAs {n : Number} (h : n.isTractable = true) (s : String) :
    ∃ t, n.displayAs (.ok s) = .ok t := by
  cases n with
  | ratio q =>
    unfold displayAs
    simp only [toFloat?_ratio h]
    cases Binary64.ofRat false q <;> exact ⟨_, rfl⟩
  | float x => cases x <;> exact ⟨_, rfl⟩
  | int | nan => exact ⟨_, rfl⟩

/-- A quotient that is too large is not shown, however it is written. -/
theorem displayAs_quotient {q : Rat} (h : (ratio q).isTractable = false)
    (written : Except NumberFault String) :
    (ratio q).displayAs written = .error .quotientTooLarge := by
  unfold displayAs
  simp only [toFloat?_quotient h]
  rfl

end Number

namespace Value

variable [Host]

open Attempt

/-! ## Ordinary values -/

/-- Whether an object has the attributes that go with the identifier that its class declares. -/
def hasDeclared (shape : Shape) (attrs : List (String × Value)) : Bool :=
  let has (name : String) := (attrs.lookup name).isSome
  (shape.tag.identifier? != some maybeIdentifier || (has "is_just" && has "value")) &&
    (shape.tag.identifier? != some eitherIdentifier || (has "is_right" && has "value"))

/-- Whether there is room for the elements of a progression, and its bounds can be written. -/
def isOrdinaryRange (p : Progression) : Bool :=
  decide p.HasRoom && Number.isShortInteger p.start && Number.isShortInteger p.stop &&
    Number.isShortInteger p.step

mutual

/-- Whether all that is inside a value can be shown: no quotient is too large for a binary64 number, no
integer has too many digits, no progression has too many elements and no regular expression is one for
bytes.  All objects inside have the attributes that they declare to have. -/
def isOrdinary : Value → Bool
  | number n => n.isTractable && n.isShort
  | range p => isOrdinaryRange p
  | identifier i => Number.isShortInteger i.version
  | pattern source => source.isText
  | list items | tuple items | deque items => ordinaryAll items
  | map entries => ordinaryEntries entries
  | just v | left v | right v => isOrdinary v
  | object shape attrs base =>
    hasDeclared shape attrs && ordinaryContents attrs && (match base with
      -- such a number is shown as the program says
      | some (.number n) => n.isTractable
      | some (.list items) => ordinaryAll items
      | _ => true)
  | bound f receiver => isOrdinary f && isOrdinary receiver
  | curried _ _ _ _ slots => ordinaryAll slots
  | error _ f => ordinaryFault f
  | _ => true

/-- Whether values are ordinary. -/
def ordinaryAll : List Value → Bool
  | [] => true
  | v :: vs => isOrdinary v && ordinaryAll vs

/-- Whether the keys and the values of entries are ordinary. -/
def ordinaryEntries : List (Value × Value) → Bool
  | [] => true
  | (k, v) :: es => isOrdinary k && isOrdinary v && ordinaryEntries es

/-- Whether the attributes that hold the content of an object are ordinary. -/
def ordinaryContents : List (String × Value) → Bool
  | [] => true
  | (name, v) :: attrs => (name != "value" || isOrdinary v) && ordinaryContents attrs

/-- Whether the arguments that a program gives an error are ordinary. -/
def ordinaryFault : Fault Value → Bool
  | .made _ arguments => ordinaryAll arguments
  | _ => true

end

theorem ordinaryAll_iff {vs : List Value} :
    ordinaryAll vs = true ↔ ∀ v ∈ vs, v.isOrdinary = true := by
  induction vs with
  | nil => simp [ordinaryAll]
  | cons v vs ih => simp [ordinaryAll, ih]

theorem ordinaryEntries_iff {es : List (Value × Value)} :
    ordinaryEntries es = true ↔ ∀ e ∈ es, e.1.isOrdinary = true ∧ e.2.isOrdinary = true := by
  induction es with
  | nil => simp [ordinaryEntries]
  | cons e es ih => simp [ordinaryEntries, ih]

/-! ## Showing -/

omit [Host] in
/-- The text of a short integer. -/
theorem integerText_of_isShort {n : Int} (h : Number.isShortInteger n = true) :
    integerText n = .ok (toString n) := congrArg ofNumber (Number.integerText_of_isShort h)

omit [Host] in
theorem answers_literal_number {n : Number} (h : n.isShort = true) :
    (ofNumber n.literal).Answers := by
  obtain ⟨s, hs⟩ := Number.exists_literal h
  exact ⟨s, congrArg ofNumber hs⟩

omit [Host] in
/-- A number that can be written, and turned into a binary64 number, can be shown. -/
theorem answers_display_number {n : Number} (h : n.isTractable = true) (hshort : n.isShort = true) :
    (ofNumber n.display).Answers := by
  obtain ⟨s, hs⟩ := Number.exists_literal hshort
  obtain ⟨t, ht⟩ := Number.exists_displayAs h s
  rw [Number.display, hs]
  exact ⟨t, congrArg ofNumber ht⟩

/-- A quotient that is too large cannot be shown. -/
theorem display_quotient {q : Rat} (h : (Number.ratio q).isTractable = false) :
    (number (.ratio q)).display = .error (.basic (.number .quotientTooLarge)) := by
  rw [display]
  exact congrArg ofNumber (Number.displayAs_quotient h _)

theorem isOrdinaryRange_iff {p : Progression} : isOrdinaryRange p = true ↔
    p.HasRoom ∧ Number.isShortInteger p.start = true ∧ Number.isShortInteger p.stop = true ∧
      Number.isShortInteger p.step = true := by
  simp only [isOrdinaryRange, Bool.and_eq_true, decide_eq_true_iff, and_assoc]

/-- The elements of a progression can be written if its bounds can. -/
theorem isShortInteger_of_mem_elements {p : Progression} (h : isOrdinaryRange p = true) {n : Int}
    (hn : n ∈ p.elements) : Number.isShortInteger n = true := by
  obtain ⟨-, hstart, hstop, -⟩ := isOrdinaryRange_iff.mp h
  exact Number.isShortInteger_of_between hstart hstop (p.between_of_mem hn)

/-- A progression is shown element by element. -/
theorem answers_rangeDisplay {p : Progression} (h : isOrdinaryRange p = true) :
    (rangeDisplay p).Answers := by
  have hroom : p.length < Host.room := (isOrdinaryRange_iff.mp h).1.2
  rw [rangeDisplay, Progression.front_of_le (Nat.le_of_lt hroom)]
  refine (answers_mapM fun n hn => ?_).bind fun items _ => ?_
  · exact ⟨_, integerText_of_isShort (isShortInteger_of_mem_elements h hn)⟩
  · rw [if_neg (Nat.not_le_of_lt hroom)]
    exact answers_ok _

theorem answers_literal_range {p : Progression} (h : isOrdinaryRange p = true) :
    (ofNumber p.literal).Answers := by
  obtain ⟨-, hstart, hstop, hstep⟩ := isOrdinaryRange_iff.mp h
  obtain ⟨s, hs⟩ : ∃ s, p.literal = .ok s := by
    rw [Progression.literal, Number.integerText_of_isShort hstart,
      Number.integerText_of_isShort hstop, Number.integerText_of_isShort hstep]
    by_cases hone : p.step = 1
    · exact ⟨_, if_pos hone⟩
    · exact ⟨_, if_neg hone⟩
  exact ⟨s, congrArg ofNumber hs⟩

omit [Host] in
theorem answers_identifierDisplay {i : Identifier} (h : Number.isShortInteger i.version = true) :
    (identifierDisplay i).Answers := by
  rw [identifierDisplay, integerText_of_isShort h]
  exact answers_ok _

omit [Host] in
theorem answers_identifierLiteral {i : Identifier} (h : Number.isShortInteger i.version = true) :
    (identifierLiteral i).Answers := by
  rw [identifierLiteral, integerText_of_isShort h]
  exact answers_ok _

omit [Host] in
theorem answers_patternDisplay {source : Text.Expression} (h : source.isText = true) :
    (patternDisplay source).Answers := by
  cases source with
  | text s => exact answers_ok _
  | bytes bs => cases h

mutual

/-- An ordinary value can be shown. -/
theorem answers_display : ∀ v : Value, v.isOrdinary = true → v.display.Answers
  | .number n, h => by
    rw [isOrdinary, Bool.and_eq_true] at h
    rw [display]
    exact answers_display_number h.1 h.2
  | .range p, h => by
    rw [isOrdinary] at h
    rw [display]
    exact answers_rangeDisplay h
  | .identifier i, h => by
    rw [isOrdinary] at h
    rw [display]
    exact answers_identifierDisplay h
  | .pattern source, h => by
    rw [isOrdinary] at h
    rw [display]
    exact answers_patternDisplay h
  | .list items, h | .tuple items, h | .deque items, h => by
    rw [isOrdinary] at h
    rw [display]
    exact (answers_displayAll items h).map _
  | .map entries, h => by
    rw [isOrdinary] at h
    rw [display]
    exact (answers_displayEntries entries h).map _
  | .just v, h | .left v, h | .right v, h => by
    rw [isOrdinary] at h
    rw [display]
    exact (answers_display v h).map _
  | .object _ _ none, _ => by
    rw [display]
    exact answers_ok _
  | .object shape _ (some (.number n)), h => by
    have htractable : n.isTractable = true := by
      simp only [isOrdinary, Bool.and_eq_true] at h
      exact h.2
    rw [display]
    split
    · obtain ⟨s, hs⟩ := Number.exists_displayAs htractable shape.printed
      exact ⟨s, congrArg ofNumber hs⟩
    · exact answers_ok _
  | .object _ _ (some (.text _)), _ => by
    rw [display]
    exact answers_ok _
  | .object _ _ (some (.list items)), h => by
    have hitems : ordinaryAll items = true := by
      simp only [isOrdinary, Bool.and_eq_true] at h
      exact h.2
    rw [display]
    split
    · exact (answers_displayAll items hitems).map _
    · exact answers_ok _
  | .bound f _, h => by
    rw [isOrdinary, Bool.and_eq_true] at h
    rw [display]
    exact answers_display f h.1
  | .curried _ _ _ _ slots, h => by
    rw [isOrdinary] at h
    rw [display]
    exact (answers_literalAll slots h).map _
  | .error _ f, h => by
    rw [isOrdinary] at h
    rw [display]
    exact answers_literalFault f h
  | .text _, _ | .cls _, _ | .helper _, _ | .standard _, _ | .constant .., _ | .failing .., _
  | .collecting .., _ | .null, _ | .undefined, _ | .placeholder, _ | .bool _, _ | .decimal _, _
  | .bytes _, _ | .moment _, _ | .duration _, _ | .nothing, _ | .type .., _ | .constructor _, _ => by
    rw [display]
    exact answers_ok _

theorem answers_displayAll : ∀ vs : List Value, ordinaryAll vs = true → (displayAll vs).Answers
  | [], _ => by
    rw [displayAll]
    exact answers_ok _
  | v :: vs, h => by
    rw [ordinaryAll, Bool.and_eq_true] at h
    rw [displayAll]
    exact (answers_display v h.1).bind fun _ _ => (answers_displayAll vs h.2).map _

theorem answers_displayEntries : ∀ es : List (Value × Value), ordinaryEntries es = true →
    (displayEntries es).Answers
  | [], _ => by
    rw [displayEntries]
    exact answers_ok _
  | (k, v) :: es, h => by
    simp only [ordinaryEntries, Bool.and_eq_true] at h
    have hrest (key : String) : Answers (do
        let value ← display v
        return (key ++ ": " ++ value) :: (← displayEntries es)) :=
      (answers_display v h.1.2).bind fun _ _ => (answers_displayEntries es h.2).map _
    rw [displayEntries]
    split
    · exact (answers_ok _).bind fun key _ => hrest key
    · exact (answers_display k h.1.1).bind fun key _ => hrest key

theorem answers_literal : ∀ v : Value, v.isOrdinary = true → v.literal.Answers
  | .number n, h => by
    rw [isOrdinary, Bool.and_eq_true] at h
    rw [literal]
    exact answers_literal_number h.2
  | .range p, h => by
    rw [isOrdinary] at h
    rw [literal]
    exact answers_literal_range h
  | .identifier i, h => by
    rw [isOrdinary] at h
    rw [literal]
    exact answers_identifierLiteral h
  | .list items, h | .tuple items, h | .deque items, h => by
    rw [isOrdinary] at h
    rw [literal]
    exact (answers_literalAll items h).map _
  | .map entries, h => by
    rw [isOrdinary] at h
    rw [literal]
    exact (answers_literalEntries entries h).map _
  | .just v, h | .left v, h | .right v, h => by
    rw [isOrdinary] at h
    rw [literal]
    exact (answers_display v h).map _
  | .bound f v, h => by
    rw [isOrdinary, Bool.and_eq_true] at h
    rw [literal]
    exact (answers_display f h.1).bind fun _ _ => (answers_literal v h.2).map _
  | .curried _ _ _ _ slots, h => by
    rw [isOrdinary] at h
    rw [literal]
    exact (answers_literalAll slots h).map _
  | .error _ f, h => by
    rw [isOrdinary] at h
    rw [literal]
    exact answers_literalFault f h
  | .helper _, _ => by
    unfold literal
    exact answers_ok _
  | .text _, _ | .pattern _, _ | .object .., _
  | .cls _, _ | .standard _, _ | .constant .., _ | .failing .., _ | .collecting .., _ | .null, _
  | .undefined, _ | .placeholder, _ | .bool _, _ | .decimal _, _ | .bytes _, _ | .moment _, _
  | .duration _, _ | .nothing, _ | .type .., _ | .constructor _, _ => by
    rw [literal]
    exact answers_ok _

theorem answers_literalAll : ∀ vs : List Value, ordinaryAll vs = true → (literalAll vs).Answers
  | [], _ => by
    rw [literalAll]
    exact answers_ok _
  | v :: vs, h => by
    rw [ordinaryAll, Bool.and_eq_true] at h
    rw [literalAll]
    exact (answers_literal v h.1).bind fun _ _ => (answers_literalAll vs h.2).map _

theorem answers_literalEntries : ∀ es : List (Value × Value), ordinaryEntries es = true →
    (literalEntries es).Answers
  | [], _ => by
    rw [literalEntries]
    exact answers_ok _
  | (k, v) :: es, h => by
    simp only [ordinaryEntries, Bool.and_eq_true] at h
    rw [literalEntries]
    exact (answers_literal k h.1.1).bind fun _ _ =>
      (answers_literal v h.1.2).bind fun _ _ => (answers_literalEntries es h.2).map _

theorem answers_literalFault : ∀ f : Fault Value, ordinaryFault f = true →
    (literalFault f).Answers
  | .made _ arguments, h => by
    rw [ordinaryFault] at h
    rw [literalFault]
    exact (answers_literalAll arguments h).map _
  | .invalidValue .., _ | .typeVariable .., _ | .typeClass .., _ | .arity .., _
  | .accessibility .., _ | .capability .., _ | .misuse _, _ => by
    rw [literalFault]
    exact answers_ok _
  | .basic cause, _ => by
    unfold literalFault
    split <;> first | exact answers_ok _ | (rename_i h; cases h)

end

/-! ## What is inside -/

/-- The number of an ordinary value can be turned into a binary64 number. -/
theorem isTractable_of_core {v : Value} {n : Number} (h : v.isOrdinary = true)
    (hn : v.core = number n) : n.isTractable = true := by
  unfold core at hn
  split at hn
  · next base =>
    cases base with
    | number m =>
      obtain rfl := number.inj hn
      simp only [isOrdinary, Bool.and_eq_true] at h
      exact h.2
    | _ => cases hn
  · subst hn
    rw [isOrdinary, Bool.and_eq_true] at h
    exact h.1

/-- What an ordinary object is besides is ordinary, if it is no number. -/
theorem isOrdinary_core {v : Value} (h : v.isOrdinary = true) (hv : ∀ n, v.core ≠ number n) :
    v.core.isOrdinary = true := by
  unfold core at hv ⊢
  split at hv
  · next base =>
    cases base with
    | number n => exact absurd rfl (hv n)
    | text s =>
      show (text s).isOrdinary = true
      rw [isOrdinary] <;> nofun
    | list items =>
      show (list items).isOrdinary = true
      simp only [isOrdinary, Bool.and_eq_true] at h
      rw [isOrdinary]
      exact h.2
  · exact h

/-- The elements of an ordinary value can be held at once. -/
theorem isHeld_of_isOrdinary {v : Value} (h : v.isOrdinary = true) : v.IsHeld := by
  intro p hp
  have hcore := isOrdinary_core h (by rw [hp]; nofun)
  rw [hp, isOrdinary] at hcore
  exact (isOrdinaryRange_iff.mp hcore).1

theorem isOrdinary_int {n : Int} (h : Number.isShortInteger n = true) :
    (int n).isOrdinary = true := by
  show (number (.int n)).isOrdinary = true
  rw [isOrdinary, Bool.and_eq_true]
  exact ⟨rfl, h⟩

/-- The parts of an identifier are ordinary if its version can be written. -/
theorem isOrdinary_of_mem_identifierItems {i : Identifier} {x : Value}
    (h : Number.isShortInteger i.version = true) (hx : x ∈ identifierItems i) :
    x.isOrdinary = true := by
  have htext (s : String) : (text s).isOrdinary = true := by rw [isOrdinary] <;> nofun
  unfold identifierItems at hx
  simp only [List.mem_cons, List.not_mem_nil, or_false] at hx
  rcases hx with rfl | rfl | rfl
  · cases i.space with
    | none => exact isOrdinary.eq_def null
    | some s => exact htext s
  · exact htext _
  · exact isOrdinary_int h

/-- The elements of an ordinary array are ordinary. -/
theorem isOrdinary_of_mem_sequence? {v x : Value} {items : List Value} (h : v.isOrdinary = true)
    (hitems : v.sequence? = some items) (hx : x ∈ items) : x.isOrdinary = true := by
  have hcore (hnumber : ∀ n, v.core ≠ number n) := isOrdinary_core h hnumber
  unfold sequence? at hitems
  split at hitems
  case h_1 vs heq | h_2 vs heq | h_4 vs heq =>
    obtain rfl := Option.some.inj hitems
    rw [heq, isOrdinary] at hcore
    exact ordinaryAll_iff.mp (hcore nofun) x hx
  case h_3 p heq =>
    obtain rfl := Option.some.inj hitems
    obtain ⟨n, hn, rfl⟩ := List.mem_map.mp hx
    rw [heq, isOrdinary] at hcore
    exact isOrdinary_int (isShortInteger_of_mem_elements (hcore nofun) hn)
  case h_5 i heq =>
    obtain rfl := Option.some.inj hitems
    rw [heq, isOrdinary] at hcore
    exact isOrdinary_of_mem_identifierItems (hcore nofun) hx
  case h_6 =>
    obtain rfl := Option.some.inj hitems
    obtain ⟨c, -, rfl⟩ := List.mem_map.mp hx
    rw [isOrdinary] <;> nofun
  case h_7 =>
    obtain rfl := Option.some.inj hitems
    obtain ⟨b, -, rfl⟩ := List.mem_map.mp hx
    have hbyte : (b.toNat : Int).natAbs ≤ max (0 : Int).natAbs (255 : Int).natAbs := by
      have := b.toNat_lt
      omega
    exact isOrdinary_int (Number.isShortInteger_of_between (by decide) (by decide) hbyte)
  case h_8 => cases hitems

/-- The values of an ordinary map are ordinary. -/
theorem isOrdinary_of_mem_entries {entries : List (Value × Value)} {e : Value × Value}
    (h : (map entries).isOrdinary = true) (he : e ∈ entries) : e.2.isOrdinary = true := by
  rw [isOrdinary] at h
  exact (ordinaryEntries_iff.mp h e he).2

/-- An ordinary object has what it declares, and what it has is ordinary. -/
theorem attributes_of_isOrdinary {shape : Shape} {attrs : List (String × Value)}
    {base : Option (Base Value)} (h : (object shape attrs base).isOrdinary = true) :
    hasDeclared shape attrs = true ∧ ordinaryContents attrs = true := by
  rw [isOrdinary.eq_def, Bool.and_eq_true, Bool.and_eq_true] at h
  exact h.1

/-- The content of an ordinary object is ordinary. -/
theorem isOrdinary_of_lookup {attrs : List (String × Value)} {v : Value}
    (h : ordinaryContents attrs = true) (hv : attrs.lookup "value" = some v) :
    v.isOrdinary = true := by
  induction attrs with
  | nil => cases hv
  | cons attr attrs ih =>
    obtain ⟨name, w⟩ := attr
    simp only [ordinaryContents, Bool.and_eq_true, Bool.or_eq_true, bne_iff_ne] at h
    rw [List.lookup_cons] at hv
    split at hv
    · rename_i hname
      obtain rfl := Option.some.inj hv
      exact h.1.resolve_left fun hne => hne (beq_iff_eq.mp hname).symm
    · exact ih h.2 hv

end Value

end CheckedCurry
