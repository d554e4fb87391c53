import CheckedCurry.Proofs.Ty.Fitting
import CheckedCurry.Proofs.Value.Genuine

/-!
# Values that fit the standard types

- `fits_ofKind`, `fits_array`, `fits_stringMap`, `fits_maybe`, `fits_left`, `fits_right`: what it
  means to fit a standard type, without tests and extractions.
- `Ty.vars`, `Fits.congr`: only the variables of a type matter to what fits it.
-/

namespace CheckedCurry.Ty

variable [Host]

variable {P Q : TypeVar → Value → Prop} {t u : Ty} {v w : Value}

/-! ## Types without parameters -/

theorem fits_var (a : TypeVar) : (var a).Fits P v ↔ P a v := by
  rw [Fits]

theorem fits_nullary (n : Nullary) : (nullary n).Fits P v ↔ n.test.holds v = .ok true := by
  unfold Fits
  exact Iff.rfl

/-- A value fits the accessible values if it is not null. -/
theorem fits_accessible {name : String} : (accessible name).Fits P v ↔ v.isNullish = false := by
  show Except.ok (!v.isNullish) = .ok true ↔ _
  simp

theorem fits_representative (p : Option Ty) :
    (representative p).Fits P v ↔ v.isRepresentative = true := by
  show Except.ok v.isRepresentative = .ok true ↔ _
  simp

/-- A value fits the type of a kind if and only if it has the kind. -/
theorem fits_ofKind (k : Kind) : (ofKind k).Fits P v ↔ v.kind = k := by
  rw [ofKind, named, fits_nullary]
  show Except.ok (decide (v.kind = k)) = .ok true ↔ v.kind = k
  simp

theorem fits_string : string.Fits P v ↔ v.kind = .string := fits_ofKind .string

theorem fits_boolean : boolean.Fits P v ↔ v.kind = .boolean := fits_ofKind .boolean

theorem fits_text (s : String) : string.Fits P (.text s) := fits_string.mpr rfl

theorem fits_bool (b : Bool) : boolean.Fits P (.bool b) := fits_boolean.mpr rfl

/-- An integer number fits the type of integers. -/
theorem fits_int (n : Int) : integer.Fits P (.int n) := by
  rw [integer, named, fits_nullary]
  show Attempt.ofNumber (Number.int n).isInteger = .ok true
  have hint : (Number.int n).isInteger = .ok true := rfl
  rw [hint]
  rfl

/-- A value fits the type of numbers if and only if it is one, and not "not a number". -/
theorem fits_validNumber : validNumber.Fits P v ↔
    v.kind = .number ∧ ∃ n, v.core = .number n ∧ n.isValid = .ok true := by
  rw [validNumber, named, fits_nullary]
  show Test.onNumber Number.isValid v = .ok true ↔ _
  unfold Test.onNumber Value.numberOfKind?
  by_cases hkind : v.kind = .number
  · obtain ⟨n, hn⟩ := Value.exists_number_of_kind hkind
    rw [if_pos hkind, hn]
    simp only [hkind, true_and, Value.number.injEq, exists_eq_left']
    cases n.isValid <;> simp [Attempt.ofNumber, Attempt.fail]
  · simp [hkind]

/-! ## Types with parameters -/

/-- A value fits a type of one parameter if it passes the test and all that is inside fits. -/
theorem fits_unary {c : Constructor} {e : Extract} (hc : c.extracts = [e]) :
    (applied c [t]).Fits P v ↔ c.test.holds v = .ok true ∧ ∃ source items,
      e.source v = .ok source ∧ source.elements = .ok items ∧ ∀ w ∈ items, t.Fits P w := by
  rw [Fits]
  refine and_congr_right fun _ => ?_
  rw [sources, hc]
  simp only [List.mapM_cons, List.mapM_nil, bind_eq_ok]
  constructor
  -- the values that are looked at are those of the one extractor
  · rintro ⟨_, ⟨source, hsource, _, hnil, hlist⟩, hinside⟩
    obtain rfl := Except.ok.inj hnil
    obtain rfl := Except.ok.inj hlist
    rw [FitsInside] at hinside
    obtain ⟨⟨items, hitems, hall⟩, -⟩ := hinside
    exact ⟨source, items, hsource, hitems, hall⟩
  · rintro ⟨source, items, hsource, hitems, hall⟩
    refine ⟨[source], ⟨source, hsource, [], rfl, rfl⟩, ?_⟩
    rw [FitsInside, FitsInside]
    · exact ⟨⟨items, hitems, hall⟩, trivial⟩
    · simp

/-- The same for a type of two parameters. -/
theorem fits_binary {c : Constructor} {e f : Extract} (hc : c.extracts = [e, f]) :
    (applied c [t, u]).Fits P v ↔ c.test.holds v = .ok true ∧
      (∃ source items, e.source v = .ok source ∧ source.elements = .ok items ∧
        ∀ w ∈ items, t.Fits P w) ∧
      ∃ source items, f.source v = .ok source ∧ source.elements = .ok items ∧
        ∀ w ∈ items, u.Fits P w := by
  rw [Fits]
  refine and_congr_right fun _ => ?_
  rw [sources, hc]
  simp only [List.mapM_cons, List.mapM_nil, bind_eq_ok]
  constructor
  · rintro ⟨_, ⟨first, hfirst, _, ⟨second, hsecond, _, hnil, hsnd⟩, hfst⟩, hinside⟩
    obtain rfl := Except.ok.inj hnil
    obtain rfl := Except.ok.inj hsnd
    obtain rfl := Except.ok.inj hfst
    rw [FitsInside, FitsInside] at hinside
    obtain ⟨⟨xs, hxs, hall⟩, ⟨ys, hys, hall'⟩, -⟩ := hinside
    exact ⟨⟨first, xs, hfirst, hxs, hall⟩, second, ys, hsecond, hys, hall'⟩
  · rintro ⟨⟨first, xs, hfirst, hxs, hall⟩, second, ys, hsecond, hys, hall'⟩
    refine ⟨[first, second], ⟨first, hfirst, [second], ⟨second, hsecond, [], rfl, rfl⟩, rfl⟩, ?_⟩
    rw [FitsInside, FitsInside, FitsInside]
    · exact ⟨⟨xs, hxs, hall⟩, ⟨ys, hys, hall'⟩, trivial⟩
    · simp

/-- A value fits the type of arrays if and only if it is one and its elements fit. -/
theorem fits_array : (array t).Fits P v ↔
    v.kind = .array ∧ ∃ items, v.elements = .ok items ∧ ∀ w ∈ items, t.Fits P w := by
  rw [array, fits_unary (e := .items) rfl]
  show Except.ok (decide (v.kind = .array)) = .ok true ∧ _ ↔ _
  simp [Extract.source]

theorem fits_list {items : List Value} :
    (array t).Fits P (.list items) ↔ ∀ w ∈ items, t.Fits P w := by
  rw [fits_array]
  simp [show (Value.list items).kind = .array from rfl]

/-- A value fits the type of maps if and only if it is a map of strings whose values fit. -/
theorem fits_stringMap : (stringMap t).Fits P v ↔ ∃ entries, v = .map entries ∧
    (∀ e ∈ entries, e.1.isText = true) ∧ ∀ e ∈ entries, t.Fits P e.2 := by
  rw [stringMap, fits_unary (e := .entries) rfl]
  constructor
  · rintro ⟨htest, source, items, hsource, hitems, hall⟩
    cases v with
    | map entries =>
      obtain rfl := Except.ok.inj hsource
      obtain rfl := Except.ok.inj hitems
      have hkeys := List.all_eq_true.mp (Except.ok.inj htest)
      exact ⟨entries, rfl, hkeys, List.forall_mem_map.mp hall⟩
    | _ => cases htest
  · rintro ⟨entries, rfl, hkeys, hall⟩
    have htest : entries.all (fun e => e.1.isText) = true := List.all_eq_true.mpr hkeys
    exact ⟨congrArg Except.ok htest, _, _, rfl, rfl, List.forall_mem_map.mpr hall⟩

/-! ## Optional values, failures and successes -/

theorem declares_iff {identifier : String} :
    (Test.declares identifier).holds v = .ok true ↔ v.identifier? = some identifier := by
  show Except.ok (v.identifier? == some identifier) = .ok true ↔ _
  simp

theorem fits_nothing : (maybe t).Fits P .nothing :=
  (fits_unary (e := .present) rfl).mpr ⟨declares_iff.mpr rfl, .list [], [], rfl, rfl, by simp⟩

/-- A present value fits if its content does. -/
theorem fits_just : (maybe t).Fits P (.just w) ↔ t.Fits P w := by
  rw [maybe, fits_unary (e := .present) rfl]
  have hsource : Extract.present.source (.just w) = .ok (.list [w]) := rfl
  rw [hsource]
  constructor
  · rintro ⟨-, source, items, hsource, hitems, hall⟩
    obtain rfl := Except.ok.inj hsource
    obtain rfl := Except.ok.inj hitems
    exact hall w (List.mem_singleton_self w)
  · intro h
    exact ⟨declares_iff.mpr rfl, _, _, rfl, rfl, List.forall_mem_singleton.mpr h⟩

/-- A genuine value that fits a type of optional values is one. -/
theorem fits_maybe (h : v.Genuine) (hv : (maybe t).Fits P v) :
    v = .nothing ∨ ∃ w, v = .just w ∧ t.Fits P w := by
  have htest := ((fits_unary (e := .present) rfl).mp hv).1
  rcases h.maybe (declares_iff.mp htest) with rfl | ⟨w, rfl⟩
  · exact .inl rfl
  · exact .inr ⟨w, rfl, fits_just.mp hv⟩

/-- A failure fits if its content does. -/
theorem fits_left (h : t.Fits P w) : (either t u).Fits P (.left w) :=
  (fits_binary (e := .leftValue) (f := .rightValue) rfl).mpr
    ⟨declares_iff.mpr rfl, ⟨.list [w], [w], rfl, rfl, List.forall_mem_singleton.mpr h⟩,
      .list [], [], rfl, rfl, List.forall_mem_nil _⟩

/-- A success fits if its content does. -/
theorem fits_right (h : u.Fits P w) : (either t u).Fits P (.right w) :=
  (fits_binary (e := .leftValue) (f := .rightValue) rfl).mpr
    ⟨declares_iff.mpr rfl, ⟨.list [], [], rfl, rfl, List.forall_mem_nil _⟩,
      .list [w], [w], rfl, rfl, List.forall_mem_singleton.mpr h⟩

/-- A genuine value that fits a type of failures and successes is one of them. -/
theorem fits_either (h : v.Genuine) (hv : (either t u).Fits P v) :
    ∃ w, v = .left w ∨ v = .right w :=
  h.either (declares_iff.mp
    ((fits_binary (e := .leftValue) (f := .rightValue) rfl).mp hv).1)

/-! ## The variables of a type -/

mutual

/-- The variables of a type. -/
def vars : Ty → List TypeVar
  | var a => [a]
  | applied _ params => varsOfAll params
  | _ => []

/-- The variables of types. -/
def varsOfAll : List Ty → List TypeVar
  | [] => []
  | t :: ts => t.vars ++ varsOfAll ts

end

mutual

/-- What fits a type under a reading fits it under another one that asks no more of the variables of
the type. -/
theorem Fits.congr : ∀ (t : Ty) {v : Value}, (∀ a ∈ t.vars, ∀ w, P a w → Q a w) →
    t.Fits P v → t.Fits Q v
  | var a, v, h, hv => by
    rw [fits_var] at hv ⊢
    exact h a (by simp [vars]) v hv
  | applied c params, v, h, hv => by
    rw [Fits] at hv ⊢
    obtain ⟨htest, sources, hsources, hinside⟩ := hv
    rw [vars] at h
    exact ⟨htest, sources, hsources, FitsInside.congr params h hinside⟩
  | any _, v, _, hv | accessible _, v, _, hv | representative _, v, _, hv | nullary _, v, _, hv => by
    unfold Fits at hv ⊢
    exact hv

theorem FitsInside.congr : ∀ (params : List Ty) {sources : List Value},
    (∀ a ∈ varsOfAll params, ∀ w, P a w → Q a w) → FitsInside P params sources →
      FitsInside Q params sources
  | p :: params, source :: sources, h, hinside => by
    rw [varsOfAll, List.forall_mem_append] at h
    rw [FitsInside] at hinside ⊢
    obtain ⟨⟨items, hitems, hall⟩, hrest⟩ := hinside
    exact ⟨⟨items, hitems, fun w hw => Fits.congr p h.1 (hall w hw)⟩,
      FitsInside.congr params h.2 hrest⟩
  | [], _, _, _ | _ :: _, [], _, _ => by
    unfold FitsInside
    trivial

end

end CheckedCurry.Ty
