import CheckedCurry.Proofs.Curried.Admission
import CheckedCurry.Proofs.Signature.Gathering
import CheckedCurry.Proofs.Ty.Unifying

/-!
# What the values of one type variable share

Values that are bound to one type variable must have one unifier: the identifier that their class
declares or, without one, the name of their kind.  Identifiers and the names of kinds are texts
alike, and a class may declare any text.  So values with one unifier are of one kind, and declare
one identifier if any, unless a class declares the name of a kind as its identifier.

- `Value.SameSort`, `Value.TakesNameOf`: one kind and one identifier; the name of a kind as an
  identifier.  `Value.Concur`: one of these.
- `Value.unifier_eq_iff_concur`: what it means that two values have one unifier.
- `Signature.BindsIn`: what is bound to a type variable in values for all parameters.
- `bound_values_concur`: the values of a variable, in every chain of checked calls that comes to the
  implementation; `number_concurs_with_tagged` is a chain in which their kinds differ.
-/

namespace CheckedCurry

namespace Value

variable {v w : Value}

/-! ## One unifier -/

/-- Two values are of one kind, and declare one identifier or none. -/
structure SameSort (v w : Value) : Prop where
  kind : v.kind = w.kind
  identifier : v.identifier? = w.identifier?

/-- The class of a value declares, as its identifier, the name of the kind of a value that has no
identifier. -/
structure TakesNameOf (v w : Value) : Prop where
  declares : v.identifier? = some w.kind.name
  plain : w.identifier? = none

/-- One of two values is of the sort of the other, or takes the name of its kind. -/
def Concur (v w : Value) : Prop := v.SameSort w ∨ v.TakesNameOf w ∨ w.TakesNameOf v

theorem kind_of_identifier {s : String} (h : v.identifier? = some s) : v.kind = .tagged := by
  unfold kind
  rw [h]

theorem TakesNameOf.unifier_eq (h : v.TakesNameOf w) : v.unifier = w.unifier := by
  rw [unifier_of_identifier? h.declares, unifier_of_no_identifier h.plain]

theorem SameSort.unifier_eq (h : v.SameSort w) : v.unifier = w.unifier := by
  rw [unifier, unifier, h.identifier, h.kind]

/-- **Two values have one unifier** if they are of one sort, or if one of them takes the name of the
kind of the other, and in no other case. -/
theorem unifier_eq_iff_concur : v.unifier = w.unifier ↔ v.Concur w := by
  constructor
  · intro h
    cases hv : v.identifier? with
    | none =>
      rw [unifier_of_no_identifier hv] at h
      cases hw : w.identifier? with
      | none =>
        rw [unifier_of_no_identifier hw] at h
        exact .inl ⟨Kind.name_injective h, hv.trans hw.symm⟩
      | some s =>
        rw [unifier_of_identifier? hw] at h
        exact .inr (.inr ⟨by rw [hw, h], hv⟩)
    | some s =>
      rw [unifier_of_identifier? hv] at h
      cases hw : w.identifier? with
      | none =>
        rw [unifier_of_no_identifier hw] at h
        exact .inr (.inl ⟨by rw [hv, h], hw⟩)
      | some s' =>
        rw [unifier_of_identifier? hw] at h
        refine .inl ⟨?_, by rw [hv, hw, h]⟩
        rw [kind_of_identifier hv, kind_of_identifier hw]
  · rintro (h | h | h)
    · exact h.unifier_eq
    · exact h.unifier_eq
    · exact h.unifier_eq.symm

end Value

namespace Ty

/-- What a type reaches at a variable has the property that the variable is read as. -/
theorem Fits.of_reaches [Host] {reading : TypeVar → Value → Prop} {t : Ty} {v x : Value}
    {place : Place} {a : TypeVar} (h : t.Fits reading v) (hreach : t.Reaches v place (.var a) x) :
    reading a x := by
  obtain ⟨hmisfit, bs, hbs, hall⟩ := (fits_iff reading t v).mp h
  obtain ⟨bs', hbs', occurrences, rfl, -, hmem⟩ := exists_listed_bindings t v hmisfit
  obtain rfl := Except.ok.inj (hbs.symm.trans hbs')
  -- the place is one of those that the bindings list
  have hlisted : (place, (⟨a, place.path, x⟩ : Binding)) ∈ occurrences :=
    (hmem _ _).mpr ⟨rfl, hreach⟩
  exact hall _ (List.mem_map_of_mem hlisted)

end Ty

namespace Signature

/-! ## What is bound -/

/-- A value is bound to a variable in values for the parameters, or for the parameters and the
result. -/
def BindsIn [Host] (s : Signature) (vs : List Value) (o : Occurrence) : Prop :=
  ∃ t v, s.types[o.slot]? = some t ∧ vs[o.slot]? = some v ∧
    t.Reaches v o.place (.var o.var) o.value

variable {s : Signature} {vs : List Value} {o o' : Occurrence}

/-- What is bound in values that an assignment admits has the unifier that it assigns. -/
theorem BindsIn.unifier_eq [Host] {σ : TypeVar → String}
    (h : ∀ (i : Nat) (t : Ty) (v : Value), s.types[i]? = some t → vs[i]? = some v → s.Admits σ t v)
    (ho : s.BindsIn vs o) : o.value.unifier = σ o.var := by
  obtain ⟨t, v, ht, hv, hreach⟩ := ho
  exact (h o.slot t v ht hv).member.of_reaches hreach

/-- Values that are bound to one variable concur. -/
theorem BindsIn.concur [Host] {σ : TypeVar → String}
    (h : ∀ (i : Nat) (t : Ty) (v : Value), s.types[i]? = some t → vs[i]? = some v → s.Admits σ t v)
    (ho : s.BindsIn vs o) (ho' : s.BindsIn vs o') (hvar : o.var = o'.var) :
    o.value.Concur o'.value := by
  rw [← Value.unifier_eq_iff_concur, ho.unifier_eq h, ho'.unifier_eq h, hvar]

/-- Values for all parameters are admitted together with a result. -/
theorem admits_concat [Host] {σ : TypeVar → String} {r : Value} (hlen : vs.length = s.arity)
    (hvs : ∀ (i : Nat) (t : Ty) (v : Value), s.types[i]? = some t → vs[i]? = some v → s.Admits σ t v)
    (hr : s.Admits σ s.returns r) (i : Nat) (t : Ty) (v : Value) (ht : s.types[i]? = some t)
    (hv : (vs ++ [r])[i]? = some v) : s.Admits σ t v := by
  rcases Nat.lt_or_ge i vs.length with hlt | hge
  · rw [List.getElem?_append_left hlt] at hv
    exact hvs i t v ht hv
  · rw [List.getElem?_append_right hge] at hv
    -- the only value after the others is the result
    obtain ⟨hlast, -⟩ := List.getElem?_eq_some_iff.mp hv
    obtain rfl : i = s.arity := by
      rw [List.length_singleton] at hlast
      omega
    obtain rfl := Option.some.inj (s.types_arity.symm.trans ht)
    rw [hlen, Nat.sub_self] at hv
    obtain rfl := Option.some.inj hv
    exact hr

end Signature

namespace Curried

open Run (calls complete step)

/-! ## Chains that come to the implementation -/

/-- **The values of one type variable.**  Two values have one unifier if and only if they concur:
they are of one sort, or one of them takes the name of the kind of the other.

Let calls of a checked function, each on the answer of the one before, fill all slots, so that the
implementation is called with what is in them.  Then values that are bound to one type variable
concur.  If the chain answers, this is so for the values bound in the answer too. -/
theorem bound_values_concur [Host] (s : Signature) (f : Value) (environment : List Ty) :
    let c := fresh s f (some environment)
    (∀ v w : Value, v.unifier = w.unifier ↔ v.Concur w) ∧
    ∀ (groups : List (List Value)) (arguments slots : List Value), c.LeaveOpen groups →
      c.supplyAll? (groups ++ [arguments]) = .ok slots → isSaturated slots = true →
      (∀ (mark : Nat) (m : Machine) (call : Call),
        calls (step call) (c.toValue mark) (groups ++ [arguments]) m =
          complete call c slots (Machine.advance^[groups.length] m)) ∧
      (∀ o o', s.BindsIn slots o → s.BindsIn slots o' → o.var = o'.var → o.value.Concur o'.value) ∧
      ∀ (mark : Nat) (m m' : Machine) (call : Call) (r : Value),
        calls (step call) (c.toValue mark) (groups ++ [arguments]) m = (.ok r, m') →
        ∀ o o', s.BindsIn (slots ++ [r]) o → s.BindsIn (slots ++ [r]) o' → o.var = o'.var →
          o.value.Concur o'.value := by
  intro c
  refine ⟨fun v w => Value.unifier_eq_iff_concur, ?_⟩
  intro groups arguments slots hopen hsupplied hfull
  have hcalls (mark : Nat) (m : Machine) (call : Call) :=
    Run.calls_of_saturated hopen hsupplied hfull mark m call
  obtain ⟨hlen, hcoherent⟩ := coherent_of_supplyAll? (c := c) rfl List.length_replicate
    (Signature.coherent_placeholders s _) hsupplied
  have hclosed : ∀ v ∈ slots, v.isOpen = false := isSaturated_iff_closed.mp hfull
  have hall {σ : TypeVar → String} (hσ : s.AdmitsFilled σ slots) (i : Nat) (t : Ty) (v : Value)
      (ht : s.types[i]? = some t) (hv : slots[i]? = some v) : s.Admits σ t v :=
    hσ i t v ht hv (hclosed v (List.mem_of_getElem? hv))
  refine ⟨hcalls, fun o o' ho ho' hvar => ?_, fun mark m m' call r hrun o o' ho ho' hvar => ?_⟩
  · obtain ⟨σ, hσ⟩ := hcoherent
    exact ho.concur (hall hσ) ho' hvar
  · -- the check of the answer has passed, so one assignment admits it with the arguments
    rw [hcalls] at hrun
    obtain ⟨σ, hσ, hresult⟩ :=
      (checkResult_eq_ok_iff (c := c) rfl hlen hcoherent).mp (Run.eq_ok_of_complete hrun).2
    exact ho.concur (Signature.admits_concat hlen (hall hσ) hresult) ho' hvar

/-- The second of two slots is filled first.  The first argument and the last element of the second
one are bound to one variable. -/
theorem bound_values_concur_out_of_order : letI : Host := .bare
    let a : TypeVar := ⟨"a", .given 0⟩
    let s : Signature := ⟨"f", [.var a, .array (.var a)], .var a, []⟩
    let f := Value.constant 0 (.int 5) (.fixed 2)
    let c := fresh s f (some Ty.environment)
    let groups := [[.placeholder, .list [.int 2, .int 3]]]
    let slots := [.int 1, .list [.int 2, .int 3]]
    c.LeaveOpen groups ∧ c.supplyAll? (groups ++ [[.int 1]]) = .ok slots ∧
    isSaturated slots = true ∧
    s.BindsIn slots ⟨0, [], a, .int 1⟩ ∧ s.BindsIn slots ⟨1, [(0, 1)], a, .int 3⟩ ∧
    (Value.int 1).Concur (.int 3) ∧ (Value.int 3).Concur (.int 5) := by
  let _ : Host := .bare
  intro a s f c groups slots
  have hopen : c.LeaveOpen groups := leaveOpen_singleton rfl
  have hsupplied : c.supplyAll? (groups ++ [[.int 1]]) = .ok slots := by rfl
  have hfirst : s.BindsIn slots ⟨0, [], a, .int 1⟩ := ⟨.var a, .int 1, rfl, rfl, .here _ _⟩
  have hlast : s.BindsIn slots ⟨1, [(0, 1)], a, .int 3⟩ :=
    ⟨.array (.var a), .list [.int 2, .int 3], rfl, rfl,
      .inside rfl rfl rfl rfl rfl rfl (.here _ _)⟩
  obtain ⟨-, hchains⟩ := bound_values_concur s f Ty.environment
  obtain ⟨-, hslots, hanswer⟩ := hchains groups [.int 1] slots hopen hsupplied rfl
  have hrun : calls (step Run.call) (c.toValue 0) (groups ++ [[.int 1]]) (.start none) =
      (.ok (.int 5), .advance (.start none)) := by rfl
  refine ⟨hopen, hsupplied, rfl, hfirst, hlast, hslots _ _ hfirst hlast rfl, ?_⟩
  exact hanswer 0 _ _ _ _ hrun ⟨1, [(0, 1)], a, .int 3⟩ ⟨2, [], a, .int 5⟩
    ⟨.array (.var a), .list [.int 2, .int 3], rfl, rfl,
      .inside rfl rfl rfl rfl rfl rfl (.here _ _)⟩ ⟨.var a, .int 5, rfl, rfl, .here _ _⟩ rfl

/-- A number and an object whose class declares the identifier `Number` are bound to one variable,
and the function is called with them.  They are of different kinds. -/
theorem number_concurs_with_tagged : letI : Host := .bare
    let a : TypeVar := ⟨"a", .given 0⟩
    let s : Signature := ⟨"f", [.var a, .var a], .var a, []⟩
    let n := Value.int 5
    let v := Value.object ⟨1000, "Tagged Number", .text "Number", "<Number>", none, false⟩ [] none
    let c := fresh s (.helper .first) (some Ty.environment)
    c.supplyAll? [[n, v]] = .ok [n, v] ∧ isSaturated [n, v] = true ∧
    calls (step Run.call) (c.toValue 0) [[n, v]] (.start none) = (.ok n, .start none) ∧
    s.BindsIn [n, v] ⟨0, [], a, n⟩ ∧ s.BindsIn [n, v] ⟨1, [], a, v⟩ ∧
    n.unifier = v.unifier ∧ n.kind = .number ∧ v.kind = .tagged := by
  let _ : Host := .bare
  intro a s n v c
  exact ⟨rfl, rfl, rfl, ⟨.var a, n, rfl, rfl, .here _ _⟩, ⟨.var a, v, rfl, rfl, .here _ _⟩, rfl, rfl,
    rfl⟩

end Curried

end CheckedCurry
