import CheckedCurry.Proofs.Standard.Calls
import CheckedCurry.Proofs.Standard.Soundness

/-!
# Reading along names

Values are read by one name or along several, one after the other.  A step asks first whether there
is anything to read from, so that a null value ends the search unless it stands at the end of it.  A
search along two lists of names is therefore a search along the first one and then, from what it has
found, along the second one.

- `Value.exists_property`: every value has something under every name, if only the undefined value.
- `Value.follow_append`: searches one after the other, by induction on the names.
- `Library.call_of_supplied`: a call that reads is the search itself.
- `Library.gets_compositional`: the law of calls; `gets_placeholder`: where the law does not hold.
-/

namespace CheckedCurry

variable [Host]

namespace Value

variable {t v y name : Value} {p q : List Value}

/-! ## Searches -/

omit [Host] in
/-- A string is looked up by its text, whatever else it is. -/
theorem exists_key_of_kind (h : name.kind = .string) : ∃ k, name.key = .ok k := by
  obtain ⟨s, hs⟩ := exists_text_of_kind h
  cases name with
  | text => exact ⟨_, rfl⟩
  | object shape attrs base =>
    cases base with
    | none => cases hs
    | some base =>
      cases base with
      | text t => exact ⟨_, rfl⟩
      | _ => cases hs
  | _ => cases hs

/-- Every value has something under every name. -/
theorem exists_property (v : Value) (h : name.kind = .string) : ∃ w, v.property name = .ok w := by
  obtain ⟨s, hs⟩ := exists_text_of_kind h
  unfold property
  split
  · obtain ⟨k, hk⟩ := exists_key_of_kind h
    rw [hk]
    exact ⟨_, rfl⟩
  · rw [hs]
    exact ⟨_, rfl⟩

/-- A search along names comes to an end. -/
theorem answers_follow (hnames : ∀ name ∈ p, name.kind = .string) (v : Value) :
    (follow p v).Answers := by
  induction p generalizing v with
  | nil => exact ⟨_, rfl⟩
  | cons name p ih =>
    obtain ⟨hname, hrest⟩ := List.forall_mem_cons.mp hnames
    unfold follow
    split
    · exact ⟨_, rfl⟩
    · obtain ⟨w, hw⟩ := exists_property v hname
      rw [hw]
      exact ih hrest w

/-- **A search along names and then along others** goes on from what it has found, if anything. -/
theorem follow_append {answer : Option Value} (h : follow p v = .ok answer) (q : List Value) :
    follow (p ++ q) v = answer.elim (.ok none) (follow q) := by
  induction p generalizing v with
  | nil =>
    obtain rfl := Except.ok.inj h
    rfl
  | cons name p ih =>
    show follow (name :: (p ++ q)) v = _
    unfold follow at h ⊢
    by_cases hv : v.isNullish = true
    · rw [if_pos hv] at h ⊢
      obtain rfl := Except.ok.inj h
      rfl
    · rw [if_neg hv] at h ⊢
      obtain ⟨w, hw, hrest⟩ := bind_eq_ok.mp h
      rw [hw]
      exact ih hrest

/-- Nothing is found behind a null value. -/
theorem follow_of_isNullish (hq : q ≠ []) (hy : y.isNullish = true) : follow q y = .ok none := by
  cases q with
  | nil => exact absurd rfl hq
  | cons name q => exact if_pos hy

/-- What is read is a matter of what is found. -/
theorem gets_congr (h : follow p v = follow q y) (t : Value) :
    gets t (.list p) v = gets t (.list q) y := by
  show (follow p v >>= _) = follow q y >>= _
  rw [h]

/-- A search that leads nowhere finds nothing. -/
theorem gets_of_none (h : follow p v = .ok none) (t : Value) : gets t (.list p) v = .ok nothing := by
  show (follow p v >>= _) = _
  rw [h]
  rfl

/-- What is found at the end is present if it is admitted. -/
theorem gets_of_some {passes : Bool} (h : follow p v = .ok (some y))
    (ht : t.admits y = .ok passes) : gets t (.list p) v = .ok (presentIf passes y) := by
  show (follow p v >>= _) = _
  rw [h]
  show (do return presentIf (← t.admits y) y) = _
  rw [ht]
  rfl

/-- One name is read as it is. -/
theorem gets_singleton (t : Value) (hname : name.kind = .string) (hv : v.isNullish = false) :
    gets t (.list [name]) v = get t name v := by
  obtain ⟨w, hw⟩ := exists_property v hname
  have hfollow : follow [name] v = .ok (some w) := by
    unfold follow
    rw [hv, hw]
    rfl
  show (follow [name] v >>= _) = _
  rw [hfollow, get, hw]
  rfl

end Value

namespace Library

open Standard

variable {l : Library} {s : Standard} {t x y name : Value} {p q vs : List Value}

/-! ## Calls -/

/-- A call that supplies what a program may read is not changed by checks that its arguments pass. -/
theorem call_of_supplied (hs : s ∈ supplied) (hlen : vs.length = s.signature.arity)
    (hvs : ∀ v ∈ vs, v.isOpen = false)
    (hadmits : l.isChecked = true → ∃ σ, s.signature.AdmitsAll σ vs) {x : Attempt Value}
    (hrun : ∀ (call : Call) m, s.run call vs m = (x, m)) (m : Machine) :
    Run.call (l.function s) vs m = (x, m) := by
  cases hchecked : l.isChecked with
  | false => exact call_unchecked hchecked hlen hvs fun call => hrun call m
  | true =>
    obtain ⟨σ, hσ⟩ := hadmits hchecked
    cases x with
    | error f => exact call_eq_error hlen hvs hσ fun call => hrun call m
    | ok r =>
      -- what is found is admitted with the arguments, since its type is a variable of its own
      obtain ⟨σ', hσ', hr⟩ := exists_admits_of_supplied hs hlen hσ (hrun Run.call m)
      exact call_eq_ok hlen hvs hσ' hr fun call => hrun call m

/-- A representative and a value from which a library reads. -/
structure Readable (l : Library) (t x : Value) : Prop where
  representative_closed : t.isOpen = false
  value_closed : x.isOpen = false
  checked : l.isChecked = true → t.isRepresentative = true ∧ x.isNullish = false

/-- A call with names answers what the search along them comes to. -/
theorem call_gets (h : l.Readable t x) (hnames : ∀ name ∈ p, name.kind = .string)
    {found : Attempt Value} (hfound : Value.gets t (.list p) x = found) (m : Machine) :
    Run.call (l.function gets) [t, .list p, x] m = (found, m) := by
  rw [← hfound]
  refine call_of_supplied (by decide) rfl ?_ (fun hchecked => ⟨fun _ => "", ?_⟩)
    (fun call m => rfl) m
  · have hlist : (Value.list p).isOpen = false := rfl
    simp [h.representative_closed, h.value_closed, hlist]
  · obtain ⟨ht, hx⟩ := h.checked hchecked
    exact admitsAll_of_fitAll (.cons ((Ty.fits_representative none).mpr ht)
      (.cons (Ty.fits_list.mpr fun name hname => Ty.fits_string.mpr (hnames name hname))
        (.cons (Ty.fits_accessible.mpr hx) .nil)))

/-- A call with one name answers what is read under it. -/
theorem call_get (h : l.Readable t x) (hname : name.kind = .string)
    (hclosed : name.isOpen = false) (m : Machine) :
    Run.call (l.function get) [t, name, x] m = (Value.get t name x, m) := by
  refine call_of_supplied (by decide) rfl ?_ (fun hchecked => ⟨fun _ => "", ?_⟩)
    (fun call m => rfl) m
  · simp [h.representative_closed, h.value_closed, hclosed]
  · obtain ⟨ht, hx⟩ := h.checked hchecked
    exact admitsAll_of_fitAll (.cons ((Ty.fits_representative none).mpr ht)
      (.cons (Ty.fits_string.mpr hname) (.cons (Ty.fits_accessible.mpr hx) .nil)))

/-- **Reading is compositional.**  Let a library read along some names and then along others, neither
from a placeholder nor for one; a library that checks takes a type and no null value.

What is found along the first names says what is found along all: nothing if it is nothing; if no
names are left, the value that is found, if the representative admits it; nothing if a null value is
found too early; and otherwise, unless it is a placeholder, what is found from it along the other
names.  One name is read as it is.  If the representative can be tested on what is found then a call
answers, whatever is missing on the way. -/
theorem gets_compositional (h : l.Readable t x) (hnames : ∀ name ∈ p ++ q, name.kind = .string)
    (m : Machine) :
    let any : Value := .type none Ty.anything
    let reads := fun t names x => Run.call (l.function gets) [t, .list names, x] m
    ((reads any p x = (.ok .nothing, m) ∧ reads t (p ++ q) x = (.ok .nothing, m)) ∨
      ∃ y, reads any p x = (.ok (.just y), m) ∧
        (q = [] → ∀ passes, t.admits y = .ok passes →
          reads t (p ++ q) x = (.ok (Value.presentIf passes y), m)) ∧
        (q ≠ [] → y.isNullish = true → reads t (p ++ q) x = (.ok .nothing, m)) ∧
        (q ≠ [] → y.isNullish = false → y.isOpen = false →
          reads t (p ++ q) x = reads t q y)) ∧
    (∀ name, name.kind = .string → name.isOpen = false → x.isNullish = false →
      reads t [name] x = Run.call (l.function get) [t, name, x] m) ∧
    ((∀ y, reads any (p ++ q) x = (.ok (.just y), m) → (t.admits y).Answers) →
      ∃ r, reads t (p ++ q) x = (.ok r, m) ∧ (r = .nothing ∨ ∃ y, r = .just y)) := by
  intro any reads
  have hp : ∀ name ∈ p, name.kind = .string := fun name hname => hnames name (by simp [hname])
  have hq : ∀ name ∈ q, name.kind = .string := fun name hname => hnames name (by simp [hname])
  have hadmits (y : Value) : any.admits y = .ok true := rfl
  have hany : l.Readable any x := ⟨rfl, h.value_closed, fun hl => ⟨rfl, (h.checked hl).2⟩⟩
  refine ⟨?_, fun name hname hclosed hx => ?_, fun ht => ?_⟩
  · obtain ⟨answer, hanswer⟩ := Value.answers_follow hp x
    have happend := Value.follow_append hanswer q
    cases answer with
    | none =>
      exact .inl ⟨call_gets hany hp (Value.gets_of_none hanswer any) m,
        call_gets h hnames (Value.gets_of_none happend t) m⟩
    | some y =>
      refine .inr ⟨y, call_gets hany hp (Value.gets_of_some hanswer (hadmits y)) m, ?_, ?_, ?_⟩
      · rintro rfl passes hpasses
        exact call_gets h hnames (Value.gets_of_some happend hpasses) m
      · intro hne hy
        have hnone := happend.trans (Value.follow_of_isNullish hne hy)
        exact call_gets h hnames (Value.gets_of_none hnone t) m
      · intro _ hy hclosed
        have hreadable : l.Readable t y :=
          ⟨h.representative_closed, hclosed, fun hl => ⟨(h.checked hl).1, hy⟩⟩
        exact (call_gets h hnames (Value.gets_congr happend t) m).trans
          (call_gets hreadable hq rfl m).symm
  · have hsingle : ∀ n ∈ [name], n.kind = .string := List.forall_mem_singleton.mpr hname
    exact (call_gets h hsingle (Value.gets_singleton t hname hx) m).trans
      (call_get h hname hclosed m).symm
  · obtain ⟨answer, hanswer⟩ := Value.answers_follow hnames x
    cases answer with
    | none => exact ⟨_, call_gets h hnames (Value.gets_of_none hanswer t) m, .inl rfl⟩
    | some y =>
      obtain ⟨passes, hpasses⟩ :=
        ht y (call_gets hany hnames (Value.gets_of_some hanswer (hadmits y)) m)
      exact ⟨_, call_gets h hnames (Value.gets_of_some hanswer hpasses) m,
        Value.presentIf_eq passes y⟩

omit [Host] in
/-- A number in a map in a map is found from the inner map, and nothing is found behind a null
value. -/
theorem gets_compositional_nested : letI : Host := .bare
    let l := Library.standard true
    let t : Value := .type none (Ty.ofKind .number)
    let inner : Value := .map [(.text "b", .int 5)]
    let x : Value := .map [(.text "a", inner), (.text "c", .null)]
    let reads := fun (names : List Value) x =>
      Run.call (l.function gets) [t, .list names, x] (.start none)
    l.Readable t x ∧ (∀ name ∈ [Value.text "a", .text "b"], name.kind = .string) ∧
    (∀ name ∈ [Value.text "c", .text "b"], name.kind = .string) ∧
    reads [.text "a", .text "b"] x = reads [.text "b"] inner ∧
    reads [.text "c", .text "b"] x = (.ok .nothing, .start none) ∧
    reads [.text "a"] x = Run.call (l.function get) [t, .text "a", x] (.start none) := by
  let _ : Host := .bare
  intro l t inner x reads
  have hreadable : l.Readable t x := ⟨rfl, rfl, fun _ => ⟨rfl, rfl⟩⟩
  have hfirst : ∀ name ∈ [Value.text "a"] ++ [.text "b"], name.kind = .string := by decide
  have hsecond : ∀ name ∈ [Value.text "c"] ++ [.text "b"], name.kind = .string := by decide
  obtain ⟨hinner, hsingle, -⟩ := gets_compositional hreadable hfirst (.start none)
  obtain ⟨hnull, -⟩ := gets_compositional hreadable hsecond (.start none)
  refine ⟨hreadable, hfirst, hsecond, ?_, ?_, hsingle _ rfl rfl rfl⟩
  · rcases hinner with ⟨hnothing, -⟩ | ⟨y, hy, -, -, hfrom⟩
    · cases congrArg Prod.fst hnothing
    · cases congrArg Prod.fst hy
      exact hfrom (by decide) rfl rfl
  · rcases hnull with ⟨hnothing, -⟩ | ⟨y, hy, -, hnone, -⟩
    · cases congrArg Prod.fst hnothing
    · cases congrArg Prod.fst hy
      exact hnone (by decide) rfl

omit [Host] in
/-- **A placeholder on the way** is a value like others for a search, but no value to begin a search
from: the call waits for the value that it stands for. -/
theorem gets_placeholder : letI : Host := .bare
    let l := Library.standard true
    let any : Value := .type none Ty.anything
    let x : Value := .map [(.text "a", .placeholder)]
    let reads := fun (names : List Value) x =>
      Run.call (l.function gets) [any, .list names, x] (.start none)
    l.isChecked = true ∧ any.isRepresentative = true ∧ x.isNullish = false ∧
    (∀ v, any.admits v = .ok true) ∧
    reads [.text "a"] x = (.ok (.just .placeholder), .start none) ∧
    Value.placeholder.isNullish = false ∧
    (reads ([.text "a"] ++ [.text "b"]) x).1 = .ok (.just .undefined) ∧
    ∃ f, (reads [.text "b"] .placeholder).1 = .ok f ∧ f.kind = .function ∧ f ≠ .just .undefined := by
  let _ : Host := .bare
  exact ⟨rfl, rfl, rfl, fun _ => rfl, rfl, rfl, rfl, _, rfl, rfl, fun h => by cases h⟩

end Library

end CheckedCurry
