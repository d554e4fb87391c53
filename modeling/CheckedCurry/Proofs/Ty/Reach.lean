import CheckedCurry.Proofs.Ty.Fitting

/-!
# What a type reaches in a value

A type looks at a value, and through its parameters at values inside it, and inside those.  What it
reaches is said here without saying how it is searched: a search for misfits must come to the first
place that fails, and a search for bindings must list every place of a variable.

- `Ty.Place`, `Place.Before`: places inside a value, and the order in which they are looked at.
- `Ty.Reaches`: what a type reaches in a value, place by place; only a value that passes the test of
  its type is entered.
- `Ty.Answers`: all tests and extractions on the way end in an answer.
- `Ty.Found`, `found_misfit?`: what a search for misfits comes to.
- `Ty.Listed`, `exists_listed_bindings`: what a list of bindings holds.
- `misfit_first_bindings_all`: both, for every type and every value.
-/

namespace CheckedCurry.Ty

/-! ## Places -/

/-- A place inside a value as a type sees it: at each step the index of a parameter, and the index
of one of the values that the parameter looks at. -/
abbrev Place := List (Nat × Nat)

namespace Place

/-- The path into the type at a place; which of several values is looked at is left out. -/
def path (place : Place) : Path := place.map (·.1)

/-- The order of places: a value comes before what is inside it, what a parameter looks at comes
before what a later parameter looks at, and the values of one parameter come in their order. -/
inductive Before : Place → Place → Prop
  | outside (x : Nat × Nat) (place : Place) : Before [] (x :: place)
  | parameter {i i' : Nat} (h : i < i') (j j' : Nat) (p q : Place) :
    Before ((i, j) :: p) ((i', j') :: q)
  | element {j j' : Nat} (h : j < j') (i : Nat) (p q : Place) :
    Before ((i, j) :: p) ((i, j') :: q)
  | inside (x : Nat × Nat) {p q : Place} (h : Before p q) : Before (x :: p) (x :: q)

@[simp] theorem path_nil : path [] = [] := rfl

@[simp] theorem path_cons (i j : Nat) (place : Place) :
    path ((i, j) :: place) = i :: path place := rfl

theorem not_before_nil (place : Place) : ¬ place.Before [] := fun h => nomatch h

/-- At one step, places are ordered as they are further inside. -/
theorem before_cons_iff {x : Nat × Nat} {p q : Place} : Before (x :: p) (x :: q) ↔ p.Before q := by
  constructor
  · intro h
    cases h with
    | parameter h => exact absurd h (Nat.lt_irrefl _)
    | element h => exact absurd h (Nat.lt_irrefl _)
    | inside _ h => exact h
  · exact .inside x

/-- No place comes before a place that it comes after. -/
theorem Before.asymm {p q : Place} (h : p.Before q) : ¬ q.Before p := by
  induction h with
  | outside x place => exact not_before_nil _
  | parameter h | element h =>
    intro hbefore
    cases hbefore with
    | parameter h' => omega
    | element h' => omega
    | inside => omega
  | inside x _ ih => exact fun hbefore => ih (before_cons_iff.mp hbefore)

end Place

/-! ## Reaching -/

/-- What a type reaches in a value at a place: a subtype, and a value that it looks at.  Parameters
look into a value only if it passes the test of its type. -/
inductive Reaches [Host] : Ty → Value → Place → Ty → Value → Prop
  | here (t : Ty) (v : Value) : Reaches t v [] t v
  | inside {c : Constructor} {params : List Ty} {v source w x : Value} {sources items : List Value}
      {i j : Nat} {p u : Ty} {place : Place} (passes : c.test.holds v = .ok true)
      (extracted : (applied c params).sources v = .ok sources) (param : params[i]? = some p)
      (looksAt : sources[i]? = some source) (elements : source.elements = .ok items)
      (element : items[j]? = some w) (rest : Reaches p w place u x) :
      Reaches (applied c params) v ((i, j) :: place) u x

variable [Host]

/-- The subtype that is reached at a place is the subtype at its path. -/
theorem Reaches.at? {t u : Ty} {v w : Value} {place : Place} (h : t.Reaches v place u w) :
    t.at? place.path = some u := by
  induction h with
  | here t v => exact at?_nil t
  | inside _ _ param _ _ _ _ ih =>
    rw [Place.path_cons, Ty.at?, Ty.params, param]
    exact ih

/-- All tests and extractions that a type makes on a value end in an answer. -/
structure Answers (t : Ty) (v : Value) : Prop where
  /-- What is reached can be tested. -/
  tests : ∀ place u w, t.Reaches v place u w → ∃ passed, u.test w = .ok passed
  /-- A value that passes the test of its type can be looked into by all its parameters. -/
  extractions : ∀ place c params w, t.Reaches v place (applied c params) w →
    c.test.holds w = .ok true → ∃ sources, (applied c params).sources w = .ok sources ∧
      ∀ (i : Nat) (p : Ty) (source : Value), params[i]? = some p → sources[i]? = some source →
        ∃ items, source.elements = .ok items

/-! ## Reaching, parameter by parameter -/

/-- What is reached at each place. -/
abbrev Reach := Place → Ty → Value → Prop

/-- What is reached under one step. -/
def Under (i j : Nat) (R : Reach) : Reach := fun place u x =>
  ∃ rest, place = (i, j) :: rest ∧ R rest u x

/-- What is reached in values that the parameter at an index looks at; the first of them is counted
from `j` on. -/
def Among (p : Ty) (i j : Nat) (items : List Value) : Reach := fun place u x =>
  ∃ k w, items[k]? = some w ∧ Under i (j + k) (p.Reaches w) place u x

/-- What is reached through parameters; the first of them is counted from `i` on. -/
def Inside (i : Nat) (params : List Ty) (sources : List Value) : Reach := fun place u x =>
  ∃ (k : Nat) (p : Ty) (source : Value) (items : List Value), params[k]? = some p ∧
    sources[k]? = some source ∧ source.elements = .ok items ∧ Among p (i + k) 0 items place u x

/-- What is reached in either of two ways. -/
def IsUnion (R₁ R₂ R : Reach) : Prop := ∀ place u x, R place u x ↔ R₁ place u x ∨ R₂ place u x

theorem not_among_nil {p : Ty} {i j : Nat} {place : Place} {u : Ty} {x : Value} :
    ¬ Among p i j [] place u x := by
  rintro ⟨k, w, hw, -⟩
  simp at hw

theorem among_cons (p : Ty) (i j : Nat) (w : Value) (ws : List Value) :
    IsUnion (Under i j (p.Reaches w)) (Among p i (j + 1) ws) (Among p i j (w :: ws)) := by
  intro place u x
  constructor
  · rintro ⟨k, w', hw', hreach⟩
    cases k with
    | zero =>
      obtain rfl : w = w' := by simpa using hw'
      exact .inl hreach
    | succ k =>
      refine .inr ⟨k, w', by simpa using hw', ?_⟩
      rwa [Nat.add_assoc, Nat.add_comm 1 k]
  · rintro (hreach | ⟨k, w', hw', hreach⟩)
    · exact ⟨0, w, rfl, hreach⟩
    · refine ⟨k + 1, w', by simpa using hw', ?_⟩
      rwa [Nat.add_comm k 1, ← Nat.add_assoc]

theorem inside_cons {i : Nat} {p : Ty} {params : List Ty} {source : Value} {sources items : List Value}
    (helements : source.elements = .ok items) :
    IsUnion (Among p i 0 items) (Inside (i + 1) params sources)
      (Inside i (p :: params) (source :: sources)) := by
  intro place u x
  constructor
  · rintro ⟨k, p', source', items', hp', hsource', helements', hreach⟩
    cases k with
    | zero =>
      obtain rfl : p = p' := by simpa using hp'
      obtain rfl : source = source' := by simpa using hsource'
      obtain rfl := Except.ok.inj (helements.symm.trans helements')
      exact .inl hreach
    | succ k =>
      refine .inr ⟨k, p', source', items', by simpa using hp', by simpa using hsource',
        helements', ?_⟩
      rwa [Nat.add_assoc, Nat.add_comm 1 k]
  · rintro (hreach | ⟨k, p', source', items', hp', hsource', helements', hreach⟩)
    · exact ⟨0, p, source, items, rfl, rfl, helements, hreach⟩
    · refine ⟨k + 1, p', source', items', by simpa using hp', by simpa using hsource', helements',
        ?_⟩
      rwa [Nat.add_comm k 1, ← Nat.add_assoc]

/-- A type with parameters reaches the whole value, and what its parameters reach if the value
passes its test. -/
theorem reaches_applied {c : Constructor} {params : List Ty} {v : Value} {sources : List Value}
    (hpass : c.test.holds v = .ok true) (hsources : (applied c params).sources v = .ok sources) :
    IsUnion (fun place u x => place = [] ∧ u = applied c params ∧ x = v) (Inside 0 params sources)
      ((applied c params).Reaches v) := by
  intro place u x
  constructor
  · intro h
    cases h with
    | here => exact .inl ⟨rfl, rfl, rfl⟩
    | @inside _ _ _ _ _ _ _ _ i j _ _ rest _ extracted param looksAt elements element hrest =>
      obtain rfl := Except.ok.inj (hsources.symm.trans extracted)
      refine .inr ⟨i, _, _, _, param, looksAt, elements, j, _, element, rest, ?_, hrest⟩
      rw [Nat.zero_add, Nat.zero_add]
  · rintro (⟨rfl, rfl, rfl⟩ | ⟨i, p, source, items, hp, hsource, helements, j, w, hw, rest, rfl, h⟩)
    · exact .here _ _
    · rw [Nat.zero_add, Nat.zero_add]
      exact .inside hpass hsources hp hsource helements hw h

/-- A value that fails the test of its type is not entered. -/
theorem reaches_of_fails {c : Constructor} {params : List Ty} {v x : Value} {place : Place} {u : Ty}
    (hfail : c.test.holds v = .ok false) (h : (applied c params).Reaches v place u x) :
    place = [] := by
  cases h with
  | here => rfl
  | inside passes => cases hfail.symm.trans passes

/-- A type without parameters reaches the value only. -/
theorem reaches_of_no_params {t u : Ty} {v x : Value} {place : Place} (ht : t.params = [])
    (h : t.Reaches v place u x) : place = [] ∧ u = t ∧ x = v := by
  cases h with
  | here => exact ⟨rfl, rfl, rfl⟩
  | inside _ _ param =>
    simp only [params] at ht
    simp [ht] at param

/-! ## What a search for misfits comes to -/

/-- What a search comes to: everything passes, or something fails and all before it passes. -/
def Found (R : Reach) : Option Misfit → Prop
  | none => ∀ place u x, R place u x → u.test x = .ok true
  | some m => ∃ place, place.path = m.path ∧ R place m.type m.value ∧
    m.type.test m.value = .ok false ∧
    ∀ place' u x, R place' u x → place'.Before place → u.test x = .ok true

section Found

variable {R R₁ R₂ : Reach} {answer : Option Misfit} {m : Misfit}

/-- Where nothing fails in a first part, the search goes on in the second. -/
theorem Found.of_right (hR : IsUnion R₁ R₂ R) (h₁ : Found R₁ none) (h₂ : Found R₂ answer) :
    Found R answer := by
  cases answer with
  | none =>
    intro place u x h
    exact ((hR place u x).mp h).elim (h₁ place u x) (h₂ place u x)
  | some m =>
    obtain ⟨place, hpath, hreach, hfail, hbefore⟩ := h₂
    refine ⟨place, hpath, (hR _ _ _).mpr (.inr hreach), hfail, fun place' u x h hlt => ?_⟩
    exact ((hR place' u x).mp h).elim (h₁ place' u x) fun h => hbefore place' u x h hlt

/-- What is found in a first part is found, if nothing in the second part comes before it. -/
theorem Found.of_left (hR : IsUnion R₁ R₂ R) (h₁ : Found R₁ (some m))
    (horder : ∀ place u x place' u' x', R₁ place u x → R₂ place' u' x' → ¬ place'.Before place) :
    Found R (some m) := by
  obtain ⟨place, hpath, hreach, hfail, hbefore⟩ := h₁
  refine ⟨place, hpath, (hR _ _ _).mpr (.inl hreach), hfail, fun place' u x h hlt => ?_⟩
  rcases (hR place' u x).mp h with h | h
  · exact hbefore place' u x h hlt
  · exact absurd hlt (horder _ _ _ _ _ _ hreach h)

theorem Found.under (i j : Nat) (h : Found R answer) :
    Found (Under i j R) (answer.map (Misfit.under i)) := by
  cases answer with
  | none =>
    rintro place u x ⟨rest, rfl, hreach⟩
    exact h rest u x hreach
  | some m =>
    obtain ⟨place, hpath, hreach, hfail, hbefore⟩ := h
    refine ⟨(i, j) :: place, ?_, ⟨place, rfl, hreach⟩, hfail, ?_⟩
    · rw [Place.path_cons, hpath]
      rfl
    · rintro place' u x ⟨rest, rfl, hreach'⟩ hlt
      exact hbefore rest u x hreach' (Place.before_cons_iff.mp hlt)

end Found

/-- A search among the values of one parameter. -/
theorem found_firstAnswer {p : Ty}
    (hp : ∀ w answer, p.misfit? w = .ok answer → Found (p.Reaches w) answer) (i j : Nat)
    {items : List Value} {answer : Option Misfit}
    (h : firstAnswer (misfit? p) items = .ok answer) :
    Found (Among p i j items) (answer.map (Misfit.under i)) := by
  induction items generalizing j with
  | nil =>
    obtain rfl := Except.ok.inj h
    intro place u x hreach
    exact absurd hreach not_among_nil
  | cons w ws ih =>
    rw [firstAnswer] at h
    obtain ⟨first, hfirst, hrest⟩ := bind_eq_ok.mp h
    have hfound := (hp w first hfirst).under i j
    cases first with
    | some m =>
      -- found in the first value: what is in later values comes after it
      obtain rfl := Except.ok.inj hrest
      refine hfound.of_left (among_cons p i j w ws) ?_
      rintro place u x place' u' x' ⟨rest, rfl, -⟩ ⟨k, w', -, rest', rfl, -⟩
      exact (Place.Before.element (by omega) _ _ _).asymm
    | none => exact hfound.of_right (among_cons p i j w ws) (ih (j + 1) hrest)

mutual

/-- A search for a misfit comes to the first place that fails, by induction on the type. -/
theorem found_misfit? : ∀ (t : Ty) (v : Value) (answer : Option Misfit),
    t.misfit? v = .ok answer → Found (t.Reaches v) answer
  | applied c params, v, answer, h => by
    rw [misfit?] at h
    obtain ⟨passed, htest, h⟩ := bind_eq_ok.mp h
    cases passed with
    | false =>
      -- the whole value fails; nothing is before it, and nothing inside it is reached
      obtain rfl := Except.ok.inj h
      refine ⟨[], rfl, .here _ _, htest, fun place u x hreach hlt => ?_⟩
      exact absurd (reaches_of_fails htest hreach ▸ hlt) (Place.not_before_nil _)
    | true =>
      rw [if_pos rfl] at h
      obtain ⟨sources, hsources, h⟩ := bind_eq_ok.mp h
      refine Found.of_right (reaches_applied htest hsources) ?_
        (found_misfitInside? 0 params sources answer h)
      rintro place u x ⟨-, rfl, rfl⟩
      exact htest
  | any _, v, answer, h | accessible _, v, answer, h | representative _, v, answer, h
  | var _, v, answer, h | nullary _, v, answer, h => by
    unfold misfit? at h
    obtain ⟨passed, htest, h⟩ := bind_eq_ok.mp h
    cases passed with
    | false =>
      obtain rfl := Except.ok.inj h
      refine ⟨[], rfl, .here _ _, htest, fun place u x hreach hlt => ?_⟩
      obtain ⟨rfl, -, -⟩ := reaches_of_no_params rfl hreach
      exact absurd hlt (Place.not_before_nil _)
    | true =>
      obtain rfl := Except.ok.inj h
      intro place u x hreach
      obtain ⟨-, rfl, rfl⟩ := reaches_of_no_params rfl hreach
      exact htest

theorem found_misfitInside? (index : Nat) : ∀ (params : List Ty) (sources : List Value)
    (answer : Option Misfit), misfitInside? index params sources = .ok answer →
      Found (Inside index params sources) answer
  | p :: params, source :: sources, answer, h => by
    rw [misfitInside?] at h
    obtain ⟨items, helements, h⟩ := bind_eq_ok.mp h
    obtain ⟨first, hfirst, h⟩ := bind_eq_ok.mp h
    have hfound := found_firstAnswer (found_misfit? p) index 0 hfirst
    cases first with
    | some m =>
      -- found under the first parameter: what later parameters reach comes after it
      obtain rfl := Except.ok.inj h
      refine hfound.of_left (inside_cons helements) ?_
      rintro place u x place' u' x' ⟨k, w, -, rest, rfl, -⟩
        ⟨k', p', source', items', -, -, -, j', w', -, rest', rfl, -⟩
      exact (Place.Before.parameter (by omega) _ _ _ _).asymm
    | none =>
      exact hfound.of_right (inside_cons helements)
        (found_misfitInside? (index + 1) params sources answer h)
  | [], _, answer, h => by
    unfold misfitInside? at h
    obtain rfl := Except.ok.inj h
    rintro place u x ⟨k, p, source, items, hp, -⟩
    simp at hp
  | _ :: _, [], answer, h => by
    unfold misfitInside? at h
    obtain rfl := Except.ok.inj h
    rintro place u x ⟨k, p, source, items, -, hsource, -⟩
    simp at hsource

end

/-! ## Searches that come to an answer -/

theorem Answers.inside {c : Constructor} {params : List Ty} {v : Value}
    (h : (applied c params).Answers v) (hpass : c.test.holds v = .ok true) {sources : List Value}
    (hsources : (applied c params).sources v = .ok sources) {i : Nat} {p : Ty} {source : Value}
    (hp : params[i]? = some p) (hsource : sources[i]? = some source) :
    ∃ items, source.elements = .ok items ∧ ∀ w ∈ items, p.Answers w := by
  obtain ⟨sources', hsources', helements⟩ := h.extractions [] c params v (.here _ _) hpass
  obtain rfl := Except.ok.inj (hsources.symm.trans hsources')
  obtain ⟨items, hitems⟩ := helements i p source hp hsource
  refine ⟨items, hitems, fun w hw => ?_⟩
  obtain ⟨j, hj⟩ := List.mem_iff_getElem?.mp hw
  have hreach {place : Place} {u : Ty} {x : Value} (hrest : p.Reaches w place u x) :
      (applied c params).Reaches v ((i, j) :: place) u x :=
    .inside hpass hsources hp hsource hitems hj hrest
  exact ⟨fun place u x hrest => h.tests _ u x (hreach hrest),
    fun place c' params' x hrest => h.extractions _ c' params' x (hreach hrest)⟩

/-- What answers inside answers as a whole. -/
theorem answers_of_passes {c : Constructor} {params : List Ty} {v : Value} {sources : List Value}
    (hpass : c.test.holds v = .ok true) (hsources : (applied c params).sources v = .ok sources)
    (h : ∀ (i : Nat) (p : Ty) (source : Value), params[i]? = some p → sources[i]? = some source →
      ∃ items, source.elements = .ok items ∧ ∀ w ∈ items, p.Answers w) :
    (applied c params).Answers v := by
  -- what is reached is the value itself, or it is reached from an element that answers
  have hinside {i j : Nat} {p : Ty} {source w : Value} {items : List Value}
      (hp : params[i]? = some p) (hsource : sources[i]? = some source)
      (helements : source.elements = .ok items) (hw : items[j]? = some w) : p.Answers w := by
    obtain ⟨items', helements', hanswers⟩ := h i p source hp hsource
    obtain rfl := Except.ok.inj (helements.symm.trans helements')
    exact hanswers w (List.mem_of_getElem? hw)
  constructor
  · intro place u x hreach
    rcases (reaches_applied hpass hsources place u x).mp hreach with ⟨-, rfl, rfl⟩ |
      ⟨k, p, source, items, hp, hsource, helements, j, w, hw, rest, -, hrest⟩
    · exact ⟨true, hpass⟩
    · exact (hinside hp hsource helements hw).tests rest u x hrest
  · intro place c' params' x hreach hpass'
    rcases (reaches_applied hpass hsources place _ x).mp hreach with ⟨-, hself, rfl⟩ |
      ⟨k, p, source, items, hp, hsource, helements, j, w, hw, rest, -, hrest⟩
    · obtain ⟨rfl, rfl⟩ := Ty.applied.inj hself
      refine ⟨sources, hsources, fun i p source hp hsource => ?_⟩
      obtain ⟨items, helements, -⟩ := h i p source hp hsource
      exact ⟨items, helements⟩
    · exact (hinside hp hsource helements hw).extractions rest c' params' x hrest hpass'

/-- A value that fails the test of its type answers; nothing inside it is asked. -/
theorem answers_of_fails {c : Constructor} {params : List Ty} {v : Value}
    (hfail : c.test.holds v = .ok false) : (applied c params).Answers v := by
  constructor
  · intro place u x hreach
    cases hreach with
    | here => exact ⟨false, hfail⟩
    | inside passes => cases hfail.symm.trans passes
  · intro place c' params' x hreach hpass
    cases hreach with
    | here => cases hfail.symm.trans hpass
    | inside passes => cases hfail.symm.trans passes

/-- A value answers a type that looks at nothing inside if it can be tested. -/
theorem answers_of_tested {t : Ty} {v : Value} (passed : Bool)
    (ht : ∀ c params, t ≠ applied c params) (htest : t.test v = .ok passed) : t.Answers v := by
  have hparams : t.params = [] := by
    cases t with
    | applied c params => exact absurd rfl (ht c params)
    | _ => rfl
  constructor
  · intro place u x hreach
    obtain ⟨-, rfl, rfl⟩ := reaches_of_no_params hparams hreach
    exact ⟨passed, htest⟩
  · intro place c params x hreach _
    obtain ⟨-, hself, -⟩ := reaches_of_no_params hparams hreach
    exact absurd hself.symm (ht c params)

/-- A list answers if its elements do. -/
theorem answers_array {t : Ty} {items : List Value} (h : ∀ w ∈ items, t.Answers w) :
    (array t).Answers (.list items) := by
  have hsources : (array t).sources (.list items) = .ok [.list items] := rfl
  refine answers_of_passes rfl hsources fun i p source hp hsource => ?_
  cases i with
  | zero =>
    obtain rfl := Option.some.inj hp
    obtain rfl := Option.some.inj hsource
    exact ⟨items, rfl, h⟩
  | succ i => simp at hp

/-- A failure answers if what failed does, and a success if what succeeded does. -/
theorem answers_either {t u : Ty} {v : Value} :
    (t.Answers v → (either t u).Answers (.left v)) ∧
      (u.Answers v → (either t u).Answers (.right v)) := by
  have hdeclares (w : Value) (hw : w.identifier? = some eitherIdentifier) :
      Constructor.either.test.holds w = .ok true :=
    congrArg Except.ok (by rw [hw, beq_self_eq_true])
  -- of the two parameters, one looks at the value and the other at nothing
  constructor <;> intro h
  · have hsources : (either t u).sources (.left v) = .ok [.list [v], .list []] := rfl
    refine answers_of_passes (hdeclares _ rfl) hsources fun i p source hp hsource => ?_
    match i with
    | 0 =>
      obtain rfl := Option.some.inj hp
      obtain rfl := Option.some.inj hsource
      exact ⟨[v], rfl, List.forall_mem_singleton.mpr h⟩
    | 1 =>
      obtain rfl := Option.some.inj hsource
      exact ⟨[], rfl, List.forall_mem_nil _⟩
    | i + 2 => simp at hp
  · have hsources : (either t u).sources (.right v) = .ok [.list [], .list [v]] := rfl
    refine answers_of_passes (hdeclares _ rfl) hsources fun i p source hp hsource => ?_
    match i with
    | 0 =>
      obtain rfl := Option.some.inj hsource
      exact ⟨[], rfl, List.forall_mem_nil _⟩
    | 1 =>
      obtain rfl := Option.some.inj hp
      obtain rfl := Option.some.inj hsource
      exact ⟨[v], rfl, List.forall_mem_singleton.mpr h⟩
    | i + 2 => simp at hp

omit [Host] in
theorem exists_firstAnswer {α : Type} {f : Value → Attempt (Option α)} {items : List Value}
    (h : ∀ w ∈ items, ∃ answer, f w = .ok answer) : ∃ answer, firstAnswer f items = .ok answer := by
  induction items with
  | nil => exact ⟨none, rfl⟩
  | cons w ws ih =>
    obtain ⟨hw, hws⟩ := List.forall_mem_cons.mp h
    obtain ⟨first, hfirst⟩ := hw
    cases first with
    | some a => exact ⟨some a, bind_eq_ok.mpr ⟨_, hfirst, rfl⟩⟩
    | none =>
      obtain ⟨answer, hanswer⟩ := ih hws
      exact ⟨answer, bind_eq_ok.mpr ⟨_, hfirst, hanswer⟩⟩

mutual

/-- Where all tests and extractions answer, so does the search for a misfit. -/
theorem exists_misfit? : ∀ (t : Ty) (v : Value), t.Answers v → ∃ answer, t.misfit? v = .ok answer
  | applied c params, v, h => by
    obtain ⟨passed, htest⟩ := h.tests [] _ _ (.here _ _)
    rw [misfit?]
    cases passed with
    | false => exact ⟨_, bind_eq_ok.mpr ⟨false, htest, rfl⟩⟩
    | true =>
      obtain ⟨sources, hsources, -⟩ := h.extractions [] c params v (.here _ _) htest
      obtain ⟨answer, hanswer⟩ := exists_misfitInside? 0 params sources
        fun k p source hp hsource => h.inside htest hsources hp hsource
      exact ⟨answer, bind_eq_ok.mpr ⟨true, htest, bind_eq_ok.mpr ⟨sources, hsources, hanswer⟩⟩⟩
  | any _, v, h | accessible _, v, h | representative _, v, h | var _, v, h | nullary _, v, h => by
    obtain ⟨passed, htest⟩ := h.tests [] _ _ (.here _ _)
    unfold misfit?
    cases passed with
    | false => exact ⟨_, bind_eq_ok.mpr ⟨false, htest, rfl⟩⟩
    | true => exact ⟨_, bind_eq_ok.mpr ⟨true, htest, rfl⟩⟩

theorem exists_misfitInside? (index : Nat) : ∀ (params : List Ty) (sources : List Value),
    (∀ (k : Nat) (p : Ty) (source : Value), params[k]? = some p → sources[k]? = some source →
      ∃ items, source.elements = .ok items ∧ ∀ w ∈ items, p.Answers w) →
    ∃ answer, misfitInside? index params sources = .ok answer
  | p :: params, source :: sources, h => by
    obtain ⟨items, helements, hall⟩ := h 0 p source rfl rfl
    obtain ⟨first, hfirst⟩ := exists_firstAnswer fun w hw => exists_misfit? p w (hall w hw)
    rw [misfitInside?]
    cases first with
    | some m =>
      exact ⟨_, bind_eq_ok.mpr ⟨items, helements, bind_eq_ok.mpr ⟨some m, hfirst, rfl⟩⟩⟩
    | none =>
      obtain ⟨answer, hanswer⟩ := exists_misfitInside? (index + 1) params sources
        fun k q source hq hsource => h (k + 1) q source hq hsource
      exact ⟨answer, bind_eq_ok.mpr ⟨items, helements, bind_eq_ok.mpr ⟨none, hfirst, hanswer⟩⟩⟩
  | [], _, _ => by
    unfold misfitInside?
    exact ⟨none, rfl⟩
  | _ :: _, [], _ => by
    unfold misfitInside?
    exact ⟨none, rfl⟩

end

/-! ## What a list of bindings holds -/

/-- Bindings are listed place by place: all places at which a variable is reached, each once and in
their order. -/
def Listed (R : Reach) (bs : List Binding) : Prop :=
  ∃ occurrences : List (Place × Binding), bs = occurrences.map (·.2) ∧
    occurrences.Pairwise (fun o o' => o.1.Before o'.1) ∧
    ∀ place b, (place, b) ∈ occurrences ↔
      b.path = place.path ∧ R place (.var b.var) b.value

section Listed

variable {R R₁ R₂ : Reach} {bs bs₁ bs₂ : List Binding}

omit [Host] in
theorem listed_nil (h : ∀ place a x, ¬ R place (var a) x) : Listed R [] := by
  refine ⟨[], rfl, .nil, fun place b => ⟨fun hmem => ?_, fun hb => ?_⟩⟩
  · cases hmem
  · exact absurd hb.2 (h place b.var b.value)

omit [Host] in
/-- The bindings of a first part, then those of a second part whose places all come later. -/
theorem Listed.append (hR : IsUnion R₁ R₂ R) (h₁ : Listed R₁ bs₁) (h₂ : Listed R₂ bs₂)
    (horder : ∀ place u x place' u' x', R₁ place u x → R₂ place' u' x' → place.Before place') :
    Listed R (bs₁ ++ bs₂) := by
  obtain ⟨front, rfl, hfront, hmem₁⟩ := h₁
  obtain ⟨back, rfl, hback, hmem₂⟩ := h₂
  refine ⟨front ++ back, List.map_append.symm, List.pairwise_append.mpr ⟨hfront, hback, ?_⟩, ?_⟩
  · rintro ⟨place, b⟩ ho ⟨place', b'⟩ ho'
    exact horder _ _ _ _ _ _ ((hmem₁ place b).mp ho).2 ((hmem₂ place' b').mp ho').2
  · intro place b
    rw [List.mem_append, hmem₁, hmem₂, hR, and_or_left]

omit [Host] in
theorem Listed.under (i j : Nat) (h : Listed R bs) :
    Listed (Under i j R) (bs.map (Binding.under i)) := by
  obtain ⟨occurrences, rfl, hpairwise, hmem⟩ := h
  refine ⟨occurrences.map fun o => ((i, j) :: o.1, o.2.under i), ?_, ?_, ?_⟩
  · rw [List.map_map, List.map_map]
    rfl
  · exact List.pairwise_map.mpr (hpairwise.imp fun hbefore => .inside _ hbefore)
  · rintro place ⟨a, path, x⟩
    rw [List.mem_map]
    constructor
    · rintro ⟨⟨rest, b⟩, ho, heq⟩
      obtain ⟨hpath, hreach⟩ := (hmem rest b).mp ho
      obtain ⟨rfl, hb⟩ := Prod.mk.inj heq
      obtain ⟨rfl, rfl, rfl⟩ := Binding.mk.inj hb
      exact ⟨congrArg (i :: ·) hpath, rest, rfl, hreach⟩
    · rintro ⟨hpath, rest, rfl, hreach⟩
      obtain rfl : path = i :: Place.path rest := hpath
      exact ⟨(rest, ⟨a, Place.path rest, x⟩), (hmem _ _).mpr ⟨rfl, hreach⟩, rfl⟩

end Listed

/-- The bindings of the values of one parameter. -/
theorem exists_listed_allAnswers {p : Ty} (i j : Nat) {items : List Value}
    (h : ∀ w ∈ items, ∃ bs, p.bindings w = .ok bs ∧ Listed (p.Reaches w) bs) :
    ∃ bs, allAnswers (bindings p) items = .ok bs ∧
      Listed (Among p i j items) (bs.map (Binding.under i)) := by
  induction items generalizing j with
  | nil => exact ⟨[], rfl, listed_nil fun _ _ _ => not_among_nil⟩
  | cons w ws ih =>
    obtain ⟨⟨here, hhere, hlisted⟩, hws⟩ := List.forall_mem_cons.mp h
    obtain ⟨rest, hrest, hlisted'⟩ := ih (j + 1) hws
    refine ⟨here ++ rest, bind_eq_ok.mpr ⟨here, hhere, bind_eq_ok.mpr ⟨rest, hrest, rfl⟩⟩, ?_⟩
    rw [List.map_append]
    refine (hlisted.under i j).append (among_cons p i j w ws) hlisted' ?_
    rintro place u x place' u' x' ⟨inner, rfl, -⟩ ⟨k, w', -, inner', rfl, -⟩
    exact .element (by omega) _ _ _

mutual

/-- A value without misfits has bindings, and they list all places of variables, by induction on the
type. -/
theorem exists_listed_bindings : ∀ (t : Ty) (v : Value), t.misfit? v = .ok none →
    ∃ bs, t.bindings v = .ok bs ∧ Listed (t.Reaches v) bs
  | applied c params, v, h => by
    rw [misfit?] at h
    obtain ⟨passed, htest, h⟩ := bind_eq_ok.mp h
    cases passed with
    | false => cases h
    | true =>
      rw [if_pos rfl] at h
      obtain ⟨sources, hsources, h⟩ := bind_eq_ok.mp h
      obtain ⟨bs, hbs, hlisted⟩ := exists_listed_bindingsInside 0 params sources h
      refine ⟨bs, by rw [bindings]; exact bind_eq_ok.mpr ⟨sources, hsources, hbs⟩, ?_⟩
      -- the value as a whole is no place of a variable, and comes before all that is inside
      refine (listed_nil ?_).append (reaches_applied htest hsources) hlisted ?_
      · rintro place a x ⟨-, hvar, -⟩
        cases hvar
      · rintro place u x place' u' x' ⟨rfl, -, -⟩ ⟨k, p, source, items, -, -, -, j, w, -, rest, rfl, -⟩
        exact .outside _ _
  | var a, v, _ => by
    -- the value as a whole is the one place of the variable
    refine ⟨_, bindings_var a v, [([], ⟨a, [], v⟩)], rfl, List.pairwise_singleton _ _, ?_⟩
    rintro place ⟨b, path, x⟩
    rw [List.mem_singleton]
    constructor
    · intro heq
      obtain ⟨rfl, hb⟩ := Prod.mk.inj heq
      obtain ⟨rfl, rfl, rfl⟩ := Binding.mk.inj hb
      exact ⟨rfl, .here _ _⟩
    · rintro ⟨hpath, hreach⟩
      obtain ⟨rfl, hvar, rfl⟩ := reaches_of_no_params rfl hreach
      obtain rfl : b = a := Ty.var.inj hvar
      obtain rfl : path = [] := hpath
      rfl
  | any _, v, _ | accessible _, v, _ | representative _, v, _ | nullary _, v, _ => by
    unfold bindings
    refine ⟨[], rfl, listed_nil fun place a x hreach => ?_⟩
    obtain ⟨-, hvar, -⟩ := reaches_of_no_params rfl hreach
    cases hvar

theorem exists_listed_bindingsInside (index : Nat) : ∀ (params : List Ty) (sources : List Value),
    misfitInside? index params sources = .ok none →
      ∃ bs, bindingsInside index params sources = .ok bs ∧ Listed (Inside index params sources) bs
  | p :: params, source :: sources, h => by
    rw [misfitInside?] at h
    obtain ⟨items, helements, h⟩ := bind_eq_ok.mp h
    obtain ⟨first, hfirst, h⟩ := bind_eq_ok.mp h
    cases first with
    | some m => cases h
    | none =>
      obtain ⟨here, hhere, hlisted⟩ := exists_listed_allAnswers index 0
        fun w hw => exists_listed_bindings p w (firstAnswer_eq_none.mp hfirst w hw)
      obtain ⟨rest, hrest, hlisted'⟩ := exists_listed_bindingsInside (index + 1) params sources h
      rw [bindingsInside]
      refine ⟨here.map (Binding.under index) ++ rest, bind_eq_ok.mpr ⟨items, helements,
        bind_eq_ok.mpr ⟨here, hhere, bind_eq_ok.mpr ⟨rest, hrest, rfl⟩⟩⟩, ?_⟩
      refine hlisted.append (inside_cons helements) hlisted' ?_
      rintro place u x place' u' x' ⟨k, w, -, inner, rfl, -⟩
        ⟨k', p', source', items', -, -, -, j', w', -, inner', rfl, -⟩
      exact .parameter (by omega) _ _ _ _
  | [], _, _ => by
    unfold bindingsInside
    refine ⟨[], rfl, listed_nil ?_⟩
    rintro place a x ⟨k, p, source, items, hp, -⟩
    simp at hp
  | _ :: _, [], _ => by
    unfold bindingsInside
    refine ⟨[], rfl, listed_nil ?_⟩
    rintro place a x ⟨k, p, source, items, -, hsource, -⟩
    simp at hsource

end

/-- **The first misfit, and all bindings.**  Let all tests and extractions that a type makes on a
value end in an answer.

The value has no misfit if and only if all that the type reaches in it passes the test of the
subtype that reaches it.  A misfit is the first place that fails: the subtype at its path reaches
its value there, rejects it, and all that is reached before has passed.

A value without misfits binds what is reached at the type variables of the type: each place of a
variable is listed once, with the variable and its path, in the order of places. -/
theorem misfit_first_bindings_all (t : Ty) (v : Value) (h : t.Answers v) :
    (∃ answer, t.misfit? v = .ok answer) ∧
    (t.misfit? v = .ok none ↔
      ∀ place u w, t.Reaches v place u w → u.test w = .ok true) ∧
    (∀ m, t.misfit? v = .ok (some m) → t.at? m.path = some m.type ∧
      ∃ place : Place, place.path = m.path ∧ t.Reaches v place m.type m.value ∧
        m.type.test m.value = .ok false ∧
        ∀ place' u w, t.Reaches v place' u w → place'.Before place → u.test w = .ok true) ∧
    (t.misfit? v = .ok none → ∃ occurrences : List (Place × Binding),
      t.bindings v = .ok (occurrences.map (·.2)) ∧
      occurrences.Pairwise (fun o o' => o.1.Before o'.1) ∧
      ∀ place b, (place, b) ∈ occurrences ↔
        b.path = place.path ∧ t.Reaches v place (.var b.var) b.value) := by
  obtain ⟨answer, hanswer⟩ := exists_misfit? t v h
  refine ⟨⟨answer, hanswer⟩, ⟨fun hnone => found_misfit? t v none hnone, fun hall => ?_⟩, ?_, ?_⟩
  · -- a search that ends in a misfit has come to something that fails
    cases answer with
    | none => exact hanswer
    | some m =>
      obtain ⟨place, -, hreach, hfail, -⟩ := found_misfit? t v (some m) hanswer
      cases hfail.symm.trans (hall place m.type m.value hreach)
  · intro m hm
    obtain ⟨place, hpath, hreach, hfail, hbefore⟩ := found_misfit? t v (some m) hm
    exact ⟨hpath ▸ hreach.at?, place, hpath, hreach, hfail, hbefore⟩
  · intro hnone
    obtain ⟨_, hbs, occurrences, rfl, hpairwise, hmem⟩ := exists_listed_bindings t v hnone
    exact ⟨occurrences, hbs, hpairwise, hmem⟩

omit [Host] in
/-- An array whose elements fail at three places, and one whose elements bind three values. -/
theorem misfit_first_bindings_all_nested : letI : Host := .bare
    let a : TypeVar := ⟨"a", .given 0⟩
    let t : Ty := array (either integer (array (var a)))
    let x : Value := .text "x"
    let faulty : Value := .list [.right (.list [x]), .left x, .right .null, .left .null]
    let member : Value := .list [.right (.list [x, .null]), .left (.int 1), .right (.list [.null])]
    (t.Answers faulty ∧ ∃ m, t.misfit? faulty = .ok (some m) ∧ m.path = [0, 0] ∧
      ∃ place : Place, place.path = m.path ∧ t.Reaches faulty place m.type m.value ∧
        ∀ place' u w, t.Reaches faulty place' u w → place'.Before place → u.test w = .ok true) ∧
    (t.Answers member ∧ t.misfit? member = .ok none ∧
      ∃ occurrences : List (Place × Binding), t.bindings member = .ok (occurrences.map (·.2)) ∧
        occurrences.length = 3 ∧ occurrences.Pairwise fun o o' => o.1.Before o'.1) := by
  let _ : Host := .bare
  intro a t x faulty member
  have hvar (w : Value) : (var a).Answers w := answers_of_tested true (fun _ _ h => nomatch h) rfl
  have hinteger {w : Value} (passed : Bool) (h : integer.test w = .ok passed) : integer.Answers w :=
    answers_of_tested passed (fun _ _ h => nomatch h) h
  have hright (items : List Value) : (either integer (array (var a))).Answers (.right (.list items)) :=
    answers_either.2 (answers_array fun w _ => hvar w)
  have hfaulty : t.Answers faulty := by
    refine answers_array ?_
    simp only [List.forall_mem_cons, List.not_mem_nil, false_implies, implies_true, and_true]
    exact ⟨hright _, answers_either.1 (hinteger false rfl),
      answers_either.2 (answers_of_fails rfl), answers_either.1 (hinteger false rfl)⟩
  have hmember : t.Answers member := by
    refine answers_array ?_
    simp only [List.forall_mem_cons, List.not_mem_nil, false_implies, implies_true, and_true]
    exact ⟨hright _, answers_either.1 (hinteger true rfl), hright _⟩
  obtain ⟨-, -, hfirst, -⟩ := misfit_first_bindings_all t faulty hfaulty
  obtain ⟨-, -, -, hbindings⟩ := misfit_first_bindings_all t member hmember
  have hmisfit : t.misfit? faulty = .ok (some ⟨[0, 0], x, integer⟩) := rfl
  have hnone : t.misfit? member = .ok none := rfl
  refine ⟨⟨hfaulty, _, hmisfit, rfl, ?_⟩, hmember, hnone, ?_⟩
  · obtain ⟨-, place, hpath, hreach, -, hbefore⟩ := hfirst _ hmisfit
    exact ⟨place, hpath, hreach, hbefore⟩
  · obtain ⟨occurrences, hlist, hpairwise, -⟩ := hbindings hnone
    have hbs : t.bindings member = .ok [⟨a, [0, 1, 0], x⟩, ⟨a, [0, 1, 0], .null⟩,
      ⟨a, [0, 1, 0], .null⟩] := rfl
    have hlength := congrArg List.length (Except.ok.inj (hlist.symm.trans hbs))
    exact ⟨occurrences, hlist, by simpa using hlength, hpairwise⟩

end CheckedCurry.Ty
