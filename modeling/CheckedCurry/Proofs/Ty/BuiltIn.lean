import CheckedCurry.Proofs.Ty.Reach
import CheckedCurry.Proofs.Value.Contents
import CheckedCurry.Proofs.Value.Ordinary
import CheckedCurry.Ty.Names

/-!
# Built-in types and ordinary values

Types that are built from the types of the library take every ordinary value: their tests and
extractions answer, and so does the search for the names of its types, which ends because every step
goes to values with fewer layers.

- `Test.isBuiltIn`, `Ty.isBuiltIn`: the tests and the types, by recursion.
- `Test.answers_holds`, `exists_sources`: one test and the extractions of one constructor.
- `Reaches.ordinary`, `answers_of_isBuiltIn`: what is reached, and all that is asked of it.
- `answers_names`: the names of the types of an ordinary value.
-/

namespace CheckedCurry

open Attempt

/-! ## Tests -/

namespace Number

variable {n : Number}

theorem exists_isValid (h : n.isTractable = true) : ∃ b, n.isValid = .ok b := by
  cases n with
  | ratio q => exact ⟨true, by rw [isValid, toFloat?_ratio h] <;> first | rfl | nofun⟩
  | _ => exact ⟨_, rfl⟩

theorem exists_isFinite (h : n.isTractable = true) : ∃ b, n.isFinite = .ok b := by
  cases n with
  | ratio q =>
    exact ⟨(Binary64.ofRat false q).isFinite, by
      rw [isFinite, toFloat?_ratio h] <;> first | rfl | nofun⟩
  | _ => exact ⟨_, rfl⟩

theorem exists_isInteger (h : n.isTractable = true) : ∃ b, n.isInteger = .ok b := by
  obtain ⟨finite, hfinite⟩ := exists_isFinite h
  unfold isInteger
  rw [hfinite]
  cases finite with
  | false => exact ⟨false, rfl⟩
  | true => cases n.exact <;> exact ⟨_, rfl⟩

end Number

namespace Test

/-- A property of numbers can be asked of every value whose number it answers for. -/
theorem answers_onNumber [Host] {property : Number → Except NumberFault Bool} {v : Value}
    (hv : v.isOrdinary = true)
    (h : ∀ n : Number, n.isTractable = true → ∃ b, property n = .ok b) :
    (onNumber property v).Answers := by
  unfold onNumber Value.numberOfKind?
  by_cases hkind : v.kind = .number
  · obtain ⟨n, hn⟩ := Value.exists_number_of_kind hkind
    obtain ⟨b, hb⟩ := h n (Value.isTractable_of_core hv hn)
    rw [if_pos hkind, hn]
    exact ⟨b, by simp only [hb, Attempt.ofNumber]⟩
  · rw [if_neg hkind]
    exact answers_ok false

/-- Whether a test is one of the library's own. -/
def isBuiltIn : Test → Bool
  | custom _ => false
  | _ => true

/-- Every built-in test answers for an ordinary value. -/
theorem answers_holds [Host] {test : Test} (htest : test.isBuiltIn = true) {v : Value}
    (hv : v.isOrdinary = true) : (test.holds v).Answers := by
  cases test with
  | valid => exact answers_onNumber hv fun _ => Number.exists_isValid
  | finite => exact answers_onNumber hv fun _ => Number.exists_isFinite
  | nonZero =>
    refine answers_onNumber hv fun n hn => ?_
    obtain ⟨b, hb⟩ := Number.exists_isFinite hn
    exact ⟨_, by rw [hb]; rfl⟩
  | integer => exact answers_onNumber hv fun _ => Number.exists_isInteger
  | natural =>
    refine answers_onNumber hv fun n hn => ?_
    obtain ⟨b, hb⟩ := Number.exists_isInteger hn
    exact ⟨_, by rw [hb]; rfl⟩
  | stringMap =>
    simp only [holds]
    split <;> exact answers_ok _
  | kind _ | declares _ => exact answers_ok _
  | custom _ => cases htest

/-- A built-in test of a quotient that is too large answers, or it fails as showing the quotient
does. -/
theorem holds_quotient [Host] {test : Test} (htest : test.isBuiltIn = true) {q : Rat}
    (h : (Number.ratio q).isTractable = false) :
    (test.holds (.number (.ratio q))).Answers ∨
      test.holds (.number (.ratio q)) = .error (.basic (.number .quotientTooLarge)) := by
  cases test with
  | valid | finite | nonZero | integer | natural =>
    right
    show Attempt.ofNumber _ = _
    simp only [Number.isValid, Number.isFinite, Number.isInteger, Number.toFloat?_quotient h]
    rfl
  | kind _ | declares _ | stringMap => exact .inl ⟨_, rfl⟩
  | custom _ => cases htest

end Test

/-! ## Attributes of ordinary values -/

namespace Value

variable {v : Value}

/-- A flag and the content of an object that has both. -/
theorem exists_flag_content [Host] {shape : Shape} {attrs : List (String × Value)}
    {base : Option (Base Value)} {name : String} (h : (object shape attrs base).isOrdinary = true)
    (hname : (attrs.lookup name).isSome) (hvalue : (attrs.lookup "value").isSome) :
    ∃ flag w, (object shape attrs base).readAttribute name = .ok flag ∧
      (object shape attrs base).readAttribute "value" = .ok w ∧ w.isOrdinary = true ∧
      w.layers < (object shape attrs base).layers := by
  obtain ⟨flag, hflag⟩ := Option.isSome_iff_exists.mp hname
  obtain ⟨w, hw⟩ := Option.isSome_iff_exists.mp hvalue
  exact ⟨flag, w, readAttribute_of_lookup hflag, readAttribute_of_lookup hw,
    isOrdinary_of_lookup (attributes_of_isOrdinary h).2 hw, layers_lt_of_lookup hw⟩

/-- An ordinary value that declares itself an optional value says whether it is present, and has a
content if it is. -/
theorem exists_present [Host] (hv : v.isOrdinary = true) (h : v.identifier? = some maybeIdentifier) :
    ∃ present, v.readAttribute "is_just" = .ok present ∧ (present.truth = true →
      ∃ w, v.readAttribute "value" = .ok w ∧ w.isOrdinary = true ∧ w.layers < v.layers) := by
  cases v with
  | nothing => exact ⟨no, rfl, fun hyes => absurd hyes (by decide)⟩
  | just w =>
    rw [isOrdinary] at hv
    exact ⟨yes, rfl, fun _ => ⟨w, rfl, hv, layers_lt_content (.inl rfl)⟩⟩
  | object shape attrs base =>
    have htag : shape.tag.identifier? = some maybeIdentifier := h
    have hdeclared := (attributes_of_isOrdinary hv).1
    rw [hasDeclared, htag] at hdeclared
    obtain ⟨hpresent, hvalue⟩ :
        (attrs.lookup "is_just").isSome ∧ (attrs.lookup "value").isSome := by
      simpa using (Bool.and_eq_true_iff.mp hdeclared).1
    obtain ⟨present, w, hpresent, hw⟩ := exists_flag_content hv hpresent hvalue
    exact ⟨present, hpresent, fun _ => ⟨w, hw⟩⟩
  | left _ | right _ =>
    have h : some eitherIdentifier = some maybeIdentifier := h
    exact absurd h (by decide)
  | _ => cases h

/-- An ordinary value that declares itself a failure or a success says which, and has a content. -/
theorem exists_side [Host] (hv : v.isOrdinary = true) (h : v.identifier? = some eitherIdentifier) :
    ∃ side w, v.readAttribute "is_right" = .ok side ∧ v.readAttribute "value" = .ok w ∧
      w.isOrdinary = true ∧ w.layers < v.layers := by
  cases v with
  | left w =>
    rw [isOrdinary] at hv
    exact ⟨no, w, rfl, rfl, hv, layers_lt_content (.inr (.inl rfl))⟩
  | right w =>
    rw [isOrdinary] at hv
    exact ⟨yes, w, rfl, rfl, hv, layers_lt_content (.inr (.inr rfl))⟩
  | object shape attrs base =>
    have htag : shape.tag.identifier? = some eitherIdentifier := h
    have hdeclared := (attributes_of_isOrdinary hv).1
    rw [hasDeclared, htag] at hdeclared
    obtain ⟨hside, hvalue⟩ :
        (attrs.lookup "is_right").isSome ∧ (attrs.lookup "value").isSome := by
      simpa using (Bool.and_eq_true_iff.mp hdeclared).2
    exact exists_flag_content hv hside hvalue
  | nothing | just _ =>
    have h : some maybeIdentifier = some eitherIdentifier := h
    exact absurd h (by decide)
  | _ => cases h

end Value

namespace Ty

/-! ## Built-in types -/

mutual

/-- Whether a type is built with no tests and no constructors but those of the library. -/
def isBuiltIn : Ty → Bool
  | nullary n => n.test.isBuiltIn
  | applied c params => Constructor.standard.contains c && areBuiltIn params
  | _ => true

def areBuiltIn : List Ty → Bool
  | [] => true
  | t :: ts => isBuiltIn t && areBuiltIn ts

end

theorem areBuiltIn_iff {ts : List Ty} : areBuiltIn ts = true ↔ ∀ t ∈ ts, t.isBuiltIn = true := by
  induction ts with
  | nil => simp [areBuiltIn]
  | cons t ts ih => simp [areBuiltIn, ih]

theorem isBuiltIn_nullary {n : Nullary} :
    (nullary n).isBuiltIn = true ↔ n.test.isBuiltIn = true := by
  rw [isBuiltIn]

theorem isBuiltIn_applied {c : Constructor} {params : List Ty} :
    (applied c params).isBuiltIn = true ↔
      c ∈ Constructor.standard ∧ ∀ p ∈ params, p.isBuiltIn = true := by
  rw [isBuiltIn, Bool.and_eq_true, List.contains_iff_mem, areBuiltIn_iff]

/-- The tests of the library's constructors are built in. -/
theorem isBuiltIn_test {c : Constructor} (hc : c ∈ Constructor.standard) :
    c.test.isBuiltIn = true := by
  revert c
  decide

/-- The types that rejected values are described by are built in. -/
theorem isBuiltIn_of_mem_environment : ∀ t ∈ environment, t.isBuiltIn = true := by decide

/-! ## Looking into ordinary values -/

variable {t : Ty} {v : Value}

/-- A source of ordinary values that have fewer layers than the value they are in. -/
def IsInner [Host] (v source : Value) : Prop :=
  ∃ items, source.elements = .ok items ∧ source.spread = .ok items ∧
    ∀ x ∈ items, x.isOrdinary = true ∧ x.layers < v.layers

variable [Host]

theorem isInner_nil (v : Value) : IsInner v (.list []) :=
  ⟨[], rfl, rfl, fun _ hx => absurd hx List.not_mem_nil⟩

theorem isInner_singleton {w : Value} (hw : w.isOrdinary = true) (hlt : w.layers < v.layers) :
    IsInner v (.list [w]) :=
  ⟨[w], rfl, rfl, List.forall_mem_singleton.mpr ⟨hw, hlt⟩⟩

theorem exists_source_present (hv : v.isOrdinary = true)
    (h : v.identifier? = some maybeIdentifier) :
    ∃ source, Extract.present.source v = .ok source ∧ IsInner v source := by
  obtain ⟨present, hpresent, hcontent⟩ := Value.exists_present hv h
  by_cases htruth : present.truth = true
  · obtain ⟨w, hw, hordinary, hlt⟩ := hcontent htruth
    refine ⟨.list [w], bind_eq_ok.mpr ⟨present, hpresent, ?_⟩, isInner_singleton hordinary hlt⟩
    rw [if_pos htruth]
    exact bind_eq_ok.mpr ⟨w, hw, rfl⟩
  · refine ⟨.list [], bind_eq_ok.mpr ⟨present, hpresent, ?_⟩, isInner_nil v⟩
    rw [if_neg htruth]
    rfl

theorem exists_source_side (hv : v.isOrdinary = true) (h : v.identifier? = some eitherIdentifier)
    {e : Extract} (he : e = .leftValue ∨ e = .rightValue) :
    ∃ source, e.source v = .ok source ∧ IsInner v source := by
  obtain ⟨side, w, hside, hw, hordinary, hlt⟩ := Value.exists_side hv h
  have hcontent : IsInner v (.list [w]) := isInner_singleton hordinary hlt
  -- one of the two looks at the content, and the other one at nothing
  rcases he with rfl | rfl <;> by_cases htruth : side.truth = true
  · refine ⟨.list [], bind_eq_ok.mpr ⟨side, hside, ?_⟩, isInner_nil v⟩
    rw [if_pos htruth]
    rfl
  · refine ⟨.list [w], bind_eq_ok.mpr ⟨side, hside, ?_⟩, hcontent⟩
    rw [if_neg htruth]
    exact bind_eq_ok.mpr ⟨w, hw, rfl⟩
  · refine ⟨.list [w], bind_eq_ok.mpr ⟨side, hside, ?_⟩, hcontent⟩
    rw [if_pos htruth]
    exact bind_eq_ok.mpr ⟨w, hw, rfl⟩
  · refine ⟨.list [], bind_eq_ok.mpr ⟨side, hside, ?_⟩, isInner_nil v⟩
    rw [if_neg htruth]
    rfl

/-- All parameters can look into an ordinary value that passes the test of a constructor. -/
theorem exists_sources {c : Constructor} (hc : c ∈ Constructor.standard) (params : List Ty)
    (hv : v.isOrdinary = true) (hpass : c.test.holds v = .ok true) :
    ∃ sources, (applied c params).sources v = .ok sources ∧
      ∀ source ∈ sources, IsInner v source := by
  refine exists_mapM fun e he => ?_
  simp only [Constructor.standard, List.mem_cons, List.not_mem_nil, or_false] at hc
  rcases hc with rfl | rfl | rfl | rfl
  · -- arrays
    obtain rfl := List.mem_singleton.mp he
    have hkind : v.kind = .array := of_decide_eq_true (Except.ok.inj hpass)
    obtain ⟨items, hsequence, helements, -⟩ := Value.exists_items_of_kind hkind
    have hspread : v.spread = .ok items :=
      (Value.spread_of_isHeld (Value.isHeld_of_isOrdinary hv)).trans helements
    refine ⟨v, rfl, items, helements, hspread, fun x hx => ⟨?_, ?_⟩⟩
    · exact Value.isOrdinary_of_mem_sequence? hv hsequence hx
    · exact Value.layers_lt_of_mem_sequence? hkind hsequence hx
  · -- maps
    obtain rfl := List.mem_singleton.mp he
    cases v with
    | map entries =>
      refine ⟨.list (entries.map (·.2)), rfl, _, rfl, rfl, ?_⟩
      rw [List.forall_mem_map]
      intro e he
      exact ⟨Value.isOrdinary_of_mem_entries hv he, Value.layers_lt_of_mem_entries he⟩
    | _ => cases hpass
  · -- optional values
    obtain rfl := List.mem_singleton.mp he
    exact exists_source_present hv (beq_iff_eq.mp (Except.ok.inj hpass))
  · -- failures and successes
    have he : e = .leftValue ∨ e = .rightValue := by simpa [Constructor.either] using he
    exact exists_source_side hv (beq_iff_eq.mp (Except.ok.inj hpass)) he

/-- The test of a built-in type answers for an ordinary value. -/
theorem answers_test (ht : t.isBuiltIn = true) (hv : v.isOrdinary = true) :
    (t.test v).Answers := by
  cases t with
  | nullary n => exact Test.answers_holds (isBuiltIn_nullary.mp ht) hv
  | applied c params =>
    exact Test.answers_holds (isBuiltIn_test (isBuiltIn_applied.mp ht).1) hv
  | any _ | accessible _ | representative _ | var _ => exact answers_ok _

/-- A value that does not pass the test of a type is a misfit as a whole, if the test answers. -/
theorem misfit?_of_test (h : t.test v ≠ .ok true) :
    t.misfit? v = (t.test v).map fun _ => some ⟨[], v, t⟩ := by
  cases t with
  | applied c params =>
    have h : c.test.holds v ≠ .ok true := h
    show misfit? (applied c params) v = (c.test.holds v).map _
    rw [misfit?]
    cases hpassed : c.test.holds v with
    | error f => rfl
    | ok passed =>
      cases passed with
      | true => exact absurd hpassed h
      | false => rfl
  | any _ | accessible _ | representative _ | var _ | nullary _ =>
    unfold misfit?
    cases hpassed : test _ v with
    | error f => rfl
    | ok passed =>
      cases passed with
      | true => exact absurd hpassed h
      | false => rfl

/-- What a built-in type reaches in an ordinary value is ordinary again, and so is its type. -/
theorem Reaches.ordinary {u : Ty} {w : Value} {place : Place} (h : t.Reaches v place u w)
    (ht : t.isBuiltIn = true) (hv : v.isOrdinary = true) :
    u.isBuiltIn = true ∧ w.isOrdinary = true := by
  induction h with
  | here => exact ⟨ht, hv⟩
  | inside passes extracted param looksAt elements element _ ih =>
    obtain ⟨hc, hparams⟩ := isBuiltIn_applied.mp ht
    obtain ⟨sources, hsources, hinner⟩ := exists_sources hc _ hv passes
    obtain rfl := Except.ok.inj (hsources.symm.trans extracted)
    obtain ⟨items, hitems, -, hall⟩ := hinner _ (List.mem_of_getElem? looksAt)
    obtain rfl := Except.ok.inj (hitems.symm.trans elements)
    exact ih (hparams _ (List.mem_of_getElem? param)) (hall _ (List.mem_of_getElem? element)).1

/-- All that a built-in type asks of an ordinary value is answered. -/
theorem answers_of_isBuiltIn (ht : t.isBuiltIn = true) (hv : v.isOrdinary = true) :
    t.Answers v where
  tests _ u _ h := answers_test (h.ordinary ht hv).1 (h.ordinary ht hv).2
  extractions _ c params w h hpass := by
    obtain ⟨hu, hw⟩ := h.ordinary ht hv
    obtain ⟨sources, hsources, hinner⟩ := exists_sources (isBuiltIn_applied.mp hu).1 params hw hpass
    refine ⟨sources, hsources, fun i p source _ hsource => ?_⟩
    obtain ⟨items, hitems, -⟩ := hinner source (List.mem_of_getElem? hsource)
    exact ⟨items, hitems⟩

theorem answers_isMember (ht : t.isBuiltIn = true) (hv : v.isOrdinary = true) :
    (t.isMember v).Answers :=
  Answers.map (exists_misfit? t v (answers_of_isBuiltIn ht hv)) Option.isNone

/-! ## Names -/

section Names

variable {namesOf : Value → Attempt (List String)} {items : List Value}

omit [Host] in
theorem answers_narrow (first : Value) (h : ∀ x ∈ items, (namesOf x).Answers)
    (common : List String) : (narrow namesOf first items common).Answers := by
  induction items generalizing common with
  | nil => exact answers_ok common
  | cons x items ih =>
    obtain ⟨hx, hitems⟩ := List.forall_mem_cons.mp h
    rw [narrow]
    split
    · exact answers_ok common
    · split
      · exact answers_ok []
      · exact hx.bind fun others _ => ih hitems _

omit [Host] in
theorem answers_commonNames (h : ∀ x ∈ items, (namesOf x).Answers) :
    (commonNames namesOf items).Answers := by
  cases items with
  | nil => exact answers_ok _
  | cons x items =>
    obtain ⟨hx, hitems⟩ := List.forall_mem_cons.mp h
    exact hx.bind fun common _ => (answers_narrow x hitems common).map _

end Names

/-- One type names an ordinary value if all values with fewer layers can be named. -/
theorem answers_namesBy {namesOf : Value → Attempt (List String)} (ht : t.isBuiltIn = true)
    (hv : v.isOrdinary = true)
    (h : ∀ x : Value, x.isOrdinary = true → x.layers < v.layers → (namesOf x).Answers) :
    (namesBy namesOf v t).Answers := by
  cases t with
  | applied c params =>
    have hc := (isBuiltIn_applied.mp ht).1
    refine (Test.answers_holds (isBuiltIn_test hc) hv).bind fun passed hpassed => ?_
    cases passed with
    | false => exact answers_ok []
    | true =>
      obtain ⟨sources, hsources, hinner⟩ := exists_sources hc params hv hpassed
      refine Answers.bind ⟨sources, hsources⟩ fun sources' hsources' => ?_
      obtain rfl := Except.ok.inj (hsources.symm.trans hsources')
      refine (answers_mapM fun source hsource => ?_).map _
      obtain ⟨items, -, hitems, hall⟩ := hinner source hsource
      refine Answers.bind ⟨items, hitems⟩ fun items' hitems' => ?_
      obtain rfl := Except.ok.inj (hitems.symm.trans hitems')
      exact answers_commonNames fun x hx => h x (hall x hx).1 (hall x hx).2
  | any _ | accessible _ | representative _ | var _ | nullary _ =>
    exact (answers_isMember ht hv).map _

/-- The names of an ordinary value are found within as many steps as it has layers. -/
theorem answers_namesWithin {environment : List Ty}
    (henvironment : ∀ t ∈ environment, t.isBuiltIn = true) {depth : Nat} (hv : v.isOrdinary = true)
    (hdepth : v.layers ≤ depth) : (namesWithin environment depth v).Answers := by
  induction depth generalizing v with
  | zero => exact absurd v.layers_pos (Nat.not_lt.mpr hdepth)
  | succ depth ih =>
    refine (answers_mapM fun t ht => ?_).map _
    exact answers_namesBy (henvironment t ht) hv fun x hx hlt =>
      ih hx (Nat.le_of_lt_succ (Nat.lt_of_lt_of_le hlt hdepth))

/-- An ordinary value has names. -/
theorem answers_names {environment : List Ty}
    (henvironment : ∀ t ∈ environment, t.isBuiltIn = true) (hv : v.isOrdinary = true) :
    (names environment v).Answers :=
  answers_namesWithin henvironment hv (Nat.le_add_right_of_le v.layers_le_depth)

end Ty

end CheckedCurry
