import CheckedCurry.Proofs.Ty.Fitting
import CheckedCurry.Proofs.Ty.Vocabulary
import CheckedCurry.Proofs.Value.Spread

/-!
# The names of a value are true of it

The names of a value are put together as texts: the names that inner values have in common are found
by comparing texts, and the name of a type with parameters is joined from the names of its
parameters.  Since texts tell types apart, all of this is about types, of which the value is a
member.

- `Ty.Named`: names that are texts of types, in the order of a vocabulary, that values fit.
- `named_narrow`, `named_commonNames`: the names that values have in common.
- `named_namesBy`: the names from one type of the environment.
- `named_namesWithin`: all names, by induction on the depth.
- `exists_name_of_isMember`: no type of the environment that the value is a member of is left out.
- `names_true`: every name of a value is the text of a type that it is a member of.
-/

namespace CheckedCurry.Ty

variable [Host]

variable {environment types : List Ty} {t : Ty} {v first : Value} {vs items : List Value}
  {P : Value → Prop} {names common : List String} {namesOf : Value → Attempt (List String)}

/-! ## Names that are true -/

/-- A value fits a type, whatever type variables are read as. -/
abbrev Holds (t : Ty) (v : Value) : Prop := t.Fits (fun _ _ => True) v

theorem unknown_holds (v : Value) : unknown.Holds v := by
  rw [Holds, unknown, Fits]
  · rfl
  all_goals nofun

/-- Names are texts of types, in the order in which these are listed and without repetitions, that
all values with a property fit. -/
def Named (types : List Ty) (P : Value → Prop) (names : List String) : Prop :=
  ∃ ts : List Ty, ts.Sublist types ∧ names = ts.map text ∧ ∀ t ∈ ts, ∀ v, P v → t.Holds v

theorem named_nil (types : List Ty) (P : Value → Prop) : Named types P [] :=
  ⟨[], List.nil_sublist types, rfl, by simp⟩

/-- Where nothing better is known there is one name, which is true of every value. -/
theorem named_unknown (types : List Ty) (P : Value → Prop) :
    Named (unknown :: types) P [unknownName] :=
  ⟨[unknown], by simp, rfl, fun t ht v _ => by
    rw [List.mem_singleton.mp ht]
    exact unknown_holds v⟩

/-- Types are told apart by their texts. -/
def ToldApart (types : List Ty) : Prop := ∀ t ∈ types, ∀ u ∈ types, t.text = u.text → t = u

omit [Host] in
/-- Types that are built from an environment are. -/
theorem toldApart (henv : Readable environment)
    (h : ∀ t ∈ types, BuiltFrom environment t) : ToldApart types :=
  fun t ht u hu => (h t ht).eq_of_text_eq henv (h u hu)

/-- The names that are found again are true of what they are found for. -/
theorem Named.filter (happart : ToldApart types) (hcommon : Named types P common)
    (hnames : Named types (· = v) names) :
    Named types (fun w => P w ∨ w = v) (common.filter names.contains) := by
  obtain ⟨ts, hts, rfl, hP⟩ := hcommon
  obtain ⟨us, hus, rfl, hv⟩ := hnames
  refine ⟨ts.filter ((us.map text).contains ∘ text), List.filter_sublist.trans hts,
    List.filter_map, fun t ht w hw => ?_⟩
  obtain ⟨ht, hfound⟩ := List.mem_filter.mp ht
  rcases hw with hw | rfl
  · exact hP t ht w hw
  · obtain ⟨u, hu, htext⟩ := List.mem_map.mp (List.contains_iff_mem.mp hfound)
    obtain rfl := happart u (hus.subset hu) t (hts.subset ht) htext
    exact hv u hu w rfl

/-! ## Common names -/

/-- The names that are left after more values are true of these too. -/
theorem named_narrow (happart : ToldApart types)
    (hnamesOf : ∀ v names, namesOf v = .ok names → Named types (· = v) names)
    (hcommon : Named types P common) (h : narrow namesOf first vs common = .ok names) :
    Named types (fun w => P w ∨ w ∈ vs) names := by
  induction vs generalizing common P with
  | nil =>
    obtain rfl := Except.ok.inj h
    obtain ⟨ts, hts, rfl, hP⟩ := hcommon
    exact ⟨ts, hts, rfl, fun t ht w hw => hP t ht w (by simpa using hw)⟩
  | cons v vs ih =>
    rw [narrow] at h
    split at h
    · next hempty =>
      obtain rfl := Except.ok.inj h
      rw [List.isEmpty_iff.mp hempty]
      exact named_nil types _
    · split at h
      · obtain rfl := Except.ok.inj h
        exact named_nil types _
      · obtain ⟨others, hothers, h⟩ := bind_eq_ok.mp h
        obtain ⟨ts, hts, rfl, hP⟩ := ih (hcommon.filter happart (hnamesOf v others hothers)) h
        refine ⟨ts, hts, rfl, fun t ht w hw => hP t ht w ?_⟩
        rcases hw with hw | hw
        · exact .inl (.inl hw)
        · rcases List.mem_cons.mp hw with rfl | hw
          · exact .inl (.inr rfl)
          · exact .inr hw

/-- The names that a list of values has in common are true of each of them. -/
theorem named_commonNames (happart : ToldApart types)
    (hnamesOf : ∀ v names, namesOf v = .ok names → Named types (· = v) names)
    (h : commonNames namesOf items = .ok names) :
    Named (unknown :: types) (· ∈ items) names := by
  cases items with
  | nil =>
    obtain rfl := Except.ok.inj h
    exact named_unknown types _
  | cons v vs =>
    obtain ⟨own, hown, h⟩ := bind_eq_ok.mp h
    obtain ⟨common, hcommon, h⟩ := bind_eq_ok.mp h
    obtain rfl := Except.ok.inj h
    split
    · exact named_unknown types _
    · obtain ⟨ts, hts, rfl, hall⟩ := named_narrow happart hnamesOf (hnamesOf v own hown) hcommon
      exact ⟨ts, hts.cons unknown, rfl, fun t ht w hw => hall t ht w (List.mem_cons.mp hw)⟩

/-! ## Names of types with parameters -/

omit [Host] in
/-- A name is put in parentheses exactly if its type has parameters: only then it has spaces. -/
theorem BuiltFrom.parenthesizeWords_text (henv : Readable environment)
    (h : BuiltFrom environment t) :
    parenthesizeWords t.text = parenthesize t.needsParens t.text := by
  have hword {name : String} (hname : IsWord name) : name.toList.contains ' ' = false := by
    rw [List.contains_eq_mem]
    exact decide_eq_false fun hspace => absurd (hname.2 ' ' hspace) (by decide)
  have hspaces : t.text.toList.contains ' ' = t.needsParens := by
    cases h with
    | unknown => decide
    | nullary hn =>
      rw [text]
      exact hword (henv.isWord hn rfl)
    | @applied c given ps hc _ _ =>
      cases ps with
      | nil =>
        rw [text_applied, textParams_nil, String.append_empty]
        exact hword (henv.isWord hc rfl)
      | cons p ps => simp [needsParens]
  rw [parenthesizeWords, hspaces]

omit [Host] in
/-- The name that is joined from the names of parameters is the text of the type. -/
theorem joined_eq_text (henv : Readable environment) (c : Constructor) {ps : List Ty}
    (hps : ∀ p ∈ ps, BuiltFrom environment p) :
    " ".intercalate (c.name :: (ps.map text).map parenthesizeWords) = (applied c ps).text := by
  have hparams : (ps.map text).map parenthesizeWords =
      ps.map fun p => parenthesize p.needsParens p.text := by
    rw [List.map_map]
    exact List.map_congr_left fun p hp => (hps p hp).parenthesizeWords_text henv
  rw [hparams, ← String.toList_inj, Text.toList_intercalate, text_applied, String.toList_append]
  congr 1
  clear hparams hps
  induction ps with
  | nil => simp
  | cons p ps ih =>
    rw [List.map_cons, List.flatMap_cons, ih, textParams_cons, String.toList_append,
      String.toList_append]

omit [Host] in
theorem appliedNames_eq (henv : Readable environment) (c : Constructor) {tss : List (List Ty)}
    (htss : ∀ ps ∈ choices tss, ∀ p ∈ ps, BuiltFrom environment p) :
    appliedNames c (tss.map (List.map text)) = ((choices tss).map (applied c)).map text := by
  rw [appliedNames, choices_map, List.map_map, List.map_map]
  exact List.map_congr_left fun ps hps => joined_eq_text henv c (htss ps hps)

/-- The names for each parameter are texts of types, and every choice of these types is true of what
the parameters look at. -/
theorem exists_types_inside {sources : List Value} {perParam : List (List String)}
    (h : List.Forall₂ (fun source names => ∃ items, source.elements = .ok items ∧
      Named types (· ∈ items) names) sources perParam) :
    ∃ tss : List (List Ty), perParam = tss.map (List.map text) ∧
      tss.length = sources.length ∧ (∀ ts ∈ tss, ts.Sublist types) ∧
      ∀ ps ∈ choices tss, FitsInside (fun _ _ => True) ps sources := by
  induction h with
  | nil =>
    refine ⟨[], rfl, rfl, by simp, fun ps hps => ?_⟩
    rw [List.mem_singleton.mp hps, FitsInside]
    · trivial
    all_goals nofun
  | cons hnames _ ih =>
    obtain ⟨items, hitems, ts, hts, rfl, hall⟩ := hnames
    obtain ⟨tss, rfl, hlen, hsub, hinside⟩ := ih
    refine ⟨ts :: tss, rfl, congrArg (· + 1) hlen, List.forall_mem_cons.mpr ⟨hts, hsub⟩,
      fun ps hps => ?_⟩
    rw [choices, List.mem_flatMap] at hps
    obtain ⟨p, hp, hps⟩ := hps
    obtain ⟨qs, hqs, rfl⟩ := List.mem_map.mp hps
    rw [FitsInside]
    exact ⟨⟨items, hitems, fun w hw => hall p hp w hw⟩, hinside qs hqs⟩

/-- The names that one type of an environment gives a value are true of it. -/
theorem named_namesBy (henv : Readable environment)
    (hbuilt : ∀ u ∈ types, BuiltFrom environment u) (ht : t ∈ environment)
    (hnamesOf : ∀ v names, namesOf v = .ok names → Named types (· = v) names)
    (h : namesBy namesOf v t = .ok names) : Named (headed types t) (· = v) names := by
  have hlisted := henv.listed t ht
  cases t with
  | nullary n =>
    obtain ⟨passed, hpassed, h⟩ := bind_eq_ok.mp h
    obtain rfl := Except.ok.inj h
    cases passed with
    | false => exact named_nil _ _
    | true =>
      refine ⟨[nullary n], List.Sublist.refl _, rfl, fun u hu w hw => ?_⟩
      rw [List.mem_singleton.mp hu, hw]
      exact fits_of_isMember_nullary hpassed
  | applied c given =>
    obtain ⟨passed, hpassed, h⟩ := bind_eq_ok.mp h
    cases passed with
    | false =>
      obtain rfl := Except.ok.inj h
      exact named_nil _ _
    | true =>
      obtain ⟨sources, hsources, h⟩ := bind_eq_ok.mp h
      obtain ⟨perParam, hperParam, h⟩ := bind_eq_ok.mp h
      obtain rfl := Except.ok.inj h
      have hcommon : List.Forall₂ (fun source names => ∃ items, source.elements = .ok items ∧
          Named (unknown :: types) (· ∈ items) names) sources perParam := by
        refine (mapM_eq_ok_iff.mp hperParam).imp fun source names hnames => ?_
        obtain ⟨items, hitems, hnames⟩ := bind_eq_ok.mp hnames
        exact ⟨items, Value.elements_of_spread hitems,
          named_commonNames (toldApart henv hbuilt) hnamesOf hnames⟩
      obtain ⟨tss, rfl, hlen, hsub, hinside⟩ := exists_types_inside hcommon
      have hlen := hlen.trans (mapM_eq_ok_iff.mp hsources).length_eq.symm
      have hchoices := choices_sublist_const hlen hsub
      refine ⟨_, hchoices.map (applied c), appliedNames_eq henv c fun ps hps =>
        (builtFrom_of_mem_choices hbuilt (hchoices.subset hps)).2, fun u hu w hw => ?_⟩
      obtain ⟨ps, hps, rfl⟩ := List.mem_map.mp hu
      rw [Holds, Fits, hw]
      exact ⟨hpassed, sources, hsources, hinside ps hps⟩
  | _ => cases hlisted

/-! ## All names -/

theorem Named.append {types' : List Ty} {names' : List String} (h : Named types P names)
    (h' : Named types' P names') : Named (types ++ types') P (names ++ names') := by
  obtain ⟨ts, hts, rfl, hP⟩ := h
  obtain ⟨us, hus, rfl, hP'⟩ := h'
  exact ⟨ts ++ us, hts.append hus, List.map_append.symm,
    List.forall_mem_append.mpr ⟨hP, hP'⟩⟩

/-- The names from several types of an environment, one after the other. -/
theorem named_flatten (henv : Readable environment)
    (hbuilt : ∀ u ∈ types, BuiltFrom environment u)
    (hnamesOf : ∀ v names, namesOf v = .ok names → Named types (· = v) names) {heads : List Ty}
    {perHead : List (List String)} (hheads : ∀ t ∈ heads, t ∈ environment)
    (h : List.Forall₂ (fun t names => namesBy namesOf v t = .ok names) heads perHead) :
    Named (heads.flatMap (headed types)) (· = v) perHead.flatten := by
  induction h with
  | nil => exact named_nil _ _
  | cons hnames _ ih =>
    obtain ⟨ht, hheads⟩ := List.forall_mem_cons.mp hheads
    exact (named_namesBy henv hbuilt ht hnamesOf hnames).append (ih hheads)

/-- **All names of a value are true of it.**  The induction is on the depth: the types that inner
values are named by are the parameters of the types that the value is named by. -/
theorem named_namesWithin (henv : Readable environment) (depth : Nat) (v : Value)
    (names : List String) (h : namesWithin environment depth v = .ok names) :
    Named (vocabulary environment depth) (· = v) names := by
  induction depth generalizing v names with
  | zero => cases h
  | succ depth ih =>
    obtain ⟨perHead, hperHead, h⟩ := bind_eq_ok.mp h
    obtain rfl := Except.ok.inj h
    exact named_flatten henv (fun u hu => builtFrom_of_mem_vocabulary henv hu) ih (fun t ht => ht)
      (mapM_eq_ok_iff.mp hperHead)

/-! ## No type is left out -/

omit [Host] in
/-- Values always have a name in common. -/
theorem commonNames_ne_nil (h : commonNames namesOf items = .ok names) : names ≠ [] := by
  cases items with
  | nil =>
    obtain rfl := Except.ok.inj h
    exact List.cons_ne_nil _ _
  | cons v vs =>
    obtain ⟨own, -, h⟩ := bind_eq_ok.mp h
    obtain ⟨common, -, h⟩ := bind_eq_ok.mp h
    obtain rfl := Except.ok.inj h
    split
    · exact List.cons_ne_nil _ _
    · next hempty => exact fun hnil => hempty (List.isEmpty_iff.mpr hnil)

/-- A type that the value is a member of gives it a name. -/
theorem namesBy_ne_nil (ht : t.isListed = true) (hmember : t.isMember v = .ok true)
    (h : namesBy namesOf v t = .ok names) : names ≠ [] := by
  cases t with
  | nullary n =>
    obtain ⟨passed, hpassed, h⟩ := bind_eq_ok.mp h
    obtain rfl : passed = true := Except.ok.inj (hpassed.symm.trans hmember)
    obtain rfl := Except.ok.inj h
    exact List.cons_ne_nil _ _
  | applied c given =>
    obtain ⟨passed, hpassed, h⟩ := bind_eq_ok.mp h
    obtain rfl : passed = true := Except.ok.inj (hpassed.symm.trans (test_of_isMember hmember))
    obtain ⟨sources, -, h⟩ := bind_eq_ok.mp h
    obtain ⟨perParam, hperParam, h⟩ := bind_eq_ok.mp h
    obtain rfl := Except.ok.inj h
    have hnames : ∀ common ∈ perParam, common ≠ [] := by
      intro common hcommon
      obtain ⟨source, h⟩ := exists_of_mem_mapM hperParam hcommon
      obtain ⟨items, -, h⟩ := bind_eq_ok.mp h
      exact commonNames_ne_nil h
    exact fun hnil => choices_ne_nil hnames (List.map_eq_nil_iff.mp hnil)
  | _ => cases ht

/-- Every type of an environment that a value is a member of is among its names, with parameters of
its own. -/
theorem exists_name_of_isMember (henv : Readable environment) {depth : Nat} (ht : t ∈ environment)
    (hmember : t.isMember v = .ok true) (h : namesWithin environment depth v = .ok names) :
    ∃ u, BuiltFrom environment u ∧ u.name? = t.name? ∧ u.text ∈ names := by
  cases depth with
  | zero => cases h
  | succ depth =>
    obtain ⟨perHead, hperHead, h⟩ := bind_eq_ok.mp h
    obtain rfl := Except.ok.inj h
    obtain ⟨own, hown, h⟩ := exists_of_mapM_eq_ok hperHead ht
    have hne : own ≠ [] := namesBy_ne_nil (henv.listed t ht) hmember h
    obtain ⟨name, hname⟩ := List.exists_mem_of_ne_nil own hne
    have hbuilt : ∀ u ∈ vocabulary environment depth, BuiltFrom environment u :=
      fun u hu => builtFrom_of_mem_vocabulary henv hu
    obtain ⟨us, hus, rfl, -⟩ := named_namesBy henv hbuilt ht (named_namesWithin henv depth) h
    obtain ⟨u, hu, rfl⟩ := List.mem_map.mp hname
    have hheaded := hus.subset hu
    exact ⟨u, builtFrom_of_mem_headed henv hbuilt ht hheaded, name?_of_mem_headed hheaded,
      List.mem_flatten_of_mem hown hname⟩

/-- **What a value is called it is.**  Every name in the list of names of a value is the text of a
type that is built from the types without parameters and the constructors of the standard
environment, and from the type that stands where nothing better is known.  The value is a member of
that type.  No type of the environment that the value is a member of is left out: it is named, with
what is known of its parameters. -/
theorem names_true (h : Ty.names Ty.environment v = .ok names) :
    (∀ name ∈ names,
      ∃ t, BuiltFrom Ty.environment t ∧ t.text = name ∧ t.isMember v = .ok true) ∧
    ∀ t ∈ Ty.environment, t.isMember v = .ok true →
      ∃ u, BuiltFrom Ty.environment u ∧ u.name? = t.name? ∧ u.text ∈ names := by
  refine ⟨?_, fun t ht hmember => exists_name_of_isMember readable_environment ht hmember h⟩
  obtain ⟨ts, hts, rfl, hv⟩ := named_namesWithin readable_environment _ v names h
  intro name hname
  obtain ⟨t, ht, rfl⟩ := List.mem_map.mp hname
  exact ⟨t, builtFrom_of_mem_vocabulary readable_environment (hts.subset ht), rfl,
    (hv t ht v rfl).isMember⟩

omit [Host] in
/-- Two successes: nothing is known of their failures, and the name is put in parentheses. -/
theorem names_true_nested : letI : Host := .bare
    let v : Value := .list [.right (.text "a"), .right (.text "b")]
    Ty.names Ty.environment v = .ok ["Array (Either ??? String)"] ∧
      (∃ t, BuiltFrom Ty.environment t ∧ t.text = "Array (Either ??? String)" ∧
        t.isMember v = .ok true) ∧
      (Ty.array unknown).isMember v = .ok true ∧
      ∃ u, BuiltFrom Ty.environment u ∧ u.name? = some "Array" ∧
        u.text ∈ ["Array (Either ??? String)"] := by
  let _ : Host := .bare
  intro v
  have hnames : Ty.names Ty.environment v = .ok ["Array (Either ??? String)"] := rfl
  have harray : (Ty.array unknown).isMember v = .ok true := rfl
  obtain ⟨htrue, hnamed⟩ := names_true hnames
  have hlisted : Ty.array unknown ∈ Ty.environment := by simp [Ty.environment]
  exact ⟨hnames, htrue _ (List.mem_singleton_self _), harray, hnamed _ hlisted harray⟩

end CheckedCurry.Ty
