import CheckedCurry.Identifier
import CheckedCurry.Proofs.Number.Digits
import CheckedCurry.Proofs.Text.Run

/-!
# Texts of identifiers

The grammar of identifiers is made of combinators, each of which takes as much of a text as it can
and steps back from a separator that nothing follows.  Whatever library they are from, if they do what
is documented, exactly the texts of one form are parsed, and every other text is a bare name.

- `Identifier.Writes`: a text is segments between slashes and a version, and writes an identifier.
- `Identifier.read_segmentBy_iff`, `Identifier.read_nextBy_iff`, `Identifier.read_versionBy_iff`: what
  each part of the grammar reads, and what it leaves.
- `Identifier.parse_grammar_iff`: exactly the texts that write an identifier are parsed.
- `Identifier.parts_read`: the law, for all texts and for all identifiers.
-/

namespace CheckedCurry.Identifier

open Digits (Spells)
open Text (EndsRun)

variable {P : Parsing} {s t name : String} {front ts : List String} {cs rest : List Char} {n : Nat}
  {i : Identifier}

/-! ## The grammar -/

/-- A segment is one or more characters, none of them a slash or an at sign. -/
def IsSegment (t : String) : Prop := t ≠ "" ∧ '/' ∉ t.toList ∧ '@' ∉ t.toList

instance (t : String) : Decidable (IsSegment t) := inferInstanceAs (Decidable (_ ∧ _))

/-- A text writes a version: no text writes zero, an at sign and digits write a number. -/
def WritesVersion (s : String) (n : Nat) : Prop :=
  s = "" ∧ n = 0 ∨ ∃ digits, s = "@" ++ digits ∧ Spells 10 digits.toList n

/-- The namespace of the segments before the last. -/
def spaceOf (front : List String) : Option String :=
  if front = [] then none else some ("/".intercalate front)

/-- A text writes an identifier: segments with slashes between them, then a version. -/
def Writes (s : String) (i : Identifier) : Prop :=
  ∃ front name suffix version, (∀ t ∈ front, IsSegment t) ∧ IsSegment name ∧
    WritesVersion suffix version ∧ s = "/".intercalate (front ++ [name]) ++ suffix ∧
    i = ⟨spaceOf front, name, version⟩

/-- An identifier is well-formed: its namespace is segments, its name is one, and its version is a
natural number. -/
structure WellFormed (i : Identifier) : Prop where
  space : ∃ front, (∀ t ∈ front, IsSegment t) ∧ i.space = spaceOf front
  name : IsSegment i.name
  version : 0 ≤ i.version

/-! ## Segments -/

theorem isInner_iff {c : Char} : isInner c = true ↔ c ≠ '/' ∧ c ≠ '@' := by
  simp [isInner]

theorem isSegment_iff : IsSegment t ↔ t.toList ≠ [] ∧ ∀ c ∈ t.toList, isInner c = true := by
  unfold IsSegment
  simp only [isInner_iff, ne_eq, String.toList_eq_nil_iff]
  refine and_congr_right fun _ => ⟨?_, ?_⟩
  · rintro ⟨hslash, hat⟩ c hc
    exact ⟨fun heq => hslash (heq ▸ hc), fun heq => hat (heq ▸ hc)⟩
  · intro h
    exact ⟨fun hc => (h _ hc).1 rfl, fun hc => (h _ hc).2 rfl⟩

/-- Exactly a segment that does not go on is read, and what follows it is left. -/
theorem read_segmentBy_iff (hP : P.Documented) :
    P.read (segmentBy P) cs = some (t, rest) ↔
      IsSegment t ∧ cs = t.toList ++ rest ∧ EndsRun isInner rest := by
  rw [segmentBy, hP.read_desc, hP.read_regex, CharRun.match?, isSegment_iff]
  constructor
  · intro h
    split at h
    · cases h
    · next hne =>
      obtain ⟨rfl, rfl⟩ := Prod.mk.inj (Option.some.inj h)
      rw [String.toList_ofList]
      exact ⟨⟨by simpa using hne, fun c hc => List.mem_takeWhile_imp hc⟩,
        List.takeWhile_append_dropWhile.symm, Text.endsRun_dropWhile isInner cs⟩
  · rintro ⟨⟨hne, hinner⟩, rfl, hends⟩
    rw [Text.takeWhile_run hinner hends, Text.dropWhile_run hinner hends, String.ofList_toList,
      if_neg (by simpa using hne)]

/-! ## Segments behind slashes -/

/-- Segments, each behind a slash. -/
def slashed (ts : List String) : List Char := ts.flatMap fun t => '/' :: t.toList

theorem slashed_cons (t : String) (ts : List String) :
    slashed (t :: ts) = '/' :: (t.toList ++ slashed ts) := List.flatMap_cons

/-- Segments with slashes between them are the first of them and the others behind slashes. -/
theorem toList_intercalate (t : String) (ts : List String) :
    ("/".intercalate (t :: ts)).toList = t.toList ++ slashed ts := Text.toList_intercalate "/" t ts

theorem endsRun_slashed_append (ts : List String) (h : EndsRun isInner rest) :
    EndsRun isInner (slashed ts ++ rest) := by
  cases ts with
  | nil => exact h
  | cons t ts => exact Text.endsRun_cons rfl _

/-- A parser behind a separator of one character reads what follows that character. -/
theorem read_behind_iff {α : Type} {c : Char} {r : α × List Char} (hP : P.Documented)
    (hs : s.toList = [c]) (p : P.Parser α) :
    P.read (P.andThen (P.string s) p) cs = some r ↔
      ∃ after, cs = c :: after ∧ P.read p after = some r := by
  rw [hP.read_andThen, hP.read_string, hs]
  cases cs with
  | nil => simp
  | cons d after =>
    by_cases h : c = d
    · simp [h]
    · simp [h, Ne.symm h]

/-- A segment behind a slash. -/
def nextBy (P : Parsing) : P.Parser String := P.andThen (P.string "/") (segmentBy P)

/-- Exactly a slash and a segment that does not go on are read. -/
theorem read_nextBy_iff (hP : P.Documented) :
    P.read (nextBy P) cs = some (t, rest) ↔
      IsSegment t ∧ cs = '/' :: (t.toList ++ rest) ∧ EndsRun isInner rest := by
  rw [nextBy, read_behind_iff hP (c := '/') rfl]
  simp only [read_segmentBy_iff hP]
  constructor
  · rintro ⟨after, rfl, ht, rfl, hends⟩
    exact ⟨ht, rfl, hends⟩
  · rintro ⟨ht, rfl, hends⟩
    exact ⟨_, rfl, ht, rfl, hends⟩

/-- Where no slash stands nothing is read. -/
theorem read_nextBy_none (hP : P.Documented) (h : cs.head? ≠ some '/') :
    P.read (nextBy P) cs = none := by
  rw [Option.eq_none_iff_forall_not_mem]
  rintro ⟨t, rest⟩ hread
  obtain ⟨-, rfl, -⟩ := (read_nextBy_iff hP).mp hread
  exact h rfl

/-- Segments behind slashes are read one after the other, and what follows them is left. -/
theorem repeats_slashed (hP : P.Documented) (hts : ∀ t ∈ ts, IsSegment t)
    (hends : EndsRun isInner rest) (h : rest.head? ≠ some '/') :
    P.Repeats (nextBy P) (slashed ts ++ rest) ts rest := by
  induction ts with
  | nil => exact .stop (read_nextBy_none hP h)
  | cons t ts ih =>
    obtain ⟨ht, hts⟩ := List.forall_mem_cons.mp hts
    refine .more ((read_nextBy_iff hP).mpr ⟨ht, ?_, endsRun_slashed_append ts hends⟩) (ih hts)
    rw [slashed_cons, List.cons_append, List.append_assoc]

/-- What is read one after the other is segments behind slashes. -/
theorem eq_of_repeats (hP : P.Documented) (h : P.Repeats (nextBy P) cs ts rest) :
    (∀ t ∈ ts, IsSegment t) ∧ cs = slashed ts ++ rest := by
  induction h with
  | stop => exact ⟨by simp, rfl⟩
  | @more cs next rest t ts hread _ ih =>
    obtain ⟨ht, rfl, -⟩ := (read_nextBy_iff hP).mp hread
    obtain ⟨hall, rfl⟩ := ih
    refine ⟨List.forall_mem_cons.mpr ⟨ht, hall⟩, ?_⟩
    rw [slashed_cons, List.cons_append, List.append_assoc]

/-- Reading segments behind slashes comes to an end: each of them takes a slash. -/
theorem exists_repeats (hP : P.Documented) (cs : List Char) :
    ∃ ts rest, P.Repeats (nextBy P) cs ts rest := by
  induction hn : cs.length using Nat.strong_induction_on generalizing cs with
  | _ n ih =>
    cases hread : P.read (nextBy P) cs with
    | none => exact ⟨[], cs, .stop hread⟩
    | some r =>
      obtain ⟨t, next⟩ := r
      obtain ⟨-, rfl, -⟩ := (read_nextBy_iff hP).mp hread
      obtain ⟨ts, rest, hrepeats⟩ := ih next.length (by simp at hn; omega) next rfl
      exact ⟨t :: ts, rest, .more hread hrepeats⟩

/-! ## Segments -/

/-- The segments at the front of a text. -/
def segmentsBy (P : Parsing) : P.Parser (List String) := P.sepBy (segmentBy P) (P.string "/") 1

/-- One or more segments with slashes between them are read, and what follows them is left. -/
theorem read_segmentsBy (hP : P.Documented) (hts : ∀ u ∈ t :: ts, IsSegment u)
    (hends : EndsRun isInner rest) (h : rest.head? ≠ some '/') :
    P.read (segmentsBy P) (("/".intercalate (t :: ts)).toList ++ rest) = some (t :: ts, rest) := by
  obtain ⟨ht, hts⟩ := List.forall_mem_cons.mp hts
  have hfirst : P.read (segmentBy P) (t.toList ++ (slashed ts ++ rest)) =
      some (t, slashed ts ++ rest) :=
    (read_segmentBy_iff hP).mpr ⟨ht, rfl, endsRun_slashed_append ts hends⟩
  rw [toList_intercalate, List.append_assoc, segmentsBy,
    hP.read_sepBy _ _ _ _ _ _ (.some hfirst (repeats_slashed hP hts hends h)), if_pos (by simp)]

/-- What is read as segments is one or more of them with slashes between them. -/
theorem eq_of_read_segmentsBy (hP : P.Documented) (h : P.read (segmentsBy P) cs = some (ts, rest)) :
    ts ≠ [] ∧ (∀ t ∈ ts, IsSegment t) ∧ cs = ("/".intercalate ts).toList ++ rest := by
  unfold segmentsBy at h
  cases hfirst : P.read (segmentBy P) cs with
  | none =>
    rw [hP.read_sepBy _ _ _ _ _ _ (.none hfirst)] at h
    simp at h
  | some r =>
    obtain ⟨t, next⟩ := r
    obtain ⟨us, after, hrepeats⟩ := exists_repeats hP next
    rw [hP.read_sepBy _ _ _ _ _ _ (.some hfirst hrepeats), if_pos (by simp)] at h
    obtain ⟨rfl, rfl⟩ := Prod.mk.inj (Option.some.inj h)
    obtain ⟨ht, rfl, -⟩ := (read_segmentBy_iff hP).mp hfirst
    obtain ⟨hall, rfl⟩ := eq_of_repeats hP hrepeats
    exact ⟨by simp, List.forall_mem_cons.mpr ⟨ht, hall⟩, by
      rw [toList_intercalate, List.append_assoc]⟩

/-! ## Versions -/

/-- The digits of radix ten are the decimal digits: letters count from ten on. -/
theorem isIn_ten_iff {c : Char} : Digits.isIn 10 c = true ↔ c.isDigit = true := by
  unfold Digits.isIn Digits.valueOf?
  by_cases hdigit : c.isDigit
  · have hle : c.toNat ≤ '9'.toNat := (Char.isDigit_iff_toNat.mp hdigit).2
    have hlt : c.toNat - '0'.toNat < 10 :=
      Nat.lt_of_le_of_lt (Nat.sub_le_sub_right hle _) (by decide)
    rw [if_pos hdigit]
    exact iff_of_true (decide_eq_true hlt) hdigit
  · rw [if_neg hdigit]
    by_cases hupper : c.isUpper
    · rw [if_pos hupper]
      simp [hdigit]
    · rw [if_neg hupper]
      by_cases hlower : c.isLower
      · rw [if_pos hlower]
        simp [hdigit]
      · rw [if_neg hlower]
        simp [hdigit]

/-- What follows the segments does not go on with one. -/
theorem WritesVersion.ends (h : WritesVersion s n) :
    EndsRun isInner s.toList ∧ s.toList.head? ≠ some '/' := by
  rcases h with ⟨rfl, -⟩ | ⟨digits, rfl, -⟩
  · exact ⟨Text.endsRun_nil, by simp⟩
  · rw [String.toList_append]
    exact ⟨Text.endsRun_cons rfl _, by simp⟩

/-- Exactly an at sign and digits that are all that follows are read to the end. -/
theorem read_versionBy_iff (hP : P.Documented) :
    P.read (versionBy P) cs = some (n, []) ↔ ∃ ds, cs = '@' :: ds ∧ Spells 10 ds n := by
  rw [versionBy, read_behind_iff hP (c := '@') rfl]
  refine exists_congr fun ds => and_congr_right fun _ => ?_
  rw [hP.read_map, hP.read_regex, CharRun.match?, Digits.spells_iff]
  simp only [isIn_ten_iff]
  constructor
  · intro h
    split at h
    · cases h
    · next hne =>
      obtain ⟨rfl, hnil⟩ := Prod.mk.inj (Option.some.inj h)
      have hall : ∀ c ∈ ds, c.isDigit = true := List.dropWhile_eq_nil_iff.mp hnil
      rw [List.takeWhile_eq_self_iff.mpr hall] at hne ⊢
      exact ⟨by simpa using hne, hall, by simp⟩
  · rintro ⟨hne, hall, rfl⟩
    rw [List.takeWhile_eq_self_iff.mpr hall, List.dropWhile_eq_nil_iff.mpr hall,
      if_neg (by simpa using hne)]
    simp

theorem writesVersion_iff :
    WritesVersion s n ↔
      s.toList = [] ∧ n = 0 ∨ ∃ ds, s.toList = '@' :: ds ∧ Spells 10 ds n := by
  refine or_congr (and_congr_left fun _ => String.toList_eq_nil_iff.symm) ⟨?_, ?_⟩
  · rintro ⟨digits, rfl, hspells⟩
    exact ⟨digits.toList, String.toList_append, hspells⟩
  · rintro ⟨ds, hs, hspells⟩
    exact ⟨String.ofList ds, String.toList_inj.mp (by simp [hs]), by rwa [String.toList_ofList]⟩

/-- Exactly a version is read to the end, be it one that no text writes. -/
theorem read_optional_versionBy_iff (hP : P.Documented) :
    (∃ version : Option Nat,
        P.read (P.optional (versionBy P)) s.toList = some (version, []) ∧ version.getD 0 = n) ↔
      WritesVersion s n := by
  have hbehind : P.read (versionBy P) s.toList = some (n, []) ↔
      ∃ ds, s.toList = '@' :: ds ∧ Spells 10 ds n := read_versionBy_iff hP
  rw [writesVersion_iff, hP.read_optional]
  constructor
  · rintro ⟨version, hversion, rfl⟩
    split at hversion
    · obtain ⟨rfl, hnil⟩ := Prod.mk.inj (Option.some.inj hversion)
      exact .inl ⟨hnil, rfl⟩
    · next hread =>
      obtain ⟨rfl, rfl⟩ := Prod.mk.inj (Option.some.inj hversion)
      exact .inr (hbehind.mp hread)
  · rintro (⟨hnil, rfl⟩ | hspells)
    · have hnone : P.read (versionBy P) s.toList = none := by
        rw [Option.eq_none_iff_forall_not_mem]
        intro r hread
        obtain ⟨ds, hds, -⟩ := (read_behind_iff hP (c := '@') rfl _).mp hread
        rw [hnil] at hds
        cases hds
      exact ⟨none, by rw [hnone, hnil], rfl⟩
    · exact ⟨some n, by rw [hbehind.mpr hspells], rfl⟩

/-! ## Texts -/

theorem intercalate_isEmpty (h : ∀ t ∈ front, IsSegment t) :
    ("/".intercalate front).isEmpty = decide (front = []) := by
  cases front with
  | nil => rfl
  | cons t ts =>
    have hne : "/".intercalate (t :: ts) ≠ "" := by
      rw [ne_eq, ← String.toList_eq_nil_iff, toList_intercalate, List.append_eq_nil_iff]
      exact fun hnil => (isSegment_iff.mp (h t List.mem_cons_self)).1 hnil.1
    simpa using hne

/-- The segments before the last are the namespace, and the last is the name. -/
theorem ofSegments_concat (h : ∀ t ∈ front, IsSegment t) (name : String) (version : Option Nat) :
    ofSegments (front ++ [name]) version = ⟨spaceOf front, name, version.getD 0⟩ := by
  unfold ofSegments spaceOf
  simp only [List.dropLast_concat, List.getLastD_concat, intercalate_isEmpty h,
    decide_eq_true_eq]

/-- Reading an identifier is reading its segments and then its version. -/
theorem read_grammar_iff (hP : P.Documented) :
    P.read (grammar P) cs = some (i, rest) ↔
      ∃ ts next version, P.read (segmentsBy P) cs = some (ts, next) ∧
        P.read (P.optional (versionBy P)) next = some (version, rest) ∧ ofSegments ts version = i := by
  rw [grammar, hP.read_yield]
  simp only [hP.read_yield, hP.read_success, Option.bind_eq_some_iff, Prod.exists, Option.some.injEq,
    Prod.mk.injEq]
  constructor
  · rintro ⟨ts, next, hsegments, version, _, hversion, rfl, rfl⟩
    exact ⟨ts, next, version, hsegments, hversion, rfl⟩
  · rintro ⟨ts, next, version, hsegments, hversion, rfl⟩
    exact ⟨ts, next, hsegments, version, rest, hversion, rfl, rfl⟩

/-- **What is parsed is what is written**: a text is parsed if and only if it is segments with slashes
between them and a version. -/
theorem parse_grammar_iff (hP : P.Documented) : P.parse (grammar P) s = some i ↔ Writes s i := by
  rw [hP.parse_iff, read_grammar_iff hP]
  constructor
  · rintro ⟨ts, next, version, hsegments, hversion, rfl⟩
    obtain ⟨hne, hall, hs⟩ := eq_of_read_segmentsBy hP hsegments
    obtain ⟨front, name, rfl⟩ : ∃ front name, ts = front ++ [name] :=
      ⟨_, _, (List.dropLast_concat_getLast hne).symm⟩
    obtain ⟨hfront, hname⟩ := List.forall_mem_append.mp hall
    refine ⟨front, name, String.ofList next, version.getD 0, hfront,
      List.forall_mem_singleton.mp hname, ?_, ?_, ofSegments_concat hfront name version⟩
    · exact (read_optional_versionBy_iff hP).mp ⟨version, by rwa [String.toList_ofList], rfl⟩
    · rw [← String.toList_inj, String.toList_append, String.toList_ofList, hs]
  · rintro ⟨front, name, suffix, n, hfront, hname, hversion, rfl, rfl⟩
    obtain ⟨version, hread, rfl⟩ := (read_optional_versionBy_iff hP).mpr hversion
    obtain ⟨hends, hslash⟩ := hversion.ends
    have hall : ∀ t ∈ front ++ [name], IsSegment t :=
      List.forall_mem_append.mpr ⟨hfront, List.forall_mem_singleton.mpr hname⟩
    obtain ⟨first, others, hsplit⟩ : ∃ first others, front ++ [name] = first :: others :=
      List.exists_cons_of_ne_nil (by simp)
    refine ⟨front ++ [name], suffix.toList, version, ?_, hread, ofSegments_concat hfront name _⟩
    rw [String.toList_append, hsplit]
    exact read_segmentsBy hP (hsplit ▸ hall) hends hslash

/-! ## Rendering -/

/-- The name follows its namespace behind a slash, if there is a namespace. -/
theorem intercalate_concat (front : List String) (name : String) :
    "/".intercalate (front ++ [name]) =
      (match spaceOf front with
        | some space => space ++ "/"
        | none => "") ++ name := by
  cases front with
  | nil => exact String.toList_inj.mp (by simp [spaceOf])
  | cons t ts =>
    rw [spaceOf, if_neg (List.cons_ne_nil t ts)]
    rw [← String.toList_inj, List.cons_append, toList_intercalate, String.toList_append,
      String.toList_append, toList_intercalate]
    simp [slashed]

/-- The text of a well-formed identifier writes it. -/
theorem writes_render (h : i.WellFormed) : Writes i.render i := by
  obtain ⟨front, hfront, hspace⟩ := h.space
  obtain ⟨n, hn⟩ := Int.eq_ofNat_of_zero_le h.version
  obtain ⟨space, name, version⟩ := i
  obtain rfl : space = spaceOf front := hspace
  obtain rfl : version = n := hn
  refine ⟨front, name, if n = 0 then "" else "@" ++ n.repr, n, hfront, h.name, ?_, ?_, rfl⟩
  · by_cases hzero : n = 0
    · exact .inl ⟨if_pos hzero, hzero⟩
    · exact .inr ⟨n.repr, if_neg hzero, Digits.spells_repr n⟩
  · rw [intercalate_concat, render]
    simp only [Int.natCast_eq_zero]
    rfl

/-- What a text writes is well-formed. -/
theorem Writes.wellFormed (h : Writes s i) : i.WellFormed := by
  obtain ⟨front, name, suffix, n, hfront, hname, -, -, rfl⟩ := h
  exact ⟨⟨front, hfront, rfl⟩, hname, Int.natCast_nonneg n⟩

/-- A bare name renders as itself. -/
theorem render_bare (s : String) : (bare s).render = s :=
  String.toList_inj.mp (by simp [render, bare])

theorem parseBy_of_writes (hP : P.Documented) (h : Writes s i) : parseBy P s = i := by
  rw [parseBy, (parse_grammar_iff hP).mpr h, Option.getD_some]

theorem parseBy_of_not_writes (hP : P.Documented) (h : ∀ i, ¬ Writes s i) : parseBy P s = bare s := by
  have hnone : P.parse (grammar P) s = none :=
    Option.eq_none_iff_forall_not_mem.mpr fun i hi => h i ((parse_grammar_iff hP).mp hi)
  rw [parseBy, hnone, Option.getD_none]

/-- **Identifiers are read part by part**, by any library of combinators that do what is documented.
A text that is segments with slashes between them, and then a version if there is one, is read as the
segments before the last one, the last one, and the version or zero.  Every other text is read as a
bare name.

So the text of a well-formed identifier is read as that identifier, and what has been read of any
text at all is read again from its own text. -/
theorem parts_read (P : Parsing) (hP : P.Documented) :
    (∀ s i, Writes s i → parseBy P s = i) ∧
    (∀ s, (∀ i, ¬ Writes s i) → parseBy P s = bare s) ∧
    (∀ i : Identifier, i.WellFormed → parseBy P i.render = i) ∧
    ∀ s, parseBy P (parseBy P s).render = parseBy P s := by
  refine ⟨fun s i => parseBy_of_writes hP, fun s => parseBy_of_not_writes hP,
    fun i hi => parseBy_of_writes hP (writes_render hi), fun s => ?_⟩
  by_cases hwrites : ∃ i, Writes s i
  · obtain ⟨i, hi⟩ := hwrites
    rw [parseBy_of_writes hP hi, parseBy_of_writes hP (writes_render hi.wellFormed)]
  · have hnone : ∀ i, ¬ Writes s i := fun i hi => hwrites ⟨i, hi⟩
    rw [parseBy_of_not_writes hP hnone, render_bare, parseBy_of_not_writes hP hnone]

/-- A text of three segments whose version has a zero in front, and a text with an empty segment, as
readers read them. -/
theorem parts_read_and_bare :
    Parsing.standard.Documented ∧
    parse "org/pkg/Thing@02" = ⟨some "org/pkg", "Thing", 2⟩ ∧
    parse "a//b" = ⟨none, "a//b", 0⟩ ∧
    parse (render ⟨some "org/pkg", "Thing", 2⟩) = ⟨some "org/pkg", "Thing", 2⟩ ∧
    parse (parse "org/pkg/Thing@02").render = ⟨some "org/pkg", "Thing", 2⟩ := by
  obtain ⟨hread, hbare, hrendered, hagain⟩ := parts_read .standard Parsing.standard_documented
  have hwrites : Writes "org/pkg/Thing@02" ⟨some "org/pkg", "Thing", 2⟩ :=
    ⟨["org", "pkg"], "Thing", "@02", 2, by decide, by decide,
      .inr ⟨"02", rfl, by decide, [0, 2], by decide, by decide, by decide⟩, by decide, by decide⟩
  have hnone : ∀ i, ¬ Writes "a//b" i := by
    have hparse : Parsing.standard.parse (grammar .standard) "a//b" = none := by decide +kernel
    intro i hi
    rw [(parse_grammar_iff Parsing.standard_documented).mpr hi] at hparse
    cases hparse
  exact ⟨Parsing.standard_documented, hread _ _ hwrites, hbare _ hnone, hrendered _ hwrites.wellFormed,
    (hagain _).trans (hread _ _ hwrites)⟩

end CheckedCurry.Identifier
