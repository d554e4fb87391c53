import CheckedCurry.Proofs.Signature.Columns
import CheckedCurry.Signature.Markers

/-!
# Where markers are drawn

A line of markers grows as far as it is written into, and what stands at a column is what was
written there last.  Carets are all alike, so their order does not matter; of two numbers that meet
at a column the later one is read.

- `Span.Covers`: a column is among those of a span.
- `Line.charAt`: the character at a column, a space past the end; `charAt_write` says what one write
  changes, and `length_write` how far the line goes then.
- `Line.Underlines`: carets under spans and nowhere else; `underlines_foldl`.
- `Line.Numbered`: numbers under spans and nothing else; `numbered_labels`.
- `Line.Numbered.whole`: numbers that do not meet are read whole; `label_before`: two digits never
  meet the number of a later part.
- `Signature.markers_drawn`: both lines, for every list of paths.
-/

namespace CheckedCurry

/-- A column is among those of a span. -/
def Span.Covers (s : Span) (column : Nat) : Prop := s.first ≤ column ∧ column < s.last

instance (s : Span) (column : Nat) : Decidable (s.Covers column) :=
  inferInstanceAs (Decidable (_ ∧ _))

namespace Line

variable {line labels : Line} {s u : Span} {spans : List Span} {n j k : Nat}

/-! ## One write -/

/-- The character at a column; past the end of a line there are spaces. -/
def charAt (row : Line) (column : Nat) : Char := row[column]?.getD ' '

theorem getElem?_eq_charAt {row : Line} (h : j < row.length) : row[j]? = some (row.charAt j) := by
  rw [charAt, List.getElem?_eq_getElem h, Option.getD_some]

theorem charAt_of_le (h : line.length ≤ j) : line.charAt j = ' ' := by
  rw [charAt, List.getElem?_eq_none h, Option.getD_none]

/-- Padding adds what is read past the end anyway. -/
theorem charAt_pad (line : Line) (width j : Nat) : (line.pad width).charAt j = line.charAt j := by
  rcases Nat.lt_or_ge j line.length with h | h
  · rw [charAt, pad, List.getElem?_append_left h, charAt]
  · rw [charAt_of_le h, charAt, pad, List.getElem?_append_right h, List.getElem?_replicate]
    split <;> rfl

/-- A write changes the columns it goes over and no other ones. -/
theorem charAt_write (line : Line) (column : Nat) (text : Line) (j : Nat) :
    (line.write column text).charAt j =
      if column ≤ j ∧ j < column + text.length then text.charAt (j - column)
      else line.charAt j := by
  have hwide : column + text.length ≤ (line.pad (column + text.length)).length := by
    rw [pad, List.length_append, List.length_replicate]
    omega
  rw [← charAt_pad line (column + text.length) j, write]
  generalize line.pad (column + text.length) = padded at hwide ⊢
  have htake : (padded.take column).length = column := List.length_take_of_le (by omega)
  have hfront : (padded.take column ++ text).length = column + text.length := by
    rw [List.length_append, htake]
  simp only [charAt]
  -- before what is written, in it, and after it
  rcases Nat.lt_or_ge j (column + text.length) with h | h
  · rw [List.getElem?_append_left (by omega)]
    rcases Nat.lt_or_ge j column with h' | h'
    · rw [if_neg (by omega), List.getElem?_append_left (by omega), List.getElem?_take_of_lt h']
    · rw [if_pos ⟨h', h⟩, List.getElem?_append_right (by omega), htake]
  · have hback : column + text.length + (j - (column + text.length)) = j := by omega
    rw [if_neg (by omega), List.getElem?_append_right (by omega), hfront, List.getElem?_drop, hback]

/-! ## Carets -/

theorem charAt_underline (line : Line) (s : Span) (j : Nat) :
    (line.underline s).charAt j = if s.Covers j then '^' else line.charAt j := by
  have hcovers : s.first ≤ j ∧ j < s.first + s.width ↔ s.Covers j := by
    rw [Span.width, Span.Covers]
    omega
  rw [underline, charAt_write, List.length_replicate]
  simp only [hcovers]
  split
  · next h =>
    obtain ⟨hfirst, hlast⟩ := h
    rw [charAt, List.getElem?_replicate, if_pos (by rw [Span.width]; omega), Option.getD_some]
  · rfl

theorem length_underline (line : Line) (h : s.first ≤ s.last) :
    (line.underline s).length = max line.length s.last := by
  have hwidth : s.first + s.width = s.last := by
    rw [Span.width]
    omega
  rw [underline, length_write, List.length_replicate, hwidth]

theorem charAt_foldl_underline (line : Line) (spans : List Span) (j : Nat) :
    (spans.foldl underline line).charAt j =
      if ∃ s ∈ spans, s.Covers j then '^' else line.charAt j := by
  induction spans generalizing line with
  | nil => simp
  | cons s spans ih =>
    rw [List.foldl_cons, ih, charAt_underline]
    by_cases hs : s.Covers j <;> simp [hs]

theorem length_foldl_underline (line : Line) (h : ∀ s ∈ spans, s.first ≤ s.last) :
    (spans.foldl underline line).length = (spans.map Span.last).foldl max line.length := by
  induction spans generalizing line with
  | nil => rfl
  | cons s spans ih =>
    obtain ⟨hs, hspans⟩ := List.forall_mem_cons.mp h
    rw [List.foldl_cons, ih _ hspans, length_underline line hs, List.map_cons, List.foldl_cons]

/-- A line has carets in the columns of spans and spaces in all others, up to the last end. -/
structure Underlines (carets : Line) (spans : List Span) : Prop where
  caret : ∀ j < carets.length,
    carets[j]? = some (if ∃ s ∈ spans, s.Covers j then '^' else ' ')
  length : carets.length = (spans.map Span.last).max?.getD 0

/-- Carets are drawn under spans in any order, overlapping or not. -/
theorem underlines_foldl (h : ∀ s ∈ spans, s.first ≤ s.last) :
    Underlines (spans.foldl underline []) spans := by
  refine ⟨fun j hj => ?_, ?_⟩
  · rw [getElem?_eq_charAt hj, charAt_foldl_underline]
    rfl
  · rw [length_foldl_underline [] h]
    cases spans with
    | nil => rfl
    | cons s spans =>
      rw [List.map_cons, List.max?_cons', Option.getD_some, List.foldl_cons, List.length_nil,
        Nat.zero_max]

/-! ## Numbers -/

/-- The columns that a number takes under a span. -/
def labelSpan (s : Span) (n : Nat) : Span := ⟨labelColumn s, labelColumn s + (toString n).length⟩

theorem charAt_label (line : Line) (s : Span) (n j : Nat) :
    (line.label s n).charAt j =
      if (labelSpan s n).Covers j then charAt (toString n).toList (j - labelColumn s)
      else line.charAt j := by
  rw [label, charAt_write, String.length_toList]
  rfl

/-- Where no number is written a line stays as it is. -/
theorem charAt_labels_of_clear (line : Line) (n : Nat)
    (h : ∀ k s, spans[k]? = some s → ¬ (labelSpan s (n + k)).Covers j) :
    (line.labels n spans).charAt j = line.charAt j := by
  induction spans generalizing line n with
  | nil => rfl
  | cons s spans ih =>
    have hnext (k : Nat) : n + 1 + k = n + (k + 1) := by omega
    rw [Line.labels, ih _ _ fun k u hu => hnext k ▸ h (k + 1) u hu, charAt_label]
    exact if_neg (h 0 s rfl)

/-- Of the numbers that are written over a column the last one is read there. -/
theorem charAt_labels_of_covers (line : Line) (n : Nat) (hs : spans[k]? = some s)
    (hcovers : (labelSpan s (n + k)).Covers j)
    (hlater : ∀ k' u, k < k' → spans[k']? = some u → ¬ (labelSpan u (n + k')).Covers j) :
    (line.labels n spans).charAt j =
      charAt (toString (n + k)).toList (j - labelColumn s) := by
  induction spans generalizing line n k with
  | nil => simp at hs
  | cons first spans ih =>
    have hnext (k : Nat) : n + 1 + k = n + (k + 1) := by omega
    rw [Line.labels]
    cases k with
    | zero =>
      obtain rfl := Option.some.inj hs
      rw [charAt_labels_of_clear _ _ fun k u hu => hnext k ▸ hlater (k + 1) u (by omega) hu,
        charAt_label]
      exact if_pos hcovers
    | succ k =>
      rw [← hnext k] at hcovers ⊢
      refine ih _ _ hs hcovers fun k' u hk hu => ?_
      exact hnext k' ▸ hlater (k' + 1) u (by omega) hu

theorem length_le_length_labels (line : Line) (n : Nat) (spans : List Span) :
    line.length ≤ (line.labels n spans).length := by
  induction spans generalizing line n with
  | nil => exact Nat.le_refl _
  | cons s spans ih =>
    refine Nat.le_trans ?_ (ih (line.label s n) (n + 1))
    rw [label, length_write]
    exact Nat.le_max_left _ _

/-- A line goes at least as far as its numbers. -/
theorem last_le_length_labels (line : Line) (n : Nat) (hs : spans[k]? = some s) :
    (labelSpan s (n + k)).last ≤ (line.labels n spans).length := by
  induction spans generalizing line n k with
  | nil => simp at hs
  | cons first spans ih =>
    rw [Line.labels]
    cases k with
    | zero =>
      obtain rfl := Option.some.inj hs
      refine Nat.le_trans ?_ (length_le_length_labels _ (n + 1) spans)
      rw [label, length_write, String.length_toList]
      exact Nat.le_max_right _ _
    | succ k =>
      have hnext : n + 1 + k = n + (k + 1) := by omega
      exact hnext ▸ ih (line.label first n) (n + 1) hs

/-- A line has under each span its number, counted from one, and spaces in all other columns. -/
structure Numbered (labels : Line) (spans : List Span) : Prop where
  /-- A number is read in its columns, except where a later one is. -/
  digit : ∀ k s j, spans[k]? = some s → (labelSpan s (k + 1)).Covers j →
    (∀ k' u, k < k' → spans[k']? = some u → ¬ (labelSpan u (k' + 1)).Covers j) →
    labels[j]? = (toString (k + 1)).toList[j - labelColumn s]?
  blank : ∀ j < labels.length,
    (∀ k s, spans[k]? = some s → ¬ (labelSpan s (k + 1)).Covers j) → labels[j]? = some ' '

theorem numbered_labels (spans : List Span) : Numbered (Line.labels [] 1 spans) spans := by
  constructor
  · intro k s j hs hcovers hlater
    obtain ⟨hfirst, hlast⟩ := hcovers
    have hwithin : j - labelColumn s < (toString (k + 1)).toList.length := by
      rw [String.length_toList]
      simp only [labelSpan] at hfirst hlast
      omega
    have hlength := last_le_length_labels [] 1 hs
    rw [Nat.add_comm 1 k] at hlength
    rw [getElem?_eq_charAt (Nat.lt_of_lt_of_le hlast hlength), getElem?_eq_charAt hwithin,
      charAt_labels_of_covers [] 1 hs (by rw [Nat.add_comm]; exact ⟨hfirst, hlast⟩)
        fun k' u hk hu => by rw [Nat.add_comm]; exact hlater k' u hk hu,
      Nat.add_comm]
  · intro j hj hclear
    rw [getElem?_eq_charAt hj,
      charAt_labels_of_clear [] 1 fun k s hs => by rw [Nat.add_comm]; exact hclear k s hs]
    rfl

/-- A number whose columns no later number meets is read whole. -/
theorem Numbered.whole (h : Numbered labels spans) (hs : spans[k]? = some s)
    (happart : ∀ k' u, k < k' → spans[k']? = some u →
      (labelSpan s (k + 1)).last ≤ (labelSpan u (k' + 1)).first) :
    (labelSpan s (k + 1)).slice (String.ofList labels) = toString (k + 1) := by
  have hdigits : (labels.drop (labelColumn s)).take (toString (k + 1)).toList.length =
      (toString (k + 1)).toList := by
    refine List.ext_getElem? fun i => ?_
    rcases Nat.lt_or_ge i (toString (k + 1)).toList.length with hi | hi
    · have hcovers : (labelSpan s (k + 1)).Covers (labelColumn s + i) := by
        rw [String.length_toList] at hi
        exact ⟨Nat.le_add_right _ _, Nat.add_lt_add_left hi _⟩
      have hread := h.digit k s _ hs hcovers fun k' u hk hu hmeets =>
        absurd (happart k' u hk hu) (Nat.not_le.mpr (Nat.lt_of_le_of_lt hmeets.1 hcovers.2))
      rw [List.getElem?_take_of_lt hi, List.getElem?_drop, hread, Nat.add_sub_cancel_left]
    · rw [List.getElem?_eq_none hi, List.getElem?_eq_none]
      exact Nat.le_trans (List.length_take_le _ _) hi
  have hwidth : (labelSpan s (k + 1)).width = (toString (k + 1)).toList.length := by
    rw [Span.width, labelSpan, String.length_toList, Nat.add_sub_cancel_left]
  rw [Span.slice, String.toList_ofList, hwidth]
  show String.ofList ((labels.drop (labelColumn s)).take _) = _
  rw [hdigits, String.ofList_toList]

/-- A number begins in the middle of its span, the half of an even width going to the left. -/
theorem labelColumn_eq (h : s.first < s.last) : labelColumn s = s.first + (s.width - 1) / 2 := by
  have hwidth : 1 ≤ s.width := by
    rw [Span.width]
    omega
  rw [labelColumn, Int.fdiv_eq_ediv_of_nonneg _ (by decide)]
  omega

/-- A number begins under its span. -/
theorem covers_labelColumn (h : s.first < s.last) : s.Covers (labelColumn s) := by
  have hwidth : s.width = s.last - s.first := rfl
  rw [labelColumn_eq h, Span.Covers]
  omega

theorem length_toString_le_two (h : n ≤ 99) : (toString n).length ≤ 2 := by
  have hall : ∀ n ≤ 99, (toString n).length ≤ 2 := by decide +kernel
  exact hall n h

/-- A number of one or two digits ends before the number of a span that lies a column apart. -/
theorem label_before {m : Nat} (hn : n ≤ 99) (hs : s.first < s.last) (hu : u.first < u.last)
    (happart : s.last + 1 ≤ u.first) : (labelSpan s n).last ≤ (labelSpan u m).first := by
  have hdigits := length_toString_le_two hn
  have hsBegin := (covers_labelColumn hs).2
  have huBegin := (covers_labelColumn hu).1
  simp only [labelSpan]
  omega

end Line

/-! ## Marked signatures -/

/-- All names in a type are written with at least one character. -/
def Ty.AllNamed (t : Ty) : Prop := ∀ path u, t.at? path = some u → u.name? ≠ some ""

/-- The layout of a type comes to all that is inside it, so that its names can be looked through. -/
theorem Ty.forall_spans_iff_allNamed {t : Ty} :
    (∀ entry ∈ t.spans 0, (t.at? entry.1).bind Ty.name? ≠ some "") ↔ t.AllNamed := by
  constructor
  · intro h path u hu hname
    have hsome : (t.span? 0 path).isSome = true := span?_isSome_iff.mpr (Option.isSome_of_mem hu)
    obtain ⟨span, hspan⟩ := Option.isSome_iff_exists.mp hsome
    obtain ⟨front, rest, hsplit, -⟩ := List.lookup_eq_some_iff.mp hspan
    refine h (path, span) (by rw [hsplit]; simp) ?_
    rw [hu]
    exact hname
  · intro h entry _ heq
    obtain ⟨u, hu, hname⟩ := Option.bind_eq_some_iff.mp heq
    exact h _ u hu hname

instance (t : Ty) : Decidable t.AllNamed := decidable_of_iff _ Ty.forall_spans_iff_allNamed

/-- A type whose name is not empty is written with at least one character. -/
theorem Ty.text_length_pos {t : Ty} (h : t.name? ≠ some "") : 0 < t.text.length := by
  have hname {name : String} (hne : some name ≠ some "") : 0 < name.length := by
    rw [Nat.pos_iff_ne_zero, Ne, String.length_eq_zero_iff]
    exact fun hempty => hne (congrArg some hempty)
  cases t with
  | any name => rw [Ty.text]; exact hname h
  | accessible name => rw [Ty.text]; exact hname h
  | representative param =>
    have hword : "TypeRep ".length = 8 := rfl
    cases param with
    | none => rw [Ty.text]; decide
    | some p =>
      rw [Ty.text, String.length_append]
      omega
  | var v => rw [Ty.text]; exact hname h
  | nullary n => rw [Ty.text]; exact hname h
  | applied c ps =>
    have hc : 0 < c.name.length := hname h
    rw [Ty.text_applied, String.length_append]
    omega

namespace Signature

open Line (Underlines Numbered labelSpan labelColumn)

variable {s : Signature} {paths : List Ty.Path} {p : Ty.Path} {span : Span} {spans : List Span}

/-- All names in the types of a signature are written with at least one character. -/
def AllNamed (s : Signature) : Prop := ∀ t ∈ s.types, t.AllNamed

instance (s : Signature) : Decidable s.AllNamed :=
  inferInstanceAs (Decidable (∀ t ∈ s.types, t.AllNamed))

theorem span?_valid (h : s.span? p = some span) : span.first ≤ span.last := by
  obtain ⟨i, q, t, rfl, ht, hat⟩ := span?_isSome_iff.mp (Option.isSome_of_mem h)
  obtain ⟨u, hu⟩ := Option.isSome_iff_exists.mp hat
  exact (slice_of_span? ht hu h).1

/-- A part whose names are not empty has at least one column. -/
theorem AllNamed.span?_pos (hnamed : s.AllNamed) (h : s.span? p = some span) :
    span.first < span.last := by
  obtain ⟨i, q, t, rfl, ht, -⟩ := span?_isSome_iff.mp (Option.isSome_of_mem h)
  rw [span?_cons, ht] at h
  obtain ⟨u, -, -, hu, -, -, hlast⟩ := Ty.text_of_span? h
  have hpos := Ty.text_length_pos (hnamed t (List.mem_of_getElem? ht) q u hu)
  omega

/-- Columns that are looked up path by path. -/
theorem mapM_span?_eq_some (h : paths.map s.span? = spans.map some) :
    paths.mapM s.span? = some spans := by
  induction paths generalizing spans with
  | nil =>
    obtain rfl := List.map_eq_nil_iff.mp h.symm
    rfl
  | cons p paths ih =>
    obtain ⟨span, spans, rfl, hspan, hspans⟩ := List.map_eq_cons_iff.mp h.symm
    rw [List.mapM_cons, ← hspan, ih hspans.symm]
    rfl

theorem exists_map_span? (h : ∀ p ∈ paths, (s.span? p).isSome = true) :
    ∃ spans : List Span, paths.map s.span? = spans.map some := by
  induction paths with
  | nil => exact ⟨[], rfl⟩
  | cons p paths ih =>
    obtain ⟨hp, hpaths⟩ := List.forall_mem_cons.mp h
    obtain ⟨span, hspan⟩ := Option.isSome_iff_exists.mp hp
    obtain ⟨spans, hspans⟩ := ih hpaths
    exact ⟨span :: spans, by rw [List.map_cons, List.map_cons, hspan, hspans]⟩

/-- Each of the columns is that of a path in the same place. -/
theorem exists_path_of_map_span? (h : paths.map s.span? = spans.map some) {k : Nat}
    (hspan : spans[k]? = some span) : ∃ p, paths[k]? = some p ∧ s.span? p = some span := by
  have hk : (paths.map s.span?)[k]? = some (some span) := by
    rw [h, List.getElem?_map, hspan]
    rfl
  rw [List.getElem?_map] at hk
  exact Option.map_eq_some_iff.mp hk

/-- Marks are drawn for paths that have columns. -/
theorem marked?_eq (underlined : List Span) (h : paths.map s.span? = spans.map some) :
    s.marked? paths underlined = some [s.text,
      String.ofList ((underlined ++ spans).foldl Line.underline []),
      String.ofList (Line.labels [] 1 spans)] := by
  rw [marked?, mapM_span?_eq_some h]
  rfl

/-- Carets are drawn under the parts at paths, and under what else is underlined. -/
theorem underlines_marked {underlined : List Span} (h : paths.map s.span? = spans.map some)
    (hunderlined : ∀ u ∈ underlined, u.first ≤ u.last) :
    Underlines ((underlined ++ spans).foldl Line.underline []) (underlined ++ spans) := by
  refine Line.underlines_foldl (List.forall_mem_append.mpr ⟨hunderlined, fun span hspan => ?_⟩)
  obtain ⟨k, hk⟩ := List.mem_iff_getElem?.mp hspan
  obtain ⟨p, -, hp⟩ := exists_path_of_map_span? h hk
  exact span?_valid hp

/-- Paths are listed from left to right, and no part lies inside another one. -/
def Apart (paths : List Ty.Path) : Prop := paths.Pairwise fun p q => p < q ∧ ¬ p <+: q

/-- Up to ninety-nine numbers under parts that lie apart are all read whole. -/
theorem whole_of_apart (hnamed : s.AllNamed) (hmany : paths.length ≤ 99) (hapart : Apart paths)
    (h : paths.map s.span? = spans.map some) {labels : Line} (hlabels : Numbered labels spans)
    {k : Nat} (hspan : spans[k]? = some span) :
    (labelSpan span (k + 1)).slice (String.ofList labels) = toString (k + 1) := by
  obtain ⟨p, hp, hpspan⟩ := exists_path_of_map_span? h hspan
  refine hlabels.whole hspan fun k' u hk hu => ?_
  obtain ⟨q, hq, hqspan⟩ := exists_path_of_map_span? h hu
  obtain ⟨hlt, hlt'⟩ : k < paths.length ∧ k' < paths.length :=
    ⟨(List.getElem?_eq_some_iff.mp hp).1, (List.getElem?_eq_some_iff.mp hq).1⟩
  obtain ⟨hbefore, hbegins⟩ : p < q ∧ ¬ p <+: q := by
    rw [← (List.getElem?_eq_some_iff.mp hp).2, ← (List.getElem?_eq_some_iff.mp hq).2]
    exact List.pairwise_iff_getElem.mp hapart k k' hlt hlt' hk
  exact Line.label_before (by omega) (hnamed.span?_pos hpspan) (hnamed.span?_pos hqspan)
    (span?_before hbefore hbegins hpspan hqspan)

/-- **Markers are drawn where they belong.**  Let all paths have columns; they may come in any order,
and parts may lie inside others.

The line of carets underlines the parts and what else is to be underlined: it has a caret in each of
their columns, a space in every other one, and ends with the last of them.

If all names are written, and there are at most ninety-nine paths, from left to right and with no
part inside another one, the line of numbers has each number whole, from the middle of its part on,
and spaces in all other columns. -/
theorem markers_drawn (s : Signature) {paths : List Ty.Path} {underlined : List Span}
    (hpaths : ∀ p ∈ paths, (s.span? p).isSome = true)
    (hunderlined : ∀ u ∈ underlined, u.first ≤ u.last) :
    ∃ (spans : List Span) (carets labels : Line), paths.map s.span? = spans.map some ∧
      s.marked? paths underlined = some [s.text, String.ofList carets, String.ofList labels] ∧
      Underlines carets (underlined ++ spans) ∧
      (s.AllNamed → paths.length ≤ 99 → (paths.Pairwise fun p q => p < q ∧ ¬ p <+: q) →
        let number (k : Nat) (u : Span) : Span :=
          ⟨u.first + (u.width - 1) / 2, u.first + (u.width - 1) / 2 + (toString (k + 1)).length⟩
        (∀ k u, spans[k]? = some u →
          (number k u).slice (String.ofList labels) = toString (k + 1)) ∧
        ∀ j < labels.length, (∀ k u, spans[k]? = some u → ¬ (number k u).Covers j) →
          labels[j]? = some ' ') := by
  obtain ⟨spans, hspans⟩ := exists_map_span? hpaths
  have hnumbers := Line.numbered_labels spans
  refine ⟨spans, _, _, hspans, marked?_eq underlined hspans,
    underlines_marked hspans hunderlined, ?_⟩
  intro hnamed hmany hapart number
  -- the part of a path has at least one column, so that it has a middle
  have hnumber {k : Nat} {u : Span} (hu : spans[k]? = some u) : number k u = labelSpan u (k + 1) := by
    obtain ⟨p, -, hp⟩ := exists_path_of_map_span? hspans hu
    have hcolumn := Line.labelColumn_eq (hnamed.span?_pos hp)
    simp only [number, labelSpan, hcolumn]
  constructor
  · intro k u hu
    rw [hnumber hu]
    exact whole_of_apart hnamed hmany hapart hspans hnumbers hu
  · intro j hj hclear
    refine hnumbers.blank j hj fun k u hu => ?_
    rw [← hnumber hu]
    exact hclear k u hu

/-- Eleven parts are marked, and the name of the function is underlined without a number.  The last
two numbers stand in adjacent columns. -/
theorem markers_drawn_adjacent :
    let a : TypeVar := ⟨"a", .given 0⟩
    let s : Signature := ⟨"f", .var a :: List.replicate 5 (.either (.var a) (.var a)), .anything, []⟩
    let paths := [0] :: (List.range 5).flatMap fun i => [[i + 1, 0], [i + 1, 1]]
    let line :=
      "f :: a -> Either a a -> Either a a -> Either a a -> Either a a -> Either a a -> Any"
    let carets :=
      "^    ^           ^ ^           ^ ^           ^ ^           ^ ^           ^ ^"
    let numbers :=
      "     1           2 3           4 5           6 7           8 9           1011"
    let spans : List Span := [⟨5, 6⟩, ⟨17, 18⟩, ⟨19, 20⟩, ⟨31, 32⟩, ⟨33, 34⟩, ⟨45, 46⟩, ⟨47, 48⟩,
      ⟨59, 60⟩, ⟨61, 62⟩, ⟨73, 74⟩, ⟨75, 76⟩]
    (∀ p ∈ paths, (s.span? p).isSome = true) ∧ (∀ u ∈ [(⟨0, 1⟩ : Span)], u.first ≤ u.last) ∧
    s.AllNamed ∧ paths.length ≤ 99 ∧ (paths.Pairwise fun p q => p < q ∧ ¬ p <+: q) ∧
    s.marked? paths [⟨0, 1⟩] = some [line, carets, numbers] ∧
    Underlines carets.toList (⟨0, 1⟩ :: spans) ∧
    Span.slice ⟨73, 75⟩ numbers = "10" ∧ Span.slice ⟨75, 77⟩ numbers = "11" := by
  intro a s paths line carets numbers spans
  have hpaths : ∀ p ∈ paths, (s.span? p).isSome = true := by decide +kernel
  have hunderlined : ∀ u ∈ [(⟨0, 1⟩ : Span)], u.first ≤ u.last := by decide
  have hnamed : s.AllNamed := by decide +kernel
  have hmany : paths.length ≤ 99 := by decide
  have hapart : paths.Pairwise fun p q => p < q ∧ ¬ p <+: q := by decide +kernel
  have hmarked : s.marked? paths [⟨0, 1⟩] = some [line, carets, numbers] := by decide +kernel
  have hspans : paths.map s.span? = spans.map some := by decide +kernel
  obtain ⟨spans', carets', numbers', hspans', hmarked', hcarets, hnumbers⟩ :=
    markers_drawn s hpaths hunderlined
  obtain ⟨-, hcarets', hnumbers'⟩ :
      line = s.text ∧ carets = String.ofList carets' ∧ numbers = String.ofList numbers' := by
    simpa using hmarked.symm.trans hmarked'
  obtain rfl := (List.map_inj_right fun _ _ => Option.some.inj).mp (hspans.symm.trans hspans')
  obtain ⟨hwhole, -⟩ := hnumbers hnamed hmany hapart
  refine ⟨hpaths, hunderlined, hnamed, hmany, hapart, hmarked, ?_, ?_, ?_⟩
  · rw [hcarets', String.toList_ofList]
    exact hcarets
  · exact hnumbers' ▸ hwhole 9 ⟨73, 74⟩ rfl
  · exact hnumbers' ▸ hwhole 10 ⟨75, 76⟩ rfl

end Signature

end CheckedCurry
