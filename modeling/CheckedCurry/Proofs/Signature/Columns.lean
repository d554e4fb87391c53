import CheckedCurry.Proofs.Ty.Columns
import CheckedCurry.Signature.Basic

/-!
# The columns of the parts of a signature

A signature is written on one line.  Markers are put under parts of that line, so the columns of a
part must be where the part is.

- `Signature.ahead`: what is written before one of the types; `span?_cons` goes from a signature to
  one of its types.
- `text_of_requirementSpans`: the columns of a requirement hold the requirement.
- `layout_faithful`: which paths have columns, what stands there, and how the columns of two paths
  lie to each other.
-/

namespace CheckedCurry.Signature

/-! ## Types with arrows between them -/

/-- What is written before a type that follows the given ones: each of them and an arrow. -/
def ahead : List Ty → String
  | [] => ""
  | t :: ts => t.text ++ " -> " ++ ahead ts

theorem ahead_append (ts us : List Ty) : ahead (ts ++ us) = ahead ts ++ ahead us := by
  induction ts with
  | nil => simp [ahead]
  | cons t ts ih => simp [ahead, ih, String.append_assoc]

/-- One of the types is part of what is written. -/
theorem exists_arrows_eq_ahead {ts : List Ty} {i : Nat} {t : Ty} (h : ts[i]? = some t) :
    ∃ after, arrows ts = ahead (ts.take i) ++ t.text ++ after := by
  induction ts generalizing i with
  | nil => simp at h
  | cons u ts ih =>
    have hcons (w : Ty) (ws : List Ty) :
        arrows (u :: w :: ws) = u.text ++ " -> " ++ arrows (w :: ws) :=
      String.intercalate_cons_cons
    cases i with
    | zero =>
      obtain rfl := Option.some.inj h
      cases ts with
      | nil => exact ⟨"", by simp [arrows, ahead]⟩
      | cons w ws => exact ⟨" -> " ++ arrows (w :: ws), by simp [hcons, ahead, String.append_assoc]⟩
    | succ i =>
      cases ts with
      | nil => simp at h
      | cons w ws =>
        obtain ⟨after, hafter⟩ := ih (i := i) h
        refine ⟨after, ?_⟩
        rw [hcons, hafter, List.take_succ_cons, ahead]
        simp only [String.append_assoc]

/-- A type ends at least one column before a later one begins. -/
theorem ahead_before {ts : List Ty} {i j : Nat} {t : Ty} (hij : i < j) (ht : ts[i]? = some t) :
    (ahead (ts.take i)).length + t.text.length + 1 ≤ (ahead (ts.take j)).length := by
  have hsplit := Ty.take_eq_take_append_cons hij ht
  have harrow : " -> ".length = 4 := rfl
  rw [hsplit, ahead_append, ahead]
  simp only [String.length_append]
  omega

/-! ## Paths into a signature -/

theorem lookup_spansFrom (column index i : Nat) (path : Ty.Path) (ts : List Ty) :
    (spansFrom column index ts).lookup (i :: path) =
      if i < index then none
      else ts[i - index]?.bind fun t =>
        t.span? (column + (ahead (ts.take (i - index))).length) path := by
  induction ts generalizing column index with
  | nil => simp [spansFrom]
  | cons t ts ih =>
    rw [spansFrom, List.lookup_append, Ty.lookup_map_cons, ih]
    rcases Nat.lt_trichotomy i index with hlt | rfl | hgt
    · rw [if_neg (by omega), if_pos (by omega), if_pos hlt]
      rfl
    · rw [if_pos rfl, if_pos (by omega), if_neg (by omega), Nat.sub_self]
      simp [Ty.span?, ahead]
    · obtain ⟨k, rfl⟩ : ∃ k, i = index + 1 + k := ⟨i - (index + 1), by omega⟩
      have hk : index + 1 + k - index = k + 1 := by omega
      have hk' : index + 1 + k - (index + 1) = k := by omega
      have harrow : " -> ".length = 4 := rfl
      rw [if_neg (by omega), if_neg (by omega), if_neg (by omega), hk, hk', Option.none_or,
        List.getElem?_cons_succ, List.take_succ_cons, ahead]
      congr 1
      funext u
      congr 1
      simp only [String.length_append]
      omega

variable {s : Signature}

theorem span?_nil (s : Signature) : s.span? [] = none := by
  have hnone (column index : Nat) (ts : List Ty) : (spansFrom column index ts).lookup [] = none := by
    induction ts generalizing column index with
    | nil => rfl
    | cons t ts ih =>
      rw [spansFrom, List.lookup_append, ih, Option.or_none, List.lookup_eq_none_iff]
      intro entry hentry
      obtain ⟨inner, -, rfl⟩ := List.mem_map.mp hentry
      rfl
  exact hnone _ _ _

/-- The columns of a part of a signature are those of a part of one of its types. -/
theorem span?_cons (s : Signature) (i : Nat) (path : Ty.Path) :
    s.span? (i :: path) = s.types[i]?.bind fun t =>
      t.span? (s.heading.length + (ahead (s.types.take i)).length) path := by
  rw [span?, spans, lookup_spansFrom, if_neg (by omega), Nat.sub_zero]

/-- The paths that have columns are the paths into the types. -/
theorem span?_isSome_iff {path : Ty.Path} :
    (s.span? path).isSome = true ↔
      ∃ i p t, path = i :: p ∧ s.types[i]? = some t ∧ (t.at? p).isSome = true := by
  cases path with
  | nil => simp [span?_nil]
  | cons i p =>
    rw [span?_cons]
    constructor
    · intro h
      cases ht : s.types[i]? with
      | none => simp [ht] at h
      | some t =>
        rw [ht] at h
        exact ⟨i, p, t, rfl, ht, Ty.span?_isSome_iff.mp h⟩
    · rintro ⟨_, _, t, hpath, ht, hat⟩
      obtain ⟨rfl, rfl⟩ := List.cons.inj hpath
      rw [ht]
      exact Ty.span?_isSome_iff.mpr hat

/-- The columns of a part hold the part. -/
theorem slice_of_span? {i : Nat} {p : Ty.Path} {t u : Ty} {span : Span}
    (ht : s.types[i]? = some t) (hu : t.at? p = some u) (h : s.span? (i :: p) = some span) :
    span.first ≤ span.last ∧ span.last ≤ s.text.length ∧ span.slice s.text = u.text := by
  rw [span?_cons, ht] at h
  obtain ⟨u', before, after, hat, htext, hfirst, hlast⟩ := Ty.text_of_span? h
  obtain rfl := Option.some.inj (hu.symm.trans hat)
  obtain ⟨rest, harrows⟩ := exists_arrows_eq_ahead ht
  have hline : s.text = (s.heading ++ ahead (s.types.take i) ++ before) ++ u.text ++
      (after ++ rest) := by
    rw [text, harrows, htext]
    simp only [String.append_assoc]
  have hstart : span.first = (s.heading ++ ahead (s.types.take i) ++ before).length := by
    rw [hfirst]
    simp only [String.length_append]
  refine ⟨by omega, ?_, Span.slice_eq hline hstart (by omega)⟩
  rw [hline, hlast, hstart]
  simp only [String.length_append]
  omega

/-! ## Requirements -/

/-- Where a requirement stands among requirements that are written with commas between them. -/
theorem text_of_requirementSpans {column : Nat} {rs : List (TypeVar × Capability)}
    {r : TypeVar × Capability} {span : Span} (h : (r, span) ∈ requirementSpansFrom column rs) :
    ∃ before after, ", ".intercalate (rs.map requirementText) =
        before ++ requirementText r ++ after ∧
      span.first = column + before.length ∧
      span.last = span.first + (requirementText r).length := by
  induction rs generalizing column with
  | nil => simp [requirementSpansFrom] at h
  | cons first rs ih =>
    rw [requirementSpansFrom] at h
    rcases List.mem_cons.mp h with heq | hmem
    · -- a comma follows only if another requirement does
      obtain ⟨rfl, rfl⟩ := Prod.mk.inj heq
      cases rs with
      | nil => exact ⟨"", "", by simp, by simp, rfl⟩
      | cons second rs =>
        refine ⟨"", ", " ++ ", ".intercalate ((second :: rs).map requirementText), ?_, by simp, rfl⟩
        rw [List.map_cons, List.map_cons, String.intercalate_cons_cons]
        simp [String.append_assoc]
    · obtain ⟨before, after, htext, hfirst, hlast⟩ := ih hmem
      cases rs with
      | nil => simp [requirementSpansFrom] at hmem
      | cons second rs =>
        refine ⟨requirementText first ++ ", " ++ before, after, ?_, ?_, hlast⟩
        · rw [List.map_cons, List.map_cons, String.intercalate_cons_cons, ← List.map_cons, htext]
          simp only [String.append_assoc]
        · have hcomma : ", ".length = 2 := rfl
          rw [hfirst]
          simp only [String.length_append]
          omega

theorem map_fst_requirementSpansFrom (column : Nat) (rs : List (TypeVar × Capability)) :
    (requirementSpansFrom column rs).map (·.1) = rs := by
  induction rs generalizing column with
  | nil => rfl
  | cons r rs ih => rw [requirementSpansFrom, List.map_cons, ih]

theorem requirementSpan?_isSome_iff {v : TypeVar} {c : Capability} :
    (s.requirementSpan? v c).isSome = true ↔ (v, c) ∈ s.requirements := by
  have hkeys := map_fst_requirementSpansFrom s.opening.length s.requirements
  rw [requirementSpan?, List.lookup_isSome_iff, ← hkeys, List.mem_map]
  refine exists_congr fun entry => and_congr List.mem_reverse ?_
  rw [beq_iff_eq, eq_comm]

/-- The columns of a requirement are among those that are laid out; of a requirement that is made
twice the later ones are taken. -/
theorem mem_of_requirementSpan? {v : TypeVar} {c : Capability} {span : Span}
    (h : s.requirementSpan? v c = some span) : ((v, c), span) ∈ s.requirementSpans := by
  obtain ⟨front, rest, hsplit, -⟩ := List.lookup_eq_some_iff.mp h
  rw [← List.mem_reverse, hsplit]
  simp

theorem slice_of_requirementSpan? {v : TypeVar} {c : Capability} {span : Span}
    (h : s.requirementSpan? v c = some span) :
    span.first ≤ span.last ∧ span.last ≤ s.text.length ∧
      span.slice s.text = requirementText (v, c) := by
  obtain ⟨before, after, htext, hfirst, hlast⟩ :=
    text_of_requirementSpans (mem_of_requirementSpan? h)
  obtain ⟨tail, hline⟩ : ∃ tail, s.text =
      (s.opening ++ before) ++ requirementText (v, c) ++ (after ++ tail) := by
    rw [text, heading, htext]
    simp only [String.append_assoc]
    exact ⟨_, rfl⟩
  have hstart : span.first = (s.opening ++ before).length := by
    rw [hfirst, String.length_append]
  refine ⟨by omega, ?_, Span.slice_eq hline hstart (by omega)⟩
  rw [hline, hlast, hstart]
  simp only [String.length_append]
  omega

/-- Requirements are written before the types: an arrow stands between them. -/
theorem requirementSpan?_before {v : TypeVar} {c : Capability} {requirement span : Span}
    {p : Ty.Path} (hr : s.requirementSpan? v c = some requirement) (hp : s.span? p = some span) :
    requirement.last + 4 ≤ span.first := by
  obtain ⟨before, after, htext, hfirst, hlast⟩ :=
    text_of_requirementSpans (mem_of_requirementSpan? hr)
  have hsome : s.requirements ≠ [] :=
    List.ne_nil_of_mem (requirementSpan?_isSome_iff.mp (Option.isSome_of_mem hr))
  have harrow : " => ".length = 4 := rfl
  have hheading : requirement.last + 4 ≤ s.heading.length := by
    rw [heading, htext, if_neg (c := s.requirements.isEmpty = true) (by simpa using hsome)]
    simp only [String.length_append]
    omega
  cases p with
  | nil => simp [span?_nil] at hp
  | cons i p =>
    rw [span?_cons] at hp
    obtain ⟨t, -, hp⟩ := Option.bind_eq_some_iff.mp hp
    have hbounds := Ty.span?_bounds hp
    omega

/-! ## Two paths -/

section Paths

variable {p q : Ty.Path}

/-- A part of a part lies inside it. -/
theorem span?_within {outer inner : Span} (hbegins : p <+: q) (hp : s.span? p = some outer)
    (hq : s.span? q = some inner) : outer.first ≤ inner.first ∧ inner.last ≤ outer.last := by
  cases p with
  | nil => simp [span?_nil] at hp
  | cons i p =>
    obtain ⟨r, rfl⟩ := hbegins
    rw [List.cons_append, span?_cons] at hq
    rw [span?_cons] at hp
    obtain ⟨t, ht, hp⟩ := Option.bind_eq_some_iff.mp hp
    rw [ht] at hq
    exact Ty.span?_within (List.prefix_append p r) hp hq

/-- Where two paths part, the part at the path with the smaller index ends at least one column
before the other one begins. -/
theorem span?_before {left right : Span} (hlt : p < q) (hbegins : ¬ p <+: q)
    (hp : s.span? p = some left) (hq : s.span? q = some right) : left.last + 1 ≤ right.first := by
  cases p with
  | nil => exact absurd List.nil_prefix hbegins
  | cons i p =>
    cases q with
    | nil => exact absurd hlt (List.not_lt_nil _)
    | cons j q =>
      rw [span?_cons] at hp hq
      obtain ⟨t, ht, hp⟩ := Option.bind_eq_some_iff.mp hp
      obtain ⟨u, hu, hq⟩ := Option.bind_eq_some_iff.mp hq
      rcases List.cons_lt_cons_iff.mp hlt with hij | ⟨rfl, hpq⟩
      -- the paths part at the signature itself: an arrow stands between the two types
      · have hahead := ahead_before hij ht
        have hleft := Ty.span?_bounds hp
        have hright := Ty.span?_bounds hq
        omega
      · obtain rfl := Option.some.inj (ht.symm.trans hu)
        refine Ty.span?_before hpq (fun hpre => hbegins ?_) hp hq
        exact List.cons_prefix_cons.mpr ⟨rfl, hpre⟩

end Paths

/-- **The layout of a signature tells where its parts are.**

A path has columns if and only if it is the index of one of the types, the result coming last, and a
path into that type; the columns hold the part as it is written alone.  A requirement has columns if
and only if the signature makes it, and they hold the capability and the variable.

The columns of a longer path are among those of each of its beginnings.  Where two paths part, the
columns of the one that comes first, index by index, end at least one column before those of the
other one begin. -/
theorem layout_faithful (s : Signature) :
    (∀ path, (s.span? path).isSome = true ↔
      ∃ i p t, path = i :: p ∧ s.types[i]? = some t ∧ (t.at? p).isSome = true) ∧
    (∀ i p t u span, s.types[i]? = some t → t.at? p = some u → s.span? (i :: p) = some span →
      span.first ≤ span.last ∧ span.last ≤ s.text.length ∧ span.slice s.text = u.text) ∧
    (∀ v c, (s.requirementSpan? v c).isSome = true ↔ (v, c) ∈ s.requirements) ∧
    (∀ v c span, s.requirementSpan? v c = some span →
      span.first ≤ span.last ∧ span.last ≤ s.text.length ∧
        span.slice s.text = c.name ++ " " ++ v.name) ∧
    (∀ p q outer inner, p <+: q → s.span? p = some outer → s.span? q = some inner →
      outer.first ≤ inner.first ∧ inner.last ≤ outer.last) ∧
    ∀ p q left right, p < q → ¬ p <+: q → s.span? p = some left → s.span? q = some right →
      left.last + 1 ≤ right.first := by
  refine ⟨fun path => span?_isSome_iff, ?_, fun v c => requirementSpan?_isSome_iff, ?_, ?_, ?_⟩
  · intro i p t u span ht hu h
    exact slice_of_span? ht hu h
  · intro v c span h
    exact slice_of_requirementSpan? h
  · intro p q outer inner hbegins hp hq
    exact span?_within hbegins hp hq
  · intro p q left right hlt hbegins hp hq
    exact span?_before hlt hbegins hp hq

/-- Two requirements, a type inside a type inside a type, and a type beside it. -/
theorem layout_faithful_nested :
    let a : TypeVar := ⟨"a", .given 0⟩
    let s : Signature := ⟨"f", [.array (.either .string (.maybe (.var a)))], .var a,
      [(a, [.ofOperation .toBoolean, .ofOperation .equals])]⟩
    s.text = "f :: (to_boolean a, equals a) => Array (Either String (Maybe a)) -> a" ∧
    s.span? [0, 0, 1] = some ⟨55, 62⟩ ∧ Span.slice ⟨55, 62⟩ s.text = "Maybe a" ∧
    s.requirementSpan? a (.ofOperation .equals) = some ⟨20, 28⟩ ∧
    Span.slice ⟨20, 28⟩ s.text = "equals a" ∧
    s.span? [0, 0] = some ⟨40, 63⟩ ∧ (40 ≤ 55 ∧ 62 ≤ 63) ∧
    s.span? [0, 0, 0] = some ⟨47, 53⟩ ∧ 53 + 1 ≤ 55 := by
  intro a s
  have htext : s.text = "f :: (to_boolean a, equals a) => Array (Either String (Maybe a)) -> a" := by
    decide +kernel
  have hinner : s.span? [0, 0, 1] = some ⟨55, 62⟩ := by decide +kernel
  have houter : s.span? [0, 0] = some ⟨40, 63⟩ := by decide +kernel
  have hbeside : s.span? [0, 0, 0] = some ⟨47, 53⟩ := by decide +kernel
  have hrequirement : s.requirementSpan? a (.ofOperation .equals) = some ⟨20, 28⟩ := by decide +kernel
  obtain ⟨-, hslice, -, hrequired, hwithin, hbefore⟩ := layout_faithful s
  refine ⟨htext, hinner, ?_, hrequirement, ?_, houter, ?_, hbeside, ?_⟩
  · have h := hslice 0 [0, 1] _ _ _ rfl rfl hinner
    exact h.2.2
  · exact (hrequired a _ _ hrequirement).2.2
  · exact hwithin [0, 0] [0, 0, 1] _ _ (by decide) houter hinner
  · exact hbefore [0, 0, 0] [0, 0, 1] _ _ (by decide) (by decide) hbeside hinner

end CheckedCurry.Signature
