import CheckedCurry.Ty.Layout

/-!
# The columns of the parts of a type

The part of a type at a path stands in the written type as a text of its own.  What is written
before it is built up from the outside: at each step of the path, the name and the parameters before
the one that the path goes into.

- `Ty.span?`: the columns of the part at a path.
- `Ty.lead`: what is written before a parameter; `span?_cons` goes down one step of a path.
- `span?_isSome_iff`: the paths that have columns.
- `text_of_span?`: the columns of a part hold the part.
- `span?_within`, `span?_before`: parts of one path, and of paths that part.
-/

namespace CheckedCurry

/-- The columns of a part of a text hold that part. -/
theorem Span.slice_eq {span : Span} {text before part after : String}
    (htext : text = before ++ part ++ after) (hfirst : span.first = before.length)
    (hlast : span.last = before.length + part.length) : span.slice text = part := by
  have hlist : text.toList = before.toList ++ (part.toList ++ after.toList) := by
    rw [htext, String.toList_append, String.toList_append, List.append_assoc]
  have hwidth : span.width = part.toList.length := by
    rw [width, hfirst, hlast, String.length_toList]
    omega
  rw [slice, hlist, hwidth, hfirst, ← String.length_toList, List.drop_left, List.take_left,
    String.ofList_toList]

namespace Ty

/-! ## Looking up a path -/

/-- The columns of the part at a path, in a type that is written from a column on. -/
def span? (column : Nat) (t : Ty) (path : Path) : Option Span := (t.spans column).lookup path

/-- Spans that are put under an index are found under that index only. -/
theorem lookup_map_cons (index i : Nat) (path : Path) (spans : List (Path × Span)) :
    (spans.map fun (path, span) => (index :: path, span)).lookup (i :: path) =
      if i = index then spans.lookup path else none := by
  induction spans with
  | nil => simp
  | cons entry spans ih =>
    obtain ⟨key, span⟩ := entry
    rw [List.map_cons, List.lookup_cons, ih, List.lookup_cons]
    by_cases hindex : i = index
    · by_cases hpath : path = key <;> simp [hindex, hpath]
    · have hkey : (i :: path == index :: key) = false := by simp [hindex]
      rw [hkey]
      simp only [if_neg hindex]

theorem at?_cons (t : Ty) (i : Nat) (path : Path) :
    t.at? (i :: path) = t.params[i]?.bind fun p => p.at? path := by
  rw [at?]
  cases t.params[i]? <;> rfl

@[simp] theorem span?_nil (column : Nat) (t : Ty) :
    t.span? column [] = some ⟨column, column + t.text.length⟩ := by
  cases t <;> simp [span?, spans]

/-! ## What is written before a parameter -/

/-- What stands before a parameter, from the space that parts it from what is written before. -/
def gap (p : Ty) : String := if p.needsParens then " (" else " "

/-- What is written before the parameter at an index. -/
def lead (t : Ty) (i : Nat) (p : Ty) : String :=
  match t with
  | applied c params => c.name ++ textParams (params.take i) ++ p.gap
  | _ => ""

theorem textParams_append (ps qs : List Ty) :
    textParams (ps ++ qs) = textParams ps ++ textParams qs := by
  induction ps with
  | nil => simp
  | cons p ps ih => simp [ih, String.append_assoc]

/-- A parameter as it is written: the gap, the parameter, and the parenthesis that ends it. -/
theorem exists_textParams_cons (p : Ty) (ps : List Ty) :
    ∃ after, textParams (p :: ps) = p.gap ++ p.text ++ after := by
  rw [textParams_cons]
  unfold gap parenthesize
  cases p.needsParens
  · exact ⟨textParams ps, rfl⟩
  · refine ⟨")" ++ textParams ps, ?_⟩
    have hgap : " (" = " " ++ "(" := rfl
    simp only [if_true, hgap, String.append_assoc]

/-- Types around the one at an index. -/
theorem eq_take_append_cons {ps : List Ty} {i : Nat} {p : Ty} (h : ps[i]? = some p) :
    ps = ps.take i ++ p :: ps.drop (i + 1) := by
  obtain ⟨hlt, hget⟩ := List.getElem?_eq_some_iff.mp h
  rw [← hget, ← List.drop_eq_getElem_cons hlt, List.take_append_drop]

/-- The types before an index, around the one at an earlier index. -/
theorem take_eq_take_append_cons {ps : List Ty} {i j : Nat} {p : Ty} (hij : i < j)
    (h : ps[i]? = some p) : ps.take j = ps.take i ++ p :: (ps.take j).drop (i + 1) := by
  have hsplit := eq_take_append_cons ((List.getElem?_take_of_lt hij).trans h)
  rwa [List.take_take, Nat.min_eq_left (Nat.le_of_lt hij)] at hsplit

/-- A parameter is part of the written type. -/
theorem exists_text_eq_lead {t p : Ty} {i : Nat} (h : t.params[i]? = some p) :
    ∃ after, t.text = t.lead i p ++ p.text ++ after := by
  cases t with
  | applied c params =>
    have h : params[i]? = some p := h
    obtain ⟨after, hafter⟩ := exists_textParams_cons p (params.drop (i + 1))
    have hparams : textParams params =
        textParams (params.take i) ++ (p.gap ++ p.text ++ after) := by
      rw [← hafter, ← textParams_append, ← eq_take_append_cons h]
    refine ⟨after, ?_⟩
    rw [text_applied, hparams]
    simp only [lead, String.append_assoc]
  | any _ | accessible _ | representative _ | var _ | nullary _ => simp [params] at h

/-- A parameter ends at least one column before a later one begins. -/
theorem lead_before {t p q : Ty} {i j : Nat} (hij : i < j) (hp : t.params[i]? = some p)
    (hq : t.params[j]? = some q) :
    (t.lead i p).length + p.text.length + 1 ≤ (t.lead j q).length := by
  cases t with
  | applied c params =>
    -- the parameters before the later one are those before the earlier one, that one, and more
    have hsplit : params.take j = params.take i ++ p :: (params.take j).drop (i + 1) :=
      take_eq_take_append_cons hij hp
    obtain ⟨after, hafter⟩ := exists_textParams_cons p ((params.take j).drop (i + 1))
    have hgap : 1 ≤ q.gap.length := by
      unfold gap
      split <;> decide
    have hlength : (textParams (params.take j)).length =
        (textParams (params.take i)).length + (p.gap.length + p.text.length + after.length) := by
      rw [hsplit, textParams_append, hafter]
      simp only [String.length_append]
    simp only [lead, String.length_append]
    omega
  | any _ | accessible _ | representative _ | var _ | nullary _ => simp [params] at hp

/-! ## One step of a path -/

theorem spansParams_cons (column index : Nat) (p : Ty) (ps : List Ty) :
    spansParams column index (p :: ps) =
      ((p.spans (column + p.gap.length)).map fun (path, span) => (index :: path, span)) ++
        spansParams (column + (textParams [p]).length) (index + 1) ps := by
  have hgap : column + 1 + (if p.needsParens then 1 else 0) = column + p.gap.length := by
    unfold gap
    cases p.needsParens <;> rfl
  have hwidth : column + 1 + (parenthesize p.needsParens p.text).length =
      column + (textParams [p]).length := by
    rw [textParams_cons, textParams_nil, String.append_empty, String.length_append, ← Nat.add_assoc]
    rfl
  rw [spansParams, hgap, hwidth]

theorem lookup_spansParams (column index i : Nat) (path : Path) (ps : List Ty) :
    (spansParams column index ps).lookup (i :: path) =
      if i < index then none
      else ps[i - index]?.bind fun p =>
        p.span? (column + (textParams (ps.take (i - index)) ++ p.gap).length) path := by
  induction ps generalizing column index with
  | nil => simp [spansParams]
  | cons p ps ih =>
    rw [spansParams_cons, List.lookup_append, lookup_map_cons, ih]
    rcases Nat.lt_trichotomy i index with hlt | rfl | hgt
    · rw [if_neg (by omega), if_pos (by omega), if_pos hlt]
      rfl
    · -- found under this parameter or nowhere: the parameters that follow have greater indices
      rw [if_pos rfl, if_pos (by omega), if_neg (by omega), Nat.sub_self]
      simp [span?]
    · obtain ⟨k, rfl⟩ : ∃ k, i = index + 1 + k := ⟨i - (index + 1), by omega⟩
      have hk : index + 1 + k - index = k + 1 := by omega
      have hk' : index + 1 + k - (index + 1) = k := by omega
      rw [if_neg (by omega), if_neg (by omega), if_neg (by omega), hk, hk', Option.none_or,
        List.getElem?_cons_succ, List.take_succ_cons]
      congr 1
      funext q
      congr 1
      have hfirst : textParams (p :: ps.take k) = textParams [p] ++ textParams (ps.take k) :=
        textParams_append [p] (ps.take k)
      rw [hfirst]
      simp only [String.length_append]
      omega

/-- The columns of a part are those of a part of the parameter that its path goes into. -/
theorem span?_cons (column : Nat) (t : Ty) (i : Nat) (path : Path) :
    t.span? column (i :: path) =
      t.params[i]?.bind fun p => p.span? (column + (t.lead i p).length) path := by
  cases t with
  | applied c params =>
    have hlookup := lookup_spansParams (column + c.name.length) 0 i path params
    rw [if_neg (by omega), Nat.sub_zero] at hlookup
    rw [span?, spans, List.lookup_cons]
    simp only [lead, Ty.params]
    rw [hlookup]
    simp only [String.length_append, Nat.add_assoc]
    rfl
  | any _ | accessible _ | representative _ | var _ | nullary _ => simp [span?, spans, params]

/-! ## All paths -/

section Paths

variable {t : Ty} {column : Nat} {p q path : Path} {span : Span}

/-- The paths that have columns are the paths into the type. -/
theorem span?_isSome_iff : (t.span? column path).isSome ↔ (t.at? path).isSome := by
  induction path generalizing t column with
  | nil => simp
  | cons i path ih =>
    rw [span?_cons, at?_cons]
    cases t.params[i]? with
    | none => simp
    | some p => exact ih

/-- The columns of a part hold the part. -/
theorem text_of_span? (h : t.span? column path = some span) :
    ∃ u before after, t.at? path = some u ∧ t.text = before ++ u.text ++ after ∧
      span.first = column + before.length ∧ span.last = span.first + u.text.length := by
  induction path generalizing t column with
  | nil =>
    rw [span?_nil] at h
    obtain rfl := Option.some.inj h
    exact ⟨t, "", "", at?_nil t, by simp, by simp, rfl⟩
  | cons i path ih =>
    rw [span?_cons] at h
    obtain ⟨p, hp, hspan⟩ := Option.bind_eq_some_iff.mp h
    obtain ⟨u, before, after, hat, hinner, hfirst, hlast⟩ := ih hspan
    obtain ⟨rest, houter⟩ := exists_text_eq_lead hp
    refine ⟨u, t.lead i p ++ before, after ++ rest, ?_, ?_, ?_, hlast⟩
    · rw [at?_cons, hp]
      exact hat
    · rw [houter, hinner]
      simp only [String.append_assoc]
    · rw [hfirst, String.length_append, Nat.add_assoc]

/-- The columns of a part are among those of the whole type. -/
theorem span?_bounds (h : t.span? column path = some span) :
    column ≤ span.first ∧ span.first ≤ span.last ∧ span.last ≤ column + t.text.length := by
  obtain ⟨u, before, after, -, htext, hfirst, hlast⟩ := text_of_span? h
  rw [htext]
  simp only [String.length_append]
  omega

/-- A part of a part lies inside it. -/
theorem span?_within {outer inner : Span} (hbegins : p <+: q)
    (hp : t.span? column p = some outer) (hq : t.span? column q = some inner) :
    outer.first ≤ inner.first ∧ inner.last ≤ outer.last := by
  induction p generalizing t column q with
  | nil =>
    rw [span?_nil] at hp
    obtain rfl := Option.some.inj hp
    have hbounds := span?_bounds hq
    exact ⟨hbounds.1, hbounds.2.2⟩
  | cons i p ih =>
    obtain ⟨r, rfl⟩ := hbegins
    rw [List.cons_append, span?_cons] at hq
    rw [span?_cons] at hp
    obtain ⟨u, hu, hp⟩ := Option.bind_eq_some_iff.mp hp
    rw [hu] at hq
    exact ih (List.prefix_append p r) hp hq

/-- Where two paths part, the part at the path with the smaller index ends at least one column
before the other one begins. -/
theorem span?_before {left right : Span} (hlt : p < q) (hbegins : ¬ p <+: q)
    (hp : t.span? column p = some left) (hq : t.span? column q = some right) :
    left.last + 1 ≤ right.first := by
  induction p generalizing t column q with
  | nil => exact absurd List.nil_prefix hbegins
  | cons i p ih =>
    cases q with
    | nil => exact absurd hlt (List.not_lt_nil _)
    | cons j q =>
      rw [span?_cons] at hp hq
      obtain ⟨u, hu, hp⟩ := Option.bind_eq_some_iff.mp hp
      obtain ⟨w, hw, hq⟩ := Option.bind_eq_some_iff.mp hq
      rcases List.cons_lt_cons_iff.mp hlt with hij | ⟨rfl, hpq⟩
      -- the paths part here
      · have hlead := lead_before hij hu hw
        have hleft := span?_bounds hp
        have hright := span?_bounds hq
        omega
      · obtain rfl := Option.some.inj (hu.symm.trans hw)
        refine ih hpq (fun hpre => hbegins ?_) hp hq
        exact List.cons_prefix_cons.mpr ⟨rfl, hpre⟩

end Paths

end Ty

end CheckedCurry
