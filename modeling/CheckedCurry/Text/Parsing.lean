import CheckedCurry.Number.Literal

/-!
# Parser combinators

Identifiers are read by a grammar over a library of parser combinators.  The library is a parameter:
what the grammar needs of it are its combinators, and what they are documented to do.

* `Parsing`: a library of combinators.
* `Parsing.Repeats`, `Parsing.Separated`: the items that a parser reads one after the other.
* `Parsing.Documented`: what the combinators do to the front of a text.
* `Reader`, `Parsing.standard`: parsers as functions of what is left, and the library they make.
-/

namespace CheckedCurry

/-- A regular expression for one or more characters of a class. -/
structure CharRun where
  inside : Char → Bool

namespace CharRun

/-- What a regular expression matches at the front of a text, as much as it can, and what follows. -/
def match? (r : CharRun) (cs : List Char) : Option (String × List Char) :=
  if (cs.takeWhile r.inside).isEmpty then none
  else some (String.ofList (cs.takeWhile r.inside), cs.dropWhile r.inside)

theorem match?_suffix {r : CharRun} {cs rest : List Char} {s : String}
    (h : r.match? cs = some (s, rest)) : rest <:+ cs := by
  unfold match? at h
  split at h
  · cases h
  · obtain ⟨-, rfl⟩ := Prod.mk.inj (Option.some.inj h)
    exact List.dropWhile_suffix r.inside

end CharRun

/-- A library of parser combinators.  A parser reads the front of a text (`parse_partial`), and
`parse` wants it to read the whole text. -/
structure Parsing where
  Parser : Type → Type
  read : {α : Type} → Parser α → List Char → Option (α × List Char)
  parse : {α : Type} → Parser α → String → Option α
  regex : CharRun → Parser String
  string : String → Parser String
  desc : {α : Type} → Parser α → String → Parser α
  andThen : {α β : Type} → Parser α → Parser β → Parser β
  map : {α β : Type} → (α → β) → Parser α → Parser β
  sepBy : {α β : Type} → Parser α → Parser β → Nat → Parser (List α)
  optional : {α : Type} → Parser α → Parser (Option α)
  yield : {α β : Type} → Parser α → (α → Parser β) → Parser β
  success : {α : Type} → α → Parser α

namespace Parsing

variable {P : Parsing} {α β : Type} {p : P.Parser α} {sep : P.Parser β}

/-! ## What is documented -/

/-- A parser reads one item after the other until it reads none, and leaves what follows. -/
inductive Repeats (p : P.Parser α) : List Char → List α → List Char → Prop where
  | stop {cs : List Char} (h : P.read p cs = none) : Repeats p cs [] cs
  | more {cs next rest : List Char} {v : α} {vs : List α} (h : P.read p cs = some (v, next))
    (hvs : Repeats p next vs rest) : Repeats p cs (v :: vs) rest

/-- A parser reads items as long as it can, all but the first of them behind a separator.  A separator
that no item follows is left. -/
inductive Separated (p : P.Parser α) (sep : P.Parser β) : List Char → List α → List Char → Prop where
  | none {cs : List Char} (h : P.read p cs = none) : Separated p sep cs [] cs
  | some {cs next rest : List Char} {v : α} {vs : List α} (h : P.read p cs = some (v, next))
    (hvs : Repeats (P.andThen sep p) next vs rest) : Separated p sep cs (v :: vs) rest

/-- What the combinators are documented to do. -/
structure Documented (P : Parsing) : Prop where
  /-- A text is parsed if it is read to its end. -/
  parse_iff {α : Type} (p : P.Parser α) (s : String) (v : α) :
    P.parse p s = some v ↔ P.read p s.toList = some (v, [])
  read_regex (r : CharRun) (cs : List Char) : P.read (P.regex r) cs = r.match? cs
  read_string (s : String) (cs : List Char) :
    P.read (P.string s) cs =
      if s.toList.isPrefixOf cs then some (s, cs.drop s.toList.length) else none
  /-- A description is for messages alone. -/
  read_desc {α : Type} (p : P.Parser α) (text : String) (cs : List Char) :
    P.read (P.desc p text) cs = P.read p cs
  /-- What the first parser reads is dropped. -/
  read_andThen {α β : Type} (p : P.Parser α) (q : P.Parser β) (cs : List Char) :
    P.read (P.andThen p q) cs = (P.read p cs).bind fun r => P.read q r.2
  read_map {α β : Type} (f : α → β) (p : P.Parser α) (cs : List Char) :
    P.read (P.map f p) cs = (P.read p cs).map fun r => (f r.1, r.2)
  /-- The items that can be read are read if there are enough of them. -/
  read_sepBy {α β : Type} (p : P.Parser α) (sep : P.Parser β) (least : Nat) (cs : List Char)
    (vs : List α) (rest : List Char) (h : Separated p sep cs vs rest) :
    P.read (P.sepBy p sep least) cs = if least ≤ vs.length then some (vs, rest) else none
  /-- Where nothing can be read nothing is taken. -/
  read_optional {α : Type} (p : P.Parser α) (cs : List Char) :
    P.read (P.optional p) cs =
      match P.read p cs with
      | none => some (none, cs)
      | some (v, rest) => some (some v, rest)
  read_yield {α β : Type} (p : P.Parser α) (f : α → P.Parser β) (cs : List Char) :
    P.read (P.yield p f) cs = (P.read p cs).bind fun r => P.read (f r.1) r.2
  read_success {α : Type} (v : α) (cs : List Char) : P.read (P.success v) cs = some (v, cs)

/-- The items are those that can be read. -/
theorem Repeats.unique {cs rest rest' : List Char} {vs ws : List α} (h : Repeats p cs vs rest)
    (h' : Repeats p cs ws rest') : vs = ws ∧ rest = rest' := by
  induction h generalizing ws rest' with
  | stop hnone =>
    cases h' with
    | stop => exact ⟨rfl, rfl⟩
    | more hsome => cases hnone.symm.trans hsome
  | more hsome _ ih =>
    cases h' with
    | stop hnone => cases hnone.symm.trans hsome
    | more hsome' hvs' =>
      obtain ⟨rfl, rfl⟩ := Prod.mk.inj (Option.some.inj (hsome.symm.trans hsome'))
      obtain ⟨rfl, rfl⟩ := ih hvs'
      exact ⟨rfl, rfl⟩

end Parsing

/-! ## Parsers as functions of what is left -/

/-- A function that reads the front of a text, and leaves the end of it. -/
structure Reader (α : Type) where
  read : List Char → Option (α × List Char)
  suffix : ∀ {cs v rest}, read cs = some (v, rest) → rest <:+ cs

namespace Reader

variable {α β : Type}

def ofString (s : String) : Reader String where
  read cs := if s.toList.isPrefixOf cs then some (s, cs.drop s.toList.length) else none
  suffix h := by
    split at h
    · obtain ⟨-, rfl⟩ := Prod.mk.inj (Option.some.inj h)
      exact List.drop_suffix _ _
    · cases h

def success (v : α) : Reader α where
  read cs := some (v, cs)
  suffix h := by
    obtain ⟨-, rfl⟩ := Prod.mk.inj (Option.some.inj h)
    exact List.suffix_rfl

def yield (p : Reader α) (f : α → Reader β) : Reader β where
  read cs := (p.read cs).bind fun r => (f r.1).read r.2
  suffix h := by
    obtain ⟨⟨v, next⟩, hp, hf⟩ := Option.bind_eq_some_iff.mp h
    exact ((f v).suffix hf).trans (p.suffix hp)

def optional (p : Reader α) : Reader (Option α) where
  read cs :=
    match p.read cs with
    | none => some (none, cs)
    | some (v, rest) => some (some v, rest)
  suffix h := by
    split at h
    · obtain ⟨-, rfl⟩ := Prod.mk.inj (Option.some.inj h)
      exact List.suffix_rfl
    · next hp =>
      obtain ⟨-, rfl⟩ := Prod.mk.inj (Option.some.inj h)
      exact p.suffix hp

/-- The items that are read one after the other; a reader that takes nothing is not read again. -/
def repeatedly (p : Reader α) (cs : List Char) : List α × List Char :=
  match p.read cs with
  | none => ([], cs)
  | some (v, rest) =>
    if rest.length < cs.length then
      let (vs, rest) := repeatedly p rest
      (v :: vs, rest)
    else ([], cs)
termination_by cs.length

theorem repeatedly_suffix (p : Reader α) (cs : List Char) : (p.repeatedly cs).2 <:+ cs := by
  fun_induction repeatedly p cs with
  | case1 => exact List.suffix_rfl
  | case2 cs v rest hp _ vs after hrest ih =>
    rw [hrest] at ih
    exact ih.trans (p.suffix hp)
  | case3 => exact List.suffix_rfl

/-- The items of a reader with separators between them, if there are enough. -/
def sepBy (p : Reader α) (sep : Reader β) (least : Nat) : Reader (List α) where
  read cs :=
    let found : List α × List Char :=
      match p.read cs with
      | none => ([], cs)
      | some (v, next) =>
        (v :: ((sep.yield fun _ => p).repeatedly next).1, ((sep.yield fun _ => p).repeatedly next).2)
    if least ≤ found.1.length then some found else none
  suffix {cs vs rest} h := by
    cases hp : p.read cs with
    | none =>
      simp only [hp] at h
      split at h
      · obtain ⟨-, rfl⟩ := Prod.mk.inj (Option.some.inj h)
        exact List.suffix_rfl
      · cases h
    | some r =>
      simp only [hp] at h
      split at h
      · obtain ⟨-, rfl⟩ := Prod.mk.inj (Option.some.inj h)
        exact (repeatedly_suffix _ _).trans (p.suffix hp)
      · cases h

end Reader

namespace Parsing

/-- The library that readers make. -/
def standard : Parsing where
  Parser := Reader
  read := Reader.read
  parse p s :=
    match p.read s.toList with
    | some (v, []) => some v
    | _ => none
  regex r := ⟨r.match?, CharRun.match?_suffix⟩
  string := .ofString
  desc p _ := p
  andThen p q := p.yield fun _ => q
  map f p := p.yield fun v => .success (f v)
  sepBy := .sepBy
  optional := .optional
  yield := .yield
  success := .success

variable {α : Type} {p : Reader α} {cs rest : List Char} {vs : List α}

/-- Readers repeat as they are documented to: one that takes nothing would read the same for ever. -/
theorem Repeats.repeatedly_eq (h : Repeats (P := standard) p cs vs rest) :
    p.repeatedly cs = (vs, rest) := by
  induction h with
  | @stop cs hnone =>
    have hread : p.read cs = none := hnone
    rw [Reader.repeatedly, hread]
  | @more cs next rest v vs hsome hvs ih =>
    have hread : p.read cs = some (v, next) := hsome
    have hshorter : next.length < cs.length := by
      refine Nat.lt_of_le_of_ne (p.suffix hread).length_le fun hlength => ?_
      obtain rfl := (p.suffix hread).eq_of_length hlength
      exact List.cons_ne_self v vs ((hvs.more hsome).unique hvs).1
    rw [Reader.repeatedly, hread]
    simp only [hshorter, if_true, ih]

theorem standard_documented : standard.Documented where
  parse_iff p s v := by
    show (match Reader.read p s.toList with | some (v, []) => some v | _ => none) = some v ↔
      Reader.read p s.toList = some (v, [])
    split
    · next heq => simp [heq]
    · next hne => exact iff_of_false (by simp) (hne v)
  read_regex _ _ := rfl
  read_string _ _ := rfl
  read_desc _ _ _ := rfl
  read_andThen _ _ _ := rfl
  read_map f p cs := by
    show (Reader.read p cs).bind _ = (Reader.read p cs).map _
    rw [Option.map_eq_bind]
    rfl
  read_sepBy p sep least cs vs rest h := by
    show (Reader.sepBy p sep least).read cs = _
    unfold Reader.sepBy
    cases h with
    | none hnone =>
      have hread : Reader.read p cs = none := hnone
      simp only [hread]
    | @some next _ v vs hsome hvs =>
      have hread : Reader.read p cs = some (v, next) := hsome
      have hrepeated : (Reader.yield sep fun _ => p).repeatedly next = (vs, rest) :=
        hvs.repeatedly_eq
      simp only [hread, hrepeated]
  read_optional _ _ := rfl
  read_yield _ _ _ := rfl
  read_success _ _ := rfl

end Parsing

end CheckedCurry
