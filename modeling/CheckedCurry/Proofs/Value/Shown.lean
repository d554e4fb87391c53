import CheckedCurry.Proofs.Number.Digits
import CheckedCurry.Proofs.Text.Quoting
import CheckedCurry.Proofs.Text.Run
import CheckedCurry.Value.Display

/-!
# Data is told apart by how it is shown

Messages show data without a fault, and no two values read the same.  How a text starts says what
sort of value is shown.  A number ends where its digits do, and every other text ends by itself, so
what is inside brackets is told apart value by value, up to the bracket that closes it.

- `Value.IsData`, `IsData.display`: data, and that it can be shown.
- `Text.start?`: what the start of a text says; `start?_chars`: it says what sort of data is shown.
- `Text.IsTold`: a thing is told apart from others by how it is written.
- `Text.separated`, `Text.separated_cancel`: lists of written things, told apart one by one.
- `IsData.isTold`: the texts of data are told apart, whatever follows them.
- `exists_display_inj`: data that is shown alike is the same.
-/

namespace CheckedCurry

open Digits (isNumeral)
open Text (EndsRun)

namespace Text

/-! ## How texts start -/

/-- What the text of a value starts with. -/
inductive Start where
  | null
  | undefined
  | truth
  | number
  | text
  | list
  | tuple
  | map
  | nothing
  | just
  | left
  | right

/-- What a text starts with, if it is that of a value. -/
def start? (cs : List Char) : Option Start :=
  if cs.head?.any isNumeral then some .number
  else
    match cs with
    -- the two names with one initial part ways at the third letter
    | 'N' :: 'o' :: 'n' :: _ => some .null
    | 'N' :: 'o' :: 't' :: _ => some .nothing
    | 'u' :: _ => some .undefined
    | 'T' :: _ | 'F' :: _ => some .truth
    | '"' :: _ => some .text
    | '[' :: _ => some .list
    | '(' :: _ => some .tuple
    | '\x7b' :: _ => some .map
    | 'J' :: _ => some .just
    | 'L' :: _ => some .left
    | 'R' :: _ => some .right
    | _ => none

theorem start?_numeral {cs : List Char} (hne : cs ≠ []) (h : ∀ c ∈ cs, isNumeral c = true)
    (rest : List Char) : start? (cs ++ rest) = some .number := by
  cases cs with
  | nil => exact absurd rfl hne
  | cons c cs => exact if_pos (h c List.mem_cons_self)

/-- What is not the start of a value does not go on with a number. -/
theorem endsRun_of_start? {rest : List Char} (h : start? rest = none) :
    EndsRun isNumeral rest := by
  intro c hc
  by_contra hnumeral
  have hnumber : start? rest = some .number :=
    if_pos (by rw [Option.mem_def.mp hc]; simpa using hnumeral)
  cases h.symm.trans hnumber

/-! ## Written lists -/

section Separated

variable {α : Type} {P : α → Prop} {write : α → List Char} {a b : α} {as bs : List α}
  {rest rest' : List Char}

/-- How a thing is written tells it apart from all that have the property, and so is what follows,
as long as that does not go on with a number. -/
def IsTold (P : α → Prop) (write : α → List Char) (a : α) : Prop :=
  ∀ b rest rest', P b → EndsRun isNumeral rest → EndsRun isNumeral rest' →
    write a ++ rest = write b ++ rest' → a = b ∧ rest = rest'

/-- What follows closes a list: no further thing is written, neither at once nor behind a
separator. -/
structure Closes (rest : List Char) : Prop where
  noStart : start? rest = none
  noMore : ∀ more, rest ≠ ',' :: ' ' :: more

/-- Things written each behind a separator. -/
def others (write : α → List Char) (as : List α) : List Char :=
  as.flatMap fun a => ", ".toList ++ write a

/-- Things written with separators between them. -/
def separated (write : α → List Char) : List α → List Char
  | [] => []
  | a :: as => write a ++ others write as

theorem toList_intercalate_map (shown : α → String) (as : List α) :
    (", ".intercalate (as.map shown)).toList = separated (fun a => (shown a).toList) as := by
  cases as with
  | nil => rfl
  | cons a as => rw [List.map_cons, toList_intercalate, List.flatMap_map, separated, others]

theorem others_cons (write : α → List Char) (a : α) (as : List α) (rest : List Char) :
    others write (a :: as) ++ rest = ',' :: ' ' :: (write a ++ (others write as ++ rest)) := by
  rw [others, List.flatMap_cons, List.append_assoc, List.append_assoc]
  rfl

/-- A list that goes on or is closed does not go on with a number. -/
theorem endsRun_others (h : Closes rest) : EndsRun isNumeral (others write as ++ rest) := by
  cases as with
  | nil => exact endsRun_of_start? h.noStart
  | cons a as =>
    rw [others_cons]
    exact endsRun_cons (by decide) _

/-- Things behind separators are told apart one by one. -/
theorem others_cancel (has : ∀ a ∈ as, IsTold P write a) (hbs : ∀ b ∈ bs, P b)
    (hrest : Closes rest) (hrest' : Closes rest')
    (h : others write as ++ rest = others write bs ++ rest') : as = bs ∧ rest = rest' := by
  -- on the first list; a separator tells whether there is one more thing in each of the two
  induction as generalizing bs with
  | nil =>
    cases bs with
    | nil => exact ⟨rfl, h⟩
    | cons b bs =>
      rw [others_cons] at h
      exact absurd h (hrest.noMore _)
  | cons a as ih =>
    rw [others_cons] at h
    cases bs with
    | nil => exact absurd h.symm (hrest'.noMore _)
    | cons b bs =>
      rw [others_cons] at h
      obtain ⟨ha, htail⟩ := List.forall_mem_cons.mp has
      obtain ⟨hb, htail'⟩ := List.forall_mem_cons.mp hbs
      obtain ⟨rfl, hmore⟩ := ha b _ _ hb (endsRun_others hrest) (endsRun_others hrest')
        (List.cons.inj (List.cons.inj h).2).2
      obtain ⟨rfl, hend⟩ := ih htail htail' hmore
      exact ⟨rfl, hend⟩

/-- **Written lists are told apart** one thing after the other, and so is what closes them. -/
theorem separated_cancel (hstart : ∀ b rest, P b → start? (write b ++ rest) ≠ none)
    (has : ∀ a ∈ as, P a ∧ IsTold P write a) (hbs : ∀ b ∈ bs, P b)
    (hrest : Closes rest) (hrest' : Closes rest')
    (h : separated write as ++ rest = separated write bs ++ rest') : as = bs ∧ rest = rest' := by
  cases as with
  | nil =>
    cases bs with
    | nil => exact ⟨rfl, h⟩
    | cons b bs =>
      rw [separated, separated, List.append_assoc] at h
      have hnone : start? (write b ++ (others write bs ++ rest')) = none := h ▸ hrest.noStart
      exact absurd hnone (hstart b _ (hbs b List.mem_cons_self))
  | cons a as =>
    obtain ⟨⟨hPa, ha⟩, htail⟩ := List.forall_mem_cons.mp has
    rw [separated, List.append_assoc] at h
    cases bs with
    | nil =>
      rw [separated, List.nil_append] at h
      have hnone : start? (write a ++ (others write as ++ rest)) = none := h ▸ hrest'.noStart
      exact absurd hnone (hstart a _ hPa)
    | cons b bs =>
      obtain ⟨hb, htail'⟩ := List.forall_mem_cons.mp hbs
      rw [separated, List.append_assoc] at h
      obtain ⟨rfl, hmore⟩ := ha b _ _ hb (endsRun_others hrest) (endsRun_others hrest') h
      obtain ⟨rfl, hend⟩ := others_cancel (fun a h => (htail a h).2) htail' hrest hrest' hmore
      exact ⟨rfl, hend⟩

/-- Written lists are told apart between what opens them and what closes them. -/
theorem enclosed_cancel (opening : Char) (closing : Nat → List Char)
    (hclosing : ∀ count rest, Closes (closing count ++ rest))
    (hstart : ∀ b rest, P b → start? (write b ++ rest) ≠ none)
    (has : ∀ a ∈ as, P a ∧ IsTold P write a) (hbs : ∀ b ∈ bs, P b)
    (h : opening :: (separated write as ++ closing as.length) ++ rest =
      opening :: (separated write bs ++ closing bs.length) ++ rest') : as = bs ∧ rest = rest' := by
  rw [List.cons_append, List.cons_append, List.append_assoc, List.append_assoc] at h
  obtain ⟨rfl, hclosed⟩ := separated_cancel hstart has hbs (hclosing _ _) (hclosing _ _)
    (List.cons.inj h).2
  exact ⟨rfl, List.append_cancel_left hclosed⟩

end Separated

/-- What closes a tuple of some number of elements: a comma follows a single one. -/
def tupleEnd (count : Nat) : List Char := if count = 1 then [',', ')'] else [')']

theorem closes_bracket (rest : List Char) : Closes ([']'] ++ rest) := ⟨rfl, by simp⟩

theorem closes_brace (rest : List Char) : Closes (['\x7d'] ++ rest) := ⟨rfl, by simp⟩

theorem closes_tupleEnd (count : Nat) (rest : List Char) : Closes (tupleEnd count ++ rest) := by
  unfold tupleEnd
  split <;> exact ⟨rfl, by simp⟩

end Text

namespace Value

variable [Host]

open Text (Start IsTold separated tupleEnd)

/-! ## Data -/

/-- Data: the null values, truth values, integers that are short enough to be written, texts, and
lists, tuples, maps, optional values, failures and successes that contain data only. -/
inductive IsData : Value → Prop
  | null : IsData null
  | undefined : IsData undefined
  | bool (b : Bool) : IsData (bool b)
  | int (n : Int) (short : n.natAbs < Nat.pow 10 Number.digitLimit) : IsData (int n)
  | text (s : String) : IsData (text s)
  | list {items : List Value} (data : ∀ v ∈ items, IsData v) : IsData (list items)
  | tuple {items : List Value} (data : ∀ v ∈ items, IsData v) : IsData (tuple items)
  | map {entries : List (Value × Value)} (keys : ∀ e ∈ entries, IsData e.1)
    (values : ∀ e ∈ entries, IsData e.2) : IsData (map entries)
  | nothing : IsData nothing
  | just {v : Value} (data : IsData v) : IsData (just v)
  | left {v : Value} (data : IsData v) : IsData (left v)
  | right {v : Value} (data : IsData v) : IsData (right v)

/-- How messages show a value that can be shown. -/
def shown (v : Value) : String := v.display.toOption.getD ""

/-- How messages show an entry of a map. -/
def shownEntry (e : Value × Value) : String := e.1.shown ++ ": " ++ e.2.shown

variable {v w : Value} {items : List Value} {entries : List (Value × Value)}

theorem shown_of_display {s : String} (h : v.display = .ok s) : v.shown = s := by
  rw [shown, h]
  rfl

theorem displayAll_eq (h : ∀ v ∈ items, v.display = .ok v.shown) :
    displayAll items = .ok (items.map shown) := by
  induction items with
  | nil => rfl
  | cons v vs ih =>
    obtain ⟨hv, hvs⟩ := List.forall_mem_cons.mp h
    rw [displayAll, hv, ih hvs]
    rfl

theorem display_list (h : ∀ v ∈ items, v.display = .ok v.shown) :
    (list items).display = .ok (bracketed (items.map shown)) := by
  rw [display, displayAll_eq h]
  rfl

theorem display_tuple (h : ∀ v ∈ items, v.display = .ok v.shown) :
    (tuple items).display = .ok (parenthesized (items.map shown)) := by
  rw [display, displayAll_eq h]
  rfl

/-- A key that is data is shown like every other value. -/
theorem displayEntries_cons {k : Value} (hk : k.IsData) :
    displayEntries ((k, v) :: entries) = (do
      let key ← k.display
      let value ← v.display
      return (key ++ ": " ++ value) :: (← displayEntries entries)) := by
  rw [displayEntries]
  cases hk <;> rfl

theorem displayEntries_eq (hdata : ∀ e ∈ entries, e.1.IsData)
    (hkeys : ∀ e ∈ entries, e.1.display = .ok e.1.shown)
    (hvalues : ∀ e ∈ entries, e.2.display = .ok e.2.shown) :
    displayEntries entries = .ok (entries.map shownEntry) := by
  induction entries with
  | nil => rfl
  | cons e es ih =>
    obtain ⟨hk, hdata⟩ := List.forall_mem_cons.mp hdata
    obtain ⟨hkey, hkeys⟩ := List.forall_mem_cons.mp hkeys
    obtain ⟨hvalue, hvalues⟩ := List.forall_mem_cons.mp hvalues
    rw [displayEntries_cons hk, hkey, hvalue, ih hdata hkeys hvalues]
    rfl

theorem display_map (hdata : ∀ e ∈ entries, e.1.IsData)
    (hkeys : ∀ e ∈ entries, e.1.display = .ok e.1.shown)
    (hvalues : ∀ e ∈ entries, e.2.display = .ok e.2.shown) :
    (map entries).display = .ok (braced (entries.map shownEntry)) := by
  rw [display, displayEntries_eq hdata hkeys hvalues]
  rfl

/-- A value in parentheses behind the name of what is around it. -/
theorem display_wrapped {name : String} (h : v.display = .ok v.shown)
    (hwrap : w.display = do return name ++ (← v.display) ++ ")") :
    w.display = .ok (name ++ v.shown ++ ")") := by
  rw [hwrap, h]
  rfl

theorem display_int {n : Int} (h : n.natAbs < Nat.pow 10 Number.digitLimit) :
    (int n).display = .ok (toString n) := by
  have hwritten : Number.integerText n = .ok (toString n) :=
    Number.integerText_eq_ok_iff.mpr ⟨h, rfl⟩
  show (number (.int n)).display = _
  rw [display]
  exact congrArg Attempt.ofNumber hwritten

/-- Data can be shown. -/
theorem IsData.display (h : v.IsData) : v.display = .ok v.shown := by
  have hshown {v : Value} {s : String} (h : v.display = .ok s) : v.display = .ok v.shown := by
    rw [shown_of_display h, h]
  induction h with
  | int _ short => exact hshown (display_int short)
  | list _ ih => exact hshown (display_list ih)
  | tuple _ ih => exact hshown (display_tuple ih)
  | map hkeys _ ihkeys ihvalues => exact hshown (display_map hkeys ihkeys ihvalues)
  | just _ ih => exact hshown (display_wrapped ih (display_just _))
  | left _ ih => exact hshown (display_wrapped ih (display_left _))
  | right _ ih => exact hshown (display_wrapped ih (display_right _))
  | _ => rfl

/-! ## Characters -/

/-- The characters of the text of a value. -/
def chars (v : Value) : List Char := v.shown.toList

/-- The characters of the text of an entry. -/
def entryChars (e : Value × Value) : List Char := e.1.chars ++ ':' :: ' ' :: e.2.chars

theorem chars_of_display {s : String} (h : v.display = .ok s) : v.chars = s.toList := by
  rw [chars, shown_of_display h]

theorem toList_parenthesized (items : List Value) :
    (parenthesized (items.map shown)).toList =
      '(' :: (separated chars items ++ tupleEnd items.length) := by
  match items with
  | [] => simp [parenthesized, separated, tupleEnd]
  | [v] => simp [parenthesized, separated, Text.others, tupleEnd, chars]
  | v :: w :: items =>
    show ("(" ++ ", ".intercalate ((v :: w :: items).map shown) ++ ")").toList = _
    rw [String.toList_append, String.toList_append, Text.toList_intercalate_map]
    have hcount : tupleEnd (v :: w :: items).length = [')'] := by simp [tupleEnd]
    rw [hcount]
    rfl

theorem chars_null : null.chars = "None".toList := chars_of_display (by rw [display])

theorem chars_undefined : undefined.chars = "undefined".toList :=
  chars_of_display (by rw [display])

theorem chars_nothing : nothing.chars = "Nothing".toList := chars_of_display (by rw [display])

theorem chars_bool (b : Bool) : (bool b).chars = (boolText b).toList :=
  chars_of_display (by rw [display])

theorem chars_int {n : Int} (h : n.natAbs < Nat.pow 10 Number.digitLimit) :
    (int n).chars = (toString n).toList := chars_of_display (display_int h)

theorem chars_text (s : String) : (text s).chars = (Text.quote s).toList :=
  chars_of_display (display_text s)

theorem chars_list (h : ∀ v ∈ items, v.IsData) :
    (list items).chars = '[' :: (separated chars items ++ [']']) := by
  rw [chars_of_display (display_list fun v hv => (h v hv).display), bracketed,
    String.toList_append, String.toList_append, Text.toList_intercalate_map]
  rfl

theorem chars_tuple (h : ∀ v ∈ items, v.IsData) :
    (tuple items).chars = '(' :: (separated chars items ++ tupleEnd items.length) := by
  rw [chars_of_display (display_tuple fun v hv => (h v hv).display), toList_parenthesized]

theorem chars_map (hkeys : ∀ e ∈ entries, e.1.IsData) (hvalues : ∀ e ∈ entries, e.2.IsData) :
    (map entries).chars = '\x7b' :: (separated entryChars entries ++ ['\x7d']) := by
  have hentry : (fun e => (shownEntry e).toList) = entryChars := by
    funext e
    simp [shownEntry, entryChars, chars]
  rw [chars_of_display (display_map hkeys (fun e he => (hkeys e he).display)
    fun e he => (hvalues e he).display), braced, String.toList_append, String.toList_append,
    Text.toList_intercalate_map, hentry]
  rfl

theorem chars_wrapped {name : String} (h : v.IsData)
    (hwrap : w.display = do return name ++ (← v.display) ++ ")") :
    w.chars = name.toList ++ (v.chars ++ [')']) := by
  rw [chars_of_display (display_wrapped h.display hwrap), String.toList_append,
    String.toList_append, List.append_assoc]
  rfl

/-! ## Telling data apart -/

/-- What the text of data starts with. -/
def start? : Value → Option Start
  | null => some .null
  | undefined => some .undefined
  | bool _ => some .truth
  | number _ => some .number
  | text _ => some .text
  | list _ => some .list
  | tuple _ => some .tuple
  | map _ => some .map
  | nothing => some .nothing
  | just _ => some .just
  | left _ => some .left
  | right _ => some .right
  | _ => none

/-- **The start of a text says what is shown.** -/
theorem start?_chars (h : v.IsData) (rest : List Char) :
    Text.start? (v.chars ++ rest) = v.start? := by
  cases h with
  | null =>
    rw [chars_null]
    rfl
  | undefined =>
    rw [chars_undefined]
    rfl
  | nothing =>
    rw [chars_nothing]
    rfl
  | bool b =>
    rw [chars_bool]
    cases b <;> rfl
  | int n short =>
    rw [chars_int short]
    exact Text.start?_numeral (Digits.toList_toString_ne_nil n)
      (fun c hc => Digits.isNumeral_of_mem_toString hc) rest
  | text s =>
    rw [chars_text, Text.toList_quote]
    rfl
  | list h =>
    rw [chars_list h]
    rfl
  | tuple h =>
    rw [chars_tuple h]
    rfl
  | map hkeys hvalues =>
    rw [chars_map hkeys hvalues]
    rfl
  | just h =>
    rw [chars_wrapped h (display_just _)]
    rfl
  | left h =>
    rw [chars_wrapped h (display_left _)]
    rfl
  | right h =>
    rw [chars_wrapped h (display_right _)]
    rfl

omit [Host] in
theorem start?_ne_none (h : v.IsData) : v.start? ≠ none := by
  cases h <;> nofun

theorem start?_chars_ne_none (h : v.IsData) (rest : List Char) :
    Text.start? (v.chars ++ rest) ≠ none := by
  rw [start?_chars h]
  exact start?_ne_none h

/-- Data is told apart if it is from data of its own sort, which is what its text starts with. -/
theorem isTold_of_sort (hv : v.IsData)
    (h : ∀ w rest rest', w.IsData → w.start? = v.start? → EndsRun isNumeral rest →
      EndsRun isNumeral rest' → v.chars ++ rest = w.chars ++ rest' → v = w ∧ rest = rest') :
    IsTold IsData chars v := by
  intro w rest rest' hw hrest hrest' hchars
  have hsort : w.start? = v.start? := by
    rw [← start?_chars hw rest', ← hchars, start?_chars hv]
  exact h w rest rest' hw hsort hrest hrest' hchars

/-- A value that is the only one of its sort is told apart. -/
theorem isTold_constant (hv : v.IsData)
    (hsame : ∀ w, w.IsData → w.start? = v.start? → w = v) : IsTold IsData chars v := by
  refine isTold_of_sort hv fun w rest rest' hw hsort _ _ h => ?_
  obtain rfl := hsame w hw hsort
  exact ⟨rfl, List.append_cancel_left h⟩

theorem isTold_bool (b : Bool) : IsTold IsData chars (bool b) := by
  refine isTold_of_sort (.bool b) fun w rest rest' hw hsort _ _ h => ?_
  cases hw with
  | bool c =>
    rw [chars_bool, chars_bool] at h
    cases b <;> cases c <;>
      first | exact ⟨rfl, List.append_cancel_left h⟩ | exact absurd (List.cons.inj h).1 (by decide)
  | _ => cases hsort

theorem isTold_int {n : Int} (short : n.natAbs < Nat.pow 10 Number.digitLimit) :
    IsTold IsData chars (int n) := by
  refine isTold_of_sort (.int n short) fun w rest rest' hw hsort hrest hrest' h => ?_
  cases hw with
  | int m short' =>
    rw [chars_int short, chars_int short'] at h
    obtain ⟨hdigits, hend⟩ := Text.run_cancel (fun c hc => Digits.isNumeral_of_mem_toString hc)
      (fun c hc => Digits.isNumeral_of_mem_toString hc) hrest hrest' h
    obtain rfl := Digits.toString_int_injective (String.toList_inj.mp hdigits)
    exact ⟨rfl, hend⟩
  | _ => cases hsort

theorem isTold_text (s : String) : IsTold IsData chars (text s) := by
  refine isTold_of_sort (.text s) fun w rest rest' hw hsort _ _ h => ?_
  cases hw with
  | text t =>
    rw [chars_text, chars_text] at h
    obtain ⟨rfl, hend⟩ := Text.quote_cancel h
    exact ⟨rfl, hend⟩
  | _ => cases hsort

theorem isTold_list (hdata : ∀ v ∈ items, v.IsData)
    (hitems : ∀ v ∈ items, IsTold IsData chars v) : IsTold IsData chars (list items) := by
  refine isTold_of_sort (.list hdata) fun w rest rest' hw hsort _ _ h => ?_
  cases hw with
  | list hdata' =>
    rw [chars_list hdata, chars_list hdata'] at h
    obtain ⟨rfl, hend⟩ := Text.enclosed_cancel '[' (fun _ => [']'])
      (fun _ => Text.closes_bracket) (fun _ rest hw => start?_chars_ne_none hw rest)
      (fun v hv => ⟨hdata v hv, hitems v hv⟩) hdata' h
    exact ⟨rfl, hend⟩
  | _ => cases hsort

theorem isTold_tuple (hdata : ∀ v ∈ items, v.IsData)
    (hitems : ∀ v ∈ items, IsTold IsData chars v) : IsTold IsData chars (tuple items) := by
  refine isTold_of_sort (.tuple hdata) fun w rest rest' hw hsort _ _ h => ?_
  cases hw with
  | tuple hdata' =>
    rw [chars_tuple hdata, chars_tuple hdata'] at h
    obtain ⟨rfl, hend⟩ := Text.enclosed_cancel '(' tupleEnd Text.closes_tupleEnd
      (fun _ rest hw => start?_chars_ne_none hw rest) (fun v hv => ⟨hdata v hv, hitems v hv⟩)
      hdata' h
    exact ⟨rfl, hend⟩
  | _ => cases hsort

/-- The key and the value of an entry are data. -/
def EntryIsData (e : Value × Value) : Prop := e.1.IsData ∧ e.2.IsData

/-- An entry is told apart if its key and its value are. -/
theorem isTold_entry {e : Value × Value} (hkey : IsTold IsData chars e.1)
    (hvalue : IsTold IsData chars e.2) : IsTold EntryIsData entryChars e := by
  obtain ⟨k, v⟩ := e
  rintro ⟨l, w⟩ rest rest' ⟨hl, hw⟩ hrest hrest' h
  rw [entryChars, entryChars, List.append_assoc, List.append_assoc] at h
  obtain ⟨hkeys, hcolon⟩ := hkey l _ _ hl (Text.endsRun_cons (by decide) _)
    (Text.endsRun_cons (by decide) _) h
  obtain ⟨hvalues, hend⟩ := hvalue w _ _ hw hrest hrest'
    (List.cons.inj (List.cons.inj hcolon).2).2
  exact ⟨Prod.ext hkeys hvalues, hend⟩

theorem start?_entryChars_ne_none {e : Value × Value} (h : EntryIsData e) (rest : List Char) :
    Text.start? (entryChars e ++ rest) ≠ none := by
  rw [entryChars, List.append_assoc]
  exact start?_chars_ne_none h.1 _

theorem isTold_map (hdata : ∀ e ∈ entries, EntryIsData e)
    (hentries : ∀ e ∈ entries, IsTold IsData chars e.1 ∧ IsTold IsData chars e.2) :
    IsTold IsData chars (map entries) := by
  have hkeys : ∀ e ∈ entries, e.1.IsData := fun e he => (hdata e he).1
  have hvalues : ∀ e ∈ entries, e.2.IsData := fun e he => (hdata e he).2
  refine isTold_of_sort (.map hkeys hvalues) fun w rest rest' hw hsort _ _ h => ?_
  cases hw with
  | map hkeys' hvalues' =>
    rw [chars_map hkeys hvalues, chars_map hkeys' hvalues'] at h
    obtain ⟨rfl, hend⟩ := Text.enclosed_cancel '\x7b' (fun _ => ['\x7d'])
      (fun _ => Text.closes_brace) (fun _ rest he => start?_entryChars_ne_none he rest)
      (fun e he => ⟨hdata e he, isTold_entry (hentries e he).1 (hentries e he).2⟩)
      (fun e he => ⟨hkeys' e he, hvalues' e he⟩) h
    exact ⟨rfl, hend⟩
  | _ => cases hsort

/-- What holds one value is told apart if that value is, up to the parenthesis that closes it. -/
theorem isTold_wrapped {wrap : Value → Value} {name : String} (hv : v.IsData)
    (hwrap : (wrap v).IsData) (htold : IsTold IsData chars v)
    (hdisplay : ∀ v, (wrap v).display = do return name ++ (← v.display) ++ ")")
    (hsame : ∀ w, w.IsData → w.start? = (wrap v).start? → ∃ u, u.IsData ∧ w = wrap u) :
    IsTold IsData chars (wrap v) := by
  refine isTold_of_sort hwrap fun w rest rest' hw hsort _ _ h => ?_
  obtain ⟨u, hu, rfl⟩ := hsame w hw hsort
  rw [chars_wrapped hv (hdisplay v), chars_wrapped hu (hdisplay u), List.append_assoc,
    List.append_assoc, List.append_assoc, List.append_assoc] at h
  obtain ⟨rfl, hclose⟩ := htold u _ _ hu (Text.endsRun_cons (by decide) _)
    (Text.endsRun_cons (by decide) _) (List.append_cancel_left h)
  exact ⟨rfl, (List.cons.inj hclose).2⟩

/-- **Data is told apart**, and so is what follows its text, as long as that does not go on with a
number. -/
theorem IsData.isTold (h : v.IsData) : IsTold IsData chars v := by
  induction h with
  | null =>
    refine isTold_constant .null fun w hw hsort => ?_
    cases hw with
    | null => rfl
    | _ => cases hsort
  | undefined =>
    refine isTold_constant .undefined fun w hw hsort => ?_
    cases hw with
    | undefined => rfl
    | _ => cases hsort
  | nothing =>
    refine isTold_constant .nothing fun w hw hsort => ?_
    cases hw with
    | nothing => rfl
    | _ => cases hsort
  | bool b => exact isTold_bool b
  | int n short => exact isTold_int short
  | text s => exact isTold_text s
  | list hdata ih => exact isTold_list hdata ih
  | tuple hdata ih => exact isTold_tuple hdata ih
  | map hkeys hvalues ihkeys ihvalues =>
    exact isTold_map (fun e he => ⟨hkeys e he, hvalues e he⟩)
      fun e he => ⟨ihkeys e he, ihvalues e he⟩
  | just hdata ih =>
    refine isTold_wrapped hdata (.just hdata) ih display_just fun w hw hsort => ?_
    cases hw with
    | just hcontent => exact ⟨_, hcontent, rfl⟩
    | _ => cases hsort
  | left hdata ih =>
    refine isTold_wrapped hdata (.left hdata) ih display_left fun w hw hsort => ?_
    cases hw with
    | left hcontent => exact ⟨_, hcontent, rfl⟩
    | _ => cases hsort
  | right hdata ih =>
    refine isTold_wrapped hdata (.right hdata) ih display_right fun w hw hsort => ?_
    cases hw with
    | right hcontent => exact ⟨_, hcontent, rfl⟩
    | _ => cases hsort

/-- **Data that is shown alike is the same**, constructor by constructor, and all data can be
shown. -/
theorem exists_display_inj (hv : v.IsData) (hw : w.IsData) :
    ∃ s t, v.display = .ok s ∧ w.display = .ok t ∧ (s = t ↔ v = w) := by
  refine ⟨v.shown, w.shown, hv.display, hw.display, ?_, congrArg shown⟩
  intro h
  have hchars : v.chars ++ [] = w.chars ++ [] := by rw [chars, h, chars]
  exact (hv.isTold w [] [] hw Text.endsRun_nil Text.endsRun_nil hchars).1

/-- Two maps that differ in a key only by its sort, and in what is under it by where a text ends. -/
def lookalikes : Value × Value :=
  (map [(tuple [yes], just (list [text "a\", \"b"]))],
    map [(tuple [int 1], just (list [text "a", text "b"]))])

omit [Host] in
theorem exists_display_inj_lookalikes : letI : Host := .bare
    lookalikes.1.IsData ∧ lookalikes.2.IsData ∧ ∃ s t, lookalikes.1.display = .ok s ∧
      lookalikes.2.display = .ok t ∧ (s = t ↔ lookalikes.1 = lookalikes.2) := by
  let _ : Host := .bare
  have hone : (int 1).IsData := .int 1 ((Number.hasDigits_iff (by decide)).mp rfl)
  have hv : lookalikes.1.IsData := by
    refine .map ?_ ?_ <;> simp only [List.forall_mem_singleton]
    · exact .tuple (by simp [yes, IsData.bool])
    · exact .just (.list (by simp [IsData.text]))
  have hw : lookalikes.2.IsData := by
    refine .map ?_ ?_ <;> simp only [List.forall_mem_singleton]
    · exact .tuple (by simp [hone])
    · exact .just (.list (by simp [IsData.text]))
  exact ⟨hv, hw, exists_display_inj hv hw⟩

end Value

end CheckedCurry
