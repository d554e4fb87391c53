import CheckedCurry.Proofs.Text.Run
import CheckedCurry.Ty.Layout

/-!
# Types as trees of names

A type is written without commas and with as few parentheses as possible.  As long as names are
words, the text still tells the tree of names: where a name ends, whether something is inside it,
and where that ends.

- `NameTree`, `Ty.tree`: the tree of the names in a type.
- `NameTree.chars_cancel`: texts of trees are told apart, with something behind them.
- `Ty.toList_text`: the text of a type is that of its tree.
- `Ty.tree_eq_of_text_eq`: types with one text have one tree.
- `Ty.text_eq_iff_tree_eq`: the text of a type says as much as its tree.
-/

namespace CheckedCurry

open Text (EndsRun)

/-! ## Words -/

/-- A character may stand in a word: it neither ends a name nor opens or closes a group. -/
def isWordChar (c : Char) : Bool := c != ' ' && c != '(' && c != ')'

/-- A name is a word: it is not empty, and has neither spaces nor parentheses. -/
def IsWord (name : String) : Prop := name ≠ "" ∧ ∀ c ∈ name.toList, isWordChar c = true

instance (name : String) : Decidable (IsWord name) :=
  decidable_of_iff (name ≠ "" ∧ name.toList.all isWordChar = true)
    (and_congr_right fun _ => List.all_eq_true)

/-- A word does not open a group. -/
theorem word_ne_group {name : String} {rest rest' : List Char} (hname : IsWord name) :
    name.toList ++ rest ≠ '(' :: rest' := by
  cases hchars : name.toList with
  | nil => exact absurd (String.toList_eq_nil_iff.mp hchars) hname.1
  | cons c cs =>
    intro h
    obtain rfl : c = '(' := (List.cons.inj h).1
    have hword : isWordChar '(' = true := hname.2 '(' (by rw [hchars]; exact List.mem_cons_self)
    exact absurd hword (by decide)

/-! ## Trees -/

/-- A tree of names. -/
inductive NameTree where
  | node (name : String) (inner : List NameTree)

namespace NameTree

/-- The name at the root. -/
def name : NameTree → String
  | node name _ => name

/-- Whether there is something inside. -/
def hasInner : NameTree → Bool
  | node _ inner => !inner.isEmpty

/-- A text in a group if it is to be one. -/
def group (needed : Bool) (cs : List Char) : List Char :=
  if needed then '(' :: (cs ++ [')']) else cs

mutual

/-- A tree is written as its name, followed by what is inside. -/
def chars : NameTree → List Char
  | node name inner => name.toList ++ charsInner inner

/-- What is inside is written tree by tree, each behind a space, and in a group if it has something
inside itself. -/
def charsInner : List NameTree → List Char
  | [] => []
  | t :: ts => ' ' :: (group t.hasInner t.chars ++ charsInner ts)

end

mutual

/-- All names in a tree are words. -/
def IsLegible : NameTree → Prop
  | node name inner => IsWord name ∧ AreLegible inner

/-- The same for several trees. -/
def AreLegible : List NameTree → Prop
  | [] => True
  | t :: ts => t.IsLegible ∧ AreLegible ts

end

/-! ## What follows a tree -/

/-- What follows closes a group, or nothing follows. -/
def Closes (rest : List Char) : Prop := ∀ c ∈ rest.head?, c = ')'

variable {t u : NameTree} {ts us : List NameTree} {rest rest' : List Char}

theorem closes_nil : Closes [] := by simp [Closes]

theorem closes_cons (rest : List Char) : Closes (')' :: rest) := by simp [Closes]

/-- A word ends where something inside or the end of a group follows it. -/
theorem endsRun_charsInner (ts : List NameTree) (h : Closes rest) :
    EndsRun isWordChar (charsInner ts ++ rest) := by
  cases ts with
  | nil =>
    intro c hc
    rw [h c hc]
    rfl
  | cons t ts =>
    rw [charsInner]
    exact Text.endsRun_cons rfl _

/-- Nothing inside is told apart from something inside, which starts with a space. -/
theorem ne_charsInner (h : Closes rest) : rest ≠ charsInner (t :: ts) ++ rest' := by
  rw [charsInner]
  rintro rfl
  exact absurd (h ' ' rfl) (by decide)

/-- A tree with nothing inside is written as a word. -/
theorem exists_word (ht : t.IsLegible) (h : t.hasInner = false) :
    ∃ name, t = node name [] ∧ IsWord name ∧ t.chars = name.toList := by
  obtain ⟨name, inner⟩ := t
  obtain rfl : inner = [] := by simpa [hasInner] using h
  rw [IsLegible] at ht
  exact ⟨name, rfl, ht.1, by rw [chars, charsInner, List.append_nil]⟩

/-- A word is told apart from a group. -/
theorem chars_ne_group (ht : t.IsLegible) (h : t.hasInner = false) (cs : List Char) :
    t.chars ++ rest ≠ group true cs ++ rest' := by
  obtain ⟨name, -, hname, hchars⟩ := exists_word ht h
  rw [hchars]
  exact word_ne_group hname

/-! ## Telling trees apart -/

/-- Two words inside are told apart, and so is what follows them. -/
theorem word_cancel (ht : t.IsLegible) (hu : u.IsLegible) (htword : t.hasInner = false)
    (huword : u.hasInner = false) (hrest : Closes rest) (hrest' : Closes rest')
    (h : t.chars ++ (charsInner ts ++ rest) = u.chars ++ (charsInner us ++ rest')) :
    t = u ∧ charsInner ts ++ rest = charsInner us ++ rest' := by
  obtain ⟨name, rfl, hname, hchars⟩ := exists_word ht htword
  obtain ⟨name', rfl, hname', hchars'⟩ := exists_word hu huword
  rw [hchars, hchars'] at h
  obtain ⟨hnames, hinner⟩ := Text.run_cancel hname.2 hname'.2 (endsRun_charsInner ts hrest)
    (endsRun_charsInner us hrest') h
  exact ⟨by rw [String.toList_inj.mp hnames], hinner⟩

mutual

/-- **Written trees are told apart**, whatever closes the group that they stand in. -/
theorem chars_cancel : ∀ (t u : NameTree) (rest rest' : List Char), t.IsLegible → u.IsLegible →
    Closes rest → Closes rest' → t.chars ++ rest = u.chars ++ rest' → t = u ∧ rest = rest'
  | node name ts, node name' us, rest, rest', ht, hu, hrest, hrest', h => by
    rw [IsLegible] at ht hu
    rw [chars, chars, List.append_assoc, List.append_assoc] at h
    obtain ⟨hnames, hinner⟩ := Text.run_cancel ht.1.2 hu.1.2 (endsRun_charsInner ts hrest)
      (endsRun_charsInner us hrest') h
    obtain ⟨rfl, hfollow⟩ := charsInner_cancel ts us rest rest' ht.2 hu.2 hrest hrest' hinner
    exact ⟨by rw [String.toList_inj.mp hnames], hfollow⟩

/-- What is inside is told apart, and so is what follows it. -/
theorem charsInner_cancel : ∀ (ts us : List NameTree) (rest rest' : List Char), AreLegible ts →
    AreLegible us → Closes rest → Closes rest' → charsInner ts ++ rest = charsInner us ++ rest' →
    ts = us ∧ rest = rest'
  | [], [], _, _, _, _, _, _, h => ⟨rfl, by simpa [charsInner] using h⟩
  | [], u :: us, rest, _, _, _, hrest, _, h => by
    rw [charsInner, List.nil_append] at h
    exact absurd h (ne_charsInner hrest)
  | t :: ts, [], _, rest', _, _, _, hrest', h => by
    rw [charsInner.eq_1, List.nil_append] at h
    exact absurd h.symm (ne_charsInner hrest')
  | t :: ts, u :: us, rest, rest', hts, hus, hrest, hrest', h => by
    rw [AreLegible] at hts hus
    rw [charsInner, charsInner, List.cons_append, List.cons_append, List.append_assoc,
      List.append_assoc] at h
    have h := (List.cons.inj h).2
    have hfirst : t = u ∧ charsInner ts ++ rest = charsInner us ++ rest' := by
      cases ht : t.hasInner <;> cases hu : u.hasInner <;> rw [ht, hu] at h
      · exact word_cancel hts.1 hus.1 ht hu hrest hrest' h
      · exact absurd h (chars_ne_group hts.1 ht _)
      · exact absurd h.symm (chars_ne_group hus.1 hu _)
      · -- inside a group, the end of the group follows
        have h : t.chars ++ (')' :: (charsInner ts ++ rest)) =
            u.chars ++ (')' :: (charsInner us ++ rest')) := by
          simpa [group] using h
        obtain ⟨htree, hclose⟩ :=
          chars_cancel t u _ _ hts.1 hus.1 (closes_cons _) (closes_cons _) h
        exact ⟨htree, (List.cons.inj hclose).2⟩
    obtain ⟨rfl, hinner⟩ := hfirst
    obtain ⟨rfl, hfollow⟩ := charsInner_cancel ts us rest rest' hts.2 hus.2 hrest hrest' hinner
    exact ⟨rfl, hfollow⟩

end

end NameTree

/-! ## The tree of a type -/

namespace Ty

mutual

/-- The tree of the names in a type. -/
def tree : Ty → NameTree
  | any name => .node name []
  | accessible name => .node name []
  | representative none => .node "TypeRep" []
  | representative (some p) => .node "TypeRep" [p.tree]
  | var v => .node v.name []
  | nullary n => .node n.name []
  | applied c ps => .node c.name (trees ps)

/-- The trees of several types. -/
def trees : List Ty → List NameTree
  | [] => []
  | p :: ps => p.tree :: trees ps

end

theorem hasInner_tree (t : Ty) : t.tree.hasInner = t.needsParens := by
  cases t with
  | representative p => cases p <;> rfl
  | applied c ps => cases ps <;> rfl
  | _ => rfl

theorem toList_parenthesize (needed : Bool) (s : String) :
    (parenthesize needed s).toList = NameTree.group needed s.toList := by
  cases needed <;> simp [parenthesize, NameTree.group]

mutual

/-- The text of a type is the text of its tree. -/
theorem toList_text : ∀ t : Ty, t.text.toList = t.tree.chars
  | any name => by simp [text, tree, NameTree.chars, NameTree.charsInner]
  | accessible name => by simp [text, tree, NameTree.chars, NameTree.charsInner]
  | representative none => by simp [text, tree, NameTree.chars, NameTree.charsInner]
  | representative (some p) => by
    rw [text, tree, NameTree.chars, NameTree.charsInner, NameTree.charsInner, String.toList_append,
      toList_parenthesize, toList_text p, hasInner_tree]
    simp
  | var v => by simp [text, tree, NameTree.chars, NameTree.charsInner]
  | nullary n => by simp [text, tree, NameTree.chars, NameTree.charsInner]
  | applied c ps => by
    rw [text, tree, NameTree.chars, String.toList_append, toList_textParams ps]

theorem toList_textParams : ∀ ps : List Ty,
    (textParams ps).toList = NameTree.charsInner (trees ps)
  | [] => by simp [trees, NameTree.charsInner]
  | p :: ps => by
    rw [textParams_cons, trees, NameTree.charsInner, String.toList_append, String.toList_append,
      toList_parenthesize, toList_text p, toList_textParams ps, hasInner_tree]
    rfl

end

/-- All names in a type are words. -/
def IsLegible (t : Ty) : Prop := t.tree.IsLegible

/-- **Types with one text have one tree of names**, if all their names are words. -/
theorem tree_eq_of_text_eq {t u : Ty} (ht : t.IsLegible) (hu : u.IsLegible)
    (h : t.text = u.text) : t.tree = u.tree := by
  have hchars : t.tree.chars ++ [] = u.tree.chars ++ [] := by
    rw [← toList_text, ← toList_text, h]
  exact (NameTree.chars_cancel _ _ _ _ ht hu NameTree.closes_nil NameTree.closes_nil hchars).1

/-- **The text of a type says as much as its tree of names**, if all its names are words: where a
text has parentheses and where it goes without them never makes two trees read the same. -/
theorem text_eq_iff_tree_eq {t u : Ty} (ht : t.IsLegible) (hu : u.IsLegible) :
    t.text = u.text ↔ t.tree = u.tree := by
  constructor
  · exact tree_eq_of_text_eq ht hu
  · intro h
    rw [← String.toList_inj, toList_text, toList_text, h]

/-- Two types with one text: the names are the same, but a program made those of the second type
for other tests. -/
def namesakes : Ty × Ty :=
  (applied .either [applied .array [var ⟨"a", .standard⟩],
      representative (some (applied .maybe [any "Any"]))],
    applied .either [applied ⟨"Array", .custom 0, [.custom 0], none⟩ [nullary ⟨"a", .custom 1, none⟩],
      applied ⟨"TypeRep", .custom 2, [.custom 1], none⟩ [applied .maybe [accessible "Any"]]])

theorem text_eq_iff_tree_eq_namesakes :
    namesakes.1.IsLegible ∧ namesakes.2.IsLegible ∧
      namesakes.1.text = "Either (Array a) (TypeRep (Maybe Any))" ∧
      namesakes.1.text = namesakes.2.text ∧ namesakes.1.tree = namesakes.2.tree := by
  have ht : namesakes.1.IsLegible := by
    simp only [namesakes, IsLegible, tree, trees, NameTree.IsLegible, NameTree.AreLegible]
    decide
  have hu : namesakes.2.IsLegible := by
    simp only [namesakes, IsLegible, tree, trees, NameTree.IsLegible, NameTree.AreLegible]
    decide
  have htext : namesakes.1.text = "Either (Array a) (TypeRep (Maybe Any))" := by decide
  have hsame : namesakes.1.text = namesakes.2.text := by decide
  exact ⟨ht, hu, htext, hsame, (text_eq_iff_tree_eq ht hu).mp hsame⟩

end Ty

end CheckedCurry
