import CheckedCurry.Value.Basic
import Mathlib.Data.List.Forall2

/-!
# Computations that may fail

Laws of sequencing for computations that end in an answer or in a fault.

- `bind_eq_ok`: a sequence answers if and only if all its steps do.
- `mapM_eq_ok_iff`: a list of computations answers if and only if each of them does;
  `forall₂_of_mapM_mapM`: groups of computations.
- `exists_of_mapM_eq_ok`, `exists_of_mem_mapM`: from a computation to its answer and back.
- `Attempt.IsBasic`: all faults of a computation have basic causes; closed under sequencing.
- `Attempt.Answers`: a computation ends in an answer; closed under sequencing too.
- `Tells`: a computation answers, and its answer is the truth of a property.
-/

namespace CheckedCurry

/-- A sequence of two steps answers if the first does and the second does with its answer. -/
theorem bind_eq_ok {ε α β : Type} {x : Except ε α} {k : α → Except ε β} {b : β} :
    (x >>= k) = .ok b ↔ ∃ a, x = .ok a ∧ k a = .ok b := by
  cases x with
  | error e =>
    refine ⟨fun h => ?_, fun h => ?_⟩
    · cases h
    · obtain ⟨a, ha, -⟩ := h
      cases ha
  | ok a =>
    refine ⟨fun h => ⟨a, rfl, h⟩, fun h => ?_⟩
    obtain ⟨a', ha, hb⟩ := h
    cases ha
    exact hb

section MapM

variable {ε α β : Type} {k : α → Except ε β} {as : List α} {bs : List β} {a : α} {b : β}

/-- A list of computations answers the list of their answers. -/
theorem mapM_eq_ok_iff : as.mapM k = .ok bs ↔ List.Forall₂ (fun a b => k a = .ok b) as bs := by
  induction as generalizing bs with
  | nil =>
    rw [List.mapM_nil, List.forall₂_nil_left_iff]
    exact ⟨fun h => (Except.ok.inj h).symm, fun h => congrArg Except.ok h.symm⟩
  | cons a as ih =>
    rw [List.mapM_cons, bind_eq_ok]
    constructor
    · rintro ⟨b, hb, h⟩
      obtain ⟨bs', hbs, h⟩ := bind_eq_ok.mp h
      obtain rfl := Except.ok.inj h
      exact .cons hb (ih.mp hbs)
    · rintro (_ | ⟨hb, hbs⟩)
      exact ⟨_, hb, bind_eq_ok.mpr ⟨_, ih.mpr hbs, rfl⟩⟩

/-- Groups of computations answer the groups of their answers. -/
theorem forall₂_of_mapM_mapM {κ : Type} {keys : List κ} {group : κ → List α} {bss : List (List β)}
    (h : (keys.mapM fun key => (group key).mapM k) = .ok bss) :
    List.Forall₂ (List.Forall₂ fun a b => k a = .ok b) (keys.map group) bss := by
  refine List.forall₂_map_left_iff.mpr ((mapM_eq_ok_iff.mp h).imp fun _ _ hgroup => ?_)
  exact mapM_eq_ok_iff.mp hgroup

/-- Each of the computations has its answer in the list. -/
theorem exists_of_mapM_eq_ok (h : as.mapM k = .ok bs) (ha : a ∈ as) : ∃ b ∈ bs, k a = .ok b := by
  obtain ⟨hlen, hall⟩ := List.forall₂_iff_get.mp (mapM_eq_ok_iff.mp h)
  obtain ⟨i, rfl⟩ := List.mem_iff_get.mp ha
  have hi : i < bs.length := Nat.lt_of_lt_of_eq i.isLt hlen
  exact ⟨bs.get ⟨i, hi⟩, List.get_mem bs ⟨i, hi⟩, hall i i.isLt hi⟩

/-- Each answer in the list is that of one of the computations. -/
theorem exists_of_mem_mapM (h : as.mapM k = .ok bs) (hb : b ∈ bs) : ∃ a, k a = .ok b := by
  obtain ⟨hlen, hall⟩ := List.forall₂_iff_get.mp (mapM_eq_ok_iff.mp h)
  obtain ⟨i, rfl⟩ := List.mem_iff_get.mp hb
  have hi : i < as.length := Nat.lt_of_lt_of_eq i.isLt hlen.symm
  exact ⟨as.get ⟨i, hi⟩, hall i hi i.isLt⟩

end MapM

namespace Attempt

/-- All faults of a computation have basic causes. -/
def IsBasic {α : Type} (x : Attempt α) : Prop := ∀ f, x = .error f → ∃ cause, f = .basic cause

variable {α β : Type}

theorem isBasic_ok (a : α) : IsBasic (.ok a) := fun _ h => nomatch h

theorem isBasic_fail (cause : Cause) : IsBasic (fail cause : Attempt α) := by
  intro f h
  cases h
  exact ⟨cause, rfl⟩

theorem isBasic_ofNumber (x : Except NumberFault α) : IsBasic (ofNumber x) := by
  cases x with
  | error e => exact isBasic_fail (.number e)
  | ok a => exact isBasic_ok a

theorem IsBasic.bind {x : Attempt α} {k : α → Attempt β} (hx : x.IsBasic)
    (hk : ∀ a, (k a).IsBasic) : IsBasic (x >>= k) := by
  intro f hf
  cases x with
  | error g =>
    obtain ⟨cause, rfl⟩ := hx g rfl
    cases hf
    exact ⟨cause, rfl⟩
  | ok a => exact hk a f hf

/-- A sequence whose second step may rely on the answer of the first. -/
theorem IsBasic.bind_of_ok {x : Attempt α} {k : α → Attempt β} (hx : x.IsBasic)
    (hk : ∀ a, x = .ok a → (k a).IsBasic) : IsBasic (x >>= k) := by
  cases x with
  | error f =>
    obtain ⟨cause, rfl⟩ := hx f rfl
    exact isBasic_fail cause
  | ok a => exact hk a rfl

/-- A choice between two computations. -/
theorem isBasic_ite {c : Prop} [Decidable c] {x y : Attempt α} (hx : x.IsBasic) (hy : y.IsBasic) :
    IsBasic (if c then x else y) := by
  split
  · exact hx
  · exact hy

/-- A value that lacks a capability is no basic cause. -/
theorem IsBasic.ne_capability {x : Attempt α} (hx : x.IsBasic) (shown name : String) :
    x ≠ .error (.capability shown name) := by
  intro h
  obtain ⟨cause, hcause⟩ := hx _ h
  cases hcause

/-- A computation whose last step only puts an answer together. -/
theorem IsBasic.map {x : Attempt α} (hx : x.IsBasic) (g : α → β) :
    IsBasic (do return g (← x)) :=
  hx.bind fun a => isBasic_ok (g a)

theorem isBasic_mapM {k : α → Attempt β} (hk : ∀ a, (k a).IsBasic) (as : List α) :
    IsBasic (as.mapM k) := by
  induction as with
  | nil => exact isBasic_ok []
  | cons a as ih =>
    rw [List.mapM_cons]
    exact (hk a).bind fun b => ih.bind fun bs => isBasic_ok (b :: bs)

/-! ## Computations that come to an answer -/

/-- A computation ends in an answer. -/
abbrev Answers (x : Attempt α) : Prop := ∃ a, x = .ok a

theorem answers_ok (a : α) : Answers (.ok a) := ⟨a, rfl⟩

theorem Answers.bind {x : Attempt α} {k : α → Attempt β} (hx : x.Answers)
    (hk : ∀ a, x = .ok a → (k a).Answers) : Answers (x >>= k) := by
  obtain ⟨a, ha⟩ := hx
  obtain ⟨b, hb⟩ := hk a ha
  exact ⟨b, bind_eq_ok.mpr ⟨a, ha, hb⟩⟩

theorem Answers.map {x : Attempt α} (hx : x.Answers) (g : α → β) :
    Answers (do return g (← x)) := hx.bind fun a _ => answers_ok (g a)

/-- A list of answers that all have a property. -/
theorem exists_mapM {P : β → Prop} {k : α → Attempt β} {as : List α}
    (hk : ∀ a ∈ as, ∃ b, k a = .ok b ∧ P b) : ∃ bs, as.mapM k = .ok bs ∧ ∀ b ∈ bs, P b := by
  induction as with
  | nil => exact ⟨[], rfl, fun b hb => absurd hb List.not_mem_nil⟩
  | cons a as ih =>
    obtain ⟨⟨b, hb, hP⟩, has⟩ := List.forall_mem_cons.mp hk
    obtain ⟨bs, hbs, hall⟩ := ih has
    rw [List.mapM_cons]
    exact ⟨b :: bs, bind_eq_ok.mpr ⟨b, hb, bind_eq_ok.mpr ⟨bs, hbs, rfl⟩⟩,
      List.forall_mem_cons.mpr ⟨hP, hall⟩⟩

theorem answers_mapM {k : α → Attempt β} {as : List α} (hk : ∀ a ∈ as, (k a).Answers) :
    Answers (as.mapM k) := by
  obtain ⟨bs, hbs, -⟩ := exists_mapM (P := fun _ => True) fun a ha =>
    (hk a ha).imp fun _ hb => ⟨hb, trivial⟩
  exact ⟨bs, hbs⟩

end Attempt

/-! ## Computations that tell a property -/

/-- A computation answers whether a property holds. -/
def Tells {ε : Type} (x : Except ε Bool) (P : Prop) : Prop := ∃ b, x = .ok b ∧ (b = true ↔ P)

section Tells

variable {ε : Type} {x : Except ε Bool} {P Q : Prop}

theorem tells_ok {b : Bool} (h : b = true ↔ P) : Tells (.ok b : Except ε Bool) P := ⟨b, rfl, h⟩

theorem Tells.eq_ok_iff (h : Tells x P) : x = .ok true ↔ P := by
  obtain ⟨b, rfl, hb⟩ := h
  rw [← hb]
  exact ⟨Except.ok.inj, congrArg Except.ok⟩

/-- A second property is asked for only if it can be told at once. -/
theorem Tells.and (h : Tells x P) {c : Bool} (hc : c = true ↔ Q) :
    Tells (do return (← x) && c) (P ∧ Q) := by
  obtain ⟨b, rfl, hb⟩ := h
  exact ⟨b && c, rfl, by rw [Bool.and_eq_true, hb, hc]⟩

theorem Tells.congr (h : Tells x P) (hPQ : P ↔ Q) : Tells x Q := by
  obtain ⟨b, rfl, hb⟩ := h
  exact tells_ok (hb.trans hPQ)

theorem Tells.ofNumber {x : Except NumberFault Bool} (h : Tells x P) :
    Tells (Attempt.ofNumber x) P := by
  obtain ⟨b, rfl, hb⟩ := h
  exact tells_ok hb

end Tells

end CheckedCurry
