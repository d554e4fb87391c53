import Mathlib.Data.List.TakeWhile

/-!
# Runs of characters

A reader that takes characters as long as they pass a test takes exactly the run that was written,
if what follows does not go on with it.  Where several runs are written there are separators between
them.

- `Text.EndsRun`: what follows does not go on with a run.
- `Text.takeWhile_run`, `Text.dropWhile_run`: a run is taken, and what follows it is left.
- `Text.run_cancel`: a run and what follows it are told apart.
- `Text.toList_intercalate`: joined texts are the first of them and the others behind separators.
-/

namespace CheckedCurry.Text

variable {p : Char → Bool} {run run' rest rest' : List Char}

/-- What follows does not go on with a run of characters that pass the test. -/
def EndsRun (p : Char → Bool) (rest : List Char) : Prop := ∀ c ∈ rest.head?, p c = false

theorem endsRun_nil : EndsRun p [] := by simp [EndsRun]

theorem endsRun_cons {c : Char} (h : p c = false) (rest : List Char) : EndsRun p (c :: rest) := by
  intro d hd
  obtain rfl : c = d := Option.some.inj hd
  exact h

/-- What is left after a run does not go on with it. -/
theorem endsRun_dropWhile (p : Char → Bool) (cs : List Char) : EndsRun p (cs.dropWhile p) := by
  intro c hc
  have hhead := List.head?_dropWhile_not p cs
  rw [Option.mem_def.mp hc] at hhead
  exact hhead

theorem takeWhile_of_endsRun (h : EndsRun p rest) : rest.takeWhile p = [] := by
  cases rest with
  | nil => rfl
  | cons c rest => exact List.takeWhile_cons_of_neg (by simp [h c rfl])

theorem dropWhile_of_endsRun (h : EndsRun p rest) : rest.dropWhile p = rest := by
  cases rest with
  | nil => rfl
  | cons c rest => exact List.dropWhile_cons_of_neg (by simp [h c rfl])

/-- A run is taken up to its end. -/
theorem takeWhile_run (hrun : ∀ c ∈ run, p c = true) (hrest : EndsRun p rest) :
    (run ++ rest).takeWhile p = run := by
  rw [List.takeWhile_append_of_pos hrun, takeWhile_of_endsRun hrest, List.append_nil]

/-- What follows a run is left. -/
theorem dropWhile_run (hrun : ∀ c ∈ run, p c = true) (hrest : EndsRun p rest) :
    (run ++ rest).dropWhile p = rest := by
  rw [List.dropWhile_append_of_pos hrun, dropWhile_of_endsRun hrest]

/-- A run and what follows it are told apart. -/
theorem run_cancel (hrun : ∀ c ∈ run, p c = true) (hrun' : ∀ c ∈ run', p c = true)
    (hrest : EndsRun p rest) (hrest' : EndsRun p rest') (h : run ++ rest = run' ++ rest') :
    run = run' ∧ rest = rest' := by
  constructor
  · rw [← takeWhile_run hrun hrest, h, takeWhile_run hrun' hrest']
  · rw [← dropWhile_run hrun hrest, h, dropWhile_run hrun' hrest']

/-- Joined texts are the first of them, and the others each behind a separator. -/
theorem toList_intercalate (separator s : String) (ss : List String) :
    (separator.intercalate (s :: ss)).toList =
      s.toList ++ ss.flatMap fun t => separator.toList ++ t.toList := by
  induction ss generalizing s with
  | nil => simp
  | cons t ss ih =>
    have hrest := ih t
    rw [String.toList_intercalate] at hrest ⊢
    rw [List.flatMap_cons, List.append_assoc, ← hrest]
    simp

end CheckedCurry.Text
