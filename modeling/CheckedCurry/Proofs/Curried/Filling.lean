import CheckedCurry.Curried.Basic
import CheckedCurry.Proofs.Value.Attempt

/-!
# What a call does to the slots

A call that is not refused treats the slots in one way, whether its arguments are checked or not:
they go to the open slots from left to right, and a placeholder leaves its slot as it is.

- `Curried.fill`: the slots after a call, by recursion on the slots; `Curried.fillAll`: the slots
  after several calls.
- `getElem?_fill_closed`, `getElem?_fill_open`: what becomes of each slot;
  `getElem?_of_getElem?_fill`: where what it holds comes from.
- `countP_fill`: how many slots are still open.
- `Curried.feed`: the checks of a call with the slots between them, by recursion on the slots;
  `eq_fill_of_feed` ties it to `fill`.
-/

namespace CheckedCurry.Curried

/-! ## The slots after a call -/

/-- The slots after arguments are put into the open ones, from left to right.  A placeholder leaves
its slot as it is, and arguments beyond the open slots are dropped. -/
def fill : List Value → List Value → List Value
  | [], _ => []
  | v :: slots, arguments =>
    if v.isOpen then
      match arguments with
      | [] => v :: slots
      | a :: rest => (if a.isOpen then v else a) :: fill slots rest
    else v :: fill slots arguments

/-- The slots after several calls. -/
def fillAll (slots : List Value) (groups : List (List Value)) : List Value :=
  groups.foldl fill slots

/-- What stands in an open slot after an argument has met it, if one has. -/
def meet (v : Value) : Option Value → Value
  | some a => if a.isOpen then v else a
  | none => v

/-- The number of arguments that are no placeholders. -/
def supplied (arguments : List Value) : Nat := arguments.countP fun a => !a.isOpen

@[simp] theorem fill_nil (arguments : List Value) : fill [] arguments = [] := rfl

theorem fill_cons_closed {v : Value} (h : v.isOpen = false) (slots arguments : List Value) :
    fill (v :: slots) arguments = v :: fill slots arguments := by
  simp [fill, h]

theorem fill_cons_open {v : Value} (h : v.isOpen = true) (slots : List Value) (a : Value)
    (rest : List Value) :
    fill (v :: slots) (a :: rest) = meet v (some a) :: fill slots rest := by
  simp [fill, meet, h]

/-- A call without arguments leaves the slots as they are. -/
@[simp] theorem fill_no_arguments (slots : List Value) : fill slots [] = slots := by
  induction slots with
  | nil => rfl
  | cons v slots ih =>
    by_cases h : v.isOpen
    · simp [fill, h]
    · rw [fill_cons_closed (by simpa using h), ih]

@[simp] theorem length_fill (slots arguments : List Value) :
    (fill slots arguments).length = slots.length := by
  induction slots generalizing arguments with
  | nil => rfl
  | cons v slots ih =>
    by_cases h : v.isOpen
    · cases arguments with
      | nil => simp
      | cons a rest => rw [fill_cons_open h, List.length_cons, ih, List.length_cons]
    · rw [fill_cons_closed (by simpa using h), List.length_cons, ih, List.length_cons]

/-- A filled slot keeps its value. -/
theorem getElem?_fill_closed {slots : List Value} {i : Nat} {w : Value}
    (hw : slots[i]? = some w) (hclosed : w.isOpen = false) (arguments : List Value) :
    (fill slots arguments)[i]? = some w := by
  induction slots generalizing i arguments with
  | nil => simp at hw
  | cons v slots ih =>
    by_cases h : v.isOpen
    · cases arguments with
      | nil => simpa using hw
      | cons a rest =>
        rw [fill_cons_open h]
        cases i with
        | zero =>
          obtain rfl : v = w := by simpa using hw
          exact absurd h (by simp [hclosed])
        | succ i => exact ih (by simpa using hw) rest
    · rw [fill_cons_closed (by simpa using h)]
      cases i with
      | zero => simpa using hw
      | succ i => exact ih (by simpa using hw) arguments

/-- The open slot with `j` open slots before it meets the argument at `j`. -/
theorem getElem?_fill_open {slots : List Value} {i : Nat} {w : Value}
    (hw : slots[i]? = some w) (hopen : w.isOpen = true) (arguments : List Value) :
    (fill slots arguments)[i]? =
      some (meet w arguments[(slots.take i).countP Value.isOpen]?) := by
  induction slots generalizing i arguments with
  | nil => simp at hw
  | cons v slots ih =>
    by_cases h : v.isOpen
    · cases arguments with
      | nil => simpa [meet] using hw
      | cons a rest =>
        rw [fill_cons_open h]
        cases i with
        | zero =>
          obtain rfl : v = w := by simpa using hw
          simp
        | succ i =>
          rw [List.getElem?_cons_succ, ih (by simpa using hw) rest, List.take_succ_cons,
            List.countP_cons_of_pos h, List.getElem?_cons_succ]
    · rw [fill_cons_closed (by simpa using h)]
      cases i with
      | zero =>
        obtain rfl : v = w := by simpa using hw
        exact absurd hopen h
      | succ i =>
        rw [List.getElem?_cons_succ, ih (by simpa using hw) arguments, List.take_succ_cons,
          List.countP_cons_of_neg h]

/-- What a slot holds after a call it has held before, or it is a value that the call has brought to
the slot while it was open. -/
theorem getElem?_of_getElem?_fill {slots arguments : List Value} {i : Nat} {u : Value}
    (h : (fill slots arguments)[i]? = some u) :
    slots[i]? = some u ∨
      ∃ w, slots[i]? = some w ∧ w.isOpen = true ∧ u.isOpen = false ∧
        arguments[(slots.take i).countP Value.isOpen]? = some u := by
  have hlt : i < slots.length := by
    rw [← length_fill slots arguments]
    exact (List.getElem?_eq_some_iff.mp h).1
  have hw : slots[i]? = some slots[i] := List.getElem?_eq_getElem hlt
  by_cases hopen : slots[i].isOpen
  · rw [getElem?_fill_open hw hopen] at h
    have hmeet := Option.some.inj h
    cases harg : arguments[(slots.take i).countP Value.isOpen]? with
    | none =>
      rw [harg] at hmeet
      exact .inl (hmeet ▸ hw)
    | some a =>
      rw [harg] at hmeet
      by_cases ha : a.isOpen
      · simp only [meet, ha, if_true] at hmeet
        exact .inl (hmeet ▸ hw)
      · simp only [meet, ha] at hmeet
        obtain rfl : a = u := hmeet
        exact .inr ⟨_, hw, hopen, by simpa using ha, rfl⟩
  · rw [getElem?_fill_closed hw (by simpa using hopen)] at h
    exact .inl (hw.trans h)

/-- A slot that is open after a call was open before, with the same placeholder. -/
theorem mem_of_mem_fill [Host] {slots arguments : List Value} {w : Value}
    (h : w ∈ fill slots arguments) (hopen : w.isOpen = true) : w ∈ slots := by
  obtain ⟨i, hi⟩ := List.mem_iff_getElem?.mp h
  rcases getElem?_of_getElem?_fill hi with hw | ⟨-, -, -, hclosed, -⟩
  · exact List.mem_of_getElem? hw
  · rw [hopen] at hclosed
    cases hclosed

/-- A call fills as many slots as it has arguments that meet one and are no placeholders. -/
theorem countP_fill (slots arguments : List Value) :
    (fill slots arguments).countP Value.isOpen +
        supplied (arguments.take (slots.countP Value.isOpen)) =
      slots.countP Value.isOpen := by
  induction slots generalizing arguments with
  | nil => simp [supplied]
  | cons v slots ih =>
    by_cases h : v.isOpen
    · cases arguments with
      | nil => simp [supplied]
      | cons a rest =>
        have hrest := ih rest
        rw [fill_cons_open h, List.countP_cons_of_pos h, List.take_succ_cons]
        simp only [supplied] at hrest ⊢
        by_cases ha : a.isOpen
        · simp only [meet, ha, if_true]
          rw [List.countP_cons_of_pos h, List.countP_cons_of_neg (by simp [ha])]
          omega
        · simp only [meet, ha]
          rw [List.countP_cons_of_neg (by simpa using ha),
            List.countP_cons_of_pos (by simp [ha])]
          omega
    · rw [fill_cons_closed (by simpa using h), List.countP_cons_of_neg h,
        List.countP_cons_of_neg h]
      exact ih arguments

/-! ## Several calls -/

@[simp] theorem fillAll_nil (slots : List Value) : fillAll slots [] = slots := rfl

theorem fillAll_concat (slots : List Value) (groups : List (List Value)) (arguments : List Value) :
    fillAll slots (groups ++ [arguments]) = fill (fillAll slots groups) arguments := by
  simp [fillAll]

theorem fillAll_append (slots : List Value) (groups later : List (List Value)) :
    fillAll slots (groups ++ later) = fillAll (fillAll slots groups) later := by
  simp [fillAll]

@[simp] theorem length_fillAll (slots : List Value) (groups : List (List Value)) :
    (fillAll slots groups).length = slots.length := by
  induction groups generalizing slots with
  | nil => rfl
  | cons arguments groups ih => exact (ih (fill slots arguments)).trans (length_fill ..)

/-- A filled slot keeps its value for the rest of a run. -/
theorem getElem?_fillAll_closed {slots : List Value} {i : Nat} {w : Value}
    (hw : slots[i]? = some w) (hclosed : w.isOpen = false) (groups : List (List Value)) :
    (fillAll slots groups)[i]? = some w := by
  induction groups generalizing slots with
  | nil => exact hw
  | cons arguments groups ih => exact ih (getElem?_fill_closed hw hclosed arguments)

/-- A slot that is open after a run was open before, with the same placeholder. -/
theorem mem_of_mem_fillAll [Host] {slots : List Value} {groups : List (List Value)} {w : Value}
    (h : w ∈ fillAll slots groups) (hopen : w.isOpen = true) : w ∈ slots := by
  induction groups generalizing slots with
  | nil => exact h
  | cons arguments groups ih => exact mem_of_mem_fill (ih h) hopen

/-! ## Checks between the slots -/

/-- The slots after a call whose arguments are checked one after the other.  `done` holds the slots
that the call has passed, and every check sees the slots as they are at that point. -/
def feed (check : List Value → Nat → Value → Checked Unit) (done : List Value) :
    List Value → List Value → Checked (List Value)
  | [], _ => .ok done
  | v :: slots, arguments =>
    if v.isOpen then
      match arguments with
      | [] => .ok (done ++ v :: slots)
      | a :: rest =>
        if a.isOpen then feed check (done ++ [v]) slots rest
        else do
          check (done ++ v :: slots) done.length a
          feed check (done ++ [a]) slots rest
    else feed check (done ++ [v]) slots arguments

section Feed

variable {check : List Value → Nat → Value → Checked Unit} {done slots : List Value} {v a : Value}

theorem feed_closed (h : v.isOpen = false) (arguments : List Value) :
    feed check done (v :: slots) arguments = feed check (done ++ [v]) slots arguments := by
  simp [feed, h]

theorem feed_placeholder (h : v.isOpen = true) (ha : a.isOpen = true) (rest : List Value) :
    feed check done (v :: slots) (a :: rest) = feed check (done ++ [v]) slots rest := by
  simp [feed, h, ha]

theorem feed_value (h : v.isOpen = true) (ha : a.isOpen = false) (rest : List Value) :
    feed check done (v :: slots) (a :: rest) = (do
      check (done ++ v :: slots) done.length a
      feed check (done ++ [a]) slots rest) := by
  simp [feed, h, ha]

@[simp] theorem feed_no_arguments : feed check done slots [] = .ok (done ++ slots) := by
  induction slots generalizing done with
  | nil => simp [feed]
  | cons v slots ih =>
    by_cases h : v.isOpen
    · simp [feed, h]
    · rw [feed_closed (by simpa using h), ih, List.append_assoc, List.singleton_append]

/-- Whatever is checked, slots that come out of a call are filled in the one way. -/
theorem eq_fill_of_feed {arguments after : List Value}
    (h : feed check done slots arguments = .ok after) : after = done ++ fill slots arguments := by
  induction slots generalizing done arguments with
  | nil => simpa [feed] using h.symm
  | cons v slots ih =>
    by_cases hv : v.isOpen
    · cases arguments with
      | nil => simpa using h.symm
      | cons a rest =>
        rw [fill_cons_open hv]
        by_cases ha : a.isOpen
        · rw [feed_placeholder hv ha] at h
          simpa [meet, ha] using ih h
        · rw [feed_value hv (by simpa using ha)] at h
          obtain ⟨_, -, hrest⟩ := bind_eq_ok.mp h
          simpa [meet, ha] using ih hrest
    · have hv' : v.isOpen = false := by simpa using hv
      rw [feed_closed hv'] at h
      simpa [fill_cons_closed hv'] using ih h

/-- A call whose checks do not all pass ends as one of the checks does. -/
theorem exists_check_of_feed {arguments : List Value} {p : Problem}
    (h : feed check done slots arguments = .error p) :
    ∃ before index a, check before index a = .error p := by
  induction slots generalizing done arguments with
  | nil => cases h
  | cons v slots ih =>
    by_cases hv : v.isOpen
    · cases arguments with
      | nil =>
        rw [feed_no_arguments] at h
        cases h
      | cons a rest =>
        by_cases ha : a.isOpen
        · rw [feed_placeholder hv ha] at h
          exact ih h
        · rw [feed_value hv (by simpa using ha)] at h
          cases hcheck : check (done ++ v :: slots) done.length a with
          | error q =>
            rw [hcheck] at h
            cases h
            exact ⟨_, _, _, hcheck⟩
          | ok =>
            rw [hcheck] at h
            exact ih h
    · rw [feed_closed (by simpa using hv)] at h
      exact ih h

/-- Slots that are filled already are passed over. -/
theorem feed_skip {front : List Value} (hfront : ∀ w ∈ front, w.isOpen = false)
    (arguments : List Value) :
    feed check done (front ++ slots) arguments = feed check (done ++ front) slots arguments := by
  induction front generalizing done with
  | nil => simp
  | cons w front ih =>
    rw [List.cons_append, feed_closed (hfront w (List.mem_cons_self ..)),
      ih fun x hx => hfront x (List.mem_cons_of_mem _ hx), List.append_assoc,
      List.singleton_append]

/-- A value that meets an open slot after others have been checked is refused if its check fails,
whatever comes after it. -/
theorem feed_refused {before filled : List Value} (ha : a.isOpen = false)
    (hlt : before.length < slots.countP Value.isOpen)
    (hbefore : feed check done slots before = .ok filled) :
    ∃ i < (done ++ slots).length, ∀ (p : Problem) (after : List Value),
      check filled i a = .error p → feed check done slots (before ++ a :: after) = .error p := by
  induction slots generalizing done before with
  | nil => simp at hlt
  | cons v slots ih =>
    have hassoc (w : Value) : (done ++ [w] ++ slots).length = (done ++ v :: slots).length := by simp
    by_cases hv : v.isOpen
    · rw [List.countP_cons_of_pos hv] at hlt
      cases before with
      | nil =>
        -- this is the slot that the value meets
        rw [feed_no_arguments] at hbefore
        obtain rfl := Except.ok.inj hbefore
        refine ⟨done.length, by simp, fun p after hp => ?_⟩
        rw [List.nil_append, feed_value hv ha, hp]
        rfl
      | cons b before =>
        have hlt' : before.length < slots.countP Value.isOpen := by
          rw [List.length_cons] at hlt
          omega
        by_cases hb : b.isOpen
        · rw [feed_placeholder hv hb] at hbefore
          obtain ⟨i, hi, hrefused⟩ := ih hlt' hbefore
          refine ⟨i, hassoc v ▸ hi, fun p after hp => ?_⟩
          rw [List.cons_append, feed_placeholder hv hb, hrefused p after hp]
        · have hclosed : b.isOpen = false := by simpa using hb
          rw [feed_value hv hclosed] at hbefore
          obtain ⟨_, hpass, hrest⟩ := bind_eq_ok.mp hbefore
          obtain ⟨i, hi, hrefused⟩ := ih hlt' hrest
          refine ⟨i, hassoc b ▸ hi, fun p after hp => ?_⟩
          rw [List.cons_append, feed_value hv hclosed, hpass]
          exact hrefused p after hp
    · have hclosed : v.isOpen = false := by simpa using hv
      rw [List.countP_cons_of_neg hv] at hlt
      rw [feed_closed hclosed] at hbefore
      obtain ⟨i, hi, hrefused⟩ := ih hlt hbefore
      refine ⟨i, hassoc v ▸ hi, fun p after hp => ?_⟩
      rw [feed_closed hclosed, hrefused p after hp]

/-- Values that are checked in two calls may be checked in one. -/
theorem feed_append {xs : List Value} (hxs : ∀ x ∈ xs, x.isOpen = false)
    (hdone : ∀ w ∈ done, w.isOpen = false) (ys : List Value) :
    feed check done slots (xs ++ ys) = (do
      let middle ← feed check done slots xs
      feed check [] middle ys) := by
  induction slots generalizing done xs with
  | nil =>
    have hskip : feed check [] (done ++ []) ys = feed check ([] ++ done) [] ys :=
      feed_skip hdone ys
    simp only [List.append_nil, List.nil_append] at hskip
    show (.ok done : Checked (List Value)) = feed check [] done ys
    rw [hskip]
    rfl
  | cons v slots ih =>
    by_cases h : v.isOpen
    · cases xs with
      | nil =>
        rw [feed_no_arguments, List.nil_append]
        show _ = feed check [] (done ++ v :: slots) ys
        rw [feed_skip hdone, List.nil_append]
      | cons x xs =>
        have hx : x.isOpen = false := hxs x (List.mem_cons_self ..)
        have hdone' : ∀ w ∈ done ++ [x], w.isOpen = false := by
          intro w hw
          rcases List.mem_append.mp hw with hw | hw
          · exact hdone w hw
          · rwa [List.mem_singleton.mp hw]
        rw [List.cons_append, feed_value h hx, feed_value h hx,
          ih (fun y hy => hxs y (List.mem_cons_of_mem _ hy)) hdone', bind_assoc]
    · have hv : v.isOpen = false := by simpa using h
      have hdone' : ∀ w ∈ done ++ [v], w.isOpen = false := by
        intro w hw
        rcases List.mem_append.mp hw with hw | hw
        · exact hdone w hw
        · rwa [List.mem_singleton.mp hw]
      rw [feed_closed hv, feed_closed hv, ih hxs hdone']

end Feed

/-! ## The slots that a call supplies -/

/-- Arguments at the indices of open slots are put there by one pass over the slots. -/
theorem putAll_zip_openFrom [Host] (c : Curried) (done slots arguments : List Value) :
    c.putAll (done ++ slots) ((openFrom done.length slots).zip arguments) =
      feed c.checkArgument done slots arguments := by
  induction slots generalizing done arguments with
  | nil => simp [openFrom, putAll, feed]
  | cons v slots ih =>
    have hassoc (w : Value) : done ++ w :: slots = done ++ [w] ++ slots := by simp
    have hlength (w : Value) : done.length + 1 = (done ++ [w]).length := by simp
    by_cases h : v.isOpen
    · cases arguments with
      | nil => simp [putAll]
      | cons a rest =>
        by_cases ha : a.isOpen
        · rw [feed_placeholder h ha, ← ih]
          simp [openFrom, h, putAll, put_open ha, bind, Except.bind]
        · have ha' : a.isOpen = false := by simpa using ha
          rw [feed_value h ha', ← ih]
          have hset : (done ++ v :: slots).set done.length a = done ++ a :: slots := by simp
          simp only [openFrom, h, if_true, List.zip_cons_cons, putAll, put, ha', hset]
          simp
    · have hv : v.isOpen = false := by simpa using h
      rw [feed_closed hv, ← ih]
      simp [openFrom, hv]

/-- A call is refused for a surplus, or its arguments pass the checks one after the other. -/
theorem supply?_eq [Host] (c : Curried) (arguments : List Value) :
    c.supply? arguments =
      if c.hasSurplus arguments then .error ⟨none, c.surplusFault arguments⟩
      else feed c.checkArgument [] c.slots arguments := by
  have h := putAll_zip_openFrom c [] c.slots arguments
  simp only [List.nil_append, List.length_nil] at h
  rw [supply?, openSlots, h]

/-- A surplus is refused before any argument is checked. -/
theorem supply?_of_surplus [Host] {c : Curried} {arguments : List Value}
    (h : c.hasSurplus arguments = true) :
    c.supply? arguments = .error ⟨none, c.surplusFault arguments⟩ := by
  rw [supply?_eq, h, if_pos rfl]

/-- A call that supplies slots has no surplus and fills the slots in the one way. -/
theorem eq_fill_of_supply? [Host] {c : Curried} {arguments slots : List Value}
    (h : c.supply? arguments = .ok slots) :
    c.hasSurplus arguments = false ∧ slots = fill c.slots arguments := by
  rw [supply?_eq] at h
  by_cases hs : c.hasSurplus arguments
  · simp [hs] at h
  · have hs' : c.hasSurplus arguments = false := by simpa using hs
    simp only [hs', Bool.false_eq_true, if_false] at h
    exact ⟨hs', by simpa using eq_fill_of_feed h⟩

/-! ## How many slots are open -/

theorem isSaturated_iff_countP {slots : List Value} :
    isSaturated slots = true ↔ slots.countP Value.isOpen = 0 := by
  rw [List.countP_eq_zero]
  simp [isSaturated]

theorem isSaturated_iff_closed {slots : List Value} :
    isSaturated slots = true ↔ ∀ w ∈ slots, w.isOpen = false := by
  simp [isSaturated]

/-- Without a surplus, the arguments that meet no open slot are placeholders. -/
theorem hasSurplus_eq_false_iff {c : Curried} {arguments : List Value} :
    c.hasSurplus arguments = false ↔ ∀ a ∈ arguments.drop c.arity, a.isOpen = true := by
  simp [hasSurplus]

/-- Without a surplus, every value that is supplied meets an open slot. -/
theorem supplied_take_arity {c : Curried} {arguments : List Value}
    (h : c.hasSurplus arguments = false) :
    supplied (arguments.take c.arity) = supplied arguments := by
  have hrest : supplied (arguments.drop c.arity) = 0 := by
    refine List.countP_eq_zero.mpr fun a ha => ?_
    simp [hasSurplus_eq_false_iff.mp h a ha]
  have hsplit : supplied (arguments.take c.arity ++ arguments.drop c.arity) =
      supplied (arguments.take c.arity) + supplied (arguments.drop c.arity) :=
    List.countP_append ..
  rw [List.take_append_drop] at hsplit
  omega

variable [Host]

/-- A call that supplies slots fills one slot for each value it is given. -/
theorem countP_of_supply? {c : Curried} {arguments slots : List Value}
    (h : c.supply? arguments = .ok slots) :
    slots.countP Value.isOpen + supplied arguments = c.arity := by
  obtain ⟨hsurplus, rfl⟩ := eq_fill_of_supply? h
  rw [← supplied_take_arity hsurplus]
  exact countP_fill c.slots arguments

end CheckedCurry.Curried
