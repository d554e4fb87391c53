import CheckedCurry.Ty.Membership

/-!
# Naming the types of a value

A rejected value is described by the types of an environment that it is a member of.  A type with
parameters is named once for each choice of names that its inner values have in common.

* `Ty.names`: the names of the types of a value.
* `Ty.commonNames`: the names that a list of values has in common, `???` if there are none.
-/

namespace CheckedCurry.Ty

/-- The name that stands where nothing better is known. -/
def unknownName : String := "???"

/-- A name in parentheses if it has several words (`_wrap_name`). -/
def parenthesizeWords (name : String) : String :=
  parenthesize (name.toList.contains ' ') name

/-- Every way to choose one element of each list; the last choice changes fastest. -/
def choices {α : Type} : List (List α) → List (List α)
  | [] => [[]]
  | xs :: xss => xs.flatMap fun x => (choices xss).map (x :: ·)

/-- The names of a type with parameters, given the names for each parameter. -/
def appliedNames (c : Constructor) (perParam : List (List String)) : List String :=
  (choices perParam).map fun names => " ".intercalate (c.name :: names.map parenthesizeWords)

/-- The names that are left when more values are met: those that all values have, and no name at all
if the values do not unify. -/
def narrow (namesOf : Value → Attempt (List String)) (first : Value) :
    List Value → List String → Attempt (List String)
  | [], common => .ok common
  | v :: vs, common =>
    if common.isEmpty then .ok common
    else if v.unifier ≠ first.unifier then .ok []
    else do
      let others ← namesOf v
      narrow namesOf first vs (common.filter others.contains)

/-- The names that a list of values has in common (`_common_names`). -/
def commonNames (namesOf : Value → Attempt (List String)) : List Value → Attempt (List String)
  | [] => .ok [unknownName]
  | v :: vs => do
    let common ← narrow namesOf v vs (← namesOf v)
    return if common.isEmpty then [unknownName] else common

/-- The names that one type of an environment gives a value (`type_names`). -/
def namesBy [Host] (namesOf : Value → Attempt (List String)) (v : Value) (t : Ty) :
    Attempt (List String) :=
  match t with
  | applied c params => do
    if ← c.test.holds v then
      let sources ← (applied c params).sources v
      return appliedNames c (← sources.mapM fun source => do
        commonNames namesOf (← source.spread))
    else return []
  | t => do return if ← t.isMember v then [t.text] else []

/-- The names of the types of an environment that a value is a member of, with so many calls open at
most. -/
def namesWithin [Host] (environment : List Ty) : Nat → Value → Attempt (List String)
  | 0, _ => Attempt.fail .tooDeep
  | depth + 1, v => do
    let names ← environment.mapM (namesBy (namesWithin environment depth) v)
    return names.flatten

/-- The names of the types of an environment that a value is a member of (`type_names`).  Each call
goes from a value to values inside it, so no more are open than the value is deep.  Only an extraction
of the program may answer other values, and go on as long as there is room for calls. -/
def names [Host] (environment : List Ty) (v : Value) : Attempt (List String) :=
  namesWithin environment (v.depth + Host.stack) v

/-! ## Small laws -/

@[simp] theorem choices_nil {α : Type} : choices ([] : List (List α)) = [[]] := rfl

@[simp] theorem choices_singleton {α : Type} (xs : List α) :
    choices [xs] = xs.map fun x => [x] := by
  simp [choices, List.map_eq_flatMap]

variable [Host]

@[simp] theorem namesWithin_zero (environment : List Ty) (v : Value) :
    namesWithin environment 0 v = Attempt.fail .tooDeep := rfl

end CheckedCurry.Ty
