import CheckedCurry.Proofs.Value.Contents
import CheckedCurry.Proofs.Value.Operations

/-!
# Where an operation on two values comes to an end

Joining and comparing are chosen by the unifier of the first value.  Two optional values that are
present are joined, or compared, by what they contain, and so are two failures or two successes when
they are compared.  The operation is then chosen anew for the first content, which may lack it even
though the value around it does not.

- `Value.Descends`, `Value.Meets`: one step to the contents, and the first values on the way inside.
- `Value.StepsInside`: operations that follow the contents; `stepsInside_joinWith` and
  `stepsInside_agreesWith` are the two.
- `StepsInside.lacks_of_meets`, `StepsInside.isBasic`: what they end in, by induction on the way and
  on the depth of values.
- `Value.IsFamily`, `agreesWith_maybe`, `agreesWith_either`: how two optional values, or two failures
  and successes, are compared.
- `StepsInside.eq_capability_iff`: exactly when an operation reports a lack, and what it reports.
-/

namespace CheckedCurry.Value

open Attempt
open Capability (Operation)

/-! ## The way inside -/

/-- An optional value is present, by its attribute. -/
def IsPresent [Host] (v : Value) : Prop :=
  ∃ absent, v.readAttribute "is_nothing" = .ok absent ∧ absent.truth = false

/-- Two values are both failures or both successes, by their attributes. -/
def OnOneSide [Host] (v w : Value) : Prop :=
  ∃ s t, v.readAttribute "is_right" = .ok s ∧ w.readAttribute "is_right" = .ok t ∧
    equals s t = .ok true

/-- Whether an operation on two values goes on with their contents. -/
def GoesOn [Host] : Operation → Value → Value → Prop
  | .concat, v, w => v.unifier = maybeIdentifier ∧ v.IsPresent ∧ w.IsPresent
  | .equals, v, w => w.unifier = v.unifier ∧
    (v.unifier = maybeIdentifier ∧ v.IsPresent ∧ w.IsPresent ∨
      v.unifier = eitherIdentifier ∧ OnOneSide v w)
  | .toBoolean, _, _ | .empty, _, _ => False

/-- An operation on two values goes on with two others, which are their contents. -/
structure Descends [Host] (o : Operation) (v w v' w' : Value) : Prop where
  goes : GoesOn o v w
  left : v.readAttribute "value" = .ok v'
  right : w.readAttribute "value" = .ok w'

/-- A value is the first one of two when an operation on two values is chosen: at once, or after it
has gone inside. -/
inductive Meets [Host] (o : Operation) : Value → Value → Value → Prop
  | here (v w : Value) : Meets o v w v
  | inside {v w v' w' u : Value} (step : Descends o v w v' w') (rest : Meets o v' w' u) :
    Meets o v w u

/-- What an operation ends in that does not go on with contents. -/
def EndsHere [Host] (o : Operation) (v : Value) (x : Attempt Value) : Prop :=
  v.supports o = true ∧ x.IsBasic ∨ v.supports o = false ∧ x = v.lacks o

/-- An operation on two values that is the same one on their contents, as long as it goes on. -/
structure StepsInside [Host] (o : Operation) (f : Value → Value → Attempt Value) : Prop where
  inside : ∀ {v w v' w' : Value}, Descends o v w v' w' →
    ∃ wrap : Value → Value, f v w = do return wrap (← f v' w')
  ends : ∀ {v w : Value}, (∀ v' w', ¬ Descends o v w v' w') → EndsHere o v (f v w)

/-! ## What is inside -/

/-- No kind has the name of one of the two identifiers. -/
theorem unifier_eq_iff {v : Value} {s : String} (hs : s = maybeIdentifier ∨ s = eitherIdentifier) :
    v.unifier = s ↔ v.identifier? = some s := by
  refine ⟨fun h => ?_, unifier_of_identifier?⟩
  unfold unifier at h
  cases hv : v.identifier? with
  | some t =>
    rw [hv] at h
    exact congrArg some h
  | none =>
    rw [hv, Option.getD_none] at h
    rcases hs with rfl | rfl <;> (revert h; cases v.kind <;> decide)

theorem maybeIdentifier_ne : maybeIdentifier ≠ eitherIdentifier := by decide

variable [Host]

/-- An operation goes on with the contents of a present optional value, a failure or a success. -/
theorem GoesOn.identifier? {o : Operation} {v w : Value} (h : GoesOn o v w) :
    v.identifier? = some maybeIdentifier ∧ v.IsPresent ∨ v.identifier? = some eitherIdentifier := by
  cases o with
  | concat => exact .inl ⟨(unifier_eq_iff (.inl rfl)).mp h.1, h.2.1⟩
  | equals =>
    rcases h.2 with ⟨hv, hpresent, -⟩ | ⟨hv, -⟩
    · exact .inl ⟨(unifier_eq_iff (.inl rfl)).mp hv, hpresent⟩
    · exact .inr ((unifier_eq_iff (.inr rfl)).mp hv)
  | toBoolean | empty => exact h.elim

/-- An operation that goes on supports the value that it leaves. -/
theorem GoesOn.supports {o : Operation} {v w : Value} (h : GoesOn o v w) :
    v.supports o = true := by
  unfold Value.supports
  cases o with
  | concat =>
    rw [h.1]
    decide
  | equals =>
    rcases h.2 with ⟨hv, -⟩ | ⟨hv, -⟩ <;> (rw [hv]; decide)
  | toBoolean | empty => exact h.elim

/-- The content of a value that is met is less deep. -/
theorem depth_lt_of_descends {o : Operation} {v w v' w' : Value} (h : Descends o v w v' w') :
    v'.depth < v.depth := by
  have hleft := h.left
  have hidentifier := h.goes.identifier?
  cases v with
  | just x | left x | right x =>
    obtain rfl := Except.ok.inj hleft
    rw [depth]
    exact Nat.lt_succ_self _
  | object shape attrs base =>
    exact depth_lt_of_lookup (readAttribute_value_object.mp hleft)
  | nothing =>
    -- an absent value is not left for anything
    rcases hidentifier with ⟨-, absent, habsent, htruth⟩ | heither
    · obtain rfl := Except.ok.inj habsent
      cases htruth
    · exact absurd heither (by decide)
  | _ => rcases hidentifier with ⟨hnone, -⟩ | hnone <;> cases hnone

/-! ## Operations that follow the contents -/

namespace StepsInside

variable {o : Operation} {f : Value → Value → Attempt Value}

/-- A first value on the way that lacks the operation is what the operation ends in. -/
theorem lacks_of_meets (hf : StepsInside o f) {v w u : Value} (h : Meets o v w u)
    (hu : u.supports o = false) : f v w = u.lacks o := by
  induction h with
  | here v w =>
    have hstop : ∀ v' w', ¬ Descends o v w v' w' := by
      intro v' w' hstep
      rw [hstep.goes.supports] at hu
      cases hu
    rcases hf.ends hstop with ⟨hv, -⟩ | ⟨-, hlacks⟩
    · rw [hv] at hu
      cases hu
    · exact hlacks
  | inside step rest ih =>
    obtain ⟨wrap, hwrap⟩ := hf.inside step
    rw [hwrap, ih hu]
    -- what reports the lack is not put into anything
    unfold lacks
    rw [bind_assoc]
    rfl

/-- If no first value on the way lacks the operation, it ends in basic faults only. -/
theorem isBasic (hf : StepsInside o f) {v w : Value}
    (h : ∀ u, Meets o v w u → u.supports o = true) : (f v w).IsBasic := by
  induction hn : v.depth using Nat.strongRecOn generalizing v w with
  | ind n ih =>
    by_cases hstep : ∃ v' w', Descends o v w v' w'
    · obtain ⟨v', w', hstep⟩ := hstep
      obtain ⟨wrap, hwrap⟩ := hf.inside hstep
      rw [hwrap]
      exact (ih v'.depth (hn ▸ depth_lt_of_descends hstep)
        (fun u hu => h u (.inside hstep hu)) rfl).map wrap
    · rcases hf.ends fun v' w' hinside => hstep ⟨v', w', hinside⟩ with ⟨-, hbasic⟩ | ⟨hv, -⟩
      · exact hbasic
      · rw [h v (.here v w)] at hv
        cases hv

end StepsInside

/-! ## Joining and comparing -/

theorem endsHere_of_supports {o : Operation} {v : Value} {x : Attempt Value}
    (hv : v.supports o = true) (hx : x.IsBasic) : EndsHere o v x := .inl ⟨hv, hx⟩

/-- The content of an object is looked for among its attributes. -/
theorem joinAttribute_eq (mark : Nat) (shape : Shape) (attrs : List (String × Value)) (w : Value) :
    joinAttribute mark shape attrs w =
      match attrs.lookup "value" with
      | some v => do return just (← joinWith mark v (← w.readAttribute "value"))
      | none => fail (.noAttribute shape.className "value") := by
  induction attrs with
  | nil =>
    unfold joinAttribute
    rfl
  | cons attr attrs ih =>
    obtain ⟨n, v⟩ := attr
    unfold joinAttribute
    by_cases h : n = "value"
    · subst h
      rw [if_pos rfl, List.lookup_cons_self]
    · rw [if_neg h, ih, List.lookup_cons, beq_false_of_ne (Ne.symm h)]

/-- The operation on two values that are not optional ends with the first one. -/
theorem endsHere_joinFlat (mark : Nat) {v w : Value} (h : v.unifier ≠ maybeIdentifier) :
    EndsHere .concat v (joinFlat mark v w) := by
  unfold joinFlat
  split
  · rename_i hstring
    refine endsHere_of_supports ?_ (isBasic_plus mark v w)
    rw [supports, hstring]
    decide
  split
  · rename_i harray
    refine endsHere_of_supports ?_ (isBasic_joinArrays mark v w)
    rw [supports, harray]
    decide
  split
  · rename_i hobject
    refine endsHere_of_supports ?_ (isBasic_joinMaps v w)
    rw [supports, hobject]
    decide
  · rename_i hstring harray hobject
    exact .inr ⟨by simp [supports, Operation.supported, hstring, harray, hobject, h], rfl⟩

/-- Joining follows the contents of optional values. -/
theorem stepsInside_joinWith (mark : Nat) : StepsInside .concat (joinWith mark) where
  inside := by
    rintro v w v' w' ⟨⟨hv, ⟨here, hhere, hpresent⟩, ⟨there, hthere, hpresent'⟩⟩, hleft, hright⟩
    refine ⟨just, ?_⟩
    rw [unifier_eq_iff (.inl rfl)] at hv
    cases v with
    | just x =>
      obtain rfl := Except.ok.inj hleft
      rw [joinWith, hthere, hright]
      show (if there.truth then _ else _) = _
      rw [hpresent']
      rfl
    | object shape attrs base =>
      have htag : shape.tag.identifier? = some maybeIdentifier := hv
      rw [readAttribute_value_object] at hleft
      rw [joinWith, if_pos htag, hhere, hthere, joinAttribute_eq, hleft]
      show (if here.truth then _ else if there.truth then _ else _) = _
      rw [hpresent, hpresent', hright]
      rfl
    | nothing =>
      obtain rfl := Except.ok.inj hhere
      cases hpresent
    | left x | right x => exact absurd (Option.some.inj hv) maybeIdentifier_ne.symm
    | _ => cases hv
  ends := by
    intro v w hstop
    cases v with
    | nothing =>
      rw [joinWith_nothing]
      exact endsHere_of_supports rfl (isBasic_ok w)
    | just x =>
      refine endsHere_of_supports rfl ?_
      rw [joinWith]
      refine (isBasic_readAttribute w _).bind_of_ok fun there hthere => ?_
      split
      · exact isBasic_ok _
      · rename_i hpresent
        refine (isBasic_readAttribute w _).bind_of_ok fun w' hright => ?_
        exact absurd ⟨⟨rfl, ⟨no, rfl, rfl⟩, there, hthere, by simpa using hpresent⟩, rfl, hright⟩
          (hstop x w')
    | object shape attrs base =>
      rw [joinWith]
      split
      · rename_i htag
        refine endsHere_of_supports ?_ ?_
        · rw [supports, unifier_of_identifier? (v := object shape attrs base) htag]
          decide
        refine (isBasic_readAttribute _ _).bind_of_ok fun here hhere => ?_
        split
        · exact isBasic_ok _
        rename_i hpresent
        refine (isBasic_readAttribute w _).bind_of_ok fun there hthere => ?_
        split
        · exact isBasic_ok _
        rename_i hpresent'
        rw [joinAttribute_eq]
        cases hleft : attrs.lookup "value" with
        | none => exact isBasic_fail _
        | some v' =>
          refine (isBasic_readAttribute w _).bind_of_ok fun w' hright => ?_
          refine absurd ⟨⟨?_, ⟨here, hhere, by simpa using hpresent⟩, there, hthere,
            by simpa using hpresent'⟩, readAttribute_value_object.mpr hleft, hright⟩ (hstop v' w')
          exact unifier_of_identifier? htag
      · rename_i htag
        exact endsHere_joinFlat mark fun h => htag ((unifier_eq_iff (.inl rfl)).mp h)
    | left x | right x =>
      unfold joinWith
      exact endsHere_joinFlat mark maybeIdentifier_ne.symm
    | _ =>
      unfold joinWith
      refine endsHere_joinFlat mark fun h => ?_
      cases (unifier_eq_iff (.inl rfl)).mp h

/-- The content of an object is looked for among its attributes. -/
theorem agreeAttribute_eq (shape : Shape) (attrs : List (String × Value)) (w : Value) :
    agreeAttribute shape attrs w =
      match attrs.lookup "value" with
      | some v => do return bool (← agreesWith v (← w.readAttribute "value")).truth
      | none => fail (.noAttribute shape.className "value") := by
  induction attrs with
  | nil =>
    unfold agreeAttribute
    rfl
  | cons attr attrs ih =>
    obtain ⟨n, v⟩ := attr
    unfold agreeAttribute
    by_cases h : n = "value"
    · subst h
      rw [if_pos rfl, List.lookup_cons_self]
    · rw [if_neg h, ih, List.lookup_cons, beq_false_of_ne (Ne.symm h)]

/-! ## Values of one family -/

section Family

variable {v w v' w' x : Value}

/-- The content of a value that is compared by it. -/
def contents : Value → Attempt Value
  | object shape attrs _ => require shape.className attrs "value"
  | v => v.readAttribute "value"

/-- Agreement of the contents of two values. -/
def agreeContents (v w : Value) : Attempt Value := do
  let content ← v.contents
  return bool (← agreesWith content (← w.readAttribute "value")).truth

theorem agreeAttribute_eq_agreeContents {shape : Shape} {attrs : List (String × Value)}
    (base : Option (Base Value)) :
    agreeAttribute shape attrs w = agreeContents (object shape attrs base) w := by
  rw [agreeAttribute_eq]
  unfold agreeContents contents require
  dsimp only
  cases attrs.lookup "value" <;> rfl

/-- An optional value is compared with another one by whether it is absent, and then by its content. -/
theorem agreesWith_maybe (hv : v.unifier = maybeIdentifier) (hw : w.unifier = maybeIdentifier) :
    agreesWith v w = (do
      let absent ← v.readAttribute "is_nothing"
      if absent.truth then w.readAttribute "is_nothing"
      else if (← w.readAttribute "is_nothing").truth then return absent
      else agreeContents v w) := by
  rw [unifier_eq_iff (.inl rfl)] at hv
  cases v with
  | nothing | just x =>
    rw [agreesWith, if_pos hw]
    rfl
  | object shape attrs base =>
    have htag : shape.tag.identifier? = some maybeIdentifier := hv
    rw [agreesWith, if_pos htag, if_pos hw, agreeAttribute_eq_agreeContents base]
  | left x | right x => exact absurd (Option.some.inj hv) maybeIdentifier_ne.symm
  | _ => cases hv

/-- A failure or a success is compared with another one by which of the two it is, and then by its
content. -/
theorem agreesWith_either (hv : v.unifier = eitherIdentifier) (hw : w.unifier = eitherIdentifier) :
    agreesWith v w = (do
      let side ← v.readAttribute "is_right"
      if ← equals side (← w.readAttribute "is_right") then agreeContents v w
      else return no) := by
  rw [unifier_eq_iff (.inr rfl)] at hv
  cases v with
  | left x | right x =>
    rw [agreesWith, if_pos hw]
    rfl
  | object shape attrs base =>
    have htag : shape.tag.identifier? = some eitherIdentifier := hv
    have hother : ¬ shape.tag.identifier? = some maybeIdentifier := by
      rw [htag]
      exact fun h => maybeIdentifier_ne (Option.some.inj h).symm
    rw [agreesWith, if_neg hother, if_pos htag, if_pos hw, agreeAttribute_eq_agreeContents base]
  | nothing | just x => exact absurd (Option.some.inj hv) maybeIdentifier_ne
  | _ => cases hv

/-- Whether a string is the identifier of optional values, or of failures and successes. -/
def IsFamily (unifier : String) : Prop := unifier = maybeIdentifier ∨ unifier = eitherIdentifier

/-- A value of one family agrees with no value of another unifier. -/
theorem agreesWith_of_ne (hv : IsFamily v.unifier) (hw : w.unifier ≠ v.unifier) :
    agreesWith v w = .ok no := by
  rcases hv with hv | hv
  · rw [hv] at hw
    rw [unifier_eq_iff (.inl rfl)] at hv
    cases v with
    | nothing | just x => rw [agreesWith, if_neg hw]
    | object shape attrs base =>
      have htag : shape.tag.identifier? = some maybeIdentifier := hv
      rw [agreesWith, if_pos htag, if_neg hw]
    | left x | right x => exact absurd (Option.some.inj hv) maybeIdentifier_ne.symm
    | _ => cases hv
  · rw [hv] at hw
    rw [unifier_eq_iff (.inr rfl)] at hv
    cases v with
    | left x | right x => rw [agreesWith, if_neg hw]
    | object shape attrs base =>
      have htag : shape.tag.identifier? = some eitherIdentifier := hv
      have hother : ¬ shape.tag.identifier? = some maybeIdentifier := by
        rw [htag]
        exact fun h => maybeIdentifier_ne (Option.some.inj h).symm
      rw [agreesWith, if_neg hother, if_pos htag, if_neg hw]
    | nothing | just x => exact absurd (Option.some.inj hv) maybeIdentifier_ne
    | _ => cases hv

/-- All other values are compared as they are. -/
theorem agreesWith_of_not_isFamily (hv : ¬ IsFamily v.unifier) (w : Value) :
    agreesWith v w = agreeFlat v w := by
  have hmaybe : v.identifier? ≠ some maybeIdentifier := fun h =>
    hv (.inl (unifier_of_identifier? h))
  have heither : v.identifier? ≠ some eitherIdentifier := fun h =>
    hv (.inr (unifier_of_identifier? h))
  cases v with
  | nothing | just x => exact absurd rfl hmaybe
  | left x | right x => exact absurd rfl heither
  | object shape attrs base =>
    have htag : ¬ shape.tag.identifier? = some maybeIdentifier := hmaybe
    have htag' : ¬ shape.tag.identifier? = some eitherIdentifier := heither
    rw [agreesWith, if_neg htag, if_neg htag']
  | _ =>
    unfold agreesWith
    rfl

/-- The content of a value is one of its attributes. -/
theorem contents_eq_ok_iff : v.contents = .ok x ↔ v.readAttribute "value" = .ok x := by
  cases v with
  | object shape attrs base =>
    rw [readAttribute_value_object]
    unfold contents require
    dsimp only
    cases attrs.lookup "value" with
    | none => exact iff_of_false nofun nofun
    | some w => simp
  | _ => exact Iff.rfl

theorem agreeContents_of_contents (hv : v.readAttribute "value" = .ok v')
    (hw : w.readAttribute "value" = .ok w') :
    agreeContents v w = (do return bool (← agreesWith v' w').truth) := by
  unfold agreeContents
  rw [contents_eq_ok_iff.mpr hv, hw]
  rfl

omit [Host] in
/-- A value of a family supports the operation. -/
theorem supports_of_isFamily (h : IsFamily v.unifier) : v.supports .equals = true := by
  unfold supports
  rcases h with h | h <;> (rw [h]; decide)

theorem isBasic_contents (v : Value) : v.contents.IsBasic := by
  unfold contents
  split
  · unfold require
    split
    · exact isBasic_ok _
    · exact isBasic_fail _
  · exact isBasic_readAttribute _ _

/-- Values of which one has no content do not agree, and the fault is a basic one. -/
theorem isBasic_agreeContents
    (h : ∀ v' w', v.readAttribute "value" = .ok v' → w.readAttribute "value" ≠ .ok w') :
    (agreeContents v w).IsBasic :=
  (isBasic_contents v).bind_of_ok fun v' hleft =>
    (isBasic_readAttribute w _).bind_of_ok fun w' hright =>
      absurd hright (h v' w' (contents_eq_ok_iff.mp hleft))

end Family

/-- Equality of two values, of which the first has no contents to go on with, ends with it. -/
theorem endsHere_agreeFlat (v w : Value) : EndsHere .equals v (agreeFlat v w) := by
  unfold agreeFlat
  split
  · rename_i hv
    refine endsHere_of_supports hv ((isBasic_bothNaN v w).bind fun both => ?_)
    exact isBasic_ite (isBasic_ok _) ((isBasic_equals v w).map _)
  · rename_i hv
    exact .inr ⟨by simpa using hv, rfl⟩

/-- Comparing goes on with the contents. -/
theorem agreesWith_of_descends {v w v' w' : Value} (h : Descends .equals v w v' w') :
    agreesWith v w = (do return bool (← agreesWith v' w').truth) := by
  obtain ⟨⟨hunifier, hgoes⟩, hleft, hright⟩ := h
  rcases hgoes with
    ⟨hv, ⟨here, hhere, hpresent⟩, there, hthere, hpresent'⟩ | ⟨hv, s, t, hs, ht, hst⟩
  · rw [agreesWith_maybe hv (hunifier.trans hv), hhere, hthere]
    show (if here.truth then .ok there else if there.truth then .ok here else agreeContents v w) = _
    rw [hpresent, hpresent']
    exact agreeContents_of_contents hleft hright
  · rw [agreesWith_either hv (hunifier.trans hv), hs, ht]
    show (equals s t >>= fun same => if same then agreeContents v w else .ok no) = _
    rw [hst]
    exact agreeContents_of_contents hleft hright

/-- Comparing follows the contents of optional values, failures and successes. -/
theorem stepsInside_agreesWith : StepsInside .equals agreesWith where
  inside h := ⟨fun x => bool x.truth, agreesWith_of_descends h⟩
  ends := by
    intro v w hstop
    by_cases hfamily : IsFamily v.unifier
    case neg =>
      rw [agreesWith_of_not_isFamily hfamily]
      exact endsHere_agreeFlat v w
    refine endsHere_of_supports (supports_of_isFamily hfamily) ?_
    by_cases hunifier : w.unifier = v.unifier
    case neg =>
      rw [agreesWith_of_ne hfamily hunifier]
      exact isBasic_ok _
    rcases hfamily with hv | hv
    · rw [agreesWith_maybe hv (hunifier.trans hv)]
      refine (isBasic_readAttribute v _).bind_of_ok fun here hhere => ?_
      split
      · exact isBasic_readAttribute w _
      rename_i hpresent
      refine (isBasic_readAttribute w _).bind_of_ok fun there hthere => ?_
      split
      · exact isBasic_ok _
      rename_i hpresent'
      exact isBasic_agreeContents fun v' w' hleft hright => hstop v' w'
        ⟨⟨hunifier, .inl ⟨hv, ⟨here, hhere, by simpa using hpresent⟩, there, hthere,
          by simpa using hpresent'⟩⟩, hleft, hright⟩
    · rw [agreesWith_either hv (hunifier.trans hv)]
      refine (isBasic_readAttribute v _).bind_of_ok fun s hs => ?_
      refine (isBasic_readAttribute w _).bind_of_ok fun t ht => ?_
      refine (isBasic_equals s t).bind_of_ok fun same hsame => ?_
      cases same with
      | false => exact isBasic_ok _
      | true =>
        exact isBasic_agreeContents fun v' w' hleft hright => hstop v' w'
          ⟨⟨hunifier, .inr ⟨hv, s, t, hs, ht, hsame⟩⟩, hleft, hright⟩

/-! ## Performing an operation -/

/-- An operation on two values, with the choice that is made first. -/
theorem StepsInside.ite_eq {o : Operation} {f : Value → Value → Attempt Value}
    (hf : StepsInside o f) (v w : Value) : (if v.supports o then f v w else v.lacks o) = f v w := by
  split
  · rfl
  · rename_i hv
    exact (hf.lacks_of_meets (.here v w) (by simpa using hv)).symm

theorem perform_concat (mark : Nat) (v w : Value) :
    perform mark .concat v [w] = joinWith mark v w := (stepsInside_joinWith mark).ite_eq v w

theorem perform_equals (mark : Nat) (v w : Value) :
    perform mark .equals v [w] = agreesWith v w := stepsInside_agreesWith.ite_eq v w

/-- A value is reported to lack an operation, if it can be shown. -/
theorem lacks_eq_capability_iff {o : Operation} {v : Value} {shown name : String} :
    (v.lacks o : Attempt Value) = .error (.capability shown name) ↔
      v.display = .ok shown ∧ name = o.name := by
  unfold lacks
  cases hshown : v.display with
  | ok s =>
    constructor
    · intro h
      cases h
      exact ⟨rfl, rfl⟩
    · rintro ⟨h, rfl⟩
      cases h
      rfl
  | error f =>
    obtain ⟨cause, rfl⟩ := isBasic_display v f hshown
    constructor
    · intro h
      cases h
    · rintro ⟨h, -⟩
      cases h

/-- **When a lack is reported.**  Joining or comparing two values reports that a value lacks the
operation exactly if it is met on the way inside and does lack it. -/
theorem StepsInside.eq_capability_iff {o : Operation} {f : Value → Value → Attempt Value}
    (hf : StepsInside o f) {v w : Value} {shown name : String} :
    f v w = .error (.capability shown name) ↔
      ∃ u, Meets o v w u ∧ u.supports o = false ∧ u.display = .ok shown ∧ name = o.name := by
  constructor
  · intro h
    by_cases hsome : ∃ u, Meets o v w u ∧ u.supports o = false
    · obtain ⟨u, hmeets, hlacks⟩ := hsome
      rw [hf.lacks_of_meets hmeets hlacks, lacks_eq_capability_iff] at h
      exact ⟨u, hmeets, hlacks, h⟩
    · have hall : ∀ u, Meets o v w u → u.supports o = true := fun u hmeets =>
        eq_true_of_ne_false fun hlacks => hsome ⟨u, hmeets, hlacks⟩
      exact absurd h ((hf.isBasic hall).ne_capability shown name)
  · rintro ⟨u, hmeets, hlacks, h⟩
    rw [hf.lacks_of_meets hmeets hlacks]
    exact lacks_eq_capability_iff.mpr h

end CheckedCurry.Value
