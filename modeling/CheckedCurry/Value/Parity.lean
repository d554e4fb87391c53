import CheckedCurry.Log.Percent

/-!
# Even values

* `Value.isEven`: whether the remainder of a value by two is zero.  The remainder of a text is the
  text with two put into its percent fields, which is no zero.
-/

namespace CheckedCurry.Value

variable [Host]

/-- Whether a value is even.  Texts and bytes are formats, which two must fit into. -/
def isEven (v : Value) : Attempt Bool :=
  match v.number? with
  | some n => .ok n.isEven
  | none =>
    match v.core with
    | decimal d => ofDecimal d.isEven?
    | text s => do
      let _ ← Percent.renderOne false s.toList (int 2)
      return false
    | bytes bs => do
      let _ ← Percent.renderOne true (bs.map fun b => Char.ofNat b.toNat) (int 2)
      return false
    | _ => Attempt.fail (.unsupported "%" v.operandName "int")

end CheckedCurry.Value
