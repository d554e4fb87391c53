/-!
# Parameters of functions

What can be found out about a function before it is called: its parameters one by one, how each takes
its argument, and whether it has a default.

* `Parameter`: a parameter.
* `Parameters`: the parameters of a function.  Those with defaults come after those without.
* `Parameter.count?`: how many positional parameters without a default there are.
* `Parameters.takes`: whether a call with a number of arguments binds.
-/

namespace CheckedCurry

/-- How a parameter takes its argument. -/
inductive Passing where
  /-- By its place. -/
  | place
  /-- By its place or by its name. -/
  | placeOrName
  /-- The parameter takes all other arguments that are given by place. -/
  | places
  /-- By its name. -/
  | name
  /-- The parameter takes all other arguments that are given by name. -/
  | names
  deriving DecidableEq, Repr, Inhabited

/-- The place of a parameter in a list of parameters, by how it takes its argument. -/
def Passing.rank : Passing → Nat
  | .place => 0
  | .placeOrName => 1
  | .places => 2
  | .name => 3
  | .names => 4

/-- A parameter of a function. -/
structure Parameter where
  passing : Passing
  hasDefault : Bool
  deriving DecidableEq, Repr, Inhabited

namespace Parameter

/-- Whether a parameter takes one argument that is given by place. -/
def isPositional (p : Parameter) : Bool := p.passing = .place || p.passing = .placeOrName

/-- Whether a parameter takes any number of arguments that are given by place. -/
def isVariadic (p : Parameter) : Bool := p.passing = .places

/-- Whether a call must give a positional argument for the parameter. -/
def isRequired (p : Parameter) : Bool := p.isPositional && !p.hasDefault

/-- Whether a call may give a positional argument for the parameter. -/
def isOptional (p : Parameter) : Bool := p.isPositional && p.hasDefault

/-- Parameters that are counted one after the other (the loop of `_arity`): where any number of
arguments is taken there is no count. -/
def countFrom (count : Nat) : List Parameter → Option Nat
  | [] => some count
  | p :: ps =>
    if p.isVariadic then none
    else if p.isRequired then countFrom (count + 1) ps
    else countFrom count ps

/-- The number of positional parameters without a default (`_arity`). -/
def count? (ps : List Parameter) : Option Nat := countFrom 0 ps

/-- A parameter can come before another one: parameters come in the order of their ranks, at most one
takes all other arguments by place or by name, and those with defaults come last among those that take
one argument by place. -/
def Precedes (p q : Parameter) : Prop :=
  p.passing.rank ≤ q.passing.rank ∧
    (p.passing = q.passing → p.passing ≠ .places ∧ p.passing ≠ .names) ∧
    (p.isPositional = true → q.isPositional = true → p.hasDefault = true → q.hasDefault = true)

instance (p q : Parameter) : Decidable (Precedes p q) := inferInstanceAs (Decidable (_ ∧ _))

end Parameter

/-- The parameters of a function. -/
structure Parameters where
  list : List Parameter
  ordered : list.Pairwise Parameter.Precedes
  deriving DecidableEq, Repr

namespace Parameters

/-- So many parameters, each of which must get an argument. -/
def fixed (n : Nat) : Parameters :=
  ⟨List.replicate n ⟨.placeOrName, false⟩, List.pairwise_replicate.mpr (.inr (by decide))⟩

instance : Inhabited Parameters := ⟨fixed 0⟩

/-- The parameters that take one argument each by place. -/
def positional (ps : Parameters) : List Parameter := ps.list.filter Parameter.isPositional

/-- Whether any number of arguments may follow. -/
def isVariadic (ps : Parameters) : Bool := ps.list.any Parameter.isVariadic

/-- The number of positional parameters without a default. -/
def required (ps : Parameters) : Nat := ps.list.countP Parameter.isRequired

/-- The number of positional parameters with a default. -/
def optional (ps : Parameters) : Nat := ps.list.countP Parameter.isOptional

/-- Whether all parameters that take their arguments by name have defaults. -/
def namedHaveDefaults (ps : Parameters) : Bool :=
  ps.list.all fun p => p.passing != .name || p.hasDefault

/-- Whether a call with so many arguments by place binds: no parameter is left without an argument and
without a default, and there is a parameter for each argument. -/
def takes (ps : Parameters) (count : Nat) : Bool :=
  (ps.positional.drop count).all (·.hasDefault) &&
    (ps.isVariadic || count ≤ ps.positional.length) && ps.namedHaveDefaults

end Parameters

end CheckedCurry
