import CheckedCurry.Value.Equality

/-!
# Objects

Values that cannot be told apart may still be two objects, such as two lists that were made one
after the other.  Objects are told apart by numbers.

* `Value.isShared`: the values that are one object whenever they cannot be told apart.
* `Value.parts`: a value and the values in it.
* `Value.makes`: the functions whose answers are new objects, however they look.
* `Objects.of`: the objects that a value is made of.  What cannot be told apart from an object that
  is given is that object; all else is new.
-/

namespace CheckedCurry

namespace Value

/-- Whether a value is the only object of its look: it has a mark, there is one of its sort, or it
is so small that it is kept for every use. -/
def isShared : Value → Bool
  | number (.int n) => -5 ≤ n && n ≤ 256
  | number (.nan _) => true
  | text s => s.length ≤ 1 && s.toList.all fun c => c.toNat < 256
  | bytes bs => bs.length ≤ 1
  | tuple items => items.isEmpty
  | number _ | decimal _ | moment _ | duration _ | list _ | range _ | deque _ | identifier _ | map _
  | just _ | left _ | right _ | bound .. => false
  | object shape _ _ => shape.mark != 0
  | _ => true

mutual

/-- A value and the values in it, each before its own parts. -/
def parts (v : Value) : List Value :=
  v :: match v with
    | list items | tuple items | deque items => partsOfAll items
    | map entries => partsOfEntries entries
    | just w | left w | right w | constant _ w _ => parts w
    | object _ attrs _ => partsOfAttributes attrs
    | bound f w => parts f ++ parts w
    | curried _ _ f _ slots => parts f ++ partsOfAll slots
    | _ => []

/-- The parts of values. -/
def partsOfAll : List Value → List Value
  | [] => []
  | v :: vs => parts v ++ partsOfAll vs

/-- The parts of keys and values. -/
def partsOfEntries : List (Value × Value) → List Value
  | [] => []
  | (k, v) :: es => parts k ++ parts v ++ partsOfEntries es

/-- The parts of attributes. -/
def partsOfAttributes : List (String × Value) → List Value
  | [] => []
  | (_, v) :: attrs => parts v ++ partsOfAttributes attrs

end

end Value

namespace Value

/-- Whether a value is a container that can change. -/
def isContainer : Value → Bool
  | list _ | deque _ | map _ => true
  | _ => false

/-- Whether a value is a number or a decimal. -/
def isNumeric : Value → Bool
  | number _ | decimal _ => true
  | _ => false

end Value

/-- Whether an answer of a standard function is new. -/
def Standard.makes : Standard → Value → Bool
  | add, v | sub, v | mult, v | inc, v | dec, v | negate, v => v.isNumeric
  | concat, v => v.isContainer
  | xor, .list [] | xor, .map [] => true
  | toLower, _ | toUpper, _ | words, _ | keys, _ | values, _ | mapMaybe, _ | catMaybes, _
  | range, _ | head, _ | last, _ | get, _ | gets, _ | toMaybe, _ | encase, _ | encaseEither, _
  | parseInt, _ | type, _ | display, _ => true
  | _, _ => false

/-- Whether an answer of a plain function is new. -/
def Helper.makes : Helper → Value → Bool
  | identity, _ | first, _ | second, _ | message, _ | maximum, _ => false
  | double, .text s => !s.isEmpty
  | _, _ => true

namespace Value

/-- Whether an answer of a function is new, whatever it looks like. -/
def makes : Value → Value → Bool
  | curried _ _ f _ _, v => f.makes v
  | bound f _, v => f.makes v
  | standard s, v => s.makes v
  | helper h, v => h.makes v
  | cls .list, _ | cls .map, _ | collecting .., _ => true
  | _, _ => false

end Value

/-- Objects, as values with numbers. -/
abbrev Objects := List (Value × Nat)

namespace Objects

/-- The number of the first object that cannot be told apart from a value. -/
def number? (given : Objects) (v : Value) : Option Nat :=
  (given.find? fun o => o.1.identical v).map (·.2)

/-- The objects that a value is made of, itself first; new ones get the numbers from `next` on. -/
def of (given : Objects) (next : Nat) (v : Value) : Objects :=
  v.parts.zipIdx next |>.map fun (p, fresh) => (p, (given.number? p).getD fresh)

/-- The objects that the answer of a function is made of. -/
def ofAnswer (given : Objects) (next : Nat) (f v : Value) : Objects :=
  match of given next v with
  | (v, i) :: rest => (v, if f.makes v then next else i) :: rest
  | [] => []

/-- Whether two values, each with the objects that it is made of, are one object. -/
def areOne (m n : Objects) : Bool :=
  match m, n with
  | (v, i) :: _, (w, j) :: _ => v.identical w && (v.isShared || i == j)
  | _, _ => false

end Objects

end CheckedCurry
