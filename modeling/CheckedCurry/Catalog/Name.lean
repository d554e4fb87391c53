/-!
# Names of functions

* `Standard`: the functions that every program has.
* `Helper`: plain functions that programs hand to them; they are not curried and not checked.
-/

namespace CheckedCurry

/-- A standard function. -/
inductive Standard where
  | identity
  | constant
  | apply
  | thrush
  | compose
  | flip
  | add
  | sub
  | mult
  | inc
  | dec
  | negate
  | odd
  | even
  | range
  | toLower
  | toUpper
  | trim
  | words
  | keys
  | values
  | head
  | last
  | get
  | gets
  | and
  | or
  | xor
  | not
  | concat
  | equals
  | isNothing
  | isJust
  | fromMaybe
  | maybe
  | toMaybe
  | mapMaybe
  | catMaybes
  | encase
  | isLeft
  | isRight
  | either
  | encaseEither
  | parseInt
  | is
  | type
  | display
  deriving DecidableEq, Repr, Inhabited

namespace Standard

/-- The name by which a program calls a standard function. -/
def name : Standard → String
  | identity => "I"
  | constant => "K"
  | apply => "A"
  | thrush => "T"
  | compose => "compose"
  | flip => "flip"
  | add => "add"
  | sub => "sub"
  | mult => "mult"
  | inc => "inc"
  | dec => "dec"
  | negate => "negate"
  | odd => "odd"
  | even => "even"
  | range => "range"
  | toLower => "to_lower"
  | toUpper => "to_upper"
  | trim => "trim"
  | words => "words"
  | keys => "keys"
  | values => "values"
  | head => "head"
  | last => "last"
  | get => "get"
  | gets => "gets"
  | and => "and_"
  | or => "or_"
  | xor => "xor"
  | not => "not_"
  | concat => "concat"
  | equals => "equals"
  | isNothing => "is_nothing"
  | isJust => "is_just"
  | fromMaybe => "from_maybe"
  | maybe => "maybe"
  | toMaybe => "to_maybe"
  | mapMaybe => "map_maybe"
  | catMaybes => "cat_maybes"
  | encase => "encase"
  | isLeft => "is_left"
  | isRight => "is_right"
  | either => "either"
  | encaseEither => "encase_either"
  | parseInt => "parse_int"
  | is => "is_"
  | type => "type_"
  | display => "show"

/-- Every standard function, in the order of their definition (`DEFINITIONS`). -/
def all : List Standard :=
  [identity, constant, apply, thrush, compose, flip, add, sub, mult, inc, dec, negate, odd, even,
   range, toLower, toUpper, trim, words, keys, values, head, last, get, gets, and, or, xor, not,
   concat, equals, isNothing, isJust, fromMaybe, maybe, toMaybe, mapMaybe, catMaybes, encase,
   isLeft, isRight, either, encaseEither, parseInt, is, type, display]

theorem mem_all (s : Standard) : s ∈ all := by cases s <;> simp [all]

end Standard

/-- A plain function. -/
inductive Helper where
  | identity
  | first
  | second
  | pair
  | tuple
  | just
  | nothing
  | left
  | right
  | double
  | half
  | message
  | kind
  | factorial
  | length
  | maximum
  | upper
  | makeJust
  | makeLeft
  | makeRight
  deriving DecidableEq, Repr, Inhabited

namespace Helper

/-- The name of a plain function. -/
def name : Helper → String
  | identity => "identity"
  | first => "first"
  | second => "second"
  | pair => "pair"
  | tuple => "tuple2"
  | just => "just"
  | nothing => "nothing"
  | left => "left"
  | right => "right"
  | double => "double"
  | half => "half"
  | message => "message"
  | kind => "kind"
  | factorial => "factorial"
  | length => "len"
  | maximum => "max"
  | upper => "upper"
  | makeJust => "Just"
  | makeLeft => "Left"
  | makeRight => "Right"

/-- The name with the class that a function belongs to. -/
def qualifiedName : Helper → String
  | upper => "str.upper"
  | h => h.name

/-- Every plain function. -/
def all : List Helper :=
  [identity, first, second, pair, tuple, just, nothing, left, right, double, half, message, kind,
   factorial, length, maximum, upper, makeJust, makeLeft, makeRight]

/-- The plain function with a name. -/
def ofName? (name : String) : Option Helper := all.find? fun h => h.name == name

/-- The number of arguments of a plain function; the maximum takes any number from one on. -/
def arity? : Helper → Option Nat
  | first | second | pair | tuple => some 2
  | maximum => none
  | _ => some 1

/-- Whether the function becomes a method of the objects whose class it is put into. -/
def isMethod : Helper → Bool
  | length | maximum | upper => false
  | _ => true

end Helper

end CheckedCurry
