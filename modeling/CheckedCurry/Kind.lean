/-!
# Kinds of values

Every value has one kind, found from its structure and not from its class.

* `Kind`: the twelve kinds; a value whose class declares an identifier is tagged, whatever else it
  is.
* `Kind.name`: the name a kind has in messages.
-/

namespace CheckedCurry

/-- The kind of a value. -/
inductive Kind where
  | null
  | undefined
  | boolean
  | number
  | string
  | array
  | function
  | object
  | date
  | regExp
  | error
  | tagged
  deriving DecidableEq, Repr, Inhabited

namespace Kind

/-- The name of a kind in messages. -/
def name : Kind → String
  | null => "Null"
  | undefined => "Undefined"
  | boolean => "Boolean"
  | number => "Number"
  | string => "String"
  | array => "Array"
  | function => "Function"
  | object => "Object"
  | date => "Date"
  | regExp => "RegExp"
  | error => "Error"
  | tagged => "Tagged"

/-- Every kind, in the order of their definition. -/
def all : List Kind :=
  [null, undefined, boolean, number, string, array, function, object, date, regExp, error, tagged]

theorem mem_all (k : Kind) : k ∈ all := by cases k <;> simp [all]

theorem name_injective {j k : Kind} (h : j.name = k.name) : j = k := by
  cases j <;> cases k <;> first | rfl | (exfalso; revert h; decide)

end Kind

/-- The identifier that optional values declare. -/
def maybeIdentifier : String := "haven/Maybe"

/-- The identifier that success and failure values declare. -/
def eitherIdentifier : String := "haven/Either"

end CheckedCurry
