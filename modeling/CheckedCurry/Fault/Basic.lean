import CheckedCurry.Fault.Wording
import CheckedCurry.Number.Basic
import CheckedCurry.Number.Decimal

/-!
# Faults

What goes wrong while a program runs, as causes.  The text of a fault is computed from its cause.

* `ErrorClass`: the classes of errors that a program can tell apart.
* `Misuse`: mistakes in the use of the library that carry a message and nothing else.
* `Cause`: operations that a value does not take.
* `Fault`: every fault; the ones about values carry the values.
-/

namespace CheckedCurry

/-! ## Classes of errors -/

/-- The class of an error. -/
inductive ErrorClass where
  | exception
  | value
  | type
  | key
  | runtime
  | system
  | property
  | index
  | overflow
  | memory
  | recursion
  | decimal
  | decimalOverflow
  | library
  | arity
  | invalidValue
  | typeVariable
  | accessibility
  | capability
  | typeClass
  | range
  | configuration
  deriving DecidableEq, Repr, Inhabited

namespace ErrorClass

/-- The name of a class of errors. -/
def name : ErrorClass → String
  | exception => "Exception"
  | value => "ValueError"
  | type => "TypeError"
  | key => "KeyError"
  | runtime => "RuntimeError"
  | system => "OSError"
  | property => "AttributeError"
  | index => "IndexError"
  | overflow => "OverflowError"
  | memory => "MemoryError"
  | recursion => "RecursionError"
  | decimal => "InvalidOperation"
  | decimalOverflow => "Overflow"
  | library => "HavenError"
  | arity => "ArityError"
  | invalidValue => "InvalidValueError"
  | typeVariable => "TypeVariableError"
  | accessibility => "AccessibilityError"
  | capability => "CapabilityError"
  | typeClass => "TypeClassError"
  | range => "RangeError"
  | configuration => "ConfigurationError"

/-- Whether the class belongs to the library. -/
def isLibrary : ErrorClass → Bool
  | library | arity | invalidValue | typeVariable | accessibility | capability | typeClass
  | range | configuration => true
  | _ => false

/-- Whether errors of the class are errors about types. -/
def isTypeError : ErrorClass → Bool
  | type | arity | invalidValue | typeVariable | accessibility | capability | typeClass => true
  | _ => false

/-- Whether errors of the class are errors about values. -/
def isValueError : ErrorClass → Bool
  | value | range | configuration => true
  | _ => false

/-- The place that a class comes from, if it is not a general one. -/
def place? (c : ErrorClass) : Option String :=
  if c.isLibrary then some "haven.errors"
  else if c = decimal || c = decimalOverflow then some "decimal"
  else none

/-- The name of a class with the place it comes from, if it is not a general one. -/
def qualifiedName (c : ErrorClass) : String :=
  match c.place? with
  | some place => place ++ "." ++ c.name
  | none => c.name

/-- The classes that a program can make errors of. -/
def named : List ErrorClass :=
  [exception, value, type, key, runtime, system, property, index, overflow, library, range,
   configuration]

/-- The class with a name. -/
def ofName? (name : String) : Option ErrorClass := named.find? fun c => c.name == name

/-- Whether errors of the first class are errors of the second. -/
def isSubclass (c d : ErrorClass) : Bool :=
  match d with
  | exception => true
  | value => c.isValueError
  | type => c.isTypeError
  | runtime => c == runtime || c == recursion
  | library => c.isLibrary
  | _ => c == d

end ErrorClass

/-! ## Mistakes in the use of the library -/

/-- A mistake that is reported by a message alone. -/
inductive Misuse where
  /-- A radix outside 2 to 36. -/
  | radix
  /-- An assignment to an immutable value of a family. -/
  | immutable (family : String)
  /-- An attempt to make a value of a family through its class. -/
  | notInstantiable (family : String)
  /-- A definition whose function takes another number of arguments than there are types. -/
  | parameterCount (name : String) (takes given : Nat)
  /-- A read of an attribute that has no value yet. -/
  | unset (property : String)
  /-- A second assignment to an attribute. -/
  | alreadySet (property : String)
  /-- A name that a set of functions does not have. -/
  | noFunction (name : String)
  /-- A name that the package does not have. -/
  | noExport (name : String)
  /-- A flag that is neither on nor off. -/
  | flag (setting : String) (accepted : List String) (given : String)
  /-- The factorial of a negative number. -/
  | negativeFactorial
  deriving DecidableEq, Repr

namespace Misuse

/-- The class of the error that reports a mistake. -/
def errorClass : Misuse → ErrorClass
  | radix => .range
  | immutable _ | unset _ | alreadySet _ | noFunction _ | noExport _ => .property
  | notInstantiable _ => .type
  | parameterCount .. | negativeFactorial => .value
  | flag .. => .configuration

/-- The message about a mistake, given how a text is written in an expression. -/
def messageWith (literal : String → String) : Misuse → String
  | radix => Wording.range "parse_int" "Radix not in [2 .. 36]"
  | immutable family => family ++ " values are immutable"
  | notInstantiable family => "Cannot instantiate " ++ family
  | parameterCount name takes given =>
    name ++ " takes " ++ toString takes ++ " arguments, but " ++ toString given ++
      " types were given for them"
  | unset property => "Attribute \"" ++ property ++ "\" has not been set"
  | alreadySet property => "Attribute \"" ++ property ++ "\" cannot be set more than once"
  | noFunction name => "'Module' object has no attribute " ++ literal name
  | noExport name => "module 'haven' has no attribute " ++ literal name
  | flag setting accepted given =>
    setting ++ " must be one of " ++ ", ".intercalate accepted ++ "; got " ++ literal given
  | negativeFactorial => "Cannot determine factorial of negative number"

end Misuse

/-! ## Operations that a value does not take -/

/-- Why a basic operation fails.  Operands are given by the names of their classes. -/
inductive Cause where
  | notCallable (operand : String)
  /-- A call of a function with a number of arguments it does not take. -/
  | argumentCount (function : String)
  | noAttribute (operand property : String)
  | nameNotText
  | notText (operand : String)
  | unsupported (operation left right : String)
  | unordered (operation left right : String)
  | notJoinable (left right : String)
  | noLength (operand : String)
  | notIterable (operand : String)
  | notSubscriptable (operand : String)
  | notInteger (operand : String)
  | notNumber (function operand : String)
  | missingKey (written : String)
  | outOfRange (sequence : String)
  /-- A sequence that has elements and no parts. -/
  | noParts
  | unhashable (operand : String)
  | badLiteral (radix : Nat) (written : String)
  | badFloat (written : String)
  | number (fault : NumberFault)
  /-- An operation on decimals without a result. -/
  | decimal (fault : DecimalFault)
  | notMapping (operand : String)
  | notEntry
  | notByte
  | negativeCount
  /-- A sequence of more elements than can be counted. -/
  | uncountable
  /-- A sequence of more elements than can be held. -/
  | tooLong
  /-- A day beyond the calendar, or a duration that is too long. -/
  | timeTooLarge
  | noElements
  | notSerializable (operand : String)
  | noSetter (property : String)
  | wrongReceiver (method operand : String)
  | readOnly
  /-- A format that does not fit its values. -/
  | formatting
  /-- A format that cannot be read. -/
  | unreadableFormat
  /-- Computations nested beyond every limit. -/
  | tooDeep
  deriving DecidableEq, Repr

namespace Cause

/-- The class of the error for a cause. -/
def errorClass : Cause → ErrorClass
  | noAttribute .. | noSetter _ => .property
  | missingKey _ => .key
  | outOfRange _ => .index
  | badLiteral .. | badFloat _ | number .nanToInteger | number .tooManyDigits | notEntry | notByte
  | negativeCount | noElements | unreadableFormat => .value
  | number _ | uncountable | timeTooLarge => .overflow
  | tooLong => .memory
  | tooDeep => .recursion
  | decimal .invalid => .decimal
  | decimal .tooLarge => .decimalOverflow
  | _ => .type

/-- The text for a cause. -/
def message : Cause → String
  | notCallable operand => "'" ++ operand ++ "' object is not callable"
  | argumentCount function => function ++ "() takes another number of arguments"
  | noAttribute operand property =>
    "'" ++ operand ++ "' object has no attribute '" ++ property ++ "'"
  | nameNotText => "attribute name must be string"
  | notText operand => "expected string or bytes-like object, got '" ++ operand ++ "'"
  | unsupported operation left right =>
    "unsupported operand type(s) for " ++ operation ++ ": '" ++ left ++ "' and '" ++ right ++ "'"
  | unordered operation left right =>
    "'" ++ operation ++ "' not supported between instances of '" ++ left ++ "' and '" ++ right ++
      "'"
  | notJoinable left right =>
    "can only concatenate " ++ left ++ " (not \"" ++ right ++ "\") to " ++ left
  | noLength operand => "object of type '" ++ operand ++ "' has no len()"
  | notIterable operand => "'" ++ operand ++ "' object is not iterable"
  | notSubscriptable operand => "'" ++ operand ++ "' object is not subscriptable"
  | notInteger operand => "'" ++ operand ++ "' object cannot be interpreted as an integer"
  | notNumber function operand =>
    function ++ " argument must be a string or a real number, not '" ++ operand ++ "'"
  | missingKey written => written
  | outOfRange sequence => sequence ++ " index out of range"
  | noParts => "sequence index must be integer, not 'slice'"
  | unhashable operand => "unhashable type: '" ++ operand ++ "'"
  | badLiteral radix written =>
    "invalid literal for int() with base " ++ toString radix ++ ": " ++ written
  | badFloat written => "could not convert string to float: " ++ written
  | number fault => fault.message
  | decimal .invalid => "[<class 'decimal.InvalidOperation'>]"
  | decimal .tooLarge => "[<class 'decimal.Overflow'>]"
  | notMapping operand => "'" ++ operand ++ "' object is not a mapping"
  | notEntry => "dictionary update sequence element needs two elements"
  | notByte => "bytes must be in range(0, 256)"
  | negativeCount => "negative count"
  | uncountable => "the number of elements is out of range"
  | timeTooLarge => "date value out of range"
  | tooLong => "the elements do not fit into memory"
  | noElements => "max() iterable argument is empty"
  | notSerializable operand => "Object of type " ++ operand ++ " is not JSON serializable"
  | noSetter property => "property '" ++ property ++ "' of 'Module' object has no setter"
  | wrongReceiver method operand =>
    "descriptor '" ++ method ++ "' for 'str' objects doesn't apply to a '" ++ operand ++
      "' object"
  | readOnly => "object is read-only"
  | formatting => "the format does not fit its arguments"
  | unreadableFormat => "the format cannot be read"
  | tooDeep => "maximum recursion depth exceeded"

end Cause

/-! ## Faults -/

/-- What goes wrong, over the values that the faults are about. -/
inductive Fault (V : Type) where
  /-- More arguments than a function has parameters. -/
  | arity (name : String) (required received : Nat)
  /-- A value that is no member of the type of its parameter, or of the result. -/
  | invalidValue (report : Report) (name : String) (index : Nat) (value : V)
  /-- Values for one type variable that have no type in common. -/
  | typeVariable (report : Report) (name : String) (values : List V)
  /-- A null value where properties are read. -/
  | accessibility (name : String) (index : Nat)
  /-- A value that does not support an operation. -/
  | capability (shown capability : String)
  /-- A value that lacks a capability which its type variable requires. -/
  | typeClass (report : Report) (name capability : String) (value : V)
  /-- A mistake in the use of the library. -/
  | misuse (m : Misuse)
  /-- An error that the program itself makes. -/
  | made (errorClass : ErrorClass) (arguments : List V)
  /-- A basic operation that fails. -/
  | basic (cause : Cause)
  deriving Repr, Inhabited

namespace Fault

variable {V : Type}

/-- The class of a fault. -/
def errorClass : Fault V → ErrorClass
  | arity .. => .arity
  | invalidValue .. => .invalidValue
  | typeVariable .. => .typeVariable
  | accessibility .. => .accessibility
  | capability .. => .capability
  | typeClass .. => .typeClass
  | misuse m => m.errorClass
  | made c _ => c
  | basic cause => cause.errorClass

/-- Whether the text of the fault is part of the library's interface or given by the program. -/
def isWorded : Fault V → Bool
  | basic _ => false
  | _ => true

/-- Whether computations were nested beyond every limit. -/
def isTooDeep : Fault V → Bool
  | basic .tooDeep => true
  | _ => false

end Fault

end CheckedCurry
