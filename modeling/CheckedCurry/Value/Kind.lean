import CheckedCurry.Value.Basic

/-!
# The kind of a value

* `Value.identifier?`: the identifier that the class of a value declares.
* `Value.kind`: the one kind of a value.
* `Value.unifier`: what two values must share to stand for one type variable: their identifier, or
  the name of their kind.
* `Value.describe`: the parts of the identifier, or the name of the kind alone.
* `Value.isOpen`: whether a value marks a slot as open.
-/

namespace CheckedCurry.Value

/-! ## Identifiers and kinds -/

/-- The identifier that the class of a value declares (`type_identifier`). -/
def identifier? : Value → Option String
  | nothing | just _ => some maybeIdentifier
  | left _ | right _ => some eitherIdentifier
  | object shape _ _ => shape.tag.identifier?
  | _ => none

/-- Whether a value can be called. -/
def isCallable : Value → Bool
  | cls _ | constructor _ | helper _ | standard _ | constant .. | failing .. | collecting ..
  | bound .. | curried .. | type _ (.representative _) => true
  | object shape _ _ => shape.callable
  | _ => false

/-- The kind that the structure of a value gives it. -/
def structuralKind : Value → Kind
  | null => .null
  | undefined => .undefined
  | bool _ => .boolean
  | number _ => .number
  | text _ => .string
  | list _ | tuple _ | range _ | deque _ | identifier _ => .array
  | error .. => .error
  | moment _ => .date
  | pattern _ => .regExp
  | v => if v.isCallable then .function else .object

/-- The kind of a value (`classify`): tagged if its class declares an identifier. -/
def kind (v : Value) : Kind :=
  match v.identifier? with
  | some _ => .tagged
  | none =>
    match v with
    | object _ _ (some base) => (ofBase base).structuralKind
    | v => v.structuralKind

/-- What two values must share to stand for one type variable (`observed_type`). -/
def unifier (v : Value) : String := v.identifier?.getD v.kind.name

/-- The parts of the identifier of a value (`describe`); without one, the name of its kind. -/
def describe (v : Value) : Identifier :=
  match v.identifier? with
  | some s => .parse s
  | none => .bare v.kind.name

/-- Whether a value is one of the two null values (`is_nullish`). -/
def isNullish : Value → Bool
  | null | undefined => true
  | _ => false

/-- Whether a value stands for a type (`is_type_representative`): a class, another callable value, a
type or a type constructor. -/
def isRepresentative : Value → Bool
  | type .. => true
  | v => v.isCallable

/-! ## Open slots -/

/-- Whether a value is the truth value `true` and nothing that merely equals it. -/
def isTrue : Value → Bool
  | bool true => true
  | _ => false

/-- Whether a value stands for an argument that is supplied later (`is_placeholder`): the placeholder,
or an object that says so of itself.  A class that says so is an ordinary value. -/
def isOpen : Value → Bool
  | placeholder => true
  | object _ attrs _ => (attrs.lookup "__placeholder__").any isTrue
  | _ => false

/-! ## Names of classes -/

/-- The class of a value. -/
def classOf : Value → Class
  | null => .null
  | undefined => .other "_Undefined"
  | placeholder => .placeholder
  | bool _ => .bool
  | number (.int _) => .int
  | number (.ratio _) => .other "Fraction"
  | number _ => .float
  | text _ => .string
  | decimal _ => .other "Decimal"
  | bytes _ => .bytes
  | moment m => .other m.sortName
  | duration _ => .other "timedelta"
  | pattern _ => .other "Pattern"
  | list _ => .list
  | tuple _ => .tuple
  | range _ => .other "range"
  | deque _ => .other "deque"
  | identifier _ => .other "TypeIdentifier"
  | map _ => .map
  | nothing | just _ => .maybe
  | left _ | right _ => .either
  | error _ f => .error f.errorClass
  | object shape _ none =>
    if shape.tag = .none || shape.callable then .other shape.className else .tagged shape.tag
  | object shape _ (some _) => .other shape.className
  | cls c =>
    match c with
    | .anyNumber | .realNumber | .mapping => .other "ABCMeta"
    | _ => .type
  | type _ t => .other t.className
  | constructor c => .other c.className
  | helper .length | helper .maximum => .other "builtin_function_or_method"
  | helper .upper => .other "method_descriptor"
  | helper _ | standard _ | constant .. | failing .. | collecting .. => .other "function"
  | bound .. => .other "method"
  | curried .. => .other "CurriedFunction"

/-- The name of the class of a value. -/
def className (v : Value) : String := v.classOf.name

/-- The name that the class of a value has in the text of a failed operation. -/
def operandName : Value → String
  | decimal _ => "decimal.Decimal"
  | moment m => "datetime." ++ m.sortName
  | duration _ => "datetime.timedelta"
  | pattern _ => "re.Pattern"
  | deque _ => "collections.deque"
  | v => v.className

/-! ## Small laws -/

@[simp] theorem kind_object_base (shape : Shape) (attrs : List (String × Value)) (b : Base Value) :
    (object shape attrs (some b)).kind =
      if shape.tag.identifier?.isSome then .tagged else (ofBase b).structuralKind := by
  simp only [kind, identifier?]
  cases shape.tag.identifier? <;> rfl

theorem unifier_of_identifier? {v : Value} {s : String} (h : v.identifier? = some s) :
    v.unifier = s := by
  simp [unifier, h]

end CheckedCurry.Value
