import CheckedCurry.Value.Display
import CheckedCurry.Value.Equality
import CheckedCurry.Value.Host

/-!
# Looking into values

* `Value.attribute?`, `Value.readAttribute`: the attributes of a value; `Value.property`: an
  attribute, or what a map holds under a name.
* `Value.elements`: what an iteration over a value meets; `Value.spread`: the same, to be held.
* `Value.length`, `Value.item`, `Value.front`: the size of a sequence, one of its elements, and its
  empty front part.
* `Value.truth`: whether a value counts as true.
* `Value.depth`: how many values deep a value is nested.
-/

namespace CheckedCurry

variable [Host]

/-! ## Attributes -/

namespace Fault

/-- The attributes that an error has besides its message. -/
def fields : Fault Value → List (String × Value)
  | arity name required received =>
    [("name", .text name), ("required", .nat required), ("received", .nat received)]
  | invalidValue _ name index value =>
    [("name", .text name), ("index", .nat index), ("value", value)]
  | typeVariable _ name values => [("name", .text name), ("values", .tuple values)]
  | accessibility name index => [("name", .text name), ("index", .nat index)]
  | capability _ name => [("capability", .text name)]
  | typeClass _ name lacked value =>
    [("name", .text name), ("capability", .text lacked), ("value", value)]
  | _ => []

/-- The message attribute of an error of the library. -/
def messageValue? (f : Fault Value) : Option Value :=
  match f with
  | made _ arguments => if f.errorClass.isLibrary then arguments.head? else none
  | f => if f.errorClass.isLibrary then f.message.toOption.map Value.text else none

end Fault

namespace Tag

/-- The value of a tag. -/
def value? : Tag → Option Value
  | none => Option.none
  | text s => some (.text s)
  | int n => some (.int n)
  | null => some .null

end Tag

namespace Value

/-- The value of an optional value; an absent one holds the null value. -/
def content : Value → Value
  | just v | left v | right v => v
  | _ => null

/-- An optional text as a value. -/
def ofOption : Option String → Value
  | some s => text s
  | none => null

/-- The parts of a number under their names; an integer and a quotient are quotients. -/
def numberPart? (n : Number) (name : String) : Option Value :=
  match n, name with
  | n, "real" => some (number n)
  | .int _, "imag" | .ratio _, "imag" => some (int 0)
  | .float _, "imag" | .nan _, "imag" => some (number (.float (.ofRatio false 0 1)))
  | .int n, "numerator" => some (int n)
  | .int _, "denominator" => some (int 1)
  | .ratio q, "numerator" => some (int q.num)
  | .ratio q, "denominator" => some (nat q.den)
  | _, _ => none

/-- The parts of a day under their names. -/
def dayPart? (d : Day) (name : String) : Option Value :=
  ([("year", d.year), ("month", d.month), ("day", d.day)].lookup name).map nat

/-- An object with a written form and a text. -/
def writtenAs (className written shown : String) (attrs : List (String × Value)) : Value :=
  .object ⟨0, className, .none, written, some shown, false⟩ attrs none

/-- The time zone of a time of day. -/
def zonePart (c : Clock) : Value :=
  match c.zone with
  | some zone =>
    writtenAs "timezone" (Moment.zoneLiteral zone) (Moment.zoneName zone) []
  | none => null

/-- The parts of a time of day under their names. -/
def clockPart? (c : Clock) (name : String) : Option Value :=
  if name = "tzinfo" then some (zonePart c)
  else ([("hour", c.hour), ("minute", c.minute), ("second", c.second), ("microsecond", c.micro),
    ("fold", 0)].lookup name).map nat

/-- The parts of a duration under their names, and the bounds of durations. -/
def durationPart? (d : Duration) (name : String) : Option Value :=
  match name with
  | "days" => some (int d.days)
  | "seconds" => some (int d.seconds)
  | "microseconds" => some (int d.rest)
  | "min" => some (duration .least)
  | "max" => some (duration .greatest)
  | "resolution" => some (duration ⟨1⟩)
  | _ => none

/-- The parts of a moment under their names, and the bounds of its sort. -/
def momentPart? (m : Moment) (name : String) : Option Value :=
  match m, name with
  | m, "min" => some (moment m.least)
  | m, "max" => some (moment m.greatest)
  | .date _, "resolution" => some (duration ⟨Duration.dayMicros⟩)
  | _, "resolution" => some (duration ⟨1⟩)
  | .date d, name => dayPart? d name
  | .time c, name => clockPart? c name
  | .both d c, name => (dayPart? d name).or (clockPart? c name)

/-- The parts of a plain value under their names. -/
def part? (v : Value) (name : String) : Option Value :=
  match v, name with
  | bool b, name => numberPart? (.int (if b then 1 else 0)) name
  | number n, name => numberPart? n name
  | decimal d, "real" => some (decimal d)
  | decimal _, "imag" => some (decimal (.ofInt 0))
  | range p, "start" => some (int p.start)
  | range p, "stop" => some (int p.stop)
  | range p, "step" => some (int p.step)
  | deque _, "maxlen" => some null
  | moment m, name => momentPart? m name
  | duration d, name => durationPart? d name
  | pattern (.text s), "pattern" => some (text s)
  | pattern (.bytes bs), "pattern" => some (bytes bs)
  | pattern source, "flags" => some (nat (Text.flagSum source))
  | pattern source, "groups" => some (nat (Text.groupCount source))
  | error _ (.made _ arguments), "args" => some (tuple arguments)
  | _, _ => none

/-- Whether the class of a value is built in. -/
def isNative : Value → Bool
  | bool _ | number _ | text _ | decimal _ | bytes _ | moment _ | duration _ | pattern _ | list _
  | tuple _ | range _ | deque _ | identifier _ | map _ => true
  | _ => false

/-- A part or a method of a value of a built-in class. -/
def nativeAttribute? (v : Value) (name : String) : Option Value :=
  (v.part? name).or (if v.isNative then Host.method? v name else none)

/-- A signature as a value. -/
def ofSignature (s : Signature) : Value :=
  let types := s.types.map (type none)
  writtenAs "Signature" (s.literalWith Text.literal) s.text
    [("name", text s.name), ("arity", nat s.arity), ("parameters", tuple (types.take s.arity)),
     ("returns", (types.getLast?).getD null), ("types", tuple types)]

/-- The methods of an optional value, a failure or a success. -/
def methods : Value → List String
  | nothing | just _ => ["map", "chain", "get_or_else", "__iter__"]
  | left _ | right _ => ["map", "map_left", "chain"]
  | _ => []

/-- The method of a value with a name. -/
def method? (v : Value) (name : String) : Option Value :=
  if v.methods.contains name then some (.bound (passive (v.className ++ "." ++ name)) v)
  else Option.none

/-- The attributes of values, under the names that programs read them by. -/
def attribute? (v : Value) (name : String) : Option Value :=
  match v, name with
  | nothing, "is_just" | just _, "is_nothing" => some no
  | nothing, "is_nothing" | just _, "is_just" => some yes
  | left _, "is_right" | right _, "is_left" => some no
  | left _, "is_left" | right _, "is_right" => some yes
  | nothing, "value" | just _, "value" | left _, "value" | right _, "value" => some v.content
  | nothing, "__type_identifier__" | just _, "__type_identifier__" => some (text maybeIdentifier)
  | left _, "__type_identifier__" | right _, "__type_identifier__" => some (text eitherIdentifier)
  | identifier i, "namespace" => some (ofOption i.space)
  | identifier i, "name" => some (text i.name)
  | identifier i, "version" => some (int i.version)
  | identifier _, "_fields" => some (tuple (["namespace", "name", "version"].map text))
  | placeholder, "__placeholder__" => some yes
  | object shape attrs base, name =>
    match attrs.lookup name, name with
    | some w, _ => some w
    | none, "__type_identifier__" => shape.tag.value?
    | none, "__class__" => some (cls (object shape attrs base).classOf)
    | none, name => base.bind fun b => (ofBase b).nativeAttribute? name
  | cls .maybe, "__type_identifier__" => some (text maybeIdentifier)
  | cls .either, "__type_identifier__" => some (text eitherIdentifier)
  | cls (.tagged tag), "__type_identifier__" => tag.value?
  | cls (.marker _), "__placeholder__" => some yes
  | cls c, "__name__" | cls c, "__qualname__" => some (text c.name)
  | cls c, "__module__" => c.place?.map text
  | curried _ signature _ _ _, "name" | curried _ signature _ _ _, "__name__" =>
    some (text signature.name)
  | curried _ _ _ _ slots, "arity" => some (nat (slots.countP isOpen))
  | curried _ _ _ environment _, "is_checked" => some (bool environment.isSome)
  | curried _ _ _ _ slots, "pending" => some (tuple slots)
  | curried _ signature _ _ _, "signature" => some (ofSignature signature)
  | curried _ _ implementation _ _, "__wrapped__" => some implementation
  | type _ t, "name" => t.name?.map text
  | type _ t, "url" => some (ofOption t.url?)
  | type _ (.applied c _), "constructor" => some (constructor c)
  | type _ (.applied _ ps), "parameters" => some (tuple (ps.map (type Option.none)))
  | type _ _, "parameters" => some (tuple [])
  | constructor c, "name" => some (text c.name)
  | constructor c, "url" => some (ofOption c.url)
  | helper h, "__name__" => some (text h.name)
  | constant .., "__name__" => some (text "const")
  | failing .., "__name__" => some (text "fail")
  | collecting .., "__name__" => some (text "collect")
  | error _ f, "message" => f.messageValue?
  | v, "__class__" => some (cls v.classOf)
  | error mark f, name => (f.fields.lookup name).or (part? (error mark f) name)
  | v, name => (v.nativeAttribute? name).or (v.method? name)

/-- An attribute that a value must have. -/
def readAttribute (v : Value) (name : String) : Attempt Value :=
  match v.attribute? name with
  | some w => .ok w
  | none => Attempt.fail (.noAttribute v.className name)

/-- What a value holds under a name (`_property`): the entry of a map, or an attribute.  What is
missing is undefined. -/
def property (v : Value) (name : Value) : Attempt Value :=
  match v with
  | map entries => do return (valueAt? (← name.key) entries).getD undefined
  | v =>
    match name.core with
    | text s => .ok ((v.attribute? s).getD undefined)
    | _ => Attempt.fail .nameNotText

/-! ## Sequences -/

/-- The characters of a text, as texts. -/
def characters (s : String) : List Value := s.toList.map fun c => text (String.singleton c)

/-- The elements of a value that is a sequence. -/
def sequence? (v : Value) : Option (List Value) :=
  match v.core with
  | list items => some items
  | tuple items => some items
  | range p => some (p.elements.map int)
  | deque items => some items
  | identifier i => some (identifierItems i)
  | text s => some (characters s)
  | bytes bs => some (bs.map fun b => nat b.toNat)
  | _ => none

/-- What an iteration over a value meets: the elements of a sequence, the keys of a map, the value
of an optional value. -/
def elements (v : Value) : Attempt (List Value) :=
  match v with
  | map entries => .ok (entries.map (·.1))
  | nothing => .ok []
  | just w => .ok [w]
  | v =>
    match v.sequence? with
    | some items => .ok items
    | none => Attempt.fail (.notIterable v.className)

/-- The elements of a value that go into a new sequence.  All but those of a progression are held in
memory already. -/
def spread (v : Value) : Attempt (List Value) :=
  match v.core with
  | range p => do
    checkCount p.length
    v.elements
  | _ => v.elements

/-- The number of elements of a sequence. -/
def count? (v : Value) : Option Nat :=
  match v.core with
  | range p => some p.length
  | _ => v.sequence?.map List.length

/-- The number of elements, as long as it is one that can be told. -/
def length (v : Value) : Attempt Nat :=
  match v with
  | map entries => .ok entries.length
  | v =>
    match v.count? with
    | some n => if countBound ≤ n then Attempt.fail .uncountable else .ok n
    | none => Attempt.fail (.noLength v.className)

/-- The name of a sort of sequence where an index is out of range. -/
def indexName (v : Value) : String :=
  match v.core with
  | list _ => "list index"
  | tuple _ | identifier _ => "tuple index"
  | range _ => "range object index"
  | deque _ => "deque index"
  | text _ => "string index"
  | _ => "index"

/-- The element at an index; a negative index counts from the end.  A map is asked for the entry
under the index. -/
def item (v : Value) (index : Int) : Attempt Value :=
  match v with
  | map entries =>
    match valueAt? (.rational index) entries with
    | some w => .ok w
    | none => Attempt.fail (.missingKey (toString index))
  | v =>
    match v.sequence? with
    | some items =>
      let place := if index < 0 then index + items.length else index
      if 0 ≤ place then
        match items[place.toNat]? with
        | some w => .ok w
        | none => Attempt.fail (.outOfRange v.indexName)
      else Attempt.fail (.outOfRange v.indexName)
    | none => Attempt.fail (.notSubscriptable v.className)

/-- The empty front part of a sequence, which is of the same sort (`_array_empty`).  Not every
sequence has parts. -/
def front (v : Value) : Attempt Value :=
  match v.core with
  | list _ => .ok (list [])
  | tuple _ | identifier _ => .ok (tuple [])
  | range p => .ok (range ⟨p.start, p.start, p.step⟩)
  | deque _ => Attempt.fail .noParts
  | text _ => .ok (text "")
  | bytes _ => .ok (bytes [])
  | map _ => Attempt.fail (.missingKey "slice(None, 0, None)")
  | _ => Attempt.fail (.notSubscriptable v.className)

/-! ## Maps -/

/-- The entries with one more: a key that is there keeps its place and gets the new value. -/
def putEntry (entries : List (Value × Value)) (k v : Value) : List (Value × Value) :=
  if entries.any fun e => sameKey e.1 k then
    entries.map fun e => if sameKey e.1 k then (e.1, v) else e
  else entries ++ [(k, v)]

/-- A map of entries, given in order. -/
def mapOf (entries : List (Value × Value)) : Value :=
  map (entries.foldl (fun es (k, v) => putEntry es k v) [])

/-- The entries of a value that is a map. -/
def entries (v : Value) : Attempt (List (Value × Value)) :=
  match v with
  | map es => .ok es
  | v => Attempt.fail (.notMapping v.className)

/-! ## Truth -/

/-- Whether a value counts as true: zeros and empty containers and the null values do not. -/
def truth (v : Value) : Bool :=
  match v.core with
  | null | undefined => false
  | bool b => b
  | number n => !n.isZero
  | text s => !s.isEmpty
  | decimal d => d.toRat? != some 0
  | duration d => d.micros != 0
  | bytes bs => !bs.isEmpty
  | list items | tuple items | deque items => !items.isEmpty
  | range p => p.length != 0
  | map es => !es.isEmpty
  | _ => true

/-! ## Depth -/

mutual

/-- How many values deep a value is nested; sequences of plain parts count as two. -/
def depth : Value → Nat
  | text _ | bytes _ | range _ | identifier _ => 2
  | list items | tuple items | deque items => depthAll items + 1
  | map entries => depthEntries entries + 1
  | just v | left v | right v => depth v + 1
  | object _ attrs base =>
    max (depthAttributes attrs) (match base with
      | some (.list items) => depthAll items + 1
      | some (.text _) => 2
      | _ => 1) + 1
  | _ => 1

/-- The greatest depth of values. -/
def depthAll : List Value → Nat
  | [] => 0
  | v :: vs => max (depth v) (depthAll vs)

/-- The greatest depth of keys and values. -/
def depthEntries : List (Value × Value) → Nat
  | [] => 0
  | (k, v) :: es => max (max (depth k) (depth v)) (depthEntries es)

/-- The greatest depth of attributes. -/
def depthAttributes : List (String × Value) → Nat
  | [] => 0
  | (_, v) :: attrs => max (depth v) (depthAttributes attrs)

end

/-! ## Small laws -/

@[simp] theorem attribute?_is_just_just (v : Value) :
    (just v).attribute? "is_just" = some yes := rfl

@[simp] theorem attribute?_value_just (v : Value) : (just v).attribute? "value" = some v := rfl

omit [Host]

theorem depth_le_depthAll {v : Value} {vs : List Value} (h : v ∈ vs) : v.depth ≤ depthAll vs := by
  induction vs with
  | nil => cases h
  | cons w ws ih =>
    rw [depthAll]
    rcases List.mem_cons.1 h with rfl | h
    · exact Nat.le_max_left ..
    · exact Nat.le_trans (ih h) (Nat.le_max_right ..)

@[simp] theorem depth_just (v : Value) : (just v).depth = v.depth + 1 := by rw [depth]

theorem depth_pos (v : Value) : 0 < v.depth := by
  unfold depth
  split <;> omega

@[simp] theorem elements_list (items : List Value) : (list items).elements = .ok items := rfl

@[simp] theorem elements_tuple (items : List Value) : (tuple items).elements = .ok items := rfl

@[simp] theorem truth_bool (b : Bool) : (bool b).truth = b := rfl

end Value

end CheckedCurry
