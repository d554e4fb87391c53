import CheckedCurry.Value.Kind

/-!
# Keys

Maps look values up by what the values are equal to: `1`, `1.0` and `True` are one key, a tuple is
the same key as a named tuple of the same parts, and values that equal only themselves are keys by
their marks.

* `Key`: what a value is looked up by.
* `Value.key`: the key of a value; lists and maps have none.
* `Key.hash`: what hashing keeps of a key.  Equal keys have equal hashes.
-/

namespace CheckedCurry

/-! ## Keys -/

/-- What a value is looked up by.  A tuple is a chain of `item`s that ends in `tuple`. -/
inductive Key where
  | null
  | undefined
  | placeholder
  | rational (q : Rat)
  | infinite (negative : Bool)
  | text (s : String)
  | bytes (bs : List UInt8)
  | moment (m : Moment)
  | duration (d : Duration)
  /-- A moment in a time zone, with a day or without. -/
  | instant (isDay : Bool) (micros : Int)
  | pattern (source : Text.Expression)
  | tuple
  | item (first rest : Key)
  | range (length : Nat) (start step : Option Int)
  | nothing
  | just (k : Key)
  | left (k : Key)
  | right (k : Key)
  | cls (c : Class)
  | constructor (c : Constructor)
  | helper (h : Helper)
  | standard (s : Standard)
  | typeVar (v : TypeVar)
  | typeText (text : String)
  | bound (function receiver : Key)
  | nowhere
  | marked (mark : Nat)
  deriving DecidableEq, Repr

namespace Progression

/-- What a progression is looked up by: its numbers alone. -/
def key (p : Progression) : Key :=
  match p.length with
  | 0 => .range 0 none none
  | 1 => .range 1 (some p.start) none
  | n => .range n (some p.start) (some p.step)

end Progression

namespace Number

/-- What a number is looked up by: its value. -/
def key (n : Number) : Key :=
  match n, n.exact with
  | .nan mark, _ => .marked mark
  | _, .finite q => .rational q
  | _, .infinite s => .infinite s
  | _, .nowhere => .nowhere

end Number

namespace Decimal

/-- What a decimal is looked up by: its value. -/
def key : Decimal → Key
  | .finite s c e => .rational (DecimalLiteral.toRat ⟨s, c, e⟩)
  | .infinite s => .infinite s
  | .notANumber mark .. => .marked mark

end Decimal

namespace Identifier

/-- What the parts of an identifier are looked up by. -/
def key (i : Identifier) : Key :=
  .item (match i.space with
    | some s => .text s
    | none => .null) (.item (.text i.name) (.item (.rational i.version) .tuple))

end Identifier

namespace Value

mutual

/-- What a value is looked up by. -/
def key : Value → Attempt Key
  | null => .ok .null
  | undefined => .ok .undefined
  | placeholder => .ok .placeholder
  | bool b => .ok (.rational (if b then 1 else 0))
  | number n => .ok n.key
  | text s => .ok (.text s)
  | decimal d => if d.isSignaling then Attempt.fail (.unhashable "sNaN") else .ok d.key
  | bytes bs => .ok (.bytes bs)
  | moment m =>
    match m.instant? with
    | some micros => .ok (.instant (m.sortName = "datetime") micros)
    | none => .ok (.moment m)
  | duration d => .ok (.duration d)
  | pattern s => .ok (.pattern s)
  | list _ => Attempt.fail (.unhashable "list")
  | map _ => Attempt.fail (.unhashable "dict")
  | deque _ => Attempt.fail (.unhashable "collections.deque")
  | tuple items => keyTuple items
  | range p => .ok p.key
  | identifier i => .ok i.key
  | nothing => .ok .nothing
  | just v => do return .just (← key v)
  | left v => do return .left (← key v)
  | right v => do return .right (← key v)
  | error mark _ => .ok (.marked mark)
  | object _ _ (some (.number n)) => .ok n.key
  | object _ _ (some (.text s)) => .ok (.text s)
  | object shape _ (some (.list _)) => Attempt.fail (.unhashable shape.className)
  | object shape _ none => .ok (.marked shape.mark)
  | cls c => .ok (.cls c)
  | type (some mark) _ => .ok (.marked mark)
  | type none (.var v) => .ok (.typeVar v)
  | type none t => .ok (.typeText t.text)
  | constructor c => .ok (.constructor c)
  | helper h => .ok (.helper h)
  | standard s => .ok (.standard s)
  | constant mark _ _ => .ok (.marked mark)
  | failing mark _ _ _ => .ok (.marked mark)
  | collecting mark _ => .ok (.marked mark)
  | bound f receiver => do return .bound (← key f) (← key receiver)
  | curried mark _ _ _ _ => .ok (.marked mark)

/-- What a tuple of values is looked up by. -/
def keyTuple : List Value → Attempt Key
  | [] => .ok .tuple
  | v :: vs => do
    let first ← key v
    return .item first (← keyTuple vs)

end

/-- Whether two values are one key. -/
def sameKey (v w : Value) : Bool :=
  match v.key, w.key with
  | .ok k, .ok l => k == l
  | _, _ => false

end Value

/-! ## Hashes -/

namespace Key

/-- The modulus of numeric hashes. -/
def modulus : Nat := Nat.pow 2 61 - 1

/-- The inverse of a number modulo `modulus`, as a power. -/
def inverse (n : Nat) : Nat := powMod (n % modulus) (modulus - 2) 61
where
  /-- The power modulo `modulus` of an exponent of at most `bits` bits. -/
  powMod (b e : Nat) : Nat → Nat
    | 0 => 1
    | bits + 1 =>
      let half := powMod (b * b % modulus) (e / 2) bits
      if e % 2 = 1 then half * b % modulus else half

/-- The hash of an infinity. -/
def infinityHash : Int := 314159

/-- The hash of a rational number: the quotient modulo `modulus` with its sign. -/
def hashRational (q : Rat) : Int :=
  let size : Int :=
    if q.den % modulus = 0 then infinityHash
    else q.num.natAbs % modulus * inverse q.den % modulus
  let h := if q.num < 0 then -size else size
  -- one value is kept free to report failures
  if h = -1 then -2 else h

/-- The units by which a text is stored: all of one width, the least that fits. -/
def units (s : String) : List Nat :=
  let ns := s.toList.map Char.toNat
  let width := if ns.all (· < 0x100) then 1 else if ns.all (· < 0x10000) then 2 else 4
  ns.flatMap fun n => (List.range width).map fun i => n / Nat.pow 256 i % 256

/-- What hashing keeps of a text or of bytes. -/
def hashUnits (ns : List Nat) : Key :=
  if ns.isEmpty then .rational 0 else .bytes (ns.map UInt8.ofNat)

/-- A tuple of keys. -/
def ofList : List Key → Key
  | [] => .tuple
  | k :: ks => .item k (ofList ks)

/-- The hash of an optional integer. -/
def hashOption : Option Int → Key
  | some n => .rational (hashRational n)
  | none => .null

/-- What hashing keeps of an optional value, a failure or a success: the hash of a tuple of its
identifier, whether it is present or a success, and its content. -/
def hashFamily (identifier : String) (flag : Bool) (content : Key) : Key :=
  ofList [hashUnits (units identifier), .rational (if flag then 1 else 0), content]

/-- What hashing keeps of a moment in a time zone: the hash of a tuple of its days, seconds and
microseconds. -/
def hashInstant (micros : Int) : Key :=
  let seconds := micros.fdiv 1000000
  ofList ([seconds.fdiv 86400, seconds.fmod 86400, micros.fmod 1000000].map fun (n : Int) =>
    .rational (hashRational n))

/-- What hashing keeps of a key: numbers modulo `modulus`, and texts as the bytes that store
them. -/
def hash : Key → Key
  | rational q => .rational (hashRational q)
  | infinite s => .rational (if s then -infinityHash else infinityHash)
  | text s => hashUnits (units s)
  | bytes bs => hashUnits (bs.map UInt8.toNat)
  | moment m => hashUnits m.bytes
  | instant _ micros => hashInstant micros
  | item first rest => .item first.hash rest.hash
  | range n start step => ofList [.rational (hashRational n), hashOption start, hashOption step]
  | nothing => hashFamily maybeIdentifier false .null
  | just k => hashFamily maybeIdentifier true k.hash
  | left k => hashFamily eitherIdentifier false k.hash
  | right k => hashFamily eitherIdentifier true k.hash
  | k => k

end Key

end CheckedCurry
