/-!
# Log records

* `Level`: how much a record matters.
* `Record`: the name of the logger, the level, the message, and the class of an error that is logged
  with it.
-/

namespace CheckedCurry.Log

/-- The levels, from the least. -/
inductive Level where
  | debug
  | info
  | warning
  | error
  | critical
  deriving DecidableEq, Repr, Inhabited

namespace Level

/-- The rank of a level. -/
def rank : Level → Nat
  | debug => 10
  | info => 20
  | warning => 30
  | error => 40
  | critical => 50

/-- The name of a level. -/
def name : Level → String
  | debug => "DEBUG"
  | info => "INFO"
  | warning => "WARNING"
  | error => "ERROR"
  | critical => "CRITICAL"

/-- The level with a name. -/
def ofName? (name : String) : Option Level :=
  [debug, info, warning, error, critical].find? fun l => l.name == name

/-- Whether records of a level are kept where `threshold` is asked for; without a threshold none
are. -/
def passes (l : Level) (threshold : Option Level) : Bool :=
  threshold.any fun t => t.rank ≤ l.rank

end Level

/-- What is logged.  The error, if there is one, is given by the name of its class. -/
structure Record where
  logger : String
  level : Level
  message : String
  exception : Option String
  deriving DecidableEq, Repr, Inhabited

/-- A record without an error. -/
def Record.plain (logger : String) (level : Level) (message : String) : Record :=
  ⟨logger, level, message, none⟩

/-! ## Loggers -/

/-- The logger of rejections. -/
def checks : String := "haven.validate"

/-- The logger of new curried functions. -/
def functions : String := "haven.curry"

/-- The logger of new libraries. -/
def libraries : String := "haven.module"

/-- The logger of the standard functions. -/
def catalog : String := "haven.prelude"

/-- The logger of the settings. -/
def settings : String := "haven.config"

end CheckedCurry.Log
