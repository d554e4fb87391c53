import CheckedCurry.Run.Basic
import CheckedCurry.Text.Blank
import CheckedCurry.Text.Letters

/-!
# Settings

Whether the default library checks arguments is read from named texts.  In production it does not; a
flag, when it is set, decides either way.

* `Settings.parseFlag`: a flag that is on or off.
* `Settings.checksTypes`: whether arguments are checked; that they are not is logged.
* `Settings.logFile?`: the file that records are written to, if one is named.
-/

namespace CheckedCurry.Settings

/-- The texts that turn a flag on (`_TRUE`). -/
def onTexts : List String := ["1", "true", "yes", "on"]

/-- The texts that turn a flag off (`_FALSE`). -/
def offTexts : List String := ["0", "false", "no", "off"]

/-- All texts of a flag, in order. -/
def flagTexts : List String := (onTexts ++ offTexts).mergeSort fun s t => s ≤ t

/-- A text without blanks at its ends and in small letters. -/
def normalize (s : String) : String := Text.lower (Text.trim s)

/-- Whether a text turns a flag on or off (`parse_flag`). -/
def parseFlag (name text : String) : Attempt Bool :=
  let normalized := normalize text
  if onTexts.contains normalized then .ok true
  else if offTexts.contains normalized then .ok false
  else throw (.misuse (.flag name flagTexts text))

/-- The setting that names the surroundings (`ENV_VARIABLE`). -/
def surroundings : String := "HAVEN_ENV"

/-- The setting that turns checks on or off (`CHECK_TYPES_VARIABLE`). -/
def checkFlag : String := "HAVEN_CHECK_TYPES"

/-- The setting that names the log file (`LOG_FILE_VARIABLE`). -/
def logFile : String := "HAVEN_LOG_FILE"

/-- Whether arguments are checked, with the setting that says so. -/
def decide (settings : List (String × String)) : Attempt (Bool × String) :=
  match settings.lookup checkFlag with
  | some text => do return (← parseFlag checkFlag text, checkFlag ++ "=" ++ text)
  | none =>
    let place := normalize ((settings.lookup surroundings).getD "")
    .ok (place != "production", surroundings ++ "=" ++ place)

/-- Whether arguments are checked (`check_types_from_environment`). -/
def checksTypes (settings : List (String × String)) : Run Bool := do
  let (checks, reason) ← Run.ofAttempt (decide settings)
  if !checks then
    Run.log (.plain Log.settings .info ("type checking is off (" ++ reason ++ ")"))
  return checks

/-- The file that records are written to (`log_handler_from_environment`). -/
def logFile? (settings : List (String × String)) : Option String :=
  (settings.lookup logFile).filter (!·.isEmpty)

end CheckedCurry.Settings
