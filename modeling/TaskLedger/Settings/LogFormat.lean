import TaskLedger.Text.Blank
import TaskLedger.Text.Letters

/-!
**The format of log lines.**
-/

set_option autoImplicit false

namespace TaskLedger

/-- How log lines are written: as JSON, or for people. -/
inductive LogFormat where
  | json
  | pretty
  deriving DecidableEq, Repr

namespace LogFormat

/-- The name of a format. -/
def name : LogFormat → String
  | json => "json"
  | pretty => "pretty"

/-- The format that a setting asks for: log lines are JSON unless it says otherwise. -/
def parse (s : String) : LogFormat :=
  if Text.sameLetters (Text.trim s) pretty.name then pretty else json

end LogFormat

end TaskLedger
