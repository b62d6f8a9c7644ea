import TaskLedger.Service.Sweeper
import TaskLedger.Settings.Address
import TaskLedger.Text.Letters
import TaskLedger.Text.Numeral
import TaskLedger.Text.Quoted

/-!
**Settings.**

The settings come from an environment of named texts, or as a whole from elsewhere.  An unset or
blank variable leaves the default in place.

Main definitions:

* `TaskLedger.Settings` — the settings, with their defaults;
* `TaskLedger.Setting`, `TaskLedger.SettingsFault` — the names of the settings in the environment,
  and why one of them is refused;
* `TaskLedger.Settings.validate`, `TaskLedger.Settings.ofEnvironment` — checking and reading them;
* `TaskLedger.Settings.retentionWarning` — whether a slow task could be taken for a vanished one.
-/

set_option autoImplicit false

namespace TaskLedger

/-- The settings: numbers of seconds, how many tasks are examined at once, and two texts.  A text
naming a database selects the store; without it records are held in memory. -/
structure Settings where
  taskTimeout : Option UInt64 := none
  sweepInterval : UInt64 := 60
  sweepConcurrency : UInt64 := 1
  retention : UInt64 := 86400
  databaseUrl : Option String := none
  bindAddress : String := "0.0.0.0:8080"
  deriving DecidableEq, Repr

/-- One of the settings. -/
inductive Setting where
  | taskTimeout
  | sweepInterval
  | sweepConcurrency
  | retention
  | databaseUrl
  | bindAddress
  deriving DecidableEq, Repr

/-- The name of a setting in the environment. -/
def Setting.key : Setting → String
  | taskTimeout => "TASKWATCH_TASK_TIMEOUT_SECS"
  | sweepInterval => "TASKWATCH_SWEEP_INTERVAL_SECS"
  | sweepConcurrency => "TASKWATCH_SWEEP_CONCURRENCY"
  | retention => "TASKWATCH_REMOTE_RETENTION_SECS"
  | databaseUrl => "DATABASE_URL"
  | bindAddress => "TASKWATCH_BIND_ADDR"

/-- What is wrong with a value. -/
inductive ValueFault where
  | numeral (error : Text.NumeralError)
  | zero
  | address
  deriving DecidableEq, Repr

/-- The wording of what is wrong with a value. -/
def ValueFault.reason : ValueFault → String
  | .numeral error => error.message
  | .zero => "must be at least 1"
  | .address => "invalid socket address syntax"

/-- Why a setting is refused. -/
structure SettingsFault where
  setting : Setting
  value : String
  fault : ValueFault
  deriving DecidableEq, Repr

/-- The wording of a refusal. -/
def SettingsFault.message (f : SettingsFault) : String :=
  s!"invalid value {Text.quote f.value} for {f.setting.key}: {f.fault.reason}"

namespace Settings

/-! ### Checking -/

/-- Checks the address. -/
def checkAddress (c : Settings) : Except SettingsFault Unit :=
  if (SocketAddress.parse? c.bindAddress).isSome then .ok ()
  else .error ⟨.bindAddress, c.bindAddress, .address⟩

/-- Checks that a number is not zero. -/
def checkPositive (setting : Setting) (n : UInt64) : Except SettingsFault Unit :=
  if n = 0 then .error ⟨setting, "0", .zero⟩ else .ok ()

/-- Checks the settings as a whole. -/
def validate (c : Settings) : Except SettingsFault Unit := do
  c.checkAddress
  checkPositive .sweepInterval c.sweepInterval
  checkPositive .sweepConcurrency c.sweepConcurrency

/-! ### Reading -/

/-- Reads a number. -/
def readNumber (setting : Setting) (value : String) : Except SettingsFault UInt64 :=
  (Text.readUnsigned value).mapError fun error => ⟨setting, value, .numeral error⟩

/-- Reads a time limit, which is absent when it is blank, zero or named so. -/
def readTimeout (value : String) : Except SettingsFault (Option UInt64) :=
  if value = "" ∨ Text.sameLetters value "none" then .ok none
  else do
    let seconds ← readNumber .taskTimeout value
    return if seconds = 0 then none else some seconds

/-- Reads a number that may not be zero. -/
def readPositive (setting : Setting) (value : String) : Except SettingsFault UInt64 := do
  let n ← readNumber setting value
  if n = 0 then .error ⟨setting, value, .zero⟩ else return n

/-- Reads a number that may not be zero, if there is a text that is not empty. -/
def readPositiveOr (default : UInt64) (setting : Setting) :
    Option String → Except SettingsFault UInt64
  | some value => if value = "" then .ok default else readPositive setting value
  | none => .ok default

/-- The settings that an environment describes. -/
def ofEnvironment (environment : String → Option String) : Except SettingsFault Settings := do
  let value? (v : Setting) : Option String := (environment v.key).map Text.trim
  let text? (v : Setting) : Option String := (value? v).filter (· ≠ "")
  let defaults : Settings := {}
  let settings : Settings :=
    { taskTimeout := ← (match value? .taskTimeout with
        | some value => readTimeout value
        | none => .ok defaults.taskTimeout)
      sweepInterval := ← readPositiveOr defaults.sweepInterval .sweepInterval (value? .sweepInterval)
      sweepConcurrency :=
        ← readPositiveOr defaults.sweepConcurrency .sweepConcurrency (value? .sweepConcurrency)
      retention := ← readPositiveOr defaults.retention .retention (value? .retention)
      databaseUrl := text? .databaseUrl
      bindAddress := (text? .bindAddress).getD defaults.bindAddress }
  settings.validate
  return settings

/-! ### What follows from them -/

/-- The time limit of tasks. -/
def timeLimit (c : Settings) : TimeLimit := ⟨c.taskTimeout.map Span.ofSeconds⟩

/-- The interval between sweeps. -/
def sweepSpan (c : Settings) : Span := .ofSeconds c.sweepInterval

/-- How long the broker retains jobs. -/
def retentionSpan (c : Settings) : Span := .ofSeconds c.retention

/-- How sweepers are set up. -/
def sweeper (c : Settings) : Service.SweeperSettings :=
  { interval := c.sweepSpan, maxConcurrent := c.sweepConcurrency }

/-- A warning if the broker could forget a job that is merely slow. -/
def retentionWarning (c : Settings) : Option String :=
  match c.taskTimeout with
  | none => some (s!"no task timeout configured; RUNNING tasks older than the remote retention "
      ++ s!"({c.retention}s) will be failed as vanished")
  | some timeout =>
      if c.retention < timeout then
        some (s!"task timeout ({timeout}s) exceeds remote retention ({c.retention}s); "
          ++ "long-running tasks may be failed as vanished before they time out")
      else none

end Settings

end TaskLedger
