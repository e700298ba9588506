import DiagramSync.Model.Cardinality
import DiagramSync.Settings.FilePath
import DiagramSync.Text.Case
import DiagramSync.Validation.Checked

/-!
# Settings

What can be set from outside: given values first, then variables of the environment, then defaults.
Every setting is checked, and all problems are reported together.

* `RunMode`, `LogLevel` — settings with a few values
* `Settings` — the settings
* `Settings.check` — settings from given values
* `Settings.withEnvironment` — given values, and the variables that stand in for what is not given
* `Settings.delayText` — the delay in seconds
-/

namespace DiagramSync

/-! ## Settings with a few values -/

/-- Where the program runs. -/
inductive RunMode where
  | development
  | testing
  | production
  deriving Repr, DecidableEq

namespace RunMode

/-- The written name. -/
def word : RunMode → String
  | development => "development"
  | testing => "testing"
  | production => "production"

/-- The mode with that written name. -/
def ofWord? (w : String) : Option RunMode :=
  [development, testing, production].find? fun m => m.word == w

end RunMode

/-- How much is logged. -/
inductive LogLevel where
  | debug
  | info
  | warning
  | error
  | critical
  deriving Repr, DecidableEq

namespace LogLevel

/-- The written name. -/
def word : LogLevel → String
  | debug => "DEBUG"
  | info => "INFO"
  | warning => "WARNING"
  | error => "ERROR"
  | critical => "CRITICAL"

/-- The level with that written name, in any case of letters. -/
def ofWord? (w : String) : Option LogLevel :=
  let key := String.ofList (Text.upper w.toList)
  [debug, info, warning, error, critical].find? fun l => l.word == key

end LogLevel

/-! ## The settings -/

/-- What can be set from outside. -/
structure Settings where
  /-- The name of the application. -/
  appName : String := "ERD Sync"
  /-- The version of the application. -/
  appVersion : String := "1.0.0"
  /-- Where the program runs. -/
  mode : RunMode := .development
  /-- More is said about what happens. -/
  debug : Bool := false
  /-- How much is logged. -/
  logLevel : LogLevel := .info
  /-- The file that is logged to, besides the console. -/
  logFile : Option String := none
  /-- Milliseconds between the last edit of a text and its reading. -/
  delay : Nat := 400
  /-- The cardinality of a foreign key before it is linked. -/
  unlinked : Cardinality := .manyToOne
  deriving Repr, DecidableEq

namespace Settings

/-- The names of the settings in the order in which they are declared. -/
def names : List String :=
  ["app_name", "app_version", "environment", "debug", "log_level", "log_file",
   "sync_debounce_ms", "default_fk_cardinality"]

/-- A file path or nothing. -/
def checkPath : Value → Checked (Option String)
  | .null => .good none
  | .text path => .good (some (normalPath path))
  | _ => Checked.issue [] .pathType

/-- Reports every name that is no setting. -/
def checkNames (names : List String) : List (String × Value) → Checked Unit
  | [] => .good ()
  | (name, _) :: rest =>
    let here : Checked Unit :=
      if names.contains name then .good () else Checked.issue [name] .extraForbidden
    (fun _ _ => ()) <$> here <*> checkNames names rest

/-- Settings from values by name.  Names that are no setting are reported after everything else. -/
def check (values : List (String × Value)) : Checked Settings :=
  (fun appName appVersion mode debug logLevel logFile delay unlinked _ =>
      { appName, appVersion, mode, debug, logLevel, logFile, delay, unlinked }) <$>
    Checked.optional values "app_name" "ERD Sync" Checked.text <*>
    Checked.optional values "app_version" "1.0.0" Checked.text <*>
    Checked.optional values "environment" .development (Checked.ruled RunMode.ofWord?) <*>
    Checked.optional values "debug" false Checked.flag <*>
    Checked.optional values "log_level" .info (Checked.ruled LogLevel.ofWord?) <*>
    Checked.optional values "log_file" none checkPath <*>
    Checked.optional values "sync_debounce_ms" 400 Checked.atLeastZero <*>
    Checked.optional values "default_fk_cardinality" .manyToOne
      (Checked.ruled Cardinality.ofWord?) <*>
    checkNames names values

/-- The variable of that name in an environment, in any case of letters; the latest one counts. -/
def valueIn? (environment : List (String × Value)) (name : String) : Option Value :=
  (environment.reverse.find? fun v => Text.foldName v.1 == Text.foldName name).map (·.2)

/-- Given values, and after them the variables of a program's environment that stand in for what is
not given.  The variable of a setting is named after the program and the setting. -/
def withEnvironment (program : String) (environment given : List (String × Value)) :
    List (String × Value) :=
  given ++ names.filterMap fun name =>
    if (Value.find? given name).isSome then none
    else (valueIn? environment (program ++ "_" ++ name)).map fun v => (name, v)

/-- A number with leading zeros up to three digits. -/
def threeDigits (n : Nat) : String :=
  String.ofList [Nat.digitChar (n / 100 % 10), Nat.digitChar (n / 10 % 10), Nat.digitChar (n % 10)]

/-- The delay in seconds with three places. -/
def delayText (s : Settings) : String :=
  toString (s.delay / 1000) ++ "." ++ threeDigits (s.delay % 1000)

end Settings

end DiagramSync
