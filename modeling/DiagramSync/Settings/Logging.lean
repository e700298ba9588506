import DiagramSync.Settings.Basic

/-!
# Logging

Where messages are logged to under some settings.

* `LogFormat` — the formats that messages are logged in
* `LogHandler` — a place that messages are logged to
* `Settings.logHandlers` — the places under some settings
-/

namespace DiagramSync

/-- The formats that messages are logged in. -/
inductive LogFormat where
  | standard
  | detailed
  | json
  deriving Repr, DecidableEq

/-- The written name of a format. -/
def LogFormat.word : LogFormat → String
  | standard => "standard"
  | detailed => "detailed"
  | json => "json"

/-- A place that messages are logged to. -/
inductive LogHandler where
  /-- The error output of the program. -/
  | console (format : LogFormat)
  /-- A file that is set aside when it has grown to a size, so many times. -/
  | file (path : String) (format : LogFormat) (maxBytes backups : Nat)
  deriving Repr, DecidableEq

/-- The written name of a place. -/
def LogHandler.word : LogHandler → String
  | console _ => "console"
  | file .. => "file"

/-- The places that messages are logged to.  The console always is one, and a file if one is set,
but not under test. -/
def Settings.logHandlers (s : Settings) : List LogHandler :=
  let console : LogHandler := .console (if s.mode = .production then .json else .standard)
  match s.logFile with
  | some path => if s.mode = .testing then [console] else [console, .file path .detailed 10485760 5]
  | none => [console]

end DiagramSync
