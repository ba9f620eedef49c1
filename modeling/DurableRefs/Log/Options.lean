import DurableRefs.Text.Word

/-!
# Log options

The five levels from the quietest to the most verbose, the layouts of log lines, and the names by
which a configuration asks for them. The options are a level and a format together. The library
is a guest in another process, so it starts out quiet.
-/

namespace DurableRefs.Log

/-! ### Levels -/

/-- How much is logged; each level includes those before it. -/
inductive Level where
  /-- Failures of the host. -/
  | error
  /-- Settings that were ignored. -/
  | warn
  /-- The life of the library. -/
  | info
  /-- Fallbacks of the word convention. -/
  | debug
  /-- Every reference operation. -/
  | trace
  deriving DecidableEq, Repr

namespace Level

/-- The place of a level in the order of verbosity. -/
def verbosity : Level → Nat
  | error => 0
  | warn => 1
  | info => 2
  | debug => 3
  | trace => 4

/-- Levels are compared by verbosity. -/
instance : Ord Level where
  compare a b := compare a.verbosity b.verbosity

/-- The name under which a level is shown. -/
def name : Level → String
  | error => "error"
  | warn => "warn"
  | info => "info"
  | debug => "debug"
  | trace => "trace"

/-- The word that heads a log line of a level. -/
def heading : Level → String
  | error => "ERROR"
  | warn => "WARN"
  | info => "INFO"
  | debug => "DEBUG"
  | trace => "TRACE"

/-- All small-letter spellings of level names. -/
def spellings : List (String × Level) :=
  [("error", error), ("err", error), ("warn", warn), ("warning", warn), ("info", info),
    ("debug", debug), ("trace", trace), ("verbose", trace)]

/-- The level that a spelling in any letter case names. -/
def ofName? (spec : String) : Option Level :=
  spellings.lookup (Text.foldCase spec)

/-- A level is found again under the name it is shown by. -/
theorem ofName?_name (level : Level) : ofName? level.name = some level := by
  cases level <;> decide

end Level

/-! ### Formats -/

/-- The layout of log lines. -/
inductive Format where
  /-- The library chooses. -/
  | auto
  /-- One readable line for each event. -/
  | text
  /-- One JSON object for each event. -/
  | json
  deriving DecidableEq, Repr

namespace Format

/-- The name under which a format is shown. -/
def name : Format → String
  | auto => "auto"
  | text => "text"
  | json => "json"

/-- All small-letter spellings of format names. -/
def spellings : List (String × Format) :=
  [("auto", auto), ("text", text), ("plain", text), ("json", json)]

/-- The format that a spelling in any letter case names. -/
def ofName? (spec : String) : Option Format :=
  spellings.lookup (Text.foldCase spec)

/-- A format is found again under the name it is shown by. -/
theorem ofName?_name (format : Format) : ofName? format.name = some format := by
  cases format <;> decide

/-- Where the choice is left to the library, it takes text. -/
def resolved : Format → Format
  | auto => text
  | format => format

end Format

/-! ### Options -/

/-- What a process asks of the log. The default is warnings in a format left to the library. -/
structure Options where
  /-- The most verbose level that is logged. -/
  level : Level := .warn
  /-- The layout of the lines. -/
  format : Format := .auto
  deriving DecidableEq, Repr

/-- The options with a format that is not left open. -/
def Options.resolved (options : Options) : Options :=
  { options with format := options.format.resolved }

end DurableRefs.Log
