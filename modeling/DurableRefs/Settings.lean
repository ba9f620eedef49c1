import DurableRefs.Log.Options
import DurableRefs.Text.Utf8

/-!
# Settings

The settings of the library come from two environment variables, one for the log level and one
for the log format. An unset variable leaves the setting as it is; one that is set must hold a
name.
-/

namespace DurableRefs

/-- Why the log could not be set up. -/
inductive SettingsError where
  /-- A text names no level. -/
  | invalidLevel (spec : String)
  /-- A text names no format. -/
  | invalidFormat (spec : String)
  /-- The process already has a subscriber that is not the library's. -/
  | subscriberPresent
  deriving DecidableEq, Repr

/-- The wording of an error. -/
def SettingsError.message : SettingsError → String
  | invalidLevel spec => "Invalid log level: " ++ spec
  | invalidFormat spec => "Invalid log format: " ++ spec
  | subscriberPresent =>
    "Logging init failed: a global default trace dispatcher has already been set"

namespace Log

/-- The level that a text names, or the text as an error. -/
def Level.read (spec : String) : Except SettingsError Level :=
  match ofName? spec with
  | some level => .ok level
  | none => .error (.invalidLevel spec)

/-- The format that a text names, or the text as an error. -/
def Format.read (spec : String) : Except SettingsError Format :=
  match ofName? spec with
  | some format => .ok format
  | none => .error (.invalidFormat spec)

/-- Options with the settings that are given as texts put in. Blanks around a name do not
count, and the level is read before the format. -/
def Options.override (options : Options) (level format : Option String) :
    Except SettingsError Options := do
  let newLevel ← match level with
    | none => pure options.level
    | some spec => Level.read (Text.trim spec)
  let newFormat ← match format with
    | none => pure options.format
    | some spec => Format.read (Text.trim spec)
  return { level := newLevel, format := newFormat }

@[simp] theorem Options.override_none (options : Options) :
    options.override none none = .ok options := rfl

end Log

/-- The bytes in the two environment variables, where they are set. -/
structure Variables where
  /-- The variable for the log level. -/
  level : Option (List UInt8) := none
  /-- The variable for the log format. -/
  format : Option (List UInt8) := none
  deriving DecidableEq, Repr

/-- The options that the environment asks for. Bytes that are no text are read with replacement
characters, so they name nothing. -/
def Variables.options (vars : Variables) : Except SettingsError Log.Options :=
  ({} : Log.Options).override (vars.level.map Text.decode) (vars.format.map Text.decode)

@[simp] theorem Variables.options_unset : ({} : Variables).options = .ok {} := rfl

end DurableRefs
