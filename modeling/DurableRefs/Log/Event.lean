import DurableRefs.FunctionTable.Entry
import DurableRefs.Handle
import DurableRefs.Settings

/-!
# Log events

What the library has to report while it works, each with the data that belongs to it. A record
is the general form of an event: level, target, message and fields in their order.
-/

namespace DurableRefs.Log

/-- Something that the library reports. -/
inductive Event where
  /-- The host made a durable reference. -/
  | created (raw : Int64) (strength : Strength)
  /-- The host could make no further durable reference. -/
  | exhausted (strength : Strength)
  /-- A durable reference is about to be deleted. -/
  | releasing (raw : Int64) (strength : Strength)
  /-- A strong reference had no referent. -/
  | referentLost (raw : Int64)
  /-- The referent of a weak reference has been collected. -/
  | referentGone (raw : Int64)
  /-- The host does not know the class of a reference that is to be deleted. -/
  | unrecognised (raw : Int64)
  /-- The host could not open a local frame. -/
  | frameRefused (capacity : Int32)
  /-- A collection is over. -/
  | collected (freed live : Nat)
  /-- A simulated host ends. -/
  | aborting (env : UInt64) (reason : String)
  /-- A function is missing from the host's table. -/
  | entryMissing (entry : FunctionTable.Entry)
  /-- The log has been set up. -/
  | ready (options : Options)
  /-- The log was left to the subscriber that was already there. -/
  | subscriberKept (error : SettingsError)
  /-- The environment asked for something that is no setting. -/
  | settingsIgnored (error : SettingsError)
  /-- The library has been loaded. -/
  | loaded (version : String)
  deriving DecidableEq, Repr

/-- The value of a field. -/
inductive Value where
  /-- An integer. -/
  | number (n : Int)
  /-- A value shown by its text. -/
  | shown (text : String)
  /-- A text, quoted where lines are to be read. -/
  | quoted (text : String)
  deriving DecidableEq, Repr

/-- The general form of an event. -/
structure Record where
  /-- The level at which the event is logged. -/
  level : Level
  /-- The part of the library that reports it. -/
  target : String
  /-- What happened. -/
  message : String
  /-- The named data in order. -/
  fields : List (String × Value) := []
  deriving DecidableEq, Repr

/-- The target of the events about single references. -/
def referenceTarget : String := "globalref::bridge"

/-- The general form of each event. -/
def Event.record : Event → Record
  | created raw strength =>
    { level := .trace, target := referenceTarget, message := "created reference"
      fields := [("raw", .number raw.toInt), ("kind", .shown strength.name)] }
  | exhausted strength =>
    { level := .error, target := referenceTarget, message := "host reference table exhausted"
      fields := [("kind", .shown strength.name)] }
  | releasing raw strength =>
    { level := .trace, target := referenceTarget, message := "releasing reference"
      fields := [("raw", .number raw.toInt), ("kind", .shown strength.name)] }
  | referentLost raw =>
    { level := .error, target := referenceTarget
      message := "host returned null for a strong reference"
      fields := [("raw", .number raw.toInt)] }
  | referentGone raw =>
    { level := .trace, target := referenceTarget, message := "weak referent is gone"
      fields := [("raw", .number raw.toInt)] }
  | unrecognised raw =>
    { level := .debug, target := "globalref::boundary"
      message := "unrecognised reference type, deleting as strong"
      fields := [("raw", .number raw.toInt)] }
  | frameRefused capacity =>
    { level := .error, target := "globalref::frame"
      message := "host could not push a local frame"
      fields := [("capacity", .number capacity.toInt)] }
  | collected freed live =>
    { level := .debug, target := "globalref::sim", message := "sim collection finished"
      fields := [("freed", .number freed), ("live", .number live)] }
  | aborting env reason =>
    { level := .error, target := "globalref::sim::env", message := "sim host aborting"
      fields := [("env", .number env.toNat), ("msg", .quoted reason)] }
  | entryMissing entry =>
    { level := .error, target := "globalref::jvm", message := "JNI function table entry missing"
      fields := [("function", .quoted entry.name)] }
  | ready options =>
    { level := .info, target := "globalref", message := "logging initialised"
      fields := [("log_level", .shown options.level.name),
        ("log_format", .shown options.format.name)] }
  | subscriberKept error =>
    { level := .debug, target := "globalref::exports"
      message := "keeping existing tracing subscriber"
      fields := [("error", .shown error.message)] }
  | settingsIgnored error =>
    { level := .warn, target := "globalref::exports"
      message := "ignoring invalid logging configuration"
      fields := [("error", .shown error.message)] }
  | loaded version =>
    { level := .info, target := "globalref::exports", message := "globalref loaded"
      fields := [("version", .quoted version)] }

end DurableRefs.Log
