import DurableRefs.Log.Event

/-!
# Backends of the log

The library neither chooses nor writes the records of its log. That is done by a backend: it reads
the specification of a filter, asks the filter which records pass, and lays these out in lines.
Backends come from outside the library, so the log is described for any of them, and a statement
about it names what it takes for granted about the backend.
-/

namespace DurableRefs.Log

/-- What is written for an event. -/
inductive Line where
  /-- Readable text. -/
  | text (line : String)
  /-- The record whose members make up an object. -/
  | object (record : Record)
  deriving DecidableEq, Repr

/-- Why a specification has not been read. -/
inductive Unread where
  /-- There is no specification, or the one that is there is not that of a filter. -/
  | refused
  /-- The reading has been broken off, for a reason, and with it whatever asked for it. -/
  | brokenOff (reason : String)
  deriving DecidableEq, Repr

/-- A backend, by what the library asks of it. `Filter` is the type of its filters. -/
structure Backend (Filter : Type) where
  /-- Read the specification of a filter, which is some bytes if there is one. -/
  read : Option (List UInt8) → Except Unread Filter
  /-- The filter that is specified by a text of the library's own. -/
  ofText : String → Filter
  /-- Whether a filter lets a record pass. -/
  allows : Filter → Record → Bool
  /-- The lines of a record in a layout. -/
  lines : Format → Record → List Line

/-- What backends are described to do. -/
structure Backend.Documented {Filter : Type} (backend : Backend Filter) : Prop where
  /-- Where there is no specification, none is read. -/
  read_none : backend.read none = .error .refused
  /-- The name of a level specifies the filter of the records up to that level. -/
  allows_ofText (level : Level) (r : Record) :
    backend.allows (backend.ofText level.name) r = true ↔
      r.level.verbosity ≤ level.verbosity
  /-- A record has a line in every layout. -/
  lines_ne_nil (format : Format) (r : Record) : backend.lines format r ≠ []

end DurableRefs.Log
