import DurableRefs.Action
import DurableRefs.FunctionTable.Entry
import DurableRefs.Managed
import DurableRefs.Table

/-!
# A function table as a host

A host can be given by nothing but a table of functions on words. Here the functions answer from
a script, and a transcript keeps every call. A word stands for an object or a reference, and zero
for none.
-/

namespace DurableRefs

/-- A function table. A function answers with the words scripted for it, one a call, and with
zero when there are none left. -/
structure FunctionTable where
  /-- The words that are still to be answered. -/
  script : Table FunctionTable.Entry (List Int64) := {}
  /-- The functions that the table does not have. -/
  missing : List FunctionTable.Entry := []
  deriving DecidableEq, Repr

namespace FunctionTable

/-- The argument of a call. -/
inductive Argument where
  /-- A word for an object or a reference. -/
  | word (w : Int64)
  /-- The room asked for in a frame. -/
  | capacity (n : Int32)
  /-- A text. -/
  | text (s : String)
  deriving DecidableEq, Repr

/-- Why a step stops. -/
inductive Stop where
  /-- A handle of the wrong class was given to an operation. -/
  | misapplied (m : Misapplied)
  /-- A handle was asked for with the word zero. -/
  | zeroHandle
  /-- A part of a step is not usable. -/
  | unusable (part : String)
  /-- The host was ended. -/
  | ended
  /-- The process was aborted because a function is missing. -/
  | aborted
  deriving DecidableEq, Repr

/-- Whether nothing at all runs after a stop. -/
def Stop.isFinal : Stop → Bool
  | ended => true
  | aborted => true
  | _ => false

/-- What a step returns. -/
inductive Value where
  /-- Nothing. -/
  | nothing
  /-- A word for an object, or a reference. -/
  | word (w : Int64)
  /-- Yes or no. -/
  | flag (b : Bool)
  /-- A handle, unless it would be one to no object. -/
  | handle (h : Option Handle)
  /-- The class of a word that is a reference. -/
  | strength (s : Option Strength)
  /-- Two words. -/
  | pair (a b : Int64)
  deriving DecidableEq, Repr

/-- An item of a transcript. -/
inductive Item where
  /-- A function was called; the answer is the word scripted for it, if it has one. -/
  | call (entry : Entry) (argument : Argument) (answer : Option Int64)
  /-- An event of the library. -/
  | event (e : Log.Event)
  /-- A step returned. -/
  | returned (step : String) (value : Value)
  /-- An outermost step failed. -/
  | failed (stop : Stop)
  deriving DecidableEq, Repr

/-- Actions on a function table. -/
abbrev Task := Action FunctionTable Item Stop

/-- Report an event. -/
def emit (e : Log.Event) : Task Unit := Action.note (.event e)

/-- Go on only if the table has a function. -/
def require (entry : Entry) : Task Unit := do
  if entry ∈ (← Action.state).missing then
    emit (.entryMissing entry)
    Action.stop .aborted
  else
    return

/-- Take the next word that is scripted for a function. -/
def takeScripted (entry : Entry) : Task Int64 := fun table =>
  match table.script.get? entry with
  | some (w :: rest) => ⟨.ok w, { table with script := table.script.insert entry rest }, []⟩
  | _ => ⟨.ok 0, table, []⟩

/-- Call a function that answers. -/
def ask (entry : Entry) (argument : Argument) : Task Int64 := do
  require entry
  let w ← takeScripted entry
  Action.note (.call entry argument (some w))
  return w

/-- Call a function that does not answer. -/
def tell (entry : Entry) (argument : Argument) : Task Unit := do
  require entry
  Action.note (.call entry argument none)

/-- The class of a reference by its number in the table's convention. -/
def strengthOfType : Int64 → Option Strength
  | 2 => some .strong
  | 3 => some .weak
  | _ => none

/-- A text as the host gets it. A text with a NUL in it cannot be handed over, and the empty
text is handed over instead. -/
def hostText (s : String) : String :=
  if '\x00' ∈ s.toList then "" else s

/-- Code attached to a function table. -/
def host : Host Task Int64 where
  null := 0
  isNull x := x = 0
  newStrong x := ask .newGlobalRef (.word x)
  newWeak x := ask .newWeakGlobalRef (.word x)
  deleteStrong raw := tell .deleteGlobalRef (.word raw)
  deleteWeak raw := tell .deleteWeakGlobalRef (.word raw)
  newLocal raw := ask .newLocalRef (.word raw)
  classify raw := do
    if raw = 0 then return none
    else return strengthOfType (← ask .getObjectRefType (.word raw))
  pushFrame capacity := do
    return (← ask .pushLocalFrame (.capacity capacity)).toInt32 = 0
  popFrame x := ask .popLocalFrame (.word x)
  fatal reason := do
    tell .fatalError (.text (hostText reason))
    Action.stop .ended
  reject m := Action.stop (.misapplied m)
  emit := emit

end FunctionTable

end DurableRefs
