import DurableRefs.FunctionTable.Attached

/-!
# Programs on a function table

A program is a list of steps, each a call of the library or a body of steps in a local frame of
its own. However a body ends, its frame is closed, unless the host has ended or the process has
been aborted.
-/

namespace DurableRefs.FunctionTable

/-- The classes of managed code that call the library. -/
inductive Caller where
  /-- The class for general use. -/
  | globalRef
  /-- The class for tests. -/
  | refTest
  deriving DecidableEq, Repr

/-- The name of a class. -/
def Caller.name : Caller → String
  | globalRef => "GlobalRef"
  | refTest => "JNIRefTest"

/-- A call of the library. A handle is given by a word and its class. -/
inductive Call where
  /-- A call from managed code. -/
  | managed (caller : Caller) (call : ManagedCall Int64 Int64)
  /-- Make a strong handle. -/
  | createStrong (x : Int64)
  /-- Make a weak handle. -/
  | createWeak (x : Int64)
  /-- Release a handle. -/
  | release (raw : Int64) (strength : Option Strength)
  /-- Resolve a handle as a strong one. -/
  | resolve (raw : Int64) (strength : Option Strength)
  /-- Resolve a handle as a weak one. -/
  | resolveWeak (raw : Int64) (strength : Option Strength)
  /-- Ask for the null local. -/
  | null
  /-- Ask whether a local is null. -/
  | isNull (x : Int64)
  /-- Make a strong reference and nothing else. -/
  | newStrong (x : Int64)
  /-- Make a weak reference and nothing else. -/
  | newWeak (x : Int64)
  /-- Delete a strong reference and nothing else. -/
  | deleteStrong (raw : Int64)
  /-- Delete a weak reference and nothing else. -/
  | deleteWeak (raw : Int64)
  /-- Make a local from a reference. -/
  | newLocal (raw : Int64)
  /-- Ask for the class of a reference. -/
  | classify (raw : Int64)
  /-- Try to open a frame. -/
  | pushFrame (capacity : Int32)
  /-- Close the innermost frame. -/
  | popFrame (x : Int64)
  /-- End the host. -/
  | fatal (reason : String)
  /-- Borrow the object of a local, and take the object out of it. -/
  | roundTrip (x : Int64)
  /-- Ask for something that the library does not have. -/
  | unknown (name : String)
  deriving DecidableEq, Repr

/-- The name of a call from managed code. -/
def managedName {L W : Type} : ManagedCall L W → String
  | .newRef _ => "newref"
  | .newWeakRef _ => "newweakref"
  | .unref _ => "unref"
  | .get _ => "get"
  | .getWeak _ => "getweak"

/-- The name of a call. -/
def Call.name : Call → String
  | managed caller call => caller.name ++ "." ++ managedName call
  | createStrong _ => "create_strong_ref"
  | createWeak _ => "create_weak_ref"
  | release .. => "release"
  | resolve .. => "resolve"
  | resolveWeak .. => "resolve_weak"
  | null => "null_local"
  | isNull _ => "is_null"
  | newStrong _ => "new_global_ref"
  | newWeak _ => "new_weak_global_ref"
  | deleteStrong _ => "delete_global_ref"
  | deleteWeak _ => "delete_weak_global_ref"
  | newLocal _ => "new_local_ref"
  | classify _ => "ref_kind"
  | pushFrame _ => "push_local_frame"
  | popFrame _ => "pop_local_frame"
  | fatal _ => "fatal_error"
  | roundTrip _ => "local_round_trip"
  | unknown name => name

/-- The handle of a word and its class. -/
def takeHandle (raw : Int64) (strength : Option Strength) : Task Handle := do
  match strength with
  | none => Action.stop (.unusable "kind")
  | some strength =>
    match Handle.ofRaw? raw strength with
    | some h => return h
    | none => Action.stop .zeroHandle

/-- The value of what managed code gets back. -/
def Value.ofManaged : ManagedAnswer Int64 → Value
  | .done => .nothing
  | .word raw => .word raw
  | .object x => .word x

/-- Carry a call out. -/
def Call.run : Call → Task Value
  | managed _ call => return .ofManaged (← host.answer call)
  | createStrong x => return .handle (← host.createStrong x)
  | createWeak x => return .handle (← host.createWeak x)
  | release raw strength => do
    host.release (← takeHandle raw strength)
    return .nothing
  | resolve raw strength => do
    return .word (← host.resolve (← takeHandle raw strength))
  | resolveWeak raw strength => do
    match ← host.resolveWeak (← takeHandle raw strength) with
    | some x => return .word x
    | none => return .nothing
  | null => return .word host.null
  | isNull x => return .flag (host.isNull x)
  | newStrong x => return .word (← host.newStrong x)
  | newWeak x => return .word (← host.newWeak x)
  | deleteStrong raw => do
    host.deleteStrong raw
    return .nothing
  | deleteWeak raw => do
    host.deleteWeak raw
    return .nothing
  | newLocal raw => return .word (← host.newLocal raw)
  | classify raw => return .strength (← host.classify raw)
  | pushFrame capacity => return .flag (← host.pushFrame capacity)
  | popFrame x => return .word (← host.popFrame x)
  | fatal reason => host.fatal reason
  | roundTrip x => return .pair x x
  | unknown name => Action.stop (.unusable name)

/-- A step of a program. -/
inductive Step where
  /-- Call the library. -/
  | call (c : Call)
  /-- Run steps in a frame and return the value of the last one. -/
  | inFrame (capacity : Int32) (body : List Step)
  /-- Run steps in a frame and carry an object out: the given one, or the value of the last
  step. -/
  | inFrameCarrying (capacity : Int32) (body : List Step) (given : Option Int64)

/-- The object that a value stands for; null if it stands for none. -/
def Value.toObject : Value → Int64
  | word w => w
  | _ => 0

/-- The local that leaves a frame whose body stopped. A body that refuses to go on still names
the local it was given; one that breaks off names none. -/
def Stop.carried (given : Option Int64) : Stop → Int64
  | misapplied _ => host.null
  | _ => given.getD host.null

/-- Run a body in a frame and return its value. -/
def runInFrame (capacity : Int32) (body : Task Value) : Task Value := do
  host.openFrame capacity
  match ← Action.attempt body with
  | .ok value =>
    host.closeFrame
    return value
  | .error stop =>
    if stop.isFinal then
      Action.stop stop
    else
      host.closeFrame
      Action.stop stop

/-- Run a body in a frame and carry an object out. -/
def runInFrameCarrying (capacity : Int32) (given : Option Int64) (body : Task Value) :
    Task Value := do
  host.openFrame capacity
  match ← Action.attempt body with
  | .ok value => return .word (← host.closeFrameWith (given.getD value.toObject))
  | .error stop =>
    if stop.isFinal then
      Action.stop stop
    else
      let _ ← host.closeFrameWith (stop.carried given)
      Action.stop stop

/-- Note what a step of some name returned. -/
def returning (name : String) (step : Task Value) : Task Value := do
  let value ← step
  Action.note (.returned name value)
  return value

mutual

/-- Run a step and note what it returned. -/
def Step.run : Step → Task Value
  | .call c => returning c.name c.run
  | .inFrame capacity body =>
    returning "with_local_frame" (runInFrame capacity (Step.runAll .nothing body))
  | .inFrameCarrying capacity body given =>
    returning "with_local_frame_returning_local"
      (runInFrameCarrying capacity given (Step.runAll .nothing body))

/-- Run steps one after another. The value is that of the last one, or the given one if there is
none. -/
def Step.runAll (last : Value) : List Step → Task Value
  | [] => return last
  | step :: rest => do
    let value ← step.run
    Step.runAll value rest

end

/-- Run outermost steps one after another. A step that fails is noted, and the next one runs,
unless the stop is final. -/
def performAll : List Step → Task Unit
  | [] => return
  | step :: rest => do
    match ← Action.attempt step.run with
    | .ok _ => performAll rest
    | .error stop =>
      if stop.isFinal then
        Action.stop stop
      else
        Action.note (.failed stop)
        performAll rest

/-- The transcript of a program, and whether it ended by an abort of the process. -/
def transcript (table : FunctionTable) (steps : List Step) : List Item × Bool :=
  let run := performAll steps table
  match run.result with
  | .error .aborted => (run.notes, true)
  | _ => (run.notes, false)

/-- The events of a transcript. -/
def events (items : List Item) : List Log.Event :=
  items.filterMap fun
    | .event e => some e
    | _ => none

end DurableRefs.FunctionTable
