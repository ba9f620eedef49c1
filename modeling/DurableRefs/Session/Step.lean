import DurableRefs.Session.Basic

/-!
# Steps of a session

A step does one thing, or runs other steps in a frame of their own, or runs other steps over and
over. A step that fails ends the steps around it, whose frames are closed on the way out; what
has been done stays done, and the session goes on with the next outermost step.
-/

namespace DurableRefs.Session

/-- A single thing to do. -/
inductive Act where
  /-- Attach an environment to the heap in a place. -/
  | attach (index : Int)
  /-- Detach the environment. -/
  | detach
  /-- Collect the heap of the environment. -/
  | collectOwn
  /-- Collect the heap in a place. -/
  | collect (index : Int)
  /-- Perform an operation in the environment. -/
  | operate (operation : Heap.Operation (Option String) String WordName)
  /-- Take a word for a handle of a class. -/
  | adopt (raw : WordName) (strength : Option Strength)
  /-- Give up a handle for its word. -/
  | disown (h : String)
  /-- Look at a handle. -/
  | inspect (h : String)
  /-- Ask whether two handles are equal. -/
  | equal (h g : String)
  /-- Ask for the number of locals that a frame has room for. -/
  | defaultCapacity
  /-- Open a frame and name its guard. -/
  | openGuard (capacity : Option Int32)
  /-- Let a guard close its frame. -/
  | dropGuard (guard : String)
  /-- Let a guard close its frame and carry a local out. -/
  | closeGuard (guard : String) (x : Option String)
  /-- Ask for the numbers of locals and of frames in the environment of a guard. -/
  | inspectGuard (guard : String)
  /-- Ask for something that a session does not have. -/
  | unknown (name : String)
  deriving DecidableEq, Repr

/-- A step of a session. The environment named in it is the one told about afterwards. -/
inductive Step where
  /-- Do one thing and name the answer. -/
  | act (env : String) (act : Act) (name : Option String)
  /-- Run steps in a frame of their own. The frame is closed afterwards and carries out the
  local of a name, if one is asked for. -/
  | scope (env : String) (capacity : Option Int32) (body : List Step)
      (carried : Option (Option String)) (name : Option String)
  /-- Run steps a number of times. -/
  | iterate (env : String) (count : Int) (body : List Step)

/-- The handle that an operation uses up. -/
def consumed? {L H W : Type} : Heap.Operation L H W → Option H
  | .release h => some h
  | _ => none

/-- Perform an operation, in an environment of a name, on the things that the names in it stand
for. The name of a handle is given up before the handle is used up. -/
def operate (env : String) (operation : Heap.Operation (Option String) String WordName) :
    Task Heap.Answer := do
  let a ← find envs env
  let resolved ← operation.mapM findLocal (find handles) findWord
  match consumed? operation with
  | some name => forgetHandle name
  | none => pure ()
  onHeap a.place (resolved.perform a.env)

/-- Do one thing, in an environment of a name, and give the answer a name. -/
def Act.run (env : String) (name : Option String) : Act → Task Answer
  | attach index => do
    let place ← findPlace index
    let id ← onHeap place Heap.attach
    let earlier := (← Action.state).envs.get? env
    Action.change fun s => { s with envs := s.envs.insert env ⟨place, id⟩ }
    match earlier with
    | some a => Session.detach a
    | none => pure ()
    return .ofHeap .done
  | detach => do
    let a ← find envs env
    Action.change fun s => { s with envs := s.envs.erase env }
    Session.detach a
    return .ofHeap .done
  | collectOwn => do
    let a ← find envs env
    return .number (← onHeap a.place Heap.collect)
  | collect index => do
    let place ← findPlace index
    return .number (← onHeap place Heap.collect)
  | operate operation => do
    let answer ← Session.operate env operation
    bindAnswer name answer
    return .ofHeap answer
  | adopt raw strength => do
    let raw ← findWord raw
    match strength with
    | none => Action.stop (.unusable "kind")
    | some strength =>
      let answer := .handle (Handle.ofRaw? raw strength)
      bindAnswer name answer
      return .ofHeap answer
  | disown h => do
    let handle ← find handles h
    forgetHandle h
    bindAnswer name (.word handle.raw)
    return .ofHeap (.word handle.raw)
  | inspect h => return .handle (← find handles h)
  | equal h g => return .ofHeap (.flag ((← find handles h) = (← find handles g)))
  | defaultCapacity => return .number Host.defaultCapacity.toInt
  | openGuard capacity => do
    let a ← find envs env
    let answer ← onHeap a.place
      (Heap.Operation.perform a.env (.openFrame (capacity.getD Host.defaultCapacity)))
    match name with
    | some name => Action.change fun s => { s with guards := s.guards.insert name a }
    | none => pure ()
    return .ofHeap answer
  | dropGuard guard => do
    let a ← find guards guard
    forgetGuard guard
    return .ofHeap (← onHeap a.place (Heap.Operation.perform a.env .closeFrame))
  | closeGuard guard x => do
    let carried ← findLocal x
    let a ← find guards guard
    forgetGuard guard
    let answer ← onHeap a.place (Heap.Operation.perform a.env (.closeFrameWith carried))
    bindAnswer name answer
    return .ofHeap answer
  | inspectGuard guard => do
    let a ← find guards guard
    let f ← onHeap a.place (Heap.frames a.env)
    return .frames f.count f.depth
  | unknown word => Action.stop (.unusable word)

/-- Run something in a frame of its own. If it fails, the frame is closed all the same. If it
returns a local, that is carried out. -/
def inScope (a : Attachment) (capacity : Option Int32) (body : Task (Option Heap.Local)) :
    Task Heap.Answer := do
  let _ ← onHeap a.place
    (Heap.Operation.perform a.env (.openFrame (capacity.getD Host.defaultCapacity)))
  match ← Action.attempt body with
  | .ok none => onHeap a.place (Heap.Operation.perform a.env .closeFrame)
  | .ok (some x) => onHeap a.place (Heap.Operation.perform a.env (.closeFrameWith x))
  | .error failure =>
    let _ : Except Failure _ ← Action.attempt
      (onHeap a.place (Heap.Operation.perform a.env .closeFrame))
    Action.stop failure

/-- Tell that a step is over, unless it is one of those that are not told about. -/
def reportUnless (silent : Bool) (env : String) (answer : Answer) : Task Unit :=
  if silent then return else report env (.ok answer)

mutual

/-- Run a step and tell about it and the steps in its scopes, unless `silent`. What is run over
and over is not told about. -/
def Step.run (silent : Bool) : Step → Task Unit
  | .act env single name => do
    let answer ← single.run env name
    reportUnless silent env answer
  | .scope env capacity body carried name => do
    let a ← find envs env
    let answer ← inScope a capacity (do
      Step.runAll silent body
      match carried with
      | none => return none
      | some x => return some (← findLocal x))
    bindAnswer name answer
    reportUnless silent env (.ofHeap answer)
  | .iterate env count body => do
    (Step.runAll true body).times count.toNat
    reportUnless silent env (.number count)

/-- Run steps one after another. -/
def Step.runAll (silent : Bool) : List Step → Task Unit
  | [] => return
  | step :: rest => do
    step.run silent
    Step.runAll silent rest

end

/-- The environment that is told about after a step. -/
def Step.env : Step → String
  | act env .. => env
  | scope env .. => env
  | iterate env .. => env

/-- Run an outermost step. If it fails, that is told. -/
def Step.perform (step : Step) : Task Unit := do
  match ← Action.attempt (step.run false) with
  | .ok () => return
  | .error failure => report step.env (.error failure)

/-- Run outermost steps one after another. -/
def performAll : List Step → Task Unit
  | [] => return
  | step :: rest => do
    step.perform
    performAll rest

/-- The entries among notes, each with the events since the entry before it. -/
def entriesFrom (pending : List Log.Event) : List Note → List (Entry × List Log.Event)
  | [] => []
  | .event e :: rest => entriesFrom (e :: pending) rest
  | .entry e :: rest => (e, pending.reverse) :: entriesFrom [] rest

/-- The entries among notes, each with the events since the entry before it. -/
def entries (notes : List Note) : List (Entry × List Log.Event) := entriesFrom [] notes

/-- The events among notes. -/
def events (notes : List Note) : List Log.Event :=
  notes.filterMap fun
    | .event e => some e
    | .entry _ => none

/-- The notes of a session that starts on some heaps. -/
def notesOf (heaps : List Heap) (steps : List Step) : List Note :=
  (performAll steps { heaps := heaps }).notes

end DurableRefs.Session
