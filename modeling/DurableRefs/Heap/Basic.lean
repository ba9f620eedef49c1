import DurableRefs.Action
import DurableRefs.Heap.Frames
import DurableRefs.Host
import DurableRefs.Table

/-!
# Simulated heaps

A heap owns labelled objects, a table of durable references to them, and the local frames of
every environment attached to it. A collection frees the objects that neither a local nor a
strong reference names. The heap answers every misuse with a description of it.
-/

namespace DurableRefs

/-- The number by which a heap knows an environment. -/
abbrev Heap.EnvId := UInt64

/-- A local names an object or is null. -/
abbrev Heap.Local := Option Heap.ObjectId

/-- A row of the table of durable references. -/
structure Heap.Row where
  /-- The class of the reference. -/
  strength : Strength
  /-- The object that it refers to. -/
  target : Heap.ObjectId
  deriving DecidableEq, Repr

/-- A heap. Objects, references and environments are numbered from one, and the numbers start
over when they run out; what has a number already is then replaced. -/
structure Heap where
  /-- The objects that have not been freed, with their labels. -/
  objects : Table Heap.ObjectId String := {}
  /-- The durable references. -/
  references : Table Int64 Heap.Row := {}
  /-- The frames of each attached environment. -/
  attached : Table Heap.EnvId Heap.Frames := {}
  /-- The greatest number of durable references, if there is one. -/
  capacity : Option Nat := none
  /-- The number of places taken in the table of references. -/
  slots : Nat := 0
  /-- The number of the next object. -/
  nextObject : Heap.ObjectId := 1
  /-- The word of the next reference. -/
  nextRaw : Int64 := 1
  /-- The number of the next environment. -/
  nextEnv : Heap.EnvId := 1
  /-- How often the heap has been collected. -/
  collections : UInt64 := 0
  deriving DecidableEq, Repr

namespace Heap

/-- What a heap catches callers doing. -/
inductive Misuse where
  /-- A local was used after its object had been freed. -/
  | danglingLocal (id : ObjectId)
  /-- The null local was used for an object. -/
  | nullObject
  /-- A local was to be deleted that the environment does not have. -/
  | unknownLocal (id : ObjectId)
  /-- A word was used that is no reference, or is one no longer. -/
  | deadReference (raw : Int64)
  /-- A reference was deleted as one of the other class. -/
  | wrongClass (raw : Int64) (actual assumed : Strength)
  /-- The base frame was to be closed. -/
  | frameUnderflow
  /-- An environment was used that is not attached. -/
  | notAttached (env : EnvId)
  deriving DecidableEq, Repr

/-- The wording of a misuse. -/
def Misuse.message : Misuse → String
  | danglingLocal id => "sim: dangling local " ++ toString id.toNat
  | nullObject => "sim: null local passed where an object is required"
  | unknownLocal id => "sim: delete of unknown local " ++ toString id.toNat
  | deadReference raw => "sim: use of released or foreign reference " ++ Text.hexWord raw
  | wrongClass raw actual assumed =>
    "sim: " ++ actual.name ++ " reference " ++ Text.hexWord raw ++ " deleted as " ++ assumed.name
  | frameUnderflow => "sim: local frame underflow"
  | notAttached env => "sim: environment " ++ toString env.toNat ++ " is not attached"

/-- Why an operation on a heap stops. -/
inductive Fault where
  /-- The caller misused the heap. -/
  | misuse (m : Misuse)
  /-- A handle of the wrong class was given to an operation. -/
  | misapplied (m : Misapplied)
  /-- The heap was ended. -/
  | fatal (reason : String)
  deriving DecidableEq, Repr

/-- The wording of a fault. -/
def Fault.message : Fault → String
  | misuse m => m.message
  | misapplied m => m.message
  | fatal reason => "host runtime fatal error: " ++ reason

/-- Actions on a heap. -/
abbrev Task := Action Heap Log.Event Fault

/-- An empty heap with a limit on the number of its references. -/
def withCapacity (max : Nat) : Heap := { capacity := some max }

/-! ### Views -/

/-- Whether an object has not been freed. -/
def isLive (heap : Heap) (id : ObjectId) : Bool := heap.objects.contains id

/-- Whether the table of references has no place left. -/
def isFull (heap : Heap) : Bool :=
  match heap.capacity with
  | none => false
  | some max => max ≤ heap.slots

/-- The number of references of a class. -/
def countReferences (heap : Heap) (strength : Strength) : Nat :=
  heap.references.count fun _ row => row.strength = strength

/-- The target of a strong row. -/
def Row.root? (row : Row) : Option ObjectId :=
  if row.strength = .strong then some row.target else none

/-- The objects that locals name or strong references refer to. -/
def roots (heap : Heap) : List ObjectId :=
  (heap.attached.rows.flatMap fun env => env.2.locals) ++
    heap.references.rows.filterMap fun row => row.2.root?

/-! ### Environments -/

/-- Attach an environment, with one base frame. -/
def attach : Task EnvId := do
  let heap ← Action.state
  Action.put { heap with
    attached := heap.attached.insert heap.nextEnv Frames.base
    nextEnv := heap.nextEnv + 1 }
  return heap.nextEnv

/-- Detach an environment; its locals are gone. -/
def detach (env : EnvId) : Task Unit :=
  Action.change fun heap => { heap with attached := heap.attached.erase env }

/-- The frames of an environment. -/
def frames (env : EnvId) : Task Frames := do
  let heap ← Action.state
  match heap.attached.get? env with
  | some f => return f
  | none => Action.stop (.misuse (.notAttached env))

/-- Give an environment other frames. -/
def setFrames (env : EnvId) (f : Frames) : Task Unit :=
  Action.change fun heap => { heap with attached := heap.attached.insert env f }

/-- Put a local into the innermost frame of an environment. -/
def addLocal (env : EnvId) (id : ObjectId) : Task Unit := do
  let f ← frames env
  setFrames env (f.add id)

/-! ### Objects -/

/-- Make an object, with a local for it. -/
def alloc (env : EnvId) (label : String) : Task Local := do
  let heap ← Action.state
  Action.put { heap with
    objects := heap.objects.insert heap.nextObject label
    nextObject := heap.nextObject + 1 }
  addLocal env heap.nextObject
  return some heap.nextObject

/-- Delete the newest local of an object. Deleting the null local does nothing. -/
def deleteLocal (env : EnvId) (x : Local) : Task Unit :=
  match x with
  | none => return
  | some id => do
    let f ← frames env
    match f.remove? id with
    | some rest => setFrames env rest
    | none => Action.stop (.misuse (.unknownLocal id))

/-- The label of an object, if it has not been freed. -/
def label (x : Local) : Task (Option String) := do
  let heap ← Action.state
  return x.bind heap.objects.get?

/-- The object that a local names, which must not have been freed. -/
def object (x : Local) : Task ObjectId := do
  let heap ← Action.state
  match x with
  | none => Action.stop (.misuse .nullObject)
  | some id =>
    if heap.isLive id then return id
    else Action.stop (.misuse (.danglingLocal id))

/-! ### References -/

/-- Make a reference to an object. A full table gives zero. -/
def insertReference (strength : Strength) (target : ObjectId) : Task Int64 := do
  let heap ← Action.state
  if heap.isFull then
    return 0
  else
    Action.put { heap with
      references := heap.references.insert heap.nextRaw ⟨strength, target⟩
      slots := heap.slots + 1
      nextRaw := heap.nextRaw + 1 }
    return heap.nextRaw

/-- Delete a reference that the caller takes to be of some class. If it is of the other class,
it is deleted all the same, and the misuse reported. -/
def removeReference (raw : Int64) (strength : Strength) : Task Unit := do
  let heap ← Action.state
  match heap.references.get? raw with
  | none => Action.stop (.misuse (.deadReference raw))
  | some row =>
    Action.put { heap with
      references := heap.references.erase raw
      slots := heap.slots - 1 }
    if row.strength = strength then return
    else Action.stop (.misuse (.wrongClass raw row.strength strength))

/-! ### Collection -/

/-- The heap without the objects that have no root. -/
def swept (heap : Heap) : Heap :=
  let roots := heap.roots
  { heap with
    objects := heap.objects.filter fun id _ => roots.contains id
    collections := heap.collections + 1 }

/-- Free every object without a root, and count the freed objects. -/
def collect : Task Nat := do
  let heap ← Action.state
  let after := heap.swept
  Action.put after
  let freed := heap.objects.size - after.objects.size
  Action.note (.collected freed after.objects.size)
  return freed

end Heap

end DurableRefs
