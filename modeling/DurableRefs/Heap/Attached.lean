import DurableRefs.Heap.Basic
import DurableRefs.Managed

/-!
# A heap as a host

An environment attached to a heap has a host's operations. The heap checks every local and every
word it is given.
-/

namespace DurableRefs.Heap

/-- Make a local from a reference, unless its referent has been freed. -/
def newLocal (env : EnvId) (raw : Int64) : Task Local := do
  let heap ← Action.state
  match heap.references.get? raw with
  | none => Action.stop (.misuse (.deadReference raw))
  | some row =>
    if heap.isLive row.target then
      addLocal env row.target
      return some row.target
    else
      return none

/-- Open a frame. A negative capacity is refused. -/
def pushFrame (env : EnvId) (capacity : Int32) : Task Bool := do
  if capacity < 0 then
    return false
  else
    let f ← frames env
    setFrames env f.push
    return true

/-- Close the innermost frame and carry a local out, if its object has not been freed. -/
def popFrame (env : EnvId) (x : Local) : Task Local := do
  let f ← frames env
  match f.pop? with
  | none => Action.stop (.misuse .frameUnderflow)
  | some rest =>
    let heap ← Action.state
    match x with
    | none =>
      setFrames env rest
      return none
    | some id =>
      if heap.isLive id then
        setFrames env (rest.add id)
        return some id
      else
        setFrames env rest
        return none

/-- An environment attached to a heap. -/
def host (env : EnvId) : Host Task Local where
  null := none
  isNull := Option.isNone
  newStrong x := do insertReference .strong (← object x)
  newWeak x := do insertReference .weak (← object x)
  deleteStrong raw := if raw = 0 then return else removeReference raw .strong
  deleteWeak raw := if raw = 0 then return else removeReference raw .weak
  newLocal := newLocal env
  classify raw := do return ((← Action.state).references.get? raw).map Row.strength
  pushFrame := pushFrame env
  popFrame := popFrame env
  fatal reason := do
    Action.note (.aborting env reason)
    Action.stop (.fatal reason)
  reject m := Action.stop (.misapplied m)
  emit := Action.note

end DurableRefs.Heap
