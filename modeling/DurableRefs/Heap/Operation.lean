import DurableRefs.Heap.Attached

/-!
# Operations on a heap

Everything that an attached environment can be asked to do, as data. An operation is written
with locals, handles and words in some form; performing it takes the things themselves.
-/

namespace DurableRefs.Heap

/-- An operation of an environment, with locals of type `L`, handles of type `H` and words of
type `W`. -/
inductive Operation (L H W : Type) where
  /-- Make an object. -/
  | alloc (label : String)
  /-- Ask for the null local. -/
  | null
  /-- Delete a local. -/
  | deleteLocal (x : L)
  /-- Ask whether a local is null. -/
  | isNull (x : L)
  /-- Ask for the label of an object. -/
  | label (x : L)
  /-- Ask whether two locals name the same object. -/
  | same (x y : L)
  /-- Make a strong handle. -/
  | createStrong (x : L)
  /-- Make a weak handle. -/
  | createWeak (x : L)
  /-- Release a handle. -/
  | release (h : H)
  /-- Resolve a strong handle. -/
  | resolve (h : H)
  /-- Resolve a weak handle. -/
  | resolveWeak (h : H)
  /-- Answer a call from managed code. -/
  | managed (call : ManagedCall L W)
  /-- Make a strong reference and nothing else. -/
  | newStrong (x : L)
  /-- Make a weak reference and nothing else. -/
  | newWeak (x : L)
  /-- Delete a strong reference and nothing else. -/
  | deleteStrong (raw : W)
  /-- Delete a weak reference and nothing else. -/
  | deleteWeak (raw : W)
  /-- Make a local from a reference. -/
  | newLocal (raw : W)
  /-- Ask for the class of a reference. -/
  | classify (raw : W)
  /-- Try to open a frame. -/
  | pushFrame (capacity : Int32)
  /-- Close the innermost frame, whoever opened it. -/
  | popFrame (x : L)
  /-- Open a frame that will be closed by its opener. -/
  | openFrame (capacity : Int32)
  /-- Close a frame as its opener. -/
  | closeFrame
  /-- Close a frame as its opener and carry a local out. -/
  | closeFrameWith (x : L)
  /-- End the host. -/
  | fatal (reason : String)
  deriving DecidableEq, Repr

/-- What an operation answers. -/
inductive Answer where
  /-- Nothing. -/
  | done
  /-- Yes or no. -/
  | flag (b : Bool)
  /-- A local. -/
  | object (x : Local)
  /-- The local behind a weak handle, if the referent has not been collected. -/
  | referent (x : Option Local)
  /-- A handle, unless it would be one to no object. -/
  | handle (h : Option Handle)
  /-- A word. -/
  | word (raw : Int64)
  /-- The class of a word that is a reference. -/
  | strength (s : Option Strength)
  /-- The label of an object that has not been freed. -/
  | label (text : Option String)
  deriving DecidableEq, Repr

/-- The answer to a call from managed code. -/
def Answer.ofManaged : ManagedAnswer Local → Answer
  | .done => .done
  | .word raw => .word raw
  | .object x => .object x

namespace Operation

/-- Replace the locals, the handles and the words of an operation by what they stand for, from
left to right. -/
def mapM {m : Type → Type} [Monad m] {L L' H H' W W' : Type} (onLocal : L → m L')
    (onHandle : H → m H') (onWord : W → m W') : Operation L H W → m (Operation L' H' W')
  | alloc text => return alloc text
  | null => return null
  | deleteLocal x => return deleteLocal (← onLocal x)
  | isNull x => return isNull (← onLocal x)
  | label x => return label (← onLocal x)
  | same x y => return same (← onLocal x) (← onLocal y)
  | createStrong x => return createStrong (← onLocal x)
  | createWeak x => return createWeak (← onLocal x)
  | release h => return release (← onHandle h)
  | resolve h => return resolve (← onHandle h)
  | resolveWeak h => return resolveWeak (← onHandle h)
  | managed call => return managed (← call.mapM onLocal onWord)
  | newStrong x => return newStrong (← onLocal x)
  | newWeak x => return newWeak (← onLocal x)
  | deleteStrong raw => return deleteStrong (← onWord raw)
  | deleteWeak raw => return deleteWeak (← onWord raw)
  | newLocal raw => return newLocal (← onWord raw)
  | classify raw => return classify (← onWord raw)
  | pushFrame capacity => return pushFrame capacity
  | popFrame x => return popFrame (← onLocal x)
  | openFrame capacity => return openFrame capacity
  | closeFrame => return closeFrame
  | closeFrameWith x => return closeFrameWith (← onLocal x)
  | fatal reason => return fatal reason

/-- Perform an operation in an environment. -/
def perform (env : EnvId) : Operation Local Handle Int64 → Task Answer
  | alloc text => return .object (← Heap.alloc env text)
  | null => return .object (host env).null
  | deleteLocal x => do
    Heap.deleteLocal env x
    return .done
  | isNull x => return .flag ((host env).isNull x)
  | label x => return .label (← Heap.label x)
  | same x y => return .flag (x = y)
  | createStrong x => return .handle (← (host env).createStrong x)
  | createWeak x => return .handle (← (host env).createWeak x)
  | release h => do
    (host env).release h
    return .done
  | resolve h => return .object (← (host env).resolve h)
  | resolveWeak h => return .referent (← (host env).resolveWeak h)
  | managed call => return .ofManaged (← (host env).answer call)
  | newStrong x => return .word (← (host env).newStrong x)
  | newWeak x => return .word (← (host env).newWeak x)
  | deleteStrong raw => do
    (host env).deleteStrong raw
    return .done
  | deleteWeak raw => do
    (host env).deleteWeak raw
    return .done
  | newLocal raw => return .object (← (host env).newLocal raw)
  | classify raw => return .strength (← (host env).classify raw)
  | pushFrame capacity => return .flag (← (host env).pushFrame capacity)
  | popFrame x => return .object (← (host env).popFrame x)
  | openFrame capacity => do
    (host env).openFrame capacity
    return .done
  | closeFrame => do
    (host env).closeFrame
    return .done
  | closeFrameWith x => return .object (← (host env).closeFrameWith x)
  | fatal reason => (host env).fatal reason

end Operation

end DurableRefs.Heap
