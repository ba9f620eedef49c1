import DurableRefs.Heap.Operation
import Mathlib.Tactic.Simps.Basic

/-!
# What the operations on a heap leave behind

Each operation is run symbolically, once for every way it can end. The heap it leaves is either
the heap it found or one of a few simple changes of it. Later files cite these equations and never
run an operation again.
-/

namespace DurableRefs.Heap

/-! ### Changes of a heap -/

/-- The heap in which an environment has other frames. -/
@[simps]
def withFrames (heap : Heap) (env : EnvId) (f : Frames) : Heap :=
  { heap with attached := heap.attached.insert env f }

/-- The heap with one more environment, which takes the next number and has a base frame. -/
@[simps]
def withEnvironment (heap : Heap) : Heap :=
  { heap with
    attached := heap.attached.insert heap.nextEnv Frames.base
    nextEnv := heap.nextEnv + 1 }

/-- The heap without an environment. -/
@[simps]
def withoutEnvironment (heap : Heap) (env : EnvId) : Heap :=
  { heap with attached := heap.attached.erase env }

/-- The heap with one more object, which takes the next number. -/
@[simps]
def withObject (heap : Heap) (label : String) : Heap :=
  { heap with
    objects := heap.objects.insert heap.nextObject label
    nextObject := heap.nextObject + 1 }

/-- The heap with one more reference, which takes the next word. -/
@[simps]
def withReference (heap : Heap) (row : Row) : Heap :=
  { heap with
    references := heap.references.insert heap.nextRaw row
    slots := heap.slots + 1
    nextRaw := heap.nextRaw + 1 }

/-- The heap without the reference of a word. -/
@[simps]
def withoutReference (heap : Heap) (raw : Int64) : Heap :=
  { heap with references := heap.references.erase raw, slots := heap.slots - 1 }

variable {heap : Heap} {env : EnvId} {f g : Frames} {id : ObjectId} {raw : Int64} {row : Row}
  {h : Handle} {strength : Strength}

/-- Whether an object is live depends on the table of objects only. -/
@[simp] theorem isLive_withReference (heap : Heap) (row : Row) :
    (heap.withReference row).isLive = heap.isLive := rfl

/-- A live object is one that has a label. -/
theorem isLive_iff : heap.isLive id ↔ ∃ label, heap.objects.get? id = some label := by
  simp [isLive, Table.contains, Option.isSome_iff_exists]

/-! ### Locals and frames -/

/-- An attached environment shows its frames. -/
theorem frames_of_attached (hf : heap.attached.get? env = some f) :
    frames env heap = ⟨.ok f, heap, []⟩ := by
  simp [frames, hf]

/-- An environment that is not attached has no frames to show. -/
theorem frames_of_notAttached (hf : heap.attached.get? env = none) :
    frames env heap = ⟨.error (.misuse (.notAttached env)), heap, []⟩ := by
  simp [frames, hf]

/-- A new local goes to the innermost frame. -/
theorem addLocal_of_attached (hf : heap.attached.get? env = some f) (id : ObjectId) :
    addLocal env id heap = ⟨.ok (), heap.withFrames env (f.add id), []⟩ := by
  simp [addLocal, frames_of_attached hf, setFrames, withFrames]

/-- Without an environment there is no frame for a local. -/
theorem addLocal_of_notAttached (hf : heap.attached.get? env = none) (id : ObjectId) :
    addLocal env id heap = ⟨.error (.misuse (.notAttached env)), heap, []⟩ := by
  simp [addLocal, frames_of_notAttached hf]

/-- An allocation answers the next number and keeps a local for it. -/
theorem alloc_of_attached (hf : heap.attached.get? env = some f) (label : String) :
    alloc env label heap =
      ⟨.ok (some heap.nextObject),
        (heap.withObject label).withFrames env (f.add heap.nextObject), []⟩ := by
  have hadd := @addLocal_of_attached (heap.withObject label) env f hf heap.nextObject
  unfold withObject at hadd
  simp [alloc, hadd, withObject]

/-- An allocation without an environment makes the object before it fails. -/
theorem alloc_of_notAttached (hf : heap.attached.get? env = none) (label : String) :
    alloc env label heap =
      ⟨.error (.misuse (.notAttached env)), heap.withObject label, []⟩ := by
  have hadd := @addLocal_of_notAttached (heap.withObject label) env hf heap.nextObject
  unfold withObject at hadd
  simp [alloc, hadd, withObject]

/-- The newest local of an object is deleted if there is one. -/
theorem deleteLocal_of_remove? (hf : heap.attached.get? env = some f)
    (hg : f.remove? id = some g) :
    deleteLocal env (some id) heap = ⟨.ok (), heap.withFrames env g, []⟩ := by
  simp [deleteLocal, frames_of_attached hf, hg, setFrames, withFrames]

/-- Deleting a local that the environment does not have changes nothing. -/
theorem deleteLocal_of_unknown (hf : heap.attached.get? env = some f)
    (hg : f.remove? id = none) :
    deleteLocal env (some id) heap = ⟨.error (.misuse (.unknownLocal id)), heap, []⟩ := by
  simp [deleteLocal, frames_of_attached hf, hg]

/-- Deleting a local without an environment changes nothing. -/
theorem deleteLocal_of_notAttached (hf : heap.attached.get? env = none) (id : ObjectId) :
    deleteLocal env (some id) heap = ⟨.error (.misuse (.notAttached env)), heap, []⟩ := by
  simp [deleteLocal, frames_of_notAttached hf]

/-- A frame of negative capacity is refused. -/
theorem pushFrame_of_neg {capacity : Int32} (hc : capacity < 0) :
    pushFrame env capacity heap = ⟨.ok false, heap, []⟩ := by
  simp [pushFrame, hc]

/-- Any other frame is opened. -/
theorem pushFrame_of_attached {capacity : Int32} (hc : ¬ capacity < 0)
    (hf : heap.attached.get? env = some f) :
    pushFrame env capacity heap = ⟨.ok true, heap.withFrames env f.push, []⟩ := by
  simp [pushFrame, hc, frames_of_attached hf, setFrames, withFrames]

/-- Without an environment no frame is opened. -/
theorem pushFrame_of_notAttached {capacity : Int32} (hc : ¬ capacity < 0)
    (hf : heap.attached.get? env = none) :
    pushFrame env capacity heap = ⟨.error (.misuse (.notAttached env)), heap, []⟩ := by
  simp [pushFrame, hc, frames_of_notAttached hf]

/-- The base frame is not closed. -/
theorem popFrame_of_base (hf : heap.attached.get? env = some f) (hg : f.pop? = none)
    (x : Local) :
    popFrame env x heap = ⟨.error (.misuse .frameUnderflow), heap, []⟩ := by
  simp [popFrame, frames_of_attached hf, hg]

/-- Without an environment no frame is closed. -/
theorem popFrame_of_notAttached (hf : heap.attached.get? env = none) (x : Local) :
    popFrame env x heap = ⟨.error (.misuse (.notAttached env)), heap, []⟩ := by
  simp [popFrame, frames_of_notAttached hf]

/-- Closing a frame carries the null local out as nothing. -/
theorem popFrame_null (hf : heap.attached.get? env = some f) (hg : f.pop? = some g) :
    popFrame env none heap = ⟨.ok none, heap.withFrames env g, []⟩ := by
  simp [popFrame, frames_of_attached hf, hg, setFrames, withFrames]

/-- A live object that is carried out gets a local in the frame around. -/
theorem popFrame_of_live (hf : heap.attached.get? env = some f) (hg : f.pop? = some g)
    (hlive : heap.isLive id = true) :
    popFrame env (some id) heap = ⟨.ok (some id), heap.withFrames env (g.add id), []⟩ := by
  simp [popFrame, frames_of_attached hf, hg, hlive, setFrames, withFrames]

/-- A freed object cannot be carried out; the frame is closed all the same. -/
theorem popFrame_of_freed (hf : heap.attached.get? env = some f) (hg : f.pop? = some g)
    (hlive : heap.isLive id = false) :
    popFrame env (some id) heap = ⟨.ok none, heap.withFrames env g, []⟩ := by
  simp [popFrame, frames_of_attached hf, hg, hlive, setFrames, withFrames]

end DurableRefs.Heap
