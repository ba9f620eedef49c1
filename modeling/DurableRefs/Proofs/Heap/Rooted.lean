import DurableRefs.Proofs.Heap.Changes
import Mathlib.Data.List.Induction

/-!
# Rooted objects are live

A local of an attached environment or a strong reference roots its object. No run, with whatever
failures, frees an object that is rooted: operations add roots to live objects only, and a
collection frees what has no root.
-/

namespace DurableRefs.Heap

variable {heap later : Heap} {env : EnvId} {f g : Frames} {id : ObjectId} {raw : Int64}
  {row : Row} {step : Step} {given : Option (Handle × ObjectId)}

/-- Some frame of an attached environment holds a local for an object. -/
def HasLocal (heap : Heap) (id : ObjectId) : Prop :=
  ∃ env f, heap.attached.get? env = some f ∧ id ∈ f.locals

/-- Some strong reference refers to an object. -/
def HasStrong (heap : Heap) (id : ObjectId) : Prop :=
  ∃ raw row, heap.references.get? raw = some row ∧ row.strength = .strong ∧ row.target = id

/-- An object is rooted by a local or by a strong reference. -/
def IsRooted (heap : Heap) (id : ObjectId) : Prop := heap.HasLocal id ∨ heap.HasStrong id

/-- Rooted objects have not been freed. -/
def RootsLive (heap : Heap) : Prop := ∀ id, heap.IsRooted id → heap.isLive id = true

/-! ### Collections -/

/-- The roots that a collection marks are the rooted objects. -/
theorem mem_roots_iff : id ∈ heap.roots ↔ heap.IsRooted id := by
  simp only [roots, List.mem_append, List.mem_flatMap, List.mem_filterMap, Prod.exists, IsRooted,
    HasLocal, HasStrong, Table.get?_eq_some_iff]
  refine or_congr Iff.rfl (exists_congr fun raw => exists_congr fun row => and_congr_right ?_)
  intro _
  by_cases hs : row.strength = .strong <;> simp [Row.root?, hs]

instance (heap : Heap) (id : ObjectId) : Decidable (heap.IsRooted id) :=
  decidable_of_iff _ mem_roots_iff

/-- A collection keeps the label of a rooted object and forgets the others. -/
theorem get?_objects_swept (heap : Heap) (id : ObjectId) :
    heap.swept.objects.get? id =
      (heap.objects.get? id).filter fun _ => heap.roots.contains id := by
  simp [swept]

/-- Live after a collection is what was live and rooted before. -/
theorem isLive_swept_iff :
    heap.swept.isLive id = true ↔ heap.isLive id = true ∧ heap.IsRooted id := by
  rw [isLive_iff, isLive_iff, ← mem_roots_iff, get?_objects_swept]
  simp only [Option.filter_eq_some_iff, List.contains_iff_mem]
  constructor
  · rintro ⟨label, h, hr⟩
    exact ⟨⟨label, h⟩, hr⟩
  · rintro ⟨⟨label, h⟩, hr⟩
    exact ⟨label, h, hr⟩

/-! ### Where roots come from -/

/-- New frames root what they hold, and the other environments root what they did. -/
theorem IsRooted.of_withFrames (h : (heap.withFrames env g).IsRooted id) :
    id ∈ g.locals ∨ heap.IsRooted id := by
  rcases h with ⟨other, frames, hframes, hid⟩ | hstrong
  · rw [withFrames_attached, Table.get?_insert] at hframes
    split at hframes
    · cases hframes
      exact .inl hid
    · exact .inr (.inl ⟨other, frames, hframes, hid⟩)
  · exact .inr (.inr hstrong)

/-- A new environment roots nothing. -/
theorem IsRooted.of_withEnvironment (h : heap.withEnvironment.IsRooted id) :
    heap.IsRooted id := by
  rcases h with ⟨env, frames, hframes, hid⟩ | hstrong
  · rw [withEnvironment_attached, Table.get?_insert] at hframes
    split at hframes
    · cases hframes
      simp at hid
    · exact .inl ⟨env, frames, hframes, hid⟩
  · exact .inr hstrong

/-- Without an environment nothing new is rooted. -/
theorem IsRooted.of_withoutEnvironment (h : (heap.withoutEnvironment env).IsRooted id) :
    heap.IsRooted id := by
  rcases h with ⟨other, frames, hframes, hid⟩ | hstrong
  · by_cases he : other = env
    · subst he
      simp at hframes
    · rw [withoutEnvironment_attached, Table.get?_erase_of_ne he] at hframes
      exact .inl ⟨other, frames, hframes, hid⟩
  · exact .inr hstrong

/-- A new reference roots its target at most. -/
theorem IsRooted.of_withReference (h : (heap.withReference row).IsRooted id) :
    id = row.target ∨ heap.IsRooted id := by
  rcases h with hlocal | ⟨raw, other, hrow, hs, ht⟩
  · exact .inr (.inl hlocal)
  · rw [withReference_references, Table.get?_insert] at hrow
    split at hrow
    · cases hrow
      exact .inl ht.symm
    · exact .inr (.inr ⟨raw, other, hrow, hs, ht⟩)

/-- Without a reference nothing new is rooted. -/
theorem IsRooted.of_withoutReference (h : (heap.withoutReference raw).IsRooted id) :
    heap.IsRooted id := by
  rcases h with hlocal | ⟨r, row, hrow, hs, ht⟩
  · exact .inl hlocal
  · by_cases hr : r = raw
    · subst hr
      simp at hrow
    · rw [withoutReference_references, Table.get?_erase_of_ne hr] at hrow
      exact .inr ⟨r, row, hrow, hs, ht⟩

/-- An object that is live stays live when another is made. -/
theorem isLive_withObject (h : heap.isLive id = true) (label : String) :
    (heap.withObject label).isLive id = true := by
  obtain ⟨old, hold⟩ := isLive_iff.mp h
  rw [isLive_iff, withObject_objects, Table.get?_insert]
  split
  · exact ⟨label, rfl⟩
  · exact ⟨old, hold⟩

/-- A new object is live. -/
theorem isLive_withObject_self (heap : Heap) (label : String) :
    (heap.withObject label).isLive heap.nextObject = true := by
  rw [isLive_iff, withObject_objects, Table.get?_insert_self]
  exact ⟨label, rfl⟩

/-- An operation adds no local for an object that has been freed. -/
theorem Reframing.mem_locals (hg : Reframing heap f g) (hid : id ∈ g.locals) :
    id ∈ f.locals ∨ heap.isLive id = true := by
  have hpop : ∀ {f g : Frames}, f.pop? = some g → id ∈ g.locals → id ∈ f.locals := by
    intro f g hg hid
    rw [Frames.locals, Frames.toList_of_pop?_eq_some hg, List.flatten_cons]
    exact List.mem_append_right _ hid
  cases hg with
  | push => exact .inl hid
  | add hlive =>
    rw [Frames.locals_add] at hid
    rcases List.mem_cons.mp hid with rfl | hid
    · exact .inr hlive
    · exact .inl hid
  | remove hg =>
    rw [Frames.locals_of_remove?_eq_some hg] at hid
    exact .inl (List.mem_of_mem_erase hid)
  | pop hg => exact .inl (hpop hg hid)
  | carry hg hlive =>
    rw [Frames.locals_add] at hid
    rcases List.mem_cons.mp hid with rfl | hid
    · exact .inr hlive
    · exact .inl (hpop hg hid)

/-! ### The invariant -/

/-- No step frees a rooted object or roots a freed one. -/
theorem RootsLive.change (h : heap.RootsLive) (hchange : Change heap step given later) :
    later.RootsLive := by
  intro id hid
  cases hchange with
  | idle _ => exact h id hid
  | attach => exact h id hid.of_withEnvironment
  | detach => exact h id hid.of_withoutEnvironment
  | collect => exact isLive_swept_iff.mpr ⟨h id hid, hid⟩
  | alloc hf =>
    rcases hid.of_withFrames with hid | hid
    · rw [Frames.locals_add] at hid
      rcases List.mem_cons.mp hid with rfl | hid
      · exact isLive_withObject_self heap _
      · exact isLive_withObject (h id (.inl ⟨_, _, hf, hid⟩)) _
    · exact isLive_withObject (h id hid) _
  | allocDetached _ => exact isLive_withObject (h id hid) _
  | reframe _ hf hg =>
    rcases hid.of_withFrames with hid | hid
    · rcases hg.mem_locals hid with hid | hlive
      · exact h id (.inl ⟨_, _, hf, hid⟩)
      · exact hlive
    · exact h id hid
  | insert _ hlive _ =>
    rcases hid.of_withReference with rfl | hid
    · exact hlive
    · exact h id hid
  | erase _ _ => exact h id hid.of_withoutReference

/-- Every run keeps rooted objects live. -/
theorem rootsLive_after (capacity : Option Nat) (steps : List Step) :
    (after (fresh capacity) steps).RootsLive := by
  induction steps using List.reverseRecOn with
  | nil =>
    rintro id (⟨env, f, hf, -⟩ | ⟨raw, row, hrow, -⟩)
    · rw [after_nil, attached_fresh] at hf
      cases hf
    · rw [after_nil, references_fresh] at hrow
      cases hrow
  | append_singleton steps step ih =>
    rw [after_concat]
    exact ih.change (step.change _)

/-- After every run, whatever failed in it, each attached environment has a frame, every local in
its frames names an object that has not been freed, and so does every strong reference. -/
theorem locals_and_strong_targets_live (capacity : Option Nat) (steps : List Step) :
    (∀ env f, (after (fresh capacity) steps).attached.get? env = some f →
      0 < f.toList.length ∧ ∀ frame ∈ f.toList, ∀ id ∈ frame,
        (after (fresh capacity) steps).objects.contains id = true) ∧
    ∀ raw row, (after (fresh capacity) steps).references.get? raw = some row →
      row.strength = .strong →
        (after (fresh capacity) steps).objects.contains row.target = true := by
  have hlive := rootsLive_after capacity steps
  refine ⟨fun env f hf => ⟨f.depth_pos, fun frame hframe id hid => ?_⟩, ?_⟩
  · exact hlive id (.inl ⟨env, f, hf, List.mem_flatten.mpr ⟨frame, hframe, hid⟩⟩)
  · intro raw row hrow hs
    exact hlive row.target (.inr ⟨raw, row, hrow, hs, rfl⟩)

end DurableRefs.Heap
