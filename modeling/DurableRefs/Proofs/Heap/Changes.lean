import DurableRefs.Proofs.Heap.References
import DurableRefs.Proofs.Heap.Steps

/-!
# The changes that steps make

A step makes at most one of nine changes. `Change` lists them with the conditions under which
they happen and the handle that the caller is given, and `Step.change` says that there are no
others. Every invariant of runs is proved from this list.
-/

namespace DurableRefs.Heap

variable {heap : Heap} {env : EnvId} {f : Frames} {id : ObjectId} {raw : Int64} {row : Row}
  {h : Handle} {strength : Strength} {x : Local} {operation : Operation Local Handle Int64}

/-- How an operation changes the frames of its environment. A local is added for live objects
only. -/
inductive Reframing (heap : Heap) (f : Frames) : Frames → Prop
  /-- A frame is opened. -/
  | push : Reframing heap f f.push
  /-- A local is added. -/
  | add {id : ObjectId} (hlive : heap.isLive id = true) : Reframing heap f (f.add id)
  /-- A local is deleted. -/
  | remove {id : ObjectId} {g : Frames} (hg : f.remove? id = some g) : Reframing heap f g
  /-- A frame is closed. -/
  | pop {g : Frames} (hg : f.pop? = some g) : Reframing heap f g
  /-- A frame is closed and a local is carried out of it. -/
  | carry {id : ObjectId} {g : Frames} (hg : f.pop? = some g) (hlive : heap.isLive id = true) :
      Reframing heap f (g.add id)

/-- How a step changes a heap, with the handle that it gives out and the object behind it. -/
inductive Change (heap : Heap) : Step → Option (Handle × ObjectId) → Heap → Prop
  /-- An operation leaves everything as it is. -/
  | idle {env : EnvId} {operation : Operation Local Handle Int64}
      (hlabel : operation.label? = none) : Change heap (.operate env operation) none heap
  /-- An environment is attached. -/
  | attach : Change heap .attach none heap.withEnvironment
  /-- An environment is detached. -/
  | detach {env : EnvId} : Change heap (.detach env) none (heap.withoutEnvironment env)
  /-- The heap is collected. -/
  | collect : Change heap .collect none heap.swept
  /-- An object is made, with a local for it. -/
  | alloc {env : EnvId} {label : String} {f : Frames} (hf : heap.attached.get? env = some f) :
      Change heap (.operate env (.alloc label)) none
        ((heap.withObject label).withFrames env (f.add heap.nextObject))
  /-- An object is made for an environment that is not there. -/
  | allocDetached {env : EnvId} {label : String} (hf : heap.attached.get? env = none) :
      Change heap (.operate env (.alloc label)) none (heap.withObject label)
  /-- The frames of an environment are changed. -/
  | reframe {env : EnvId} {operation : Operation Local Handle Int64} {f g : Frames}
      (hlabel : operation.label? = none) (hf : heap.attached.get? env = some f)
      (hg : Reframing heap f g) : Change heap (.operate env operation) none (heap.withFrames env g)
  /-- A reference is made. Its handle is given out unless its word is zero. -/
  | insert {env : EnvId} {operation : Operation Local Handle Int64} {strength : Strength}
      {id : ObjectId} (hasked : operation.asked? = some (strength, some id))
      (hlive : heap.isLive id = true) (hroom : heap.isFull = false) :
      Change heap (.operate env operation)
        ((Handle.ofRaw? heap.nextRaw strength).map fun h => (h, id))
        (heap.withReference ⟨strength, id⟩)
  /-- A reference is deleted. -/
  | erase {env : EnvId} {operation : Operation Local Handle Int64} {raw : Int64} {row : Row}
      (hdeleted : operation.deleted? = some raw) (hrow : heap.references.get? raw = some row) :
      Change heap (.operate env operation) none (heap.withoutReference raw)

/-! ### Operations that make references -/

/-- An operation that makes no object makes a reference, deletes one, or does neither. -/
theorem Operation.label?_eq_none_of_asked? {p : Strength × Local}
    (h : operation.asked? = some p) : operation.label? = none := by
  cases operation <;> simp_all [Operation.asked?, Operation.label?]

theorem Operation.label?_eq_none_of_deleted? (h : operation.deleted? = some raw) :
    operation.label? = none := by
  cases operation <;> simp_all [Operation.deleted?, Operation.label?]

/-- Managed code gets the word of the handle that it asks for. -/
theorem Operation.perform_newRef (env : EnvId) (x : Local) :
    (Operation.managed (.newRef x)).perform env =
      (makeHandle env .strong x >>= fun h => pure (.word (Handle.toWord h))) := by
  simp [Operation.perform, Host.answer, Host.newRef, Answer.ofManaged, makeHandle]

/-- Managed code gets the word of the weak handle that it asks for. -/
theorem Operation.perform_newWeakRef (env : EnvId) (x : Local) :
    (Operation.managed (.newWeakRef x)).perform env =
      (makeHandle env .weak x >>= fun h => pure (.word (Handle.toWord h))) := by
  simp [Operation.perform, Host.answer, Host.newWeakRef, Answer.ofManaged, makeHandle]

/-- There are three forms in which a reference is asked for. -/
theorem Operation.perform_of_asked? (hasked : operation.asked? = some (strength, x))
    (env : EnvId) :
    operation.perform env = (makeHandle env strength x >>= fun h => pure (.handle h)) ∨
    operation.perform env =
      (makeHandle env strength x >>= fun h => pure (.word (Handle.toWord h))) ∨
    operation.perform env = (makeReference env strength x >>= fun raw => pure (.word raw)) := by
  cases operation with
  | createStrong y | createWeak y =>
    cases hasked
    exact .inl rfl
  | newStrong y | newWeak y =>
    cases hasked
    exact .inr (.inr rfl)
  | managed call =>
    cases call with
    | newRef y =>
      cases hasked
      exact .inr (.inl (Operation.perform_newRef env _))
    | newWeakRef y =>
      cases hasked
      exact .inr (.inl (Operation.perform_newWeakRef env _))
    | _ => cases hasked
  | _ => cases hasked

/-- An operation that is asked for a reference and makes more than that makes a handle, and puts it
into the form of its answer. -/
theorem Operation.perform_of_not_isBare (hbare : operation.isBare = false)
    (hasked : operation.asked? = some (strength, x)) (env : EnvId) :
    ∃ form : Option Handle → Answer,
      operation.perform env = (makeHandle env strength x >>= fun h => pure (form h)) := by
  cases operation with
  | newStrong y | newWeak y => cases hbare
  | createStrong y | createWeak y =>
    cases hasked
    exact ⟨.handle, rfl⟩
  | managed call =>
    cases call with
    | newRef y =>
      cases hasked
      exact ⟨_, Operation.perform_newRef env _⟩
    | newWeakRef y =>
      cases hasked
      exact ⟨_, Operation.perform_newWeakRef env _⟩
    | _ => cases hasked
  | _ => cases hasked

/-- Performing an operation as a step only wraps its answer. -/
theorem Step.perform_operate (heap : Heap) (env : EnvId)
    (operation : Operation Local Handle Int64) :
    (Step.operate env operation).perform heap =
      ⟨(operation.perform env heap).result.map .answer, (operation.perform env heap).state,
        (operation.perform env heap).notes⟩ :=
  Action.bind_pure_apply _ _ _

/-- A step that is not asked for a reference gives no handle out. -/
theorem Moment.made?_of_asked?_eq_none (hasked : operation.asked? = none) :
    (⟨heap, .operate env operation⟩ : Moment).made? = none := by
  unfold Moment.made?
  split <;> simp_all

/-- A step that is asked for a reference to no object gives no handle out. -/
theorem Moment.made?_of_asked?_null (hasked : operation.asked? = some (strength, none)) :
    (⟨heap, .operate env operation⟩ : Moment).made? = none := by
  unfold Moment.made?
  split <;> simp_all

/-- A step that is asked for a reference gives out the handle of the word that its answer has. -/
theorem Moment.made?_of_asked?_some (hasked : operation.asked? = some (strength, some id)) :
    (⟨heap, .operate env operation⟩ : Moment).made? =
      (match (makeReference env strength (some id) heap).result with
        | .ok raw => (Handle.ofRaw? raw strength).map fun h => (h, id)
        | .error _ => none) := by
  have hform := Operation.perform_of_asked? hasked env
  simp only [Moment.made?, Moment.outcome, Step.perform_operate]
  cases hlive : heap.isLive id with
  | false =>
    rcases hform with h | h | h <;>
      simp [h, makeHandle_of_freed hlive, makeReference_of_freed hlive, Except.map]
  | true =>
    cases hfull : heap.isFull with
    | true =>
      rcases hform with h | h | h <;>
        simp [h, hasked, makeHandle_of_full hlive hfull, makeReference_of_full hlive hfull,
          Except.map, Answer.word?]
    | false =>
      by_cases hraw : heap.nextRaw = 0
      · rcases hform with h | h | h <;>
          simp [h, hasked, makeHandle_of_zero hlive hfull hraw,
            makeReference_of_room hlive hfull, hraw, Except.map, Answer.word?]
      · rcases hform with h | h | h <;>
          simp [h, hasked, makeHandle_of_room hlive hfull hraw,
            makeReference_of_room hlive hfull, Except.map, Answer.word?, Handle.toWord,
            Handle.ofRaw?_of_ne_zero hraw]

/-- An operation that is asked for a reference leaves the heap that making it leaves. -/
theorem Operation.state_of_asked? (hasked : operation.asked? = some (strength, x)) :
    (operation.perform env heap).state = (makeReference env strength x heap).state := by
  rcases Operation.perform_of_asked? hasked env with h | h | h <;>
    rw [h, Action.bind_pure_apply] <;> simp only [state_makeHandle]

/-- An operation that is asked for a reference makes it or leaves everything as it is. -/
theorem Operation.change_of_asked? (hasked : operation.asked? = some (strength, x)) :
    Change heap (.operate env operation) (⟨heap, .operate env operation⟩ : Moment).made?
      (operation.perform env heap).state := by
  have hlabel := Operation.label?_eq_none_of_asked? hasked
  rw [Operation.state_of_asked? hasked]
  cases x with
  | none =>
    rw [Moment.made?_of_asked?_null hasked, makeReference_null]
    exact .idle hlabel
  | some id =>
    rw [Moment.made?_of_asked?_some hasked]
    cases hlive : heap.isLive id with
    | false =>
      rw [makeReference_of_freed hlive]
      exact .idle hlabel
    | true =>
      cases hfull : heap.isFull with
      | true =>
        rw [makeReference_of_full hlive hfull]
        exact .idle hlabel
      | false =>
        rw [makeReference_of_room hlive hfull]
        exact .insert hasked hlive hfull

/-! ### Operations that delete references -/

/-- An operation that deletes a reference leaves the heap without it, whatever it reports. If
there is no such reference, it leaves the heap as it is. -/
theorem Operation.cases_of_deleted? (hdeleted : operation.deleted? = some raw) :
    (raw = 0 ∨ heap.references.get? raw = none) ∧ (operation.perform env heap).state = heap ∨
    ∃ row, heap.references.get? raw = some row ∧
      (operation.perform env heap).state = heap.withoutReference raw := by
  have hremove : ∀ strength,
      (raw = 0 ∨ heap.references.get? raw = none) ∧
          (removeReference raw strength heap).state = heap ∨
        ∃ row, heap.references.get? raw = some row ∧
          (removeReference raw strength heap).state = heap.withoutReference raw := by
    intro strength
    cases hrow : heap.references.get? raw with
    | none => exact .inl ⟨.inr rfl, by rw [removeReference_of_dead hrow]⟩
    | some row => exact .inr ⟨row, rfl, by rw [removeReference_of_row hrow]⟩
  cases operation with
  | release h =>
    cases hdeleted
    simp only [Operation.perform, Action.bind_pure_apply, release_eq]
    exact hremove h.strength
  | deleteStrong r | deleteWeak r =>
    cases hdeleted
    simp only [Operation.perform, Action.bind_pure_apply, host]
    split
    · next hraw => exact .inl ⟨.inl hraw, rfl⟩
    · exact hremove _
  | managed call =>
    cases call with
    | unref r =>
      cases hdeleted
      simp only [Operation.perform, Host.answer, Action.bind_pure_apply]
      by_cases hraw : raw = 0
      · rw [hraw, unref_zero]
        exact .inl ⟨.inl rfl, rfl⟩
      · cases hrow : heap.references.get? raw with
        | none => exact .inl ⟨.inr rfl, by rw [unref_of_dead hraw hrow]⟩
        | some row => exact .inr ⟨row, rfl, by rw [unref_of_row hraw hrow]⟩
    | _ => cases hdeleted
  | _ => cases hdeleted

/-- An operation that deletes a reference makes one of the listed changes. -/
theorem Operation.change_of_deleted? (hdeleted : operation.deleted? = some raw) :
    Change heap (.operate env operation) none (operation.perform env heap).state := by
  rcases Operation.cases_of_deleted? hdeleted with ⟨_, hlater⟩ | ⟨row, hrow, hlater⟩
  · rw [hlater]
    exact .idle (Operation.label?_eq_none_of_deleted? hdeleted)
  · rw [hlater]
    exact .erase hdeleted hrow

/-! ### Operations on locals and frames -/

/-- A heap that differs from another in the frames of one environment at most. -/
inductive Reframed (heap : Heap) (env : EnvId) : Heap → Prop
  /-- The frames are as they were. -/
  | refl : Reframed heap env heap
  /-- The frames have been changed. -/
  | frames {f g : Frames} (hf : heap.attached.get? env = some f) (hg : Reframing heap f g) :
      Reframed heap env (heap.withFrames env g)

/-- A look-up adds a local or leaves everything as it is. -/
theorem reframed_newLocal (heap : Heap) (env : EnvId) (raw : Int64) :
    Reframed heap env (newLocal env raw heap).state := by
  cases hrow : heap.references.get? raw with
  | none =>
    rw [newLocal_of_dead hrow]
    exact .refl
  | some row =>
    cases hlive : heap.isLive row.target with
    | false =>
      rw [newLocal_of_freed hrow hlive]
      exact .refl
    | true =>
      cases hf : heap.attached.get? env with
      | none =>
        rw [newLocal_of_notAttached hrow hlive hf]
        exact .refl
      | some f =>
        rw [newLocal_of_live hrow hlive hf]
        exact .frames hf (.add hlive)

/-- Deleting a local takes one away or leaves everything as it is. -/
theorem reframed_deleteLocal (heap : Heap) (env : EnvId) (x : Local) :
    Reframed heap env (deleteLocal env x heap).state := by
  cases x with
  | none => exact .refl
  | some id =>
    cases hf : heap.attached.get? env with
    | none =>
      rw [deleteLocal_of_notAttached hf]
      exact .refl
    | some f =>
      cases hg : f.remove? id with
      | none =>
        rw [deleteLocal_of_unknown hf hg]
        exact .refl
      | some g =>
        rw [deleteLocal_of_remove? hf hg]
        exact .frames hf (.remove hg)

/-- Opening a frame adds one or leaves everything as it is. -/
theorem reframed_pushFrame (heap : Heap) (env : EnvId) (capacity : Int32) :
    Reframed heap env (pushFrame env capacity heap).state := by
  by_cases hc : capacity < 0
  · rw [pushFrame_of_neg hc]
    exact .refl
  · cases hf : heap.attached.get? env with
    | none =>
      rw [pushFrame_of_notAttached hc hf]
      exact .refl
    | some f =>
      rw [pushFrame_of_attached hc hf]
      exact .frames hf .push

/-- Closing a frame takes one away, perhaps with a local carried out, or leaves everything as it
is. -/
theorem reframed_popFrame (heap : Heap) (env : EnvId) (x : Local) :
    Reframed heap env (popFrame env x heap).state := by
  cases hf : heap.attached.get? env with
  | none =>
    rw [popFrame_of_notAttached hf]
    exact .refl
  | some f =>
    cases hg : f.pop? with
    | none =>
      rw [popFrame_of_base hf hg]
      exact .refl
    | some g =>
      cases x with
      | none =>
        rw [popFrame_null hf hg]
        exact .frames hf (.pop hg)
      | some id =>
        cases hlive : heap.isLive id with
        | false =>
          rw [popFrame_of_freed hf hg hlive]
          exact .frames hf (.pop hg)
        | true =>
          rw [popFrame_of_live hf hg hlive]
          exact .frames hf (.carry hg hlive)

/-- Opening a frame for a guard leaves the heap that opening it leaves. -/
theorem state_openFrame (env : EnvId) (capacity : Int32) (heap : Heap) :
    ((host env).openFrame capacity heap).state = (pushFrame env capacity heap).state := by
  apply Action.state_bind_of_still
  intro opened s
  cases opened <;> simp [host]

/-- An operation that neither makes an object nor makes or deletes a reference changes the frames
of its environment at most. -/
theorem Operation.reframed (hlabel : operation.label? = none) (hasked : operation.asked? = none)
    (hdeleted : operation.deleted? = none) :
    Reframed heap env (operation.perform env heap).state := by
  cases operation with
  | alloc text => cases hlabel
  | createStrong y | createWeak y | newStrong y | newWeak y => cases hasked
  | release h | deleteStrong r | deleteWeak r => cases hdeleted
  | null | isNull y | same y z | fatal reason => exact .refl
  | label y => exact .refl
  | classify r =>
    simp only [Operation.perform, Action.bind_pure_apply, classify_eq]
    exact .refl
  | deleteLocal y =>
    simp only [Operation.perform, Action.bind_pure_apply]
    exact reframed_deleteLocal heap env y
  | resolve h =>
    simp only [Operation.perform, Action.bind_pure_apply, state_resolve]
    split
    · exact reframed_newLocal heap env h.raw
    · exact .refl
  | resolveWeak h =>
    simp only [Operation.perform, Action.bind_pure_apply, state_resolveWeak]
    split
    · exact reframed_newLocal heap env h.raw
    · exact .refl
  | newLocal r =>
    simp only [Operation.perform, Action.bind_pure_apply]
    exact reframed_newLocal heap env r
  | pushFrame capacity =>
    simp only [Operation.perform, Action.bind_pure_apply]
    exact reframed_pushFrame heap env capacity
  | openFrame capacity =>
    simp only [Operation.perform, Action.bind_pure_apply, state_openFrame]
    exact reframed_pushFrame heap env capacity
  | popFrame y | closeFrameWith y =>
    simp only [Operation.perform, Action.bind_pure_apply]
    exact reframed_popFrame heap env y
  | closeFrame =>
    simp only [Operation.perform, Host.closeFrame, Action.bind_pure_apply]
    exact reframed_popFrame heap env none
  | managed call =>
    cases call with
    | newRef y | newWeakRef y => cases hasked
    | unref r => cases hdeleted
    | get r =>
      simp only [Operation.perform, Host.answer, Action.bind_pure_apply]
      by_cases hraw : r = 0
      · subst hraw
        exact .refl
      · rw [get_of_ne_zero env hraw, state_resolve]
        exact reframed_newLocal heap env r
    | getWeak r =>
      simp only [Operation.perform, Host.answer, Action.bind_pure_apply]
      by_cases hraw : r = 0
      · subst hraw
        exact .refl
      · rw [getWeak_of_ne_zero env hraw, Action.bind_pure_apply, state_resolveWeak]
        exact reframed_newLocal heap env r

/-! ### All steps -/

/-- An allocation makes an object. -/
theorem Operation.change_alloc (heap : Heap) (env : EnvId) (label : String) :
    Change heap (.operate env (.alloc label)) none
      ((Operation.alloc label).perform env heap).state := by
  simp only [Operation.perform, Action.bind_pure_apply]
  cases hf : heap.attached.get? env with
  | none =>
    rw [alloc_of_notAttached hf]
    exact .allocDetached hf
  | some f =>
    rw [alloc_of_attached hf]
    exact .alloc hf

/-- Every step makes one of the listed changes. -/
theorem Step.change (heap : Heap) (step : Step) :
    Change heap step (⟨heap, step⟩ : Moment).made? (step.perform heap).state := by
  cases step with
  | attach => exact .attach
  | detach env => exact .detach
  | collect => exact .collect
  | operate env operation =>
    rw [Step.perform_operate]
    cases hasked : operation.asked? with
    | some p => exact Operation.change_of_asked? hasked
    | none =>
      rw [Moment.made?_of_asked?_eq_none hasked]
      cases hdeleted : operation.deleted? with
      | some raw => exact Operation.change_of_deleted? hdeleted
      | none =>
        cases hlabel : operation.label? with
        | some label =>
          cases operation with
          | alloc text => exact Operation.change_alloc heap env text
          | _ => cases hlabel
        | none =>
          have h : Reframed heap env (operation.perform env heap).state :=
            Operation.reframed hlabel hasked hdeleted
          generalize (operation.perform env heap).state = later at h ⊢
          cases h with
          | refl => exact .idle hlabel
          | frames hf hg => exact .reframe hlabel hf hg

end DurableRefs.Heap
