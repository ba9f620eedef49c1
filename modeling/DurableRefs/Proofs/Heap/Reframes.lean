import DurableRefs.Proofs.Heap.Scopes

/-!
# What operations do to the frames of their environment

An operation can open a frame of its environment, close one or delete a local, and it can hand a
local out, which then goes to the innermost frame. This is said here once for all operations, so
that later files need not look at what else an operation does.
-/

namespace DurableRefs.Heap

variable {heap : Heap} {env other : EnvId} {f g : Frames} {raw : Int64}
  {operation : Operation Local Handle Int64} {step : Step}

/-! ### Locals that are handed out -/

namespace Frames

/-- The frames with a local that is handed out; null is put nowhere. -/
def receive (f : Frames) : Local → Frames
  | none => f
  | some id => f.add id

/-- A local that is handed out is one more for its object. -/
theorem count_locals_receive (f : Frames) (x : Local) (id : ObjectId) :
    (f.receive x).locals.count id = f.locals.count id + if x = some id then 1 else 0 := by
  cases x with
  | none => simp [receive]
  | some other => simp [receive, List.count_cons]

/-- A local that is handed out goes to a frame that is there. -/
theorem depth_receive (f : Frames) (x : Local) : (f.receive x).depth = f.depth := by
  cases x <;> rfl

end Frames

/-- The local that an answer hands out, or null. -/
def Answer.handedOut : Answer → Local
  | .object x => x
  | .referent x => x.getD none
  | _ => none

/-- The local that an action hands out, or null; one that fails hands none out. -/
def handedOut {α : Type} (hand : α → Local) : Except Fault α → Local
  | .ok a => hand a
  | .error _ => none

/-- An action hands out the same when its value is put into another form. -/
theorem handedOut_map {α β : Type} (hand : β → Local) (form : α → β) (result : Except Fault α) :
    handedOut hand (result.map form) = handedOut (fun a => hand (form a)) result := by
  cases result <;> rfl

/-- An action whose values hand nothing out hands nothing out. -/
theorem handedOut_none {α : Type} (result : Except Fault α) :
    handedOut (fun _ => none) result = none := by
  cases result <;> rfl

/-! ### Operations -/

/-- What an operation makes of the frames of its environment, apart from a local that it hands
out. -/
def Operation.reframe (f : Frames) : Operation Local Handle Int64 → Frames
  | .deleteLocal (some id) => (f.remove? id).getD f
  | .pushFrame room | .openFrame room => if room < 0 then f else f.push
  | .popFrame _ | .closeFrame | .closeFrameWith _ => f.pop?.getD f
  | _ => f

@[simp] theorem Operation.reframe_deleteLocal_some (f : Frames) (id : ObjectId) :
    (deleteLocal (some id)).reframe f = (f.remove? id).getD f := rfl

@[simp] theorem Operation.reframe_openFrame (f : Frames) (room : Int32) :
    (openFrame room).reframe f = if room < 0 then f else f.push := rfl

/-- An action of an environment that has some frames leaves it others, which have received what the
action hands out. -/
def Reframes {α : Type} (env : EnvId) (f g : Frames) (hand : α → Local) (p : Task α) : Prop :=
  ∀ heap : Heap, heap.attached.get? env = some f →
    (p heap).state.attached.get? env = some (g.receive (handedOut hand (p heap).result))

section Reframes

variable {α β : Type} {hand : β → Local} {p : Task α}

/-- An action whose value is put into another form leaves the same frames. -/
theorem Reframes.bind_pure {form : α → β} (hp : Reframes env f g (fun a => hand (form a)) p) :
    Reframes env f g hand (p >>= fun a => pure (form a)) := by
  intro heap hf
  rw [Action.bind_pure_apply, handedOut_map]
  exact hp heap hf

/-- An action that changes no frames and hands nothing out leaves the frames as they are. -/
theorem reframes_of_attached_eq
    (hp : ∀ heap : Heap, (p heap).state.attached.get? env = heap.attached.get? env) :
    Reframes env f f (fun _ => none) p := by
  intro heap hf
  rw [hp, hf, handedOut_none]
  rfl

/-- New frames are the frames of their environment. -/
theorem get?_attached_withFrames (heap : Heap) (env : EnvId) (g : Frames) :
    (heap.withFrames env g).attached.get? env = some g := by
  rw [withFrames_attached, Table.get?_insert_self]

/-- A local from a reference is received. -/
theorem reframes_newLocal (env : EnvId) (f : Frames) (raw : Int64) :
    Reframes env f f (fun x => x) (newLocal env raw) := by
  intro heap hf
  cases hrow : heap.references.get? raw with
  | none =>
    rw [newLocal_of_dead hrow]
    exact hf
  | some row =>
    cases hlive : heap.isLive row.target with
    | false =>
      rw [newLocal_of_freed hrow hlive]
      exact hf
    | true =>
      rw [newLocal_of_live hrow hlive hf]
      exact get?_attached_withFrames heap env _

/-- A local from a strong handle is received. -/
theorem reframes_resolve (env : EnvId) (f : Frames) (h : Handle) :
    Reframes env f f (fun x => x) ((host env).resolve h) := by
  intro heap hf
  cases hs : h.strength with
  | weak =>
    rw [resolve_of_weak hs]
    exact hf
  | strong =>
    cases hrow : heap.references.get? h.raw with
    | none =>
      rw [resolve_of_dead hs hrow]
      exact hf
    | some row =>
      cases hlive : heap.isLive row.target with
      | false =>
        rw [resolve_of_freed hs hrow hlive]
        exact hf
      | true =>
        rw [resolve_of_live hs hrow hlive hf]
        exact get?_attached_withFrames heap env _

/-- A local from a weak handle is received. -/
theorem reframes_resolveWeak (env : EnvId) (f : Frames) (h : Handle) :
    Reframes env f f (fun x => x.getD none) ((host env).resolveWeak h) := by
  intro heap hf
  cases hs : h.strength with
  | strong =>
    rw [resolveWeak_of_strong hs]
    exact hf
  | weak =>
    cases hrow : heap.references.get? h.raw with
    | none =>
      rw [resolveWeak_of_dead hs hrow]
      exact hf
    | some row =>
      cases hlive : heap.isLive row.target with
      | false =>
        rw [resolveWeak_of_freed hs hrow hlive]
        exact hf
      | true =>
        rw [resolveWeak_of_live hs hrow hlive hf]
        exact get?_attached_withFrames heap env _

/-- A new object is received. -/
theorem reframes_alloc (env : EnvId) (f : Frames) (label : String) :
    Reframes env f f (fun x => x) (alloc env label) := by
  intro heap hf
  rw [alloc_of_attached hf]
  exact get?_attached_withFrames _ env _

/-- A local is deleted if there is one. -/
theorem reframes_deleteLocal (env : EnvId) (f : Frames) (x : Local) :
    Reframes env f ((Operation.deleteLocal x).reframe f) (fun _ => none)
      (deleteLocal env x) := by
  intro heap hf
  rw [handedOut_none]
  cases x with
  | none => exact hf
  | some id =>
    cases hg : f.remove? id with
    | none =>
      rw [deleteLocal_of_unknown hf hg, Operation.reframe_deleteLocal_some, hg]
      exact hf
    | some g =>
      rw [deleteLocal_of_remove? hf hg, Operation.reframe_deleteLocal_some, hg]
      exact get?_attached_withFrames heap env g

/-- A frame is opened if there can be room in it. -/
theorem reframes_pushFrame (env : EnvId) (f : Frames) (room : Int32) :
    Reframes env f (if room < 0 then f else f.push) (fun _ => none) (pushFrame env room) := by
  intro heap hf
  rw [handedOut_none]
  by_cases hroom : room < 0
  · rw [pushFrame_of_neg hroom, if_pos hroom]
    exact hf
  · rw [pushFrame_of_attached hroom hf, if_neg hroom]
    exact get?_attached_withFrames heap env f.push

/-- A frame is opened for a guard if there can be room in it. -/
theorem reframes_openFrame (env : EnvId) (f : Frames) (room : Int32) :
    Reframes env f (if room < 0 then f else f.push) (fun _ => none)
      ((host env).openFrame room) := by
  intro heap hf
  rw [handedOut_none, state_openFrame]
  have hpush := reframes_pushFrame env f room heap hf
  rwa [handedOut_none] at hpush

/-- A frame over another one is closed, and what is carried out is null or the local that was to be
carried out. -/
theorem popFrame_of_pop? {heap : Heap} (hf : heap.attached.get? env = some f)
    (hg : f.pop? = some g) (x : Local) :
    ∃ y, popFrame env x heap = ⟨.ok y, heap.withFrames env (g.receive y), []⟩ ∧
      (y = none ∨ y = x) := by
  cases x with
  | none => exact ⟨none, popFrame_null hf hg, .inl rfl⟩
  | some id =>
    cases hlive : heap.isLive id with
    | false => exact ⟨none, popFrame_of_freed hf hg hlive, .inl rfl⟩
    | true => exact ⟨some id, popFrame_of_live hf hg hlive, .inr rfl⟩

/-- A frame is closed if it is not the base frame, and what is carried out is received. -/
theorem reframes_popFrame (env : EnvId) (f : Frames) (x : Local) :
    Reframes env f (f.pop?.getD f) (fun y => y) (popFrame env x) := by
  intro heap hf
  cases hg : f.pop? with
  | none =>
    rw [popFrame_of_base hf hg]
    exact hf
  | some g =>
    obtain ⟨y, hpop, -⟩ := popFrame_of_pop? hf hg x
    rw [hpop]
    exact get?_attached_withFrames heap env (g.receive y)

/-- Nothing is carried out of a frame that is closed without a local. -/
theorem reframes_closeFrame (env : EnvId) (f : Frames) :
    Reframes env f (f.pop?.getD f) (fun _ => none) (host env).closeFrame := by
  intro heap hf
  have hclose : ((host env).closeFrame heap).state = (popFrame env none heap).state := by
    simp only [Host.closeFrame, Action.bind_pure_apply]
    rfl
  rw [handedOut_none, hclose]
  cases hg : f.pop? with
  | none =>
    rw [popFrame_of_base hf hg]
    exact hf
  | some g =>
    rw [popFrame_null hf hg]
    exact get?_attached_withFrames heap env g

end Reframes

/-- An operation that is asked for a reference leaves the frames and hands nothing out. -/
theorem Operation.reframes_of_asked? {p : Strength × Local} (hasked : operation.asked? = some p)
    (env : EnvId) (f : Frames) : Reframes env f f Answer.handedOut (operation.perform env) := by
  have hreference : ∀ heap : Heap,
      (makeReference env p.1 p.2 heap).state.attached.get? env = heap.attached.get? env := by
    intro heap
    rw [attached_makeReference]
  have hhandle : ∀ heap : Heap,
      (makeHandle env p.1 p.2 heap).state.attached.get? env = heap.attached.get? env := by
    intro heap
    rw [state_makeHandle, attached_makeReference]
  rcases Operation.perform_of_asked? hasked env with hform | hform | hform
  · rw [hform]
    exact (reframes_of_attached_eq hhandle).bind_pure
  · rw [hform]
    exact (reframes_of_attached_eq hhandle).bind_pure
  · rw [hform]
    exact (reframes_of_attached_eq hreference).bind_pure

/-- An operation that deletes a reference leaves the frames and hands nothing out. -/
theorem Operation.reframes_of_deleted? (hdeleted : operation.deleted? = some raw) (env : EnvId)
    (f : Frames) : Reframes env f f Answer.handedOut (operation.perform env) := by
  intro heap hf
  have hstate : (operation.perform env heap).state.attached = heap.attached := by
    rcases @Operation.cases_of_deleted? heap env raw operation hdeleted with
      ⟨-, hlater⟩ | ⟨row, -, hlater⟩
    · rw [hlater]
    · rw [hlater]
      rfl
  have hnothing : handedOut Answer.handedOut (operation.perform env heap).result = none := by
    cases operation with
    | release h | deleteStrong r | deleteWeak r =>
      simp only [Operation.perform, Action.bind_pure_apply, handedOut_map]
      exact handedOut_none _
    | managed call =>
      cases call with
      | unref r =>
        simp only [Operation.perform, Host.answer, Action.bind_pure_apply, handedOut_map]
        exact handedOut_none _
      | _ => cases hdeleted
    | _ => cases hdeleted
  rw [hstate, hf, hnothing]
  rfl

/-- A call for the object behind a word hands out what the handle of the word would. -/
theorem Operation.reframes_managed {call : ManagedCall Local Int64}
    (hasked : (Operation.managed call : Operation Local Handle Int64).asked? = none)
    (hdeleted : (Operation.managed call : Operation Local Handle Int64).deleted? = none)
    (env : EnvId) (f : Frames) :
    Reframes env f f Answer.handedOut ((Operation.managed call).perform env) := by
  have hnull : Reframes env f f (fun x => x) (pure none : Task Local) := by
    intro heap hf
    exact hf
  cases call with
  | newRef x | newWeakRef x => cases hasked
  | unref raw => cases hdeleted
  | get raw =>
    apply Reframes.bind_pure
    apply Reframes.bind_pure
    by_cases hraw : raw = 0
    · subst hraw
      exact hnull
    · rw [get_of_ne_zero env hraw]
      exact reframes_resolve env f _
  | getWeak raw =>
    apply Reframes.bind_pure
    apply Reframes.bind_pure
    by_cases hraw : raw = 0
    · subst hraw
      exact hnull
    · rw [getWeak_of_ne_zero env hraw]
      exact (reframes_resolveWeak env f _).bind_pure

/-- Every operation changes the frames of its environment in its own way and puts the local that it
hands out, if there is one, into the innermost frame. -/
theorem Operation.reframes_perform (operation : Operation Local Handle Int64) (env : EnvId)
    (f : Frames) :
    Reframes env f (operation.reframe f) Answer.handedOut (operation.perform env) := by
  have hstill : ∀ {α : Type} (p : Task α), (∀ heap, (p heap).state = heap) →
      Reframes env f f (fun _ => none) p := by
    intro α p hp
    apply reframes_of_attached_eq
    intro heap
    rw [hp]
  cases operation with
  | createStrong y | createWeak y | newStrong y | newWeak y =>
    exact Operation.reframes_of_asked? rfl env f
  | release h | deleteStrong r | deleteWeak r => exact Operation.reframes_of_deleted? rfl env f
  | managed call =>
    cases hasked : (Operation.managed call : Operation Local Handle Int64).asked? with
    | some p => exact Operation.reframes_of_asked? hasked env f
    | none =>
      cases hdeleted : (Operation.managed call : Operation Local Handle Int64).deleted? with
      | some raw => exact Operation.reframes_of_deleted? hdeleted env f
      | none => exact Operation.reframes_managed hasked hdeleted env f
  | alloc text => exact (reframes_alloc env f text).bind_pure
  | deleteLocal y => exact (reframes_deleteLocal env f y).bind_pure
  | resolve h => exact (reframes_resolve env f h).bind_pure
  | resolveWeak h => exact (reframes_resolveWeak env f h).bind_pure
  | newLocal r => exact (reframes_newLocal env f r).bind_pure
  | pushFrame room => exact (reframes_pushFrame env f room).bind_pure
  | openFrame room => exact (reframes_openFrame env f room).bind_pure
  | popFrame y | closeFrameWith y => exact (reframes_popFrame env f y).bind_pure
  | closeFrame => exact (reframes_closeFrame env f).bind_pure
  | null | isNull y | same y z | fatal reason =>
    intro heap hf
    exact hf
  | label y => exact (hstill (Heap.label y) fun heap => rfl).bind_pure
  | classify r => exact (hstill ((host env).classify r) fun heap => by rw [classify_eq]).bind_pure

/-! ### Steps -/

/-- A step leaves an environment attached: it does not detach it, and attaches no other under its
number. -/
def Step.LeavesAttached (env : EnvId) (heap : Heap) : Step → Prop
  | .attach => heap.nextEnv ≠ env
  | .detach other => other ≠ env
  | _ => True

instance (env : EnvId) (heap : Heap) : (step : Step) → Decidable (step.LeavesAttached env heap)
  | .attach => inferInstanceAs (Decidable (_ ≠ _))
  | .detach _ => inferInstanceAs (Decidable (_ ≠ _))
  | .collect => .isTrue trivial
  | .operate _ _ => .isTrue trivial

/-- What a step makes of the frames of an environment that it leaves attached. -/
def Step.reframe (env : EnvId) (heap : Heap) (f : Frames) : Step → Frames
  | .operate other operation =>
    if other = env then
      (operation.reframe f).receive
        (handedOut Answer.handedOut (operation.perform env heap).result)
    else f
  | _ => f

/-- After a step, an environment that stays attached has the frames that the step makes of its own.
-/
theorem Step.attached_perform (hstays : step.LeavesAttached env heap)
    (hf : heap.attached.get? env = some f) :
    (step.perform heap).state.attached.get? env = some (step.reframe env heap f) := by
  cases step with
  | collect => exact hf
  | attach =>
    have hsame : heap.withEnvironment.attached.get? env = heap.attached.get? env :=
      Table.get?_insert_of_ne (Ne.symm hstays) _ _
    exact hsame.trans hf
  | detach other =>
    have hsame : (heap.withoutEnvironment other).attached.get? env = heap.attached.get? env :=
      Table.get?_erase_of_ne (Ne.symm hstays) _
    exact hsame.trans hf
  | operate other operation =>
    rw [Step.perform_operate, Step.reframe]
    by_cases hother : other = env
    · subst hother
      rw [if_pos rfl]
      exact operation.reframes_perform other f heap hf
    · have hchange := (Step.operate other operation).change heap
      rw [Step.perform_operate] at hchange
      rw [if_neg hother, ← hf]
      exact hchange.attached_eq_of_ne (Ne.symm hother)

end DurableRefs.Heap
