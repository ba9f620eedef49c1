import DurableRefs.Proofs.Heap.Numbering
import DurableRefs.Proofs.Heap.Rooted

/-!
# Scopes keep the frames around them

A scope opens a frame and closes it at its end. In between anything may happen that leaves the
scope's own frame open and deletes no local of the frames around it: more frames are opened and
closed, objects come and go, and other environments do what they like. The frames around the scope
are then the same at its end as at its beginning.
-/

namespace DurableRefs.Heap

variable {heap later : Heap} {env other : EnvId} {f g g' : Frames} {id : ObjectId} {raw : Int64}
  {x : Local} {operation : Operation Local Handle Int64} {step : Step}

namespace Frames

/-! ### Frames over frames -/

/-- Frames that have been opened over others, which are as they were. -/
def Over (g f : Frames) : Prop := ∃ upper, upper ≠ [] ∧ g.toList = upper ++ f.toList

/-- An opened frame is over the others. -/
theorem over_push (f : Frames) : f.push.Over f := ⟨[[]], by simp, rfl⟩

/-- A further frame is over the same others. -/
theorem Over.push (h : g.Over f) : g.push.Over f := by
  obtain ⟨upper, -, hlist⟩ := h
  exact ⟨[] :: upper, by simp, by rw [toList_push, hlist, List.cons_append]⟩

/-- A new local goes to a frame over the others. -/
theorem Over.add (h : g.Over f) (id : ObjectId) : (g.add id).Over f := by
  obtain ⟨upper, hne, hlist⟩ := h
  cases upper with
  | nil => exact absurd rfl hne
  | cons frame rest =>
    obtain ⟨hframe, hrest⟩ : g.innermost = frame ∧ g.enclosing = rest ++ f.toList :=
      List.cons.inj hlist
    refine ⟨(id :: frame) :: rest, by simp, ?_⟩
    rw [List.cons_append, ← hframe, ← hrest]
    rfl

/-- The frames over others are as many as they are more. -/
theorem Over.take_eq (h : g.Over f) :
    ∃ upper, g.toList.take (g.depth - f.depth) = upper ∧ upper ≠ [] ∧
      g.toList = upper ++ f.toList := by
  obtain ⟨upper, hne, hlist⟩ := h
  refine ⟨upper, ?_, hne, hlist⟩
  have hdepth : g.depth - f.depth = upper.length := by
    simp only [depth, hlist, List.length_append]
    omega
  rw [hdepth, hlist, List.take_left]

/-- A frame is closed over the others if there are two or more over them. -/
theorem Over.pop? (h : g.Over f) (hdepth : f.depth + 1 < g.depth) (hpop : g.pop? = some g') :
    g'.Over f := by
  obtain ⟨upper, hne, hlist⟩ := h
  cases upper with
  | nil => exact absurd rfl hne
  | cons frame rest =>
    rw [toList_of_pop?_eq_some hpop, List.cons_append] at hlist
    obtain ⟨-, hlist⟩ := List.cons.inj hlist
    refine ⟨rest, ?_, hlist⟩
    rintro rfl
    have hsame : g'.depth = f.depth := congrArg List.length hlist
    have hmore : g.depth = g'.depth + 1 := congrArg List.length (toList_of_pop?_eq_some hpop)
    omega

/-- Closing the only frame over others gives the others back. -/
theorem Over.pop?_eq (h : g.Over f) (hdepth : g.depth = f.depth + 1) : g.pop? = some f := by
  obtain ⟨upper, hne, hlist⟩ := h
  have hlength : upper.length = 1 := by
    have hcount := congrArg List.length hlist
    rw [List.length_append] at hcount
    simp only [depth] at hdepth
    omega
  obtain ⟨frame, rfl⟩ := List.length_eq_one_iff.mp hlength
  obtain ⟨-, hrest⟩ := List.cons.inj hlist
  obtain ⟨inner, enclosing⟩ := g
  simp only at hrest
  subst hrest
  rfl

/-- The newest local of an object is found in the first part of a list of frames if there is one. -/
theorem removeNewest?_append {fs : List (List ObjectId)} (hid : id ∈ fs.flatten)
    (rest : List (List ObjectId)) :
    ∃ gs, gs.length = fs.length ∧ removeNewest? id (fs ++ rest) = some (gs ++ rest) := by
  induction fs with
  | nil => simp at hid
  | cons frame fs ih =>
    by_cases hframe : id ∈ frame
    · exact ⟨frame.erase id :: fs, rfl, by simp [removeNewest?, hframe]⟩
    · rw [List.flatten_cons, List.mem_append] at hid
      obtain ⟨gs, hlength, hgs⟩ := ih (hid.resolve_left hframe)
      exact ⟨frame :: gs, by simp [hlength], by simp [removeNewest?, hframe, hgs]⟩

/-- A local that an object has over other frames is deleted there. -/
theorem Over.remove? (h : g.Over f) (hid : id ∈ (g.toList.take (g.depth - f.depth)).flatten) :
    ∃ g', g.remove? id = some g' ∧ g'.Over f := by
  obtain ⟨upper, htake, hne, hlist⟩ := h.take_eq
  rw [htake] at hid
  obtain ⟨gs, hlength, hgs⟩ := removeNewest?_append hid f.toList
  rw [← hlist, ← map_toList_remove?, Option.map_eq_some_iff] at hgs
  obtain ⟨g', hremove, hlist'⟩ := hgs
  refine ⟨g', hremove, gs, ?_, hlist'⟩
  rintro rfl
  exact hne (List.length_eq_zero_iff.mp hlength.symm)

end Frames

/-! ### Steps in a scope -/

/-- An environment has frames over others. -/
def OpenOver (heap : Heap) (env : EnvId) (f : Frames) : Prop :=
  ∃ g, heap.attached.get? env = some g ∧ g.Over f

/-- Whether an operation closes a frame. -/
def Operation.closes {L H W : Type} : Operation L H W → Bool
  | .popFrame _ | .closeFrame | .closeFrameWith _ => true
  | _ => false

/-- The object of which an operation deletes a local. -/
def Operation.deletedLocal? {H W : Type} : Operation Local H W → Option ObjectId
  | .deleteLocal x => x
  | _ => none

/-- An operation of an environment stays in a scope that has been opened over some frames: it closes
frames over the scope's own frame only, and deletes locals of that frame or of those over it
only. -/
def Operation.StaysIn (f g : Frames) (operation : Operation Local Handle Int64) : Prop :=
  (operation.closes = true → f.depth + 1 < g.depth) ∧
    ∀ id ∈ operation.deletedLocal?, id ∈ (g.toList.take (g.depth - f.depth)).flatten

instance (f g : Frames) (operation : Operation Local Handle Int64) :
    Decidable (operation.StaysIn f g) :=
  -- the one object is looked at, and not every number that an object can have
  @instDecidableAnd _ _ inferInstance (Option.decidableForallMem _)

/-- A step stays in a scope of an environment: the environment stays attached, and its operations
stay in the scope. -/
def Step.StaysIn (env : EnvId) (f : Frames) (heap : Heap) : Step → Prop
  | .attach => heap.nextEnv ≠ env
  | .detach other => other ≠ env
  | .collect => True
  | .operate other operation =>
    other = env → ∀ g ∈ heap.attached.get? env, operation.StaysIn f g

instance (env : EnvId) (f : Frames) (heap : Heap) :
    (step : Step) → Decidable (step.StaysIn env f heap)
  | .attach => inferInstanceAs (Decidable (_ ≠ _))
  | .detach _ => inferInstanceAs (Decidable (_ ≠ _))
  | .collect => .isTrue trivial
  | .operate _ _ => inferInstanceAs (Decidable (_ → _))

/-- An environment that is left alone keeps its frames. -/
theorem OpenOver.of_attached_eq (h : heap.OpenOver env f)
    (hsame : later.attached.get? env = heap.attached.get? env) : later.OpenOver env f := by
  obtain ⟨g, hg, hover⟩ := h
  exact ⟨g, hsame.trans hg, hover⟩

/-- An environment that is given frames over others has them over the others. -/
theorem openOver_withFrames (heap : Heap) (hover : g.Over f) :
    (heap.withFrames env g).OpenOver env f :=
  ⟨g, by rw [withFrames_attached, Table.get?_insert_self], hover⟩

/-- What an environment does leaves the frames of the others. -/
theorem Change.attached_eq_of_ne {given : Option (Handle × ObjectId)}
    (hchange : Change heap (.operate other operation) given later) (hne : env ≠ other) :
    later.attached.get? env = heap.attached.get? env := by
  cases hchange with
  | idle _ | allocDetached _ | insert _ _ _ | erase _ _ => rfl
  | alloc _ =>
    rw [withFrames_attached, Table.get?_insert_of_ne hne]
    rfl
  | reframe _ _ _ => rw [withFrames_attached, Table.get?_insert_of_ne hne]

/-- A local that is made from a reference goes to a frame over the others. -/
theorem OpenOver.newLocal (h : heap.OpenOver env f) (raw : Int64) :
    (newLocal env raw heap).state.OpenOver env f := by
  obtain ⟨g, hg, hover⟩ := h
  cases hrow : heap.references.get? raw with
  | none =>
    rw [newLocal_of_dead hrow]
    exact ⟨g, hg, hover⟩
  | some row =>
    cases hlive : heap.isLive row.target with
    | false =>
      rw [newLocal_of_freed hrow hlive]
      exact ⟨g, hg, hover⟩
    | true =>
      rw [newLocal_of_live hrow hlive hg]
      exact openOver_withFrames heap (hover.add _)

/-- A frame is opened over the others. -/
theorem OpenOver.pushFrame (h : heap.OpenOver env f) (capacity : Int32) :
    (pushFrame env capacity heap).state.OpenOver env f := by
  obtain ⟨g, hg, hover⟩ := h
  by_cases hc : capacity < 0
  · rw [pushFrame_of_neg hc]
    exact ⟨g, hg, hover⟩
  · rw [pushFrame_of_attached hc hg]
    exact openOver_withFrames heap hover.push

/-- A frame over the scope's own is closed. -/
theorem OpenOver.popFrame (h : heap.OpenOver env f)
    (hinner : ∀ g, heap.attached.get? env = some g → f.depth + 1 < g.depth) (x : Local) :
    (popFrame env x heap).state.OpenOver env f := by
  obtain ⟨g, hg, hover⟩ := h
  cases hpop : g.pop? with
  | none =>
    rw [popFrame_of_base hg hpop]
    exact ⟨g, hg, hover⟩
  | some g' =>
    have hover' : g'.Over f := hover.pop? (hinner g hg) hpop
    cases x with
    | none =>
      rw [popFrame_null hg hpop]
      exact openOver_withFrames heap hover'
    | some id =>
      cases hlive : heap.isLive id with
      | false =>
        rw [popFrame_of_freed hg hpop hlive]
        exact openOver_withFrames heap hover'
      | true =>
        rw [popFrame_of_live hg hpop hlive]
        exact openOver_withFrames heap (hover'.add id)

/-- A local over the others is deleted. -/
theorem OpenOver.deleteLocal (h : heap.OpenOver env f)
    (hinner : ∀ id g, x = some id → heap.attached.get? env = some g →
      id ∈ (g.toList.take (g.depth - f.depth)).flatten) :
    (deleteLocal env x heap).state.OpenOver env f := by
  obtain ⟨g, hg, hover⟩ := h
  cases x with
  | none => exact ⟨g, hg, hover⟩
  | some id =>
    obtain ⟨g', hremove, hover'⟩ := hover.remove? (hinner id g rfl hg)
    rw [deleteLocal_of_remove? hg hremove]
    exact openOver_withFrames heap hover'

/-- Making a reference changes no frames. -/
theorem attached_makeReference (heap : Heap) (env : EnvId) (strength : Strength) (x : Local) :
    (makeReference env strength x heap).state.attached = heap.attached := by
  cases x with
  | none => rw [makeReference_null]
  | some id =>
    cases hlive : heap.isLive id with
    | false => rw [makeReference_of_freed hlive]
    | true =>
      cases hfull : heap.isFull with
      | true => rw [makeReference_of_full hlive hfull]
      | false =>
        rw [makeReference_of_room hlive hfull]
        rfl

/-- An operation in the scope's environment leaves frames over the others. -/
theorem Operation.StaysIn.openOver_perform
    (hin : ∀ g ∈ heap.attached.get? env, operation.StaysIn f g) (h : heap.OpenOver env f) :
    (operation.perform env heap).state.OpenOver env f := by
  cases hasked : operation.asked? with
  | some p =>
    rw [Operation.state_of_asked? hasked]
    exact h.of_attached_eq (by rw [attached_makeReference])
  | none =>
    cases hdeleted : operation.deleted? with
    | some raw =>
      rcases Operation.cases_of_deleted? hdeleted with ⟨-, hlater⟩ | ⟨row, -, hlater⟩
      · rw [hlater]
        exact h
      · rw [hlater]
        exact h.of_attached_eq rfl
    | none =>
      have hinner : operation.closes = true →
          ∀ g, heap.attached.get? env = some g → f.depth + 1 < g.depth :=
        fun hcloses g hg => (hin g hg).1 hcloses
      cases operation with
      | createStrong y | createWeak y | newStrong y | newWeak y => cases hasked
      | release h | deleteStrong r | deleteWeak r => cases hdeleted
      | null | isNull y | same y z | label y | fatal reason => exact h
      | alloc text =>
        obtain ⟨g, hg, hover⟩ := h
        simp only [Operation.perform, Action.bind_pure_apply, alloc_of_attached hg]
        exact openOver_withFrames _ (hover.add _)
      | classify r =>
        simp only [Operation.perform, Action.bind_pure_apply, classify_eq]
        exact h
      | deleteLocal y =>
        simp only [Operation.perform, Action.bind_pure_apply]
        exact h.deleteLocal fun id g hy hg => (hin g hg).2 id hy
      | resolve r =>
        simp only [Operation.perform, Action.bind_pure_apply, state_resolve]
        split
        · exact h.newLocal r.raw
        · exact h
      | resolveWeak r =>
        simp only [Operation.perform, Action.bind_pure_apply, state_resolveWeak]
        split
        · exact h.newLocal r.raw
        · exact h
      | newLocal r =>
        simp only [Operation.perform, Action.bind_pure_apply]
        exact h.newLocal r
      | pushFrame capacity =>
        simp only [Operation.perform, Action.bind_pure_apply]
        exact h.pushFrame capacity
      | openFrame capacity =>
        simp only [Operation.perform, Action.bind_pure_apply, state_openFrame]
        exact h.pushFrame capacity
      | popFrame y | closeFrameWith y =>
        simp only [Operation.perform, Action.bind_pure_apply]
        exact h.popFrame (hinner rfl) y
      | closeFrame =>
        simp only [Operation.perform, Host.closeFrame, Action.bind_pure_apply]
        exact h.popFrame (hinner rfl) none
      | managed call =>
        cases call with
        | newRef y | newWeakRef y => cases hasked
        | unref r => cases hdeleted
        | get r =>
          simp only [Operation.perform, Host.answer, Action.bind_pure_apply]
          by_cases hraw : r = 0
          · subst hraw
            exact h
          · rw [get_of_ne_zero env hraw, state_resolve]
            exact h.newLocal r
        | getWeak r =>
          simp only [Operation.perform, Host.answer, Action.bind_pure_apply]
          by_cases hraw : r = 0
          · subst hraw
            exact h
          · rw [getWeak_of_ne_zero env hraw, Action.bind_pure_apply, state_resolveWeak]
            exact h.newLocal r

/-- Every step in a scope leaves frames over the others. -/
theorem Step.StaysIn.openOver_perform (hin : step.StaysIn env f heap)
    (h : heap.OpenOver env f) : (step.perform heap).state.OpenOver env f := by
  cases step with
  | collect => exact h
  | attach =>
    refine h.of_attached_eq ?_
    exact Table.get?_insert_of_ne (Ne.symm hin) _ _
  | detach other =>
    exact h.of_attached_eq (Table.get?_erase_of_ne (Ne.symm hin) _)
  | operate other operation =>
    rw [Step.perform_operate]
    by_cases hne : env = other
    · subst hne
      exact Operation.StaysIn.openOver_perform (hin rfl) h
    · have hchange := (Step.operate other operation).change heap
      rw [Step.perform_operate] at hchange
      exact h.of_attached_eq (hchange.attached_eq_of_ne hne)

/-- A body whose steps stay in a scope leaves frames over the others. -/
theorem openOver_after {body : List Step}
    (hbody : ∀ m ∈ history heap body, m.step.StaysIn env f m.heap) (h : heap.OpenOver env f) :
    (after heap body).OpenOver env f := by
  induction body generalizing heap with
  | nil => exact h
  | cons step body ih =>
    rw [history_cons] at hbody
    have hstep := (hbody ⟨heap, step⟩ List.mem_cons_self).openOver_perform h
    exact ih (fun m hm => hbody m (List.mem_cons_of_mem _ hm)) hstep

/-! ### Objects with a local -/

/-- A step leaves an object live that has a root. -/
theorem isLive_step_of_isRooted (hlive : heap.isLive id = true) (hroot : heap.IsRooted id)
    (step : Step) : (step.perform heap).state.isLive id = true := by
  rcases (step.change heap).objects_cases with
    ⟨label, -, hlater, -⟩ | ⟨-, -, ⟨-, hlater⟩ | ⟨-, hlater⟩⟩
  · obtain ⟨text, htext⟩ := isLive_iff.mp hlive
    rw [isLive_iff, hlater, Table.get?_insert]
    split
    · exact ⟨label, rfl⟩
    · exact ⟨text, htext⟩
  · rw [hlater]
    exact isLive_swept_iff.mpr ⟨hlive, hroot⟩
  · rw [isLive_iff, hlater]
    exact isLive_iff.mp hlive

/-- A collection leaves a rooted object as it is. -/
theorem get?_objects_swept_of_isRooted (hroot : heap.IsRooted id) :
    heap.swept.objects.get? id = heap.objects.get? id := by
  have hmem : id ∈ heap.roots := mem_roots_iff.mpr hroot
  rw [get?_objects_swept]
  cases heap.objects.get? id with
  | none => rfl
  | some label => simp [hmem]

/-- As long as an object has a local in an environment it stays live, and every collection leaves it
as it is. -/
theorem kept_while_hasLocal {steps : List Step} (hlive : heap.isLive id = true)
    (hlocal : ∀ m ∈ history heap steps,
      ∃ g, m.heap.attached.get? env = some g ∧ id ∈ g.locals) :
    (after heap steps).isLive id = true ∧
      ∀ m ∈ history heap steps, m.step = .collect →
        m.heap.isLive id = true ∧ m.outcome.state.objects.get? id = m.heap.objects.get? id := by
  induction steps generalizing heap with
  | nil => exact ⟨hlive, nofun⟩
  | cons step steps ih =>
    rw [history_cons] at hlocal ⊢
    obtain ⟨g, hg, hid⟩ := hlocal _ List.mem_cons_self
    have hroot : heap.IsRooted id := .inl ⟨env, g, hg, hid⟩
    have hnext := isLive_step_of_isRooted hlive hroot step
    obtain ⟨hlast, hkept⟩ := ih hnext fun m hm => hlocal m (List.mem_cons_of_mem _ hm)
    refine ⟨hlast, fun m hm hcollect => ?_⟩
    rcases List.mem_cons.mp hm with rfl | hm
    · obtain rfl : step = .collect := hcollect
      exact ⟨hlive, get?_objects_swept_of_isRooted hroot⟩
    · exact hkept m hm hcollect

/-! ### Scopes -/

/-- The steps of a run up to the end of a scope: what comes before it, the opening of its frame, and
its body. -/
def untilEnd (before : List Step) (env : EnvId) (room : Int32) (body : List Step) : List Step :=
  before ++ .operate env (.openFrame room) :: body

/-- In a run a scope has been opened over the frames of an environment, and its body has come to its
end. -/
structure Scope (capacity : Option Nat) (before : List Step) (env : EnvId) (f : Frames)
    (room : Int32) (body : List Step) : Prop where
  /-- The environment had some frames. -/
  attached : (after (fresh capacity) before).attached.get? env = some f
  /-- The frame of the scope has been opened. -/
  opened : ((Operation.openFrame room).perform env (after (fresh capacity) before)).result =
    .ok .done
  /-- Every step of the body has stayed in the scope. -/
  staysIn : ∀ m ∈ history
    ((Operation.openFrame room).perform env (after (fresh capacity) before)).state body,
      m.step.StaysIn env f m.heap
  /-- The frames that have been opened in the body have been closed. -/
  ended {g : Frames} (hg : (after (fresh capacity)
    (untilEnd before env room body)).attached.get? env = some g) : g.depth = f.depth + 1

/-- An environment that has opened a frame has it over the others. -/
theorem openOver_of_opened {room : Int32} (hf : heap.attached.get? env = some f)
    (hopened : ((Operation.openFrame room).perform env heap).result = .ok .done) :
    ((Operation.openFrame room).perform env heap).state.OpenOver env f := by
  simp only [Operation.perform, Action.bind_pure_apply, state_openFrame]
  have hc : ¬ room < 0 := by
    intro hc
    simp [Operation.perform, Host.openFrame, host, pushFrame_of_neg hc] at hopened
  rw [pushFrame_of_attached hc hf]
  exact openOver_withFrames heap (Frames.over_push f)

/-- At the end of a scope its frame lies over the frames of before, which closing it gives back. -/
theorem Scope.exists_frames {capacity : Option Nat} {before body : List Step} {room : Int32}
    (hscope : Scope capacity before env f room body) :
    ∃ g, (after (fresh capacity) (untilEnd before env room body)).attached.get? env = some g ∧
      g.Over f ∧ g.pop? = some f := by
  have hstate : after (fresh capacity) (untilEnd before env room body) =
      after ((Operation.openFrame room).perform env (after (fresh capacity) before)).state
        body := by
    rw [untilEnd, after_append, after_cons, Step.perform_operate]
  have hopen := openOver_of_opened hscope.attached hscope.opened
  obtain ⟨g, hg, hover⟩ := openOver_after hscope.staysIn hopen
  rw [← hstate] at hg
  exact ⟨g, hg, hover, hover.pop?_eq (hscope.ended hg)⟩

/-- At the end of a scope its frame is closed and the environment has the frames of before, exactly.
A live object that is carried out has one local more in the innermost of them. What has a local in
these frames stays live as long as it has one, and collections leave it as it is. -/
theorem scope_restores_frames {capacity : Option Nat} {before body : List Step} {room : Int32}
    (hscope : Scope capacity before env f room body) {heap : Heap}
    (hheap : heap = after (fresh capacity) (untilEnd before env room body)) :
    Operation.closeFrame.perform env heap = ⟨.ok .done, heap.withFrames env f, []⟩ ∧
      (Operation.closeFrameWith none).perform env heap =
        ⟨.ok (.object none), heap.withFrames env f, []⟩ ∧
      (∀ id, heap.isLive id = true →
        (Operation.closeFrameWith (some id)).perform env heap =
          ⟨.ok (.object (some id)), heap.withFrames env (f.add id), []⟩) ∧
      ∀ x : Local, (∀ id, x = some id → heap.isLive id = true) →
        ∀ id, id ∈ f.locals ∨ x = some id → ∀ later : List Step,
          (∀ m ∈ history ((Operation.closeFrameWith x).perform env heap).state later,
            ∃ g, m.heap.attached.get? env = some g ∧ id ∈ g.locals) →
          (after ((Operation.closeFrameWith x).perform env heap).state later).isLive id = true ∧
            ∀ m ∈ history ((Operation.closeFrameWith x).perform env heap).state later,
              m.step = .collect → m.heap.isLive id = true ∧
                m.outcome.state.objects.get? id = m.heap.objects.get? id := by
  obtain ⟨g, hg, hover, hpop⟩ := hscope.exists_frames
  rw [← hheap] at hg
  have hclose : (host env).popFrame none heap = ⟨.ok none, heap.withFrames env f, []⟩ :=
    popFrame_null hg hpop
  have hcarry : ∀ id, heap.isLive id = true →
      (host env).popFrame (some id) heap =
        ⟨.ok (some id), heap.withFrames env (f.add id), []⟩ :=
    fun id hlive => popFrame_of_live hg hpop hlive
  have hnull : (Operation.closeFrameWith none).perform env heap =
      ⟨.ok (.object none), heap.withFrames env f, []⟩ := by
    simp [Operation.perform, Host.closeFrameWith, hclose]
  have hsome : ∀ id, heap.isLive id = true →
      (Operation.closeFrameWith (some id)).perform env heap =
        ⟨.ok (.object (some id)), heap.withFrames env (f.add id), []⟩ := by
    intro id hlive
    simp [Operation.perform, Host.closeFrameWith, hcarry id hlive]
  refine ⟨?_, hnull, hsome, ?_⟩
  · have hnone : (host env).null = none := rfl
    simp [Operation.perform, Host.closeFrame, hnone, hclose]
  · intro x hx id hid later hlocal
    refine kept_while_hasLocal ?_ hlocal
    have hlive : heap.isLive id = true := by
      rcases hid with hid | hid
      · have hroots : heap.RootsLive := by
          rw [hheap]
          exact rootsLive_after capacity _
        obtain ⟨upper, -, hlist⟩ := hover
        refine hroots id (.inl ⟨env, g, hg, ?_⟩)
        rw [Frames.locals, hlist, List.flatten_append]
        exact List.mem_append_right _ hid
      · exact hx id hid
    cases x with
    | none =>
      rw [hnull]
      exact hlive
    | some carried =>
      rw [hsome carried (hx carried rfl)]
      exact hlive

/-- A body in which an object is made, and another one in a frame of its own that is collected. -/
def bodyWithFrame : List Step :=
  [.operate 1 (.alloc "b"), .operate 1 (.pushFrame 2), .operate 1 (.alloc "c"),
    .operate 1 (.deleteLocal (some 3)), .operate 1 (.popFrame none), .collect]

/-- The object is carried out of the scope and outlives a collection. -/
theorem carried_object_outlives_scope :
    Scope none [.attach, .operate 1 (.alloc "a")] 1 ⟨[1], []⟩ 4 bodyWithFrame ∧
      (after (fresh none) (untilEnd [.attach, .operate 1 (.alloc "a")] 1 4 bodyWithFrame ++
        [.operate 1 (.closeFrameWith (some 2)), .collect])).isLive 2 = true := by
  have hscope : Scope none [.attach, .operate 1 (.alloc "a")] 1 ⟨[1], []⟩ 4 bodyWithFrame := by
    refine ⟨rfl, rfl, by decide, ?_⟩
    rintro g hg
    cases hg
    rfl
  have hlive : ∀ id, some (2 : ObjectId) = some id → (after (fresh none) (untilEnd
      [.attach, .operate 1 (.alloc "a")] 1 4 bodyWithFrame)).isLive id = true := by
    rintro id ⟨⟩
    decide
  refine ⟨hscope, ?_⟩
  rw [after_append, after_cons, Step.perform_operate]
  refine ((scope_restores_frames hscope rfl).2.2.2 (some 2) hlive 2 (.inr rfl) [.collect] ?_).1
  intro m hm
  rw [List.mem_singleton.mp hm]
  exact ⟨⟨[2, 1], []⟩, rfl, by decide⟩

end DurableRefs.Heap
