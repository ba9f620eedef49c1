import DurableRefs.Proofs.Heap.Locals

/-!
# Guards of frames

A guard opens a frame of its environment when it is pushed, and closes a frame of it when it ends:
when it is dropped, or when it carries a local out. The guards of an environment may end in any
order. Each of them closes the frame that is innermost at that time, so which frame a guard closes
depends on the others. But if nobody else opens and closes frames of the environment, it always has
as many frames over its base frame as guards that have not ended.
-/

namespace DurableRefs.Heap

variable {heap : Heap} {env other : EnvId} {f g : Frames} {step : Step}
  {operation : Operation Local Handle Int64}

/-! ### Moves -/

/-- A heap and the guards that have been pushed on it. -/
structure Guarded where
  /-- The heap. -/
  heap : Heap
  /-- The guards in the order in which they were pushed. Each one is kept as its environment, until
  it ends. -/
  guards : List (Option EnvId) := []

/-- The environment of a guard that has not ended. -/
def Guarded.owner? (s : Guarded) (guard : Nat) : Option EnvId := s.guards[guard]?.join

/-- One thing that happens to a heap and its guards. -/
inductive Move where
  /-- A step of which no guard knows. -/
  | step (step : Step)
  /-- A guard is pushed in an environment. Unless it says how many locals its frame has room for,
  there is the default capacity. -/
  | push (env : EnvId) (room : Option Int32)
  /-- A guard ends. It is dropped, or it carries a local out. -/
  | finish (guard : Nat) (carried : Option Local)

/-- The operation by which a guard ends. -/
def closing : Option Local → Operation Local Handle Int64
  | none => .closeFrame
  | some x => .closeFrameWith x

/-- The step of the heap in a move. There is none for a guard that has ended. -/
def Move.step? (s : Guarded) : Move → Option Step
  | .step step => some step
  | .push env room => some (.operate env (.openFrame (room.getD Host.defaultCapacity)))
  | .finish guard carried => (s.owner? guard).map fun env => .operate env (closing carried)

/-- The guards after a move, the step of which has ended in some way. A guard is there once its
frame has been opened. One that ends is there no longer, whatever comes of its step. -/
def Move.guardsAfter (s : Guarded) (result : Except Fault Reply) : Move → List (Option EnvId)
  | .step _ => s.guards
  | .push env _ =>
    match result with
    | .ok _ => s.guards ++ [some env]
    | .error _ => s.guards
  | .finish guard _ => s.guards.set guard none

/-- What a move leaves behind. -/
def Guarded.perform (s : Guarded) (move : Move) : Guarded :=
  match move.step? s with
  | none => s
  | some step =>
    { heap := (step.perform s.heap).state
      guards := move.guardsAfter s (step.perform s.heap).result }

/-- What a run of moves leaves behind. -/
def Guarded.after (s : Guarded) : List Move → Guarded
  | [] => s
  | move :: rest => (s.perform move).after rest

/-- The moves of a run, each with the heap and the guards that it found. -/
def Guarded.history (s : Guarded) : List Move → List (Guarded × Move)
  | [] => []
  | move :: rest => (s, move) :: (s.perform move).history rest

/-- The heap on which an environment has just been attached. It has no guards yet. -/
def Guarded.attached (start : Heap) : Guarded := { heap := start.withEnvironment }

/-! ### Who opens and closes frames -/

/-- Whether an operation opens a frame. -/
def Operation.opens {L H W : Type} : Operation L H W → Bool
  | .pushFrame _ | .openFrame _ => true
  | _ => false

/-- A step leaves an environment attached, and opens and closes no frame of it. -/
def Step.LeavesDepth (env : EnvId) (heap : Heap) : Step → Prop
  | .operate other operation =>
    other = env → operation.opens = false ∧ operation.closes = false
  | step => step.LeavesAttached env heap

/-- Frames of an environment are opened and closed by guards only. -/
def Move.LeavesDepth (env : EnvId) (s : Guarded) : Move → Prop
  | .step step => step.LeavesDepth env s.heap
  | _ => True

instance (env : EnvId) (heap : Heap) : (step : Step) → Decidable (step.LeavesDepth env heap)
  | .operate _ _ => inferInstanceAs (Decidable (_ → _))
  | .attach => inferInstanceAs (Decidable (_ ≠ _))
  | .detach _ => inferInstanceAs (Decidable (_ ≠ _))
  | .collect => .isTrue trivial

instance (env : EnvId) (s : Guarded) : (move : Move) → Decidable (move.LeavesDepth env s)
  | .step step => inferInstanceAs (Decidable (step.LeavesDepth env s.heap))
  | .push _ _ => .isTrue trivial
  | .finish _ _ => .isTrue trivial

/-- A step that leaves the depth of an environment leaves the environment attached. -/
theorem Step.LeavesDepth.leavesAttached (h : step.LeavesDepth env heap) :
    step.LeavesAttached env heap := by
  cases step with
  | operate other operation => trivial
  | attach | detach other | collect => exact h

/-- An operation that opens and closes no frame leaves as many as there were. -/
theorem Operation.depth_reframe (hopens : operation.opens = false)
    (hcloses : operation.closes = false) (f : Frames) :
    (operation.reframe f).depth = f.depth := by
  cases operation with
  | pushFrame room | openFrame room => cases hopens
  | popFrame x | closeFrameWith x => cases hcloses
  | closeFrame => cases hcloses
  | deleteLocal x =>
    cases x with
    | none => rfl
    | some id =>
      rw [reframe_deleteLocal_some]
      cases hg : f.remove? id with
      | none => rfl
      | some g =>
        have hlacks : f.LacksNewest id g := Frames.lacksNewest_of_remove?_eq_some hg
        exact hlacks.depth_eq
  | _ => rfl

/-- A step that leaves the depth of an environment leaves as many frames as there were. -/
theorem Step.LeavesDepth.depth_eq (h : step.LeavesDepth env heap) (f : Frames) :
    (step.reframe env heap f).depth = f.depth := by
  cases step with
  | attach | detach other | collect => rfl
  | operate other operation =>
    by_cases hother : other = env
    · obtain ⟨hopens, hcloses⟩ := h hother
      rw [Step.reframe, if_pos hother, Frames.depth_receive]
      exact Operation.depth_reframe hopens hcloses f
    · rw [Step.reframe, if_neg hother]

/-- Where there are two frames or more, one can be closed. -/
theorem Frames.exists_pop? (h : 1 < f.depth) : ∃ g, f.pop? = some g ∧ f.depth = g.depth + 1 := by
  have hsome : f.pop? ≠ none := by
    intro hnone
    have hbase := Frames.pop?_eq_none_iff.mp hnone
    omega
  obtain ⟨g, hg⟩ := Option.ne_none_iff_exists'.mp hsome
  exact ⟨g, hg, congrArg List.length (Frames.toList_of_pop?_eq_some hg)⟩

/-- A guard that ends closes the innermost frame if there is another one around it, and what it
hands out is the local that it carries, or null. -/
theorem perform_closing (hf : heap.attached.get? env = some f) (hg : f.pop? = some g)
    (carried : Option Local) :
    ∃ a, (closing carried).perform env heap =
        ⟨.ok a, heap.withFrames env (g.receive a.handedOut), []⟩ ∧
      (a.handedOut = none ∨ carried = some a.handedOut) := by
  cases carried with
  | none =>
    have hnull : (host env).popFrame (host env).null heap =
        ⟨.ok none, heap.withFrames env g, []⟩ := popFrame_null hf hg
    refine ⟨.done, ?_, .inl rfl⟩
    simp [closing, Operation.perform, Host.closeFrame, hnull, Frames.receive, Answer.handedOut]
  | some x =>
    obtain ⟨y, hpop, hy⟩ := popFrame_of_pop? hf hg x
    have hcarry : (host env).popFrame x heap =
        ⟨.ok y, heap.withFrames env (g.receive y), []⟩ := hpop
    have hcarried : y = none ∨ some x = some y := hy.imp_right fun h => congrArg some h.symm
    refine ⟨.object y, ?_, hcarried⟩
    simp [closing, Operation.perform, Host.closeFrameWith, hcarry, Answer.handedOut]

/-- A guard is pushed exactly if there can be room in its frame. -/
theorem result_openFrame (hf : heap.attached.get? env = some f) (room : Int32) :
    ((Operation.openFrame room).perform env heap).result =
      if room < 0 then .error (.fatal HostFailure.noFrame.message) else .ok .done := by
  by_cases hroom : room < 0
  · have hpush : (host env).pushFrame room heap = ⟨.ok false, heap, []⟩ := pushFrame_of_neg hroom
    have hopen : ((host env).openFrame room heap).result =
        .error (.fatal HostFailure.noFrame.message) := by
      rw [Host.openFrame, Action.bind_of_ok hpush]
      simp [host]
    rw [if_pos hroom, Operation.perform, Action.result_bind_pure_eq_error_iff]
    exact hopen
  · have hpush : (host env).pushFrame room heap =
        ⟨.ok true, heap.withFrames env f.push, []⟩ := pushFrame_of_attached hroom hf
    have hopen : ((host env).openFrame room heap).result = .ok () := by
      rw [Host.openFrame, Action.bind_of_ok hpush]
      simp
    rw [if_neg hroom, Operation.perform, Action.result_bind_pure_eq_ok_iff]
    exact ⟨(), hopen, rfl⟩

/-! ### The invariant -/

namespace Guarded

variable {s : Guarded} {guard : Nat} {move : Move}

/-- An environment has its base frame and a frame for each of its guards. -/
def Tracks (s : Guarded) (env : EnvId) : Prop :=
  ∃ f, s.heap.attached.get? env = some f ∧ f.depth = 1 + s.guards.count (some env)

/-- When a guard has ended, its environment has one guard less and the others have theirs. -/
theorem count_set_none (howner : s.owner? guard = some other) (env : EnvId) :
    (s.guards.set guard none).count (some env) + (if other = env then 1 else 0) =
      s.guards.count (some env) := by
  have hguard : s.guards[guard]? = some (some other) := Option.join_eq_some_iff.mp howner
  obtain ⟨hlt, hget⟩ := List.getElem?_eq_some_iff.mp hguard
  have hset := List.count_set (a := none) (b := some env) hlt
  rw [hget] at hset
  have hnone : ((none : Option EnvId) == some env) = false := rfl
  rw [hnone] at hset
  by_cases hother : other = env
  · subst hother
    have hpos : 0 < s.guards.count (some other) := by
      rw [List.count_pos_iff, ← hget]
      exact List.getElem_mem hlt
    simp only [beq_self_eq_true, if_true, Bool.false_eq_true, if_false] at hset
    rw [if_pos rfl]
    omega
  · have hne : (some other == some env) = false := by simp [hother]
    simp only [hne, Bool.false_eq_true, if_false] at hset
    rw [if_neg hother]
    omega

/-- A guard that has not ended has a frame over the base frame. -/
theorem exists_pop?_of_owner? (hdepth : f.depth = 1 + s.guards.count (some env))
    (howner : s.owner? guard = some env) : ∃ g, f.pop? = some g ∧ f.depth = g.depth + 1 := by
  have hcount := count_set_none howner env
  rw [if_pos rfl] at hcount
  apply Frames.exists_pop?
  omega

/-- When a guard is pushed, a frame of its environment is opened. -/
theorem perform_push (s : Guarded) (env : EnvId) (room : Option Int32) :
    s.perform (.push env room) =
      { heap := ((Operation.openFrame (room.getD Host.defaultCapacity)).perform env s.heap).state
        guards := (Move.push env room).guardsAfter s
          (((Operation.openFrame (room.getD Host.defaultCapacity)).perform env s.heap).result.map
            .answer) } := by
  simp only [perform, Move.step?, Step.perform_operate]

/-- When a guard ends, it makes the step that it ends with. -/
theorem perform_finish (howner : s.owner? guard = some env) (carried : Option Local) :
    s.perform (.finish guard carried) =
      { heap := ((closing carried).perform env s.heap).state
        guards := s.guards.set guard none } := by
  simp only [perform, Move.step?, howner, Option.map_some, Move.guardsAfter,
    Step.perform_operate]

/-- A pushed guard is one more of its environment if its frame has been opened. -/
theorem Tracks.push (hf : s.heap.attached.get? env = some f)
    (hdepth : f.depth = 1 + s.guards.count (some env)) (room : Option Int32) :
    (s.perform (.push env room)).Tracks env := by
  have hframes := Operation.reframes_perform (.openFrame (room.getD Host.defaultCapacity)) env f
    s.heap hf
  have hresult := result_openFrame hf (room.getD Host.defaultCapacity)
  rw [perform_push]
  refine ⟨_, hframes, ?_⟩
  rw [Frames.depth_receive, Operation.reframe_openFrame, hresult]
  by_cases hroom : room.getD Host.defaultCapacity < 0
  · simp only [hroom, if_true, Except.map, Move.guardsAfter]
    exact hdepth
  · have hpush : f.push.depth = f.depth + 1 := rfl
    have hmore : (s.guards ++ [some env]).count (some env) = s.guards.count (some env) + 1 := by
      rw [List.count_append, List.count_singleton_self]
    simp only [hroom, if_false, Except.map, Move.guardsAfter]
    omega

/-- A guard that ends closes a frame and is one less of its environment. -/
theorem Tracks.finish (hf : s.heap.attached.get? env = some f)
    (hdepth : f.depth = 1 + s.guards.count (some env)) (howner : s.owner? guard = some env)
    (carried : Option Local) : (s.perform (.finish guard carried)).Tracks env := by
  obtain ⟨g, hg, hless⟩ := exists_pop?_of_owner? hdepth howner
  obtain ⟨a, hclosing, -⟩ := perform_closing hf hg carried
  have hcount := count_set_none howner env
  rw [if_pos rfl] at hcount
  rw [perform_finish howner, hclosing]
  refine ⟨g.receive a.handedOut, get?_attached_withFrames s.heap env _, ?_⟩
  have hdepth' : (g.receive a.handedOut).depth = g.depth := g.depth_receive a.handedOut
  dsimp only
  omega

/-- What an operation of another environment does leaves the frames. -/
theorem attached_perform_of_ne (hother : other ≠ env) (operation : Operation Local Handle Int64)
    (heap : Heap) :
    (operation.perform other heap).state.attached.get? env = heap.attached.get? env := by
  have hchange := (Step.operate other operation).change heap
  rw [Step.perform_operate] at hchange
  exact hchange.attached_eq_of_ne (Ne.symm hother)

/-- A guard that is pushed in one environment is none of another. -/
theorem Tracks.push_of_ne (h : s.Tracks env) (hother : other ≠ env) (room : Option Int32) :
    (s.perform (.push other room)).Tracks env := by
  obtain ⟨f, hf, hdepth⟩ := h
  rw [perform_push]
  refine ⟨f, ?_, ?_⟩
  · rw [attached_perform_of_ne hother]
    exact hf
  · have hne : (some other == some env) = false := by simp [hother]
    have hcount : (s.guards ++ [some other]).count (some env) = s.guards.count (some env) := by
      rw [List.count_append, List.count_singleton, hne]
      rfl
    cases hresult : ((Operation.openFrame (room.getD Host.defaultCapacity)).perform other
        s.heap).result with
    | ok a =>
      simp only [Except.map, Move.guardsAfter, hcount]
      exact hdepth
    | error e =>
      simp only [Except.map, Move.guardsAfter]
      exact hdepth

/-- A guard that ends in one environment is none of another. -/
theorem Tracks.finish_of_ne (h : s.Tracks env) (hother : other ≠ env)
    (howner : s.owner? guard = some other) (carried : Option Local) :
    (s.perform (.finish guard carried)).Tracks env := by
  obtain ⟨f, hf, hdepth⟩ := h
  have hcount := count_set_none howner env
  rw [if_neg hother] at hcount
  rw [perform_finish howner]
  refine ⟨f, ?_, ?_⟩
  · rw [attached_perform_of_ne hother]
    exact hf
  · dsimp only
    omega

/-- The environment has the frames for its guards after every move that leaves its frames to
them. -/
theorem Tracks.perform (h : s.Tracks env) (hmove : move.LeavesDepth env s) :
    (s.perform move).Tracks env := by
  cases move with
  | step step =>
    obtain ⟨f, hf, hdepth⟩ := h
    have hframes := Step.attached_perform hmove.leavesAttached hf
    refine ⟨_, hframes, ?_⟩
    rw [hmove.depth_eq]
    exact hdepth
  | push other room =>
    by_cases hother : other = env
    · subst hother
      obtain ⟨f, hf, hdepth⟩ := h
      exact Tracks.push hf hdepth room
    · exact h.push_of_ne hother room
  | finish guard carried =>
    cases howner : s.owner? guard with
    | none =>
      have hsame : s.perform (.finish guard carried) = s := by
        simp only [Guarded.perform, Move.step?, howner, Option.map_none]
      rw [hsame]
      exact h
    | some other =>
      by_cases hother : other = env
      · subst hother
        obtain ⟨f, hf, hdepth⟩ := h
        exact Tracks.finish hf hdepth howner carried
      · exact h.finish_of_ne hother howner carried

/-- The environment has the frames for its guards after every run that leaves its frames to them. -/
theorem Tracks.after {moves : List Move} (h : s.Tracks env)
    (hmoves : ∀ m ∈ s.history moves, m.2.LeavesDepth env m.1) : (s.after moves).Tracks env := by
  induction moves generalizing s with
  | nil => exact h
  | cons move rest ih =>
    rw [history, List.forall_mem_cons] at hmoves
    have hfirst : (s.perform move).Tracks env := h.perform hmoves.1
    exact ih hfirst hmoves.2

/-- An environment that has just been attached has its base frame and no guards. -/
theorem tracks_attached (start : Heap) : (attached start).Tracks start.nextEnv := by
  refine ⟨Frames.base, ?_, rfl⟩
  exact Table.get?_insert_self _ _ _

end Guarded

/-! ### Guards in any order -/

/-- In a run in which the frames of an environment are opened and closed by guards only, from its
attachment on, the environment always has one frame more than guards that have not ended, in
whatever order guards have ended, and whether or not some could not be pushed. So a guard that ends,
whichever it is, always finds a frame over the base frame. It closes this one frame of its
environment and leaves those of the others. -/
theorem depth_tracks_guards (start : Heap) {env : EnvId} (henv : env = start.nextEnv)
    {moves : List Move} {s : Guarded} (hs : s = (Guarded.attached start).after moves)
    (hmoves : ∀ m ∈ (Guarded.attached start).history moves, m.2.LeavesDepth env m.1) :
    ∃ f, s.heap.attached.get? env = some f ∧ f.depth = 1 + s.guards.count (some env) ∧
      (∀ guard, s.owner? guard = some env → ∀ carried, ∃ g a,
        f.pop? = some g ∧ f.depth = g.depth + 1 ∧
        (closing carried).perform env s.heap =
          ⟨.ok a, s.heap.withFrames env (g.receive a.handedOut), []⟩ ∧
        (a.handedOut = none ∨ carried = some a.handedOut) ∧
        s.perform (.finish guard carried) =
          { heap := s.heap.withFrames env (g.receive a.handedOut)
            guards := s.guards.set guard none }) ∧
      ∀ guard other, s.owner? guard = some other → other ≠ env → ∀ carried,
        (s.perform (.finish guard carried)).heap.attached.get? env = some f := by
  have htracks : s.Tracks env := by
    rw [hs, henv]
    rw [henv] at hmoves
    exact (Guarded.tracks_attached start).after hmoves
  obtain ⟨f, hf, hdepth⟩ := htracks
  refine ⟨f, hf, hdepth, ?_, ?_⟩
  · intro guard howner carried
    obtain ⟨g, hg, hless⟩ := Guarded.exists_pop?_of_owner? hdepth howner
    obtain ⟨a, hclosing, hcarried⟩ := perform_closing hf hg carried
    have hafter := Guarded.perform_finish howner carried
    rw [hclosing] at hafter
    exact ⟨g, a, hg, hless, hclosing, hcarried, hafter⟩
  · intro guard other howner hother carried
    rw [Guarded.perform_finish howner, Guarded.attached_perform_of_ne hother]
    exact hf

/-- Three guards of an environment, one of which could not be pushed, with another environment
attached and at work in between. The outer guard ends first and carries an object out. -/
def crossing : List Move :=
  [.push 1 (some 4), .step .attach, .step (.operate 1 (.alloc "a")), .push 2 none,
    .push 1 (some (-1)), .push 1 none, .step (.operate 2 (.popFrame none)),
    .step (.operate 1 (.alloc "b")), .finish 0 (some (some 2)), .finish 0 none]

/-- When an outer guard has ended, the inner one is left, with one frame over the base frame, which
it closes when it ends too. -/
theorem inner_guard_ends_last :
    (∀ m ∈ (Guarded.attached (fresh none)).history crossing, m.2.LeavesDepth 1 m.1) ∧
    ((Guarded.attached (fresh none)).after crossing).heap.attached.get? 1 =
      some ⟨[2, 1], [[]]⟩ ∧
    ((Guarded.attached (fresh none)).after crossing).guards = [none, some 2, some 1] ∧
    ∃ a, Operation.closeFrame.perform 1 ((Guarded.attached (fresh none)).after crossing).heap =
      ⟨.ok a,
        ((Guarded.attached (fresh none)).after crossing).heap.withFrames 1 ⟨[], []⟩, []⟩ := by
  have henv : (1 : EnvId) = (fresh none).nextEnv := rfl
  have hmoves : ∀ m ∈ (Guarded.attached (fresh none)).history crossing,
      m.2.LeavesDepth 1 m.1 := by decide
  have hframes : ((Guarded.attached (fresh none)).after crossing).heap.attached.get? 1 =
      some ⟨[2, 1], [[]]⟩ := by decide
  obtain ⟨f, hf, -, hends, -⟩ := depth_tracks_guards (fresh none) henv rfl hmoves
  obtain ⟨g, a, hg, -, hclosing, hcarried, -⟩ := hends 2 (by decide) none
  have hnull : a.handedOut = none := hcarried.resolve_right nofun
  rw [hframes] at hf
  obtain rfl : (⟨[2, 1], [[]]⟩ : Frames) = f := Option.some.inj hf
  obtain rfl : (⟨[], []⟩ : Frames) = g := Option.some.inj hg
  rw [hnull] at hclosing
  exact ⟨hmoves, hframes, by decide, a, hclosing⟩

end DurableRefs.Heap
