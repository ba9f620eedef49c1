import DurableRefs.Proofs.Heap.Reframes
import Mathlib.Data.List.Induction

/-!
# The account of an object's locals

An environment can have several locals for one object, in one frame or in several. Deleting a local
takes the newest of them away and leaves every other local in its place. So the locals for an object
can be counted along a run: what was there and what has been handed out since is what is there and
what has been deleted or has gone with its frame. The environment roots the object until nothing is
left in this account.
-/

namespace DurableRefs.Heap

variable {heap : Heap} {env : EnvId} {f g : Frames} {id : ObjectId} {step : Step}
  {steps : List Step}

namespace Frames

/-! ### The newest local of an object -/

/-- The objects of all locals, the oldest first: the frames from the base frame to the innermost
one, and in each of them the locals in the order in which they were made. -/
def byAge (f : Frames) : List ObjectId := f.toList.reverse.flatMap List.reverse

/-- The objects by age are the objects of the locals, the other way round. -/
theorem byAge_eq_reverse_locals (f : Frames) : f.byAge = f.locals.reverse := by
  rw [byAge, locals, List.reverse_flatten, List.flatMap_def, List.map_reverse]

/-- Some frames are others without the newest local of an object. All other locals are in their
frames and in their order. -/
def LacksNewest (f : Frames) (id : ObjectId) (g : Frames) : Prop :=
  ∃ inner newer older outer, f.toList = inner ++ (newer ++ id :: older) :: outer ∧
    g.toList = inner ++ (newer ++ older) :: outer ∧ id ∉ inner.flatten ∧ id ∉ newer

/-- Removing the newest local takes it out of the first frame that has one. -/
theorem exists_of_removeNewest?_eq_some {fs gs : List (List ObjectId)}
    (h : removeNewest? id fs = some gs) :
    ∃ inner newer older outer, fs = inner ++ (newer ++ id :: older) :: outer ∧
      gs = inner ++ (newer ++ older) :: outer ∧ id ∉ inner.flatten ∧ id ∉ newer := by
  induction fs generalizing gs with
  | nil => simp [removeNewest?] at h
  | cons frame rest ih =>
    by_cases hid : id ∈ frame
    · have hgs : frame.erase id :: rest = gs := by simpa [removeNewest?, hid] using h
      obtain ⟨newer, older, hnewer, hframe, herase⟩ := List.exists_erase_eq hid
      refine ⟨[], newer, older, rest, ?_, ?_, by simp, hnewer⟩
      · rw [List.nil_append, hframe]
      · rw [List.nil_append, ← hgs, herase]
    · simp only [removeNewest?, hid, if_false, Option.map_eq_some_iff] at h
      obtain ⟨gs', hgs', rfl⟩ := h
      obtain ⟨inner, newer, older, outer, hfs, hlater, hinner, hnewer⟩ := ih hgs'
      refine ⟨frame :: inner, newer, older, outer, ?_, ?_, ?_, hnewer⟩
      · rw [hfs, List.cons_append]
      · rw [hlater, List.cons_append]
      · rw [List.flatten_cons, List.mem_append, not_or]
        exact ⟨hid, hinner⟩

/-- Deleting a local takes away the newest one of the object. -/
theorem lacksNewest_of_remove?_eq_some (hg : f.remove? id = some g) : f.LacksNewest id g := by
  have hlist : removeNewest? id f.toList = some g.toList := by
    rw [← map_toList_remove?, hg, Option.map_some]
  exact exists_of_removeNewest?_eq_some hlist

namespace LacksNewest

/-- No frame has gone. -/
theorem depth_eq (hlacks : f.LacksNewest id g) : g.depth = f.depth := by
  obtain ⟨inner, newer, older, outer, hf, hg, -, -⟩ := hlacks
  simp only [depth, hf, hg, List.length_append, List.length_cons]

/-- One local has gone. -/
theorem count_eq (hlacks : f.LacksNewest id g) : g.count + 1 = f.count := by
  obtain ⟨inner, newer, older, outer, hf, hg, -, -⟩ := hlacks
  simp only [count, locals, hf, hg, List.flatten_append, List.flatten_cons, List.length_append,
    List.length_cons]
  omega

/-- By age, the last occurrence of the object has gone. -/
theorem byAge_eq (hlacks : f.LacksNewest id g) :
    ∃ before after, f.byAge = before ++ id :: after ∧ id ∉ after ∧
      g.byAge = before ++ after := by
  obtain ⟨inner, newer, older, outer, hf, hg, hinner, hnewer⟩ := hlacks
  refine ⟨(older ++ outer.flatten).reverse, (inner.flatten ++ newer).reverse, ?_, ?_, ?_⟩
  · simp [byAge_eq_reverse_locals, locals, hf]
  · simp only [List.mem_reverse, List.mem_append, not_or]
    exact ⟨hinner, hnewer⟩
  · simp [byAge_eq_reverse_locals, locals, hg]

end LacksNewest

end Frames

/-! ### Deleting a local -/

/-- What a heap has become when the newest local of an object has been deleted from the frames of an
environment. -/
structure DeletesNewest (heap : Heap) (env : EnvId) (f : Frames) (id : ObjectId) (later : Heap) :
    Prop where
  /-- By age, the last occurrence of the object has gone from the frames. They are as many as they
  were, all other locals are in their frames and in their order, and there is one local less. -/
  frames : ∃ g, later.attached.get? env = some g ∧ f.LacksNewest id g ∧
    (∃ before after, f.byAge = before ++ id :: after ∧ id ∉ after ∧ g.byAge = before ++ after) ∧
    g.depth = f.depth ∧ g.count + 1 = f.count
  /-- Every other environment has the frames that it had. -/
  others : ∀ other, other ≠ env → later.attached.get? other = heap.attached.get? other
  /-- All else is as it was. -/
  rest : later = { heap with attached := later.attached }

/-- An environment that has a local for an object deletes the newest one. -/
theorem perform_deleteLocal_of_mem (hf : heap.attached.get? env = some f) (hid : id ∈ f.locals) :
    ∃ later, (Operation.deleteLocal (some id)).perform env heap = ⟨.ok .done, later, []⟩ ∧
      heap.DeletesNewest env f id later := by
  have hsome : f.remove? id ≠ none := by
    intro hnone
    exact Frames.remove?_eq_none_iff.mp hnone hid
  obtain ⟨g, hg⟩ := Option.ne_none_iff_exists'.mp hsome
  have hlacks : f.LacksNewest id g := Frames.lacksNewest_of_remove?_eq_some hg
  refine ⟨heap.withFrames env g, ?_, ?_⟩
  · simp only [Operation.perform, Action.bind_pure_apply, deleteLocal_of_remove? hf hg, Except.map]
  · constructor
    · have hget : (heap.withFrames env g).attached.get? env = some g :=
        get?_attached_withFrames heap env g
      exact ⟨g, hget, hlacks, hlacks.byAge_eq, hlacks.depth_eq, hlacks.count_eq⟩
    · intro other hother
      rw [withFrames_attached, Table.get?_insert_of_ne hother]
    · rfl

/-- An environment that has no local for an object deletes nothing, whoever else has one. -/
theorem perform_deleteLocal_of_notMem (hf : heap.attached.get? env = some f)
    (hid : id ∉ f.locals) :
    (Operation.deleteLocal (some id)).perform env heap =
      ⟨.error (.misuse (.unknownLocal id)), heap, []⟩ := by
  have hnone : f.remove? id = none := Frames.remove?_eq_none_iff.mpr hid
  simp only [Operation.perform, Action.bind_pure_apply, deleteLocal_of_unknown hf hnone, Except.map]

/-! ### The account -/

/-- The number of locals for an object that an operation takes away from the frames of its
environment: one if it deletes a local, and those of the innermost frame if it closes that frame. -/
def Operation.taken (f : Frames) (id : ObjectId) : Operation Local Handle Int64 → Nat
  | .deleteLocal x => if x = some id ∧ id ∈ f.locals then 1 else 0
  | .popFrame _ | .closeFrame | .closeFrameWith _ =>
    if 1 < f.depth then f.innermost.count id else 0
  | _ => 0

/-- A frame that is closed takes its locals away, and the base frame is not closed. -/
theorem Frames.count_pop?_add_count (f : Frames) (id : ObjectId) :
    (f.pop?.getD f).locals.count id + (if 1 < f.depth then f.innermost.count id else 0) =
      f.locals.count id := by
  cases hg : f.pop? with
  | none =>
    have hbase : f.depth = 1 := Frames.pop?_eq_none_iff.mp hg
    simp [hbase]
  | some g =>
    have hne : f.depth ≠ 1 := by
      intro hbase
      rw [Frames.pop?_eq_none_iff.mpr hbase] at hg
      cases hg
    have hpos := f.depth_pos
    have hmore : 1 < f.depth := by omega
    have hlocals : f.locals = f.innermost ++ g.locals := by
      rw [Frames.locals, Frames.toList_of_pop?_eq_some hg, List.flatten_cons]
      rfl
    rw [if_pos hmore, hlocals, List.count_append, Option.getD_some]
    omega

/-- A local that is deleted is one less for its object, and none for any other. -/
theorem Frames.count_remove?_add_taken (f : Frames) (deleted id : ObjectId) :
    ((f.remove? deleted).getD f).locals.count id +
      (if some deleted = some id ∧ id ∈ f.locals then 1 else 0) = f.locals.count id := by
  cases hg : f.remove? deleted with
  | none =>
    have hdeleted : deleted ∉ f.locals := Frames.remove?_eq_none_iff.mp hg
    have hnone : ¬ (some deleted = some id ∧ id ∈ f.locals) := by
      rintro ⟨heq, hid⟩
      rw [Option.some.inj heq] at hdeleted
      exact hdeleted hid
    rw [if_neg hnone, Option.getD_none]
    omega
  | some g =>
    have hdeleted : deleted ∈ f.locals := by
      by_contra hnot
      rw [Frames.remove?_eq_none_iff.mpr hnot] at hg
      cases hg
    rw [Option.getD_some, Frames.locals_of_remove?_eq_some hg, List.count_erase]
    by_cases heq : deleted = id
    · subst heq
      have hpos : 0 < f.locals.count deleted := List.count_pos_iff.mpr hdeleted
      have hsome : some deleted = some deleted ∧ deleted ∈ f.locals := ⟨rfl, hdeleted⟩
      rw [if_pos hsome, if_pos (beq_self_eq_true deleted)]
      omega
    · have hnone : ¬ (some deleted = some id ∧ id ∈ f.locals) := by
        rintro ⟨hsome, -⟩
        exact heq (Option.some.inj hsome)
      have hbeq : (deleted == id) = false := beq_eq_false_iff_ne.mpr heq
      rw [if_neg hnone, hbeq]
      simp

/-- What an operation leaves of the locals for an object and what it takes away were there. -/
theorem Operation.count_reframe_add_taken (operation : Operation Local Handle Int64) (f : Frames)
    (id : ObjectId) :
    (operation.reframe f).locals.count id + operation.taken f id = f.locals.count id := by
  have hopened : ∀ room : Int32,
      (if room < 0 then f else f.push).locals.count id = f.locals.count id := by
    intro room
    split
    · rfl
    · rw [Frames.locals_push]
  cases operation with
  | deleteLocal x =>
    cases x with
    | none => rfl
    | some deleted => exact f.count_remove?_add_taken deleted id
  | pushFrame room | openFrame room => exact hopened room
  | popFrame x | closeFrameWith x => exact f.count_pop?_add_count id
  | closeFrame => exact f.count_pop?_add_count id
  | _ => rfl

/-- The number of locals for an object that the step of a moment takes away from an environment. -/
def Moment.taken (env : EnvId) (id : ObjectId) (m : Moment) : Nat :=
  match m.step, m.heap.attached.get? env with
  | .operate other operation, some f => if other = env then operation.taken f id else 0
  | _, _ => 0

/-- The number of locals for an object that the step of a moment gives an environment. -/
def Moment.gained (env : EnvId) (id : ObjectId) (m : Moment) : Nat :=
  match m.step with
  | .operate other operation =>
    if other = env ∧
        handedOut Answer.handedOut (operation.perform env m.heap).result = some id then 1
    else 0
  | _ => 0

/-- The locals for an object that an environment loses in a run. -/
def takenIn (env : EnvId) (id : ObjectId) (moments : List Moment) : Nat :=
  moments.foldr (fun m lost => m.taken env id + lost) 0

/-- The locals for an object that an environment is given in a run. -/
def gainedIn (env : EnvId) (id : ObjectId) (moments : List Moment) : Nat :=
  moments.foldr (fun m given => m.gained env id + given) 0

/-- The account of one step: the locals that are left and those that are taken away are those that
were there and the one that is handed out. -/
theorem Step.count_reframe (hf : heap.attached.get? env = some f) (id : ObjectId) (step : Step) :
    (step.reframe env heap f).locals.count id + (⟨heap, step⟩ : Moment).taken env id =
      f.locals.count id + (⟨heap, step⟩ : Moment).gained env id := by
  cases step with
  | attach | detach other | collect => rfl
  | operate other operation =>
    by_cases hother : other = env
    · subst hother
      have htaken := operation.count_reframe_add_taken f id
      simp only [Step.reframe, Moment.taken, Moment.gained, hf, if_true, true_and,
        Frames.count_locals_receive]
      omega
    · simp only [Step.reframe, Moment.taken, Moment.gained, hf, hother, if_false, false_and]

/-- The account of a run. -/
theorem count_after (hf : heap.attached.get? env = some f) (id : ObjectId)
    (hstays : ∀ m ∈ history heap steps, m.step.LeavesAttached env m.heap) :
    ∃ g, (after heap steps).attached.get? env = some g ∧
      g.locals.count id + takenIn env id (history heap steps) =
        f.locals.count id + gainedIn env id (history heap steps) := by
  induction steps generalizing heap f with
  | nil => exact ⟨f, hf, rfl⟩
  | cons step rest ih =>
    rw [history_cons, List.forall_mem_cons] at hstays
    have hstep := Step.attached_perform hstays.1 hf
    obtain ⟨g, hg, hrest⟩ := ih hstep hstays.2
    have hfirst := Step.count_reframe hf id step
    refine ⟨g, hg, ?_⟩
    simp only [takenIn, gainedIn, history_cons, List.foldr_cons] at hrest ⊢
    omega

/-! ### What the account says -/

/-- After a collection an object is there exactly if an environment, which is known, or another one
has a local for it, or there is a strong reference to it. -/
theorem isLive_swept_iff_of_rootsLive (hroots : heap.RootsLive)
    (hf : heap.attached.get? env = some f) :
    heap.swept.isLive id = true ↔ id ∈ f.locals ∨
      (∃ other g, other ≠ env ∧ heap.attached.get? other = some g ∧ id ∈ g.locals) ∨
      heap.HasStrong id := by
  rw [isLive_swept_iff]
  constructor
  · rintro ⟨-, ⟨other, g, hg, hid⟩ | hstrong⟩
    · by_cases hother : other = env
      · rw [hother, hf] at hg
        rw [← Option.some.inj hg] at hid
        exact .inl hid
      · exact .inr (.inl ⟨other, g, hother, hg, hid⟩)
    · exact .inr (.inr hstrong)
  · intro hroot
    have hrooted : heap.IsRooted id := by
      rcases hroot with hid | ⟨other, g, -, hg, hid⟩ | hstrong
      · exact .inl ⟨env, f, hf, hid⟩
      · exact .inl ⟨other, g, hg, hid⟩
      · exact .inr hstrong
    exact ⟨hroots id hrooted, hrooted⟩

/-- Deleting a local in an attached environment takes the newest local of the object away and
nothing else; if the environment has none, nothing is changed. The environment roots the object
until as many locals have been deleted, or have gone with their frames, as it had and has been
given. From then on a collection frees the object, unless something else roots it. -/
theorem deleteLocal_takes_newest {capacity : Option Nat}
    (hheap : heap = after (fresh capacity) steps) (hf : heap.attached.get? env = some f)
    (id : ObjectId) :
    (id ∈ f.locals → ∃ later,
      (Operation.deleteLocal (some id)).perform env heap = ⟨.ok .done, later, []⟩ ∧
        heap.DeletesNewest env f id later) ∧
    (id ∉ f.locals → (Operation.deleteLocal (some id)).perform env heap =
      ⟨.error (.misuse (.unknownLocal id)), heap, []⟩) ∧
    ∀ more : List Step, (∀ m ∈ history heap more, m.step.LeavesAttached env m.heap) →
      ∃ g, (after heap more).attached.get? env = some g ∧
        g.locals.count id + takenIn env id (history heap more) =
          f.locals.count id + gainedIn env id (history heap more) ∧
        (id ∈ g.locals ↔ takenIn env id (history heap more) <
          f.locals.count id + gainedIn env id (history heap more)) ∧
        ((after heap (more ++ [.collect])).isLive id = true ↔
          takenIn env id (history heap more) <
              f.locals.count id + gainedIn env id (history heap more) ∨
            (∃ other frames, other ≠ env ∧
              (after heap more).attached.get? other = some frames ∧ id ∈ frames.locals) ∨
            (after heap more).HasStrong id) := by
  refine ⟨perform_deleteLocal_of_mem hf, perform_deleteLocal_of_notMem hf, ?_⟩
  intro more hstays
  obtain ⟨g, hg, haccount⟩ := count_after hf id hstays
  have hmem : id ∈ g.locals ↔ takenIn env id (history heap more) <
      f.locals.count id + gainedIn env id (history heap more) := by
    rw [← List.count_pos_iff]
    omega
  have hroots : (after heap more).RootsLive := by
    rw [hheap, ← after_append]
    exact rootsLive_after capacity _
  refine ⟨g, hg, haccount, hmem, ?_⟩
  rw [after_concat, ← hmem]
  exact isLive_swept_iff_of_rootsLive hroots hg

/-- A run after which an environment has an object with a local in each of two frames, and another
object in the inner frame. A second environment has no locals. -/
def twoFrames : List Step :=
  [.attach, .attach, .operate 1 (.alloc "a"), .operate 1 (.createStrong (some 1)),
    .operate 1 (.openFrame 16), .operate 1 (.resolve (firstHandle .strong)),
    .operate 1 (.release (firstHandle .strong)), .operate 1 (.alloc "b")]

/-- Of two locals for an object the one in the inner frame is deleted first, although a younger
local lies over it; the outer one still roots the object. When the inner frame has been closed and
the outer local deleted too, a collection frees the object. Another environment can delete none of
these locals. -/
theorem newest_of_two_locals_deleted :
    (after (fresh none) twoFrames).attached.get? 1 = some ⟨[2, 1], [[1]]⟩ ∧
    (∃ later, (Operation.deleteLocal (some 1)).perform 1 (after (fresh none) twoFrames) =
        ⟨.ok .done, later, []⟩ ∧
      (after (fresh none) twoFrames).DeletesNewest 1 ⟨[2, 1], [[1]]⟩ 1 later) ∧
    (Operation.deleteLocal (some 1)).perform 2 (after (fresh none) twoFrames) =
      ⟨.error (.misuse (.unknownLocal 1)), after (fresh none) twoFrames, []⟩ ∧
    (after (after (fresh none) twoFrames)
      ([.operate 1 (.deleteLocal (some 1))] ++ [.collect])).isLive 1 = true ∧
    (after (after (fresh none) twoFrames)
      ([.operate 1 .closeFrame, .operate 1 (.deleteLocal (some 1))] ++ [.collect])).isLive 1 =
        false := by
  have hfirst : (after (fresh none) twoFrames).attached.get? 1 = some ⟨[2, 1], [[1]]⟩ := by decide
  have hsecond : (after (fresh none) twoFrames).attached.get? 2 = some ⟨[], []⟩ := by decide
  obtain ⟨hdeleted, -, hlast⟩ := deleteLocal_takes_newest rfl hfirst 1
  obtain ⟨-, hunknown, -⟩ := deleteLocal_takes_newest rfl hsecond 1
  refine ⟨hfirst, hdeleted (by decide), hunknown (by decide), ?_, ?_⟩
  · obtain ⟨g, -, -, -, hlive⟩ := hlast [.operate 1 (.deleteLocal (some 1))] (by
      intro m hm
      rw [List.mem_singleton.mp hm]
      trivial)
    have hless : takenIn 1 1 (history (after (fresh none) twoFrames)
        [.operate 1 (.deleteLocal (some 1))]) <
      (⟨[2, 1], [[1]]⟩ : Frames).locals.count 1 + gainedIn 1 1 (history
        (after (fresh none) twoFrames) [.operate 1 (.deleteLocal (some 1))]) := by decide
    exact hlive.mpr (.inl hless)
  · decide

end DurableRefs.Heap
