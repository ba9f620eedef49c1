import DurableRefs.Proofs.Heap.Failures

/-!
# Operations of two environments

An operation that makes nothing looks at the objects, at the frames of its own environment and at
the row of the word that it uses. It changes these frames, or deletes that row, or changes nothing.
So two environments are not in each other's way: their operations can be performed in either order,
unless one deletes the reference that the other uses.
-/

namespace DurableRefs

/-! ### Changes of a table in either order -/

namespace Table

variable {κ ν : Type} [DecidableEq κ] {t : Table κ ν} {k k' : κ}

/-- A key that has a value keeps its place when it is given another. -/
theorem insert_of_get?_eq_some {old : ν} (h : t.get? k = some old) (v : ν) :
    t.insert k v = t.replace k v := by
  unfold insert
  split
  · rfl
  · next hnone => rw [h] at hnone; cases hnone

/-- Two keys that have values can be given others in either order. -/
theorem insert_comm {old old' : ν} (hne : k ≠ k') (h : t.get? k = some old)
    (h' : t.get? k' = some old') (v v' : ν) :
    (t.insert k v).insert k' v' = (t.insert k' v').insert k v := by
  have hafter : (t.insert k v).get? k' = some old' := by
    rw [get?_insert_of_ne (Ne.symm hne), h']
  have hafter' : (t.insert k' v').get? k = some old := by
    rw [get?_insert_of_ne hne, h]
  rw [insert_of_get?_eq_some hafter, insert_of_get?_eq_some hafter', insert_of_get?_eq_some h,
    insert_of_get?_eq_some h']
  simp only [replace, List.map_map, mk.injEq, List.map_inj_left]
  intro row _
  by_cases hk : row.1 = k
  · simp [replaceRow, hk, hne]
  · by_cases hk' : row.1 = k' <;> simp [replaceRow, hk, hk', Ne.symm hne]

/-- Two keys can be erased in either order. -/
theorem erase_comm (t : Table κ ν) (k k' : κ) : (t.erase k).erase k' = (t.erase k').erase k := by
  simp only [erase, filter, List.filter_filter, mk.injEq]
  exact List.filter_congr fun row _ => Bool.and_comm _ _

end Table

namespace Heap

variable {α β : Type} {heap later : Heap} {env other : EnvId}
  {used used' deleted deleted' : Option Int64} {effect effect' : Heap → Heap} {raw : Int64}
  {x : Task α} {y : Task β}
  {operation first second : Operation Local Handle Int64}

/-! ### What an operation looks at and what it changes -/

/-- The word that an operation uses. -/
def Operation.used? {L : Type} : Operation L Handle Int64 → Option Int64
  | .release h | .resolve h | .resolveWeak h => some h.raw
  | .managed (.unref raw) | .managed (.get raw) | .managed (.getWeak raw) => some raw
  | .deleteStrong raw | .deleteWeak raw | .newLocal raw | .classify raw => some raw
  | _ => none

/-- A heap looks like another one to an environment that uses a word. -/
structure LooksLike (heap : Heap) (env : EnvId) (used : Option Int64) (later : Heap) : Prop where
  /-- The objects are the same. -/
  objects : later.objects = heap.objects
  /-- The environment has the same frames. -/
  frames : later.attached.get? env = heap.attached.get? env
  /-- The word has the same row. -/
  row : ∀ raw, used = some raw → later.references.get? raw = heap.references.get? raw

/-- What an environment can do to a heap if it makes nothing and may delete one reference. -/
inductive Effect (heap : Heap) (env : EnvId) (deleted : Option Int64) : (Heap → Heap) → Prop
  /-- The environment changes nothing. -/
  | none : Effect heap env deleted id
  /-- The environment changes its frames. -/
  | frames {f : Frames} (hf : heap.attached.get? env = some f) (g : Frames) :
      Effect heap env deleted fun later => later.withFrames env g
  /-- The environment deletes the reference. -/
  | deletion {raw : Int64} (hraw : deleted = some raw) :
      Effect heap env deleted fun later => later.withoutReference raw

/-- What an action answers, notes and changes is settled by what its environment looks at. -/
def Settled (heap : Heap) (env : EnvId) (used deleted : Option Int64) (x : Task α) : Prop :=
  ∃ result effect notes, Effect heap env deleted effect ∧
    ∀ later, heap.LooksLike env used later → x later = ⟨result, effect later, notes⟩

/-- Every heap looks like itself. -/
theorem LooksLike.refl (heap : Heap) (env : EnvId) (used : Option Int64) :
    heap.LooksLike env used heap := ⟨rfl, rfl, fun _ _ => rfl⟩

/-- In a heap that looks the same the same objects are live. -/
theorem LooksLike.isLive_eq (h : heap.LooksLike env used later) (id : ObjectId) :
    later.isLive id = heap.isLive id := by
  rw [isLive, isLive, h.objects]

/-- A heap looks the same to an environment after another one has done something, if that has not
deleted the reference of the word. -/
theorem Effect.looksLike (heffect : Effect heap other deleted effect) (henv : env ≠ other)
    (hword : ∀ raw, deleted = some raw → used ≠ some raw) :
    heap.LooksLike env used (effect heap) := by
  cases heffect with
  | none => exact LooksLike.refl heap env used
  | frames hf g => exact ⟨rfl, Table.get?_insert_of_ne henv _ _, fun _ _ => rfl⟩
  | deletion hraw =>
    refine ⟨rfl, rfl, fun word hused => ?_⟩
    apply Table.get?_erase_of_ne
    rintro rfl
    exact hword word hraw hused

/-- What two environments do to a heap can be done in either order. -/
theorem Effect.comm (heffect : Effect heap env deleted effect)
    (heffect' : Effect heap other deleted' effect') (henv : env ≠ other) :
    effect' (effect heap) = effect (effect' heap) := by
  cases heffect with
  | none => rfl
  | frames hf g =>
    cases heffect' with
    | none => rfl
    | frames hf' g' =>
      simp only [withFrames]
      rw [Table.insert_comm henv hf hf']
    | deletion hraw' => rfl
  | deletion hraw =>
    cases heffect' with
    | none => rfl
    | frames hf' g' => rfl
    | deletion hraw' =>
      simp only [withoutReference]
      rw [Table.erase_comm]

/-- Two settled actions of two environments can be performed in either order. Each ends in the same
way in both orders, and takes the same notes. -/
theorem Settled.comm (hx : heap.Settled env used deleted x)
    (hy : heap.Settled other used' deleted' y) (henv : env ≠ other)
    (hword : ∀ raw, deleted = some raw → used' ≠ some raw)
    (hword' : ∀ raw, deleted' = some raw → used ≠ some raw) :
    (y (x heap).state).state = (x (y heap).state).state ∧
      (x (y heap).state).result = (x heap).result ∧
      (y (x heap).state).result = (y heap).result ∧
      (x (y heap).state).notes = (x heap).notes ∧
      (y (x heap).state).notes = (y heap).notes := by
  obtain ⟨result, effect, notes, heffect, hx⟩ := hx
  obtain ⟨result', effect', notes', heffect', hy⟩ := hy
  have hfirst := hx heap (LooksLike.refl heap env used)
  have hfirst' := hy heap (LooksLike.refl heap other used')
  have hsecond := hx (effect' heap) (heffect'.looksLike henv hword')
  have hsecond' := hy (effect heap) (heffect.looksLike (Ne.symm henv) hword)
  rw [hfirst, hfirst', hsecond, hsecond']
  exact ⟨heffect.comm heffect' henv, rfl, rfl, rfl, rfl⟩

/-! ### Actions that are settled -/

/-- An action that needs no state is settled. -/
theorem Settled.of_still (hx : x.Still) : heap.Settled env used deleted x := by
  obtain ⟨result, notes, hx⟩ := hx
  exact ⟨result, id, notes, .none, fun later _ => hx later⟩

/-- What follows a settled action and needs no state leaves it settled. -/
theorem Settled.bind {f : α → Task β} (hx : heap.Settled env used deleted x)
    (hf : ∀ a, (f a).Still) : heap.Settled env used deleted (x >>= f) := by
  obtain ⟨result, effect, notes, heffect, hx⟩ := hx
  cases result with
  | error e =>
    exact ⟨.error e, effect, notes, heffect, fun later h => Action.bind_of_error (hx later h) f⟩
  | ok a =>
    obtain ⟨result, more, hf⟩ := hf a
    refine ⟨result, effect, notes ++ more, heffect, fun later h => ?_⟩
    rw [Action.bind_of_ok (hx later h), hf]

/-- An action stays settled when its value is put into an answer. -/
theorem Settled.answered (hx : heap.Settled env used deleted x) (form : α → Answer) :
    heap.Settled env used deleted (x >>= fun a => pure (form a)) :=
  hx.bind fun a => Action.Still.pure (form a)

/-- A look-up is settled by the row of the word, the objects and the frames. -/
theorem settled_newLocal (heap : Heap) (env : EnvId) (raw : Int64) (deleted : Option Int64) :
    heap.Settled env (some raw) deleted (newLocal env raw) := by
  cases hrow : heap.references.get? raw with
  | none =>
    exact ⟨_, _, _, .none, fun later h => newLocal_of_dead ((h.row raw rfl).trans hrow)⟩
  | some row =>
    cases hlive : heap.isLive row.target with
    | false =>
      exact ⟨_, _, _, .none, fun later h => newLocal_of_freed ((h.row raw rfl).trans hrow)
        ((h.isLive_eq _).trans hlive)⟩
    | true =>
      cases hf : heap.attached.get? env with
      | none =>
        exact ⟨_, _, _, .none, fun later h => newLocal_of_notAttached
          ((h.row raw rfl).trans hrow) ((h.isLive_eq _).trans hlive) (h.frames.trans hf)⟩
      | some f =>
        exact ⟨_, _, _, .frames hf _, fun later h => newLocal_of_live
          ((h.row raw rfl).trans hrow) ((h.isLive_eq _).trans hlive) (h.frames.trans hf)⟩

/-- Deleting a local is settled by the frames. -/
theorem settled_deleteLocal (heap : Heap) (env : EnvId) (x : Local)
    (used deleted : Option Int64) : heap.Settled env used deleted (deleteLocal env x) := by
  cases x with
  | none => exact Settled.of_still (Action.Still.pure ())
  | some id =>
    cases hf : heap.attached.get? env with
    | none =>
      exact ⟨_, _, _, .none, fun later h => deleteLocal_of_notAttached (h.frames.trans hf) id⟩
    | some f =>
      cases hg : f.remove? id with
      | none =>
        exact ⟨_, _, _, .none, fun later h => deleteLocal_of_unknown (h.frames.trans hf) hg⟩
      | some g =>
        exact ⟨_, _, _, .frames hf g, fun later h =>
          deleteLocal_of_remove? (h.frames.trans hf) hg⟩

/-- Opening a frame is settled by the frames. -/
theorem settled_pushFrame (heap : Heap) (env : EnvId) (capacity : Int32)
    (used deleted : Option Int64) : heap.Settled env used deleted (pushFrame env capacity) := by
  by_cases hc : capacity < 0
  · exact ⟨_, _, _, .none, fun later _ => pushFrame_of_neg hc⟩
  · cases hf : heap.attached.get? env with
    | none =>
      exact ⟨_, _, _, .none, fun later h => pushFrame_of_notAttached hc (h.frames.trans hf)⟩
    | some f =>
      exact ⟨_, _, _, .frames hf f.push, fun later h =>
        pushFrame_of_attached hc (h.frames.trans hf)⟩

/-- Closing a frame is settled by the frames and the objects. -/
theorem settled_popFrame (heap : Heap) (env : EnvId) (x : Local)
    (used deleted : Option Int64) : heap.Settled env used deleted (popFrame env x) := by
  cases hf : heap.attached.get? env with
  | none =>
    exact ⟨_, _, _, .none, fun later h => popFrame_of_notAttached (h.frames.trans hf) x⟩
  | some f =>
    cases hg : f.pop? with
    | none => exact ⟨_, _, _, .none, fun later h => popFrame_of_base (h.frames.trans hf) hg x⟩
    | some g =>
      cases x with
      | none =>
        exact ⟨_, _, _, .frames hf g, fun later h => popFrame_null (h.frames.trans hf) hg⟩
      | some id =>
        cases hlive : heap.isLive id with
        | false =>
          exact ⟨_, _, _, .frames hf g, fun later h =>
            popFrame_of_freed (h.frames.trans hf) hg ((h.isLive_eq id).trans hlive)⟩
        | true =>
          exact ⟨_, _, _, .frames hf (g.add id), fun later h =>
            popFrame_of_live (h.frames.trans hf) hg ((h.isLive_eq id).trans hlive)⟩

/-- Deleting a reference is settled by its row. -/
theorem settled_removeReference (heap : Heap) (env : EnvId) (raw : Int64) (strength : Strength) :
    heap.Settled env (some raw) (some raw) (removeReference raw strength) := by
  cases hrow : heap.references.get? raw with
  | none =>
    exact ⟨_, _, _, .none, fun later h =>
      removeReference_of_dead ((h.row raw rfl).trans hrow) strength⟩
  | some row =>
    exact ⟨_, _, _, .deletion rfl, fun later h =>
      removeReference_of_row ((h.row raw rfl).trans hrow) strength⟩

/-- Deleting the reference under a word, unless the word is zero, is settled by the row of the word.
-/
theorem settled_delete (heap : Heap) (env : EnvId) (raw : Int64) (strength : Strength) :
    heap.Settled env (some raw) (some raw)
      (if raw = 0 then (return) else removeReference raw strength) := by
  by_cases hraw : raw = 0
  · rw [if_pos hraw]
    exact Settled.of_still (Action.Still.pure ())
  · rw [if_neg hraw]
    exact settled_removeReference heap env raw strength

/-- Releasing a handle is settled by the row of its word. -/
theorem settled_release (heap : Heap) (env : EnvId) (h : Handle) :
    heap.Settled env (some h.raw) (some h.raw) ((host env).release h) := by
  obtain ⟨result, effect, notes, heffect, hremove⟩ :=
    settled_removeReference heap env h.raw h.strength
  refine ⟨result, effect, [.releasing h.raw h.strength], heffect, fun later hlater => ?_⟩
  rw [release_eq, hremove later hlater]

/-- Giving a word up is settled by the row of the word. -/
theorem settled_unref (heap : Heap) (env : EnvId) (raw : Int64) :
    heap.Settled env (some raw) (some raw) ((host env).unref raw) := by
  by_cases hraw : raw = 0
  · subst hraw
    exact ⟨_, _, _, .none, fun later _ => unref_zero⟩
  · cases hrow : heap.references.get? raw with
    | none =>
      exact ⟨_, _, _, .none, fun later h => unref_of_dead hraw ((h.row raw rfl).trans hrow)⟩
    | some row =>
      exact ⟨_, _, _, .deletion rfl, fun later h =>
        unref_of_row hraw ((h.row raw rfl).trans hrow)⟩

/-- Ending the host needs no state. -/
theorem still_fatal (env : EnvId) (reason : String) :
    ((host env).fatal reason : Task α).Still :=
  (Action.Still.note _).bind fun _ => Action.Still.stop _

/-- Resolving a strong handle is settled by what the look-up is settled by. -/
theorem settled_resolve (heap : Heap) (env : EnvId) (h : Handle) (deleted : Option Int64) :
    heap.Settled env (some h.raw) deleted ((host env).resolve h) := by
  unfold Host.resolve
  split
  · exact Settled.of_still (Action.Still.stop _)
  · refine (settled_newLocal heap env h.raw deleted).bind fun x => ?_
    split
    · exact (Action.Still.note _).bind fun _ => still_fatal env _
    · exact Action.Still.pure x

/-- Resolving a weak handle is settled by what the look-up is settled by. -/
theorem settled_resolveWeak (heap : Heap) (env : EnvId) (h : Handle) (deleted : Option Int64) :
    heap.Settled env (some h.raw) deleted ((host env).resolveWeak h) := by
  unfold Host.resolveWeak
  split
  · exact Settled.of_still (Action.Still.stop _)
  · refine (settled_newLocal heap env h.raw deleted).bind fun x => ?_
    split
    · exact (Action.Still.note _).bind fun _ => Action.Still.pure none
    · exact Action.Still.pure (some x)

/-- Opening a frame for a guard is settled by the frames. -/
theorem settled_openFrame (heap : Heap) (env : EnvId) (capacity : Int32)
    (used deleted : Option Int64) :
    heap.Settled env used deleted ((host env).openFrame capacity) := by
  refine (settled_pushFrame heap env capacity used deleted).bind fun opened => ?_
  cases opened with
  | false => exact (Action.Still.note _).bind fun _ => still_fatal env _
  | true => exact Action.Still.pure ()

/-- Closing a frame for a guard is settled by the frames. -/
theorem settled_closeFrame (heap : Heap) (env : EnvId) (used deleted : Option Int64) :
    heap.Settled env used deleted (host env).closeFrame :=
  (settled_popFrame heap env none used deleted).bind fun _ => Action.Still.pure ()

/-- Resolving the word of a strong handle is settled by what resolving the handle is settled by. -/
theorem settled_get (heap : Heap) (env : EnvId) (raw : Int64) (deleted : Option Int64) :
    heap.Settled env (some raw) deleted ((host env).get raw) := by
  by_cases hraw : raw = 0
  · subst hraw
    exact Settled.of_still (Action.Still.pure none)
  · rw [get_of_ne_zero env hraw]
    exact settled_resolve heap env ⟨.strong, raw, hraw⟩ deleted

/-- Resolving the word of a weak handle is settled by what resolving the handle is settled by. -/
theorem settled_getWeak (heap : Heap) (env : EnvId) (raw : Int64) (deleted : Option Int64) :
    heap.Settled env (some raw) deleted ((host env).getWeak raw) := by
  by_cases hraw : raw = 0
  · subst hraw
    exact Settled.of_still (Action.Still.pure none)
  · rw [getWeak_of_ne_zero env hraw]
    exact (settled_resolveWeak heap env ⟨.weak, raw, hraw⟩ deleted).bind fun x =>
      Action.Still.pure (x.getD none)

/-- Asking for the class of a word is settled by its row. -/
theorem settled_classify (heap : Heap) (env : EnvId) (raw : Int64) (deleted : Option Int64) :
    heap.Settled env (some raw) deleted ((host env).classify raw) := by
  refine ⟨.ok ((heap.references.get? raw).map Row.strength), id, [], .none, fun later h => ?_⟩
  rw [classify_eq, h.row raw rfl]
  rfl

/-- Asking for a label is settled by the objects. -/
theorem settled_label (heap : Heap) (env : EnvId) (x : Local) (used deleted : Option Int64) :
    heap.Settled env used deleted (label x) := by
  refine ⟨.ok (x.bind heap.objects.get?), id, [], .none, fun later h => ?_⟩
  rw [← h.objects]
  rfl

/-! ### Operations in either order -/

/-- An operation makes neither an object nor a reference. -/
def Operation.MakesNothing (operation : Operation Local Handle Int64) : Prop :=
  operation.label? = none ∧ operation.asked? = none

/-- Neither of two operations deletes the reference that the other one uses. -/
def Operation.Apart (first second : Operation Local Handle Int64) : Prop :=
  (∀ raw, first.deleted? = some raw → second.used? ≠ some raw) ∧
    ∀ raw, second.deleted? = some raw → first.used? ≠ some raw

/-- An operation that makes nothing is settled by the objects, the frames of its environment and the
row of the word that it uses. -/
theorem Operation.settled (hnothing : operation.MakesNothing) (heap : Heap) (env : EnvId) :
    heap.Settled env operation.used? operation.deleted? (operation.perform env) := by
  obtain ⟨hlabel, hasked⟩ := hnothing
  cases operation with
  | alloc text => cases hlabel
  | createStrong y | createWeak y | newStrong y | newWeak y => cases hasked
  | null | isNull y | same y z => exact Settled.of_still (Action.Still.pure _)
  | fatal reason => exact Settled.of_still (still_fatal env reason)
  | label y => exact (settled_label heap env y _ _).answered .label
  | deleteLocal y => exact (settled_deleteLocal heap env y _ _).answered fun _ => .done
  | release h => exact (settled_release heap env h).answered fun _ => .done
  | deleteStrong raw => exact (settled_delete heap env raw .strong).answered fun _ => .done
  | deleteWeak raw => exact (settled_delete heap env raw .weak).answered fun _ => .done
  | resolve h => exact (settled_resolve heap env h _).answered .object
  | resolveWeak h => exact (settled_resolveWeak heap env h _).answered .referent
  | newLocal raw => exact (settled_newLocal heap env raw _).answered .object
  | classify raw => exact (settled_classify heap env raw _).answered .strength
  | pushFrame capacity => exact (settled_pushFrame heap env capacity _ _).answered .flag
  | openFrame capacity => exact (settled_openFrame heap env capacity _ _).answered fun _ => .done
  | popFrame y | closeFrameWith y => exact (settled_popFrame heap env y _ _).answered .object
  | closeFrame => exact (settled_closeFrame heap env _ _).answered fun _ => .done
  | managed call =>
    cases call with
    | newRef y | newWeakRef y => cases hasked
    | unref raw =>
      rw [Operation.perform_unref]
      exact (settled_unref heap env raw).answered fun _ => .done
    | get raw =>
      rw [Operation.perform_get]
      exact (settled_get heap env raw _).answered .object
    | getWeak raw =>
      rw [Operation.perform_getWeak]
      exact (settled_getWeak heap env raw _).answered .object

/-- Two operations of two environments end in the same way in either order. -/
structure Commute (heap : Heap) (env other : EnvId)
    (first second : Operation Local Handle Int64) : Prop where
  /-- In the end the heap is the same. -/
  state : (second.perform other (first.perform env heap).state).state =
    (first.perform env (second.perform other heap).state).state
  /-- The operation of the one environment answers or fails as it does alone. -/
  result : (first.perform env (second.perform other heap).state).result =
    (first.perform env heap).result
  /-- The operation of the other environment answers or fails as it does alone. -/
  result' : (second.perform other (first.perform env heap).state).result =
    (second.perform other heap).result
  /-- The operation of the one environment reports what it reports alone. -/
  notes : (first.perform env (second.perform other heap).state).notes =
    (first.perform env heap).notes
  /-- The operation of the other environment reports what it reports alone. -/
  notes' : (second.perform other (first.perform env heap).state).notes =
    (second.perform other heap).notes

/-- In any heap, two operations of two environments can be performed in either order: those on
handles and words that make no reference, those on locals and frames, and those that only ask, with
any arguments, whether they fail or not. It is enough that neither deletes the reference that the
other uses. -/
theorem operations_of_two_environments_commute (heap : Heap) (henv : env ≠ other)
    (hfirst : first.MakesNothing) (hsecond : second.MakesNothing)
    (hapart : first.Apart second) : heap.Commute env other first second := by
  have hsettled := Operation.settled hfirst heap env
  have hsettled' := Operation.settled hsecond heap other
  obtain ⟨hstate, hresult, hresult', hnotes, hnotes'⟩ :=
    hsettled.comm hsettled' henv hapart.1 hapart.2
  exact ⟨hstate, hresult, hresult', hnotes, hnotes'⟩

/-- A weak reference is released as a strong one, and deleted although that fails, while another
environment resolves a strong handle to the same object. -/
theorem failed_release_commutes_with_resolve :
    ((1 : EnvId) ≠ 2 ∧ (Operation.release ⟨.strong, 1, by decide⟩).MakesNothing ∧
      (Operation.resolve ⟨.strong, 2, by decide⟩).MakesNothing ∧
      (Operation.release ⟨.strong, 1, by decide⟩).Apart
        (.resolve ⟨.strong, 2, by decide⟩)) ∧
    (after (fresh none)
      [.attach, .attach, .operate 1 (.alloc "a"), .operate 1 (.createWeak (some 1)),
        .operate 1 (.createStrong (some 1))]).Commute 1 2
      (.release ⟨.strong, 1, by decide⟩) (.resolve ⟨.strong, 2, by decide⟩) ∧
    ((Operation.release ⟨.strong, 1, by decide⟩).perform 1 (after (fresh none)
      [.attach, .attach, .operate 1 (.alloc "a"), .operate 1 (.createWeak (some 1)),
        .operate 1 (.createStrong (some 1)),
        .operate 2 (.resolve ⟨.strong, 2, by decide⟩)])).result =
      .error (.misuse (.wrongClass 1 .weak .strong)) := by
  have hapart : (Operation.release ⟨.strong, 1, by decide⟩).Apart
      (.resolve ⟨.strong, 2, by decide⟩) := by
    refine ⟨fun raw hdeleted => ?_, nofun⟩
    cases hdeleted
    decide
  have hcommute := operations_of_two_environments_commute (after (fresh none)
      [.attach, .attach, .operate 1 (.alloc "a"), .operate 1 (.createWeak (some 1)),
        .operate 1 (.createStrong (some 1))])
    (show (1 : EnvId) ≠ 2 by decide) ⟨rfl, rfl⟩ ⟨rfl, rfl⟩ hapart
  refine ⟨⟨by decide, ⟨rfl, rfl⟩, ⟨rfl, rfl⟩, hapart⟩, hcommute, ?_⟩
  exact hcommute.result.trans (by decide)

/-! ### Runs in either order -/

/-- An operation can be performed before or after a run of operations of another environment. -/
theorem after_operations_comm {operations : List (Operation Local Handle Int64)}
    (hfirst : first.MakesNothing)
    (hrun : ∀ second ∈ operations, second.MakesNothing ∧ first.Apart second)
    (henv : env ≠ other) (heap : Heap) :
    after (first.perform env heap).state (operations.map (.operate other)) =
      (first.perform env (after heap (operations.map (.operate other)))).state := by
  induction operations generalizing heap with
  | nil => rfl
  | cons second rest ih =>
    obtain ⟨hsecond, hapart⟩ := hrun second List.mem_cons_self
    have hrest := fun operation h => hrun operation (List.mem_cons_of_mem second h)
    obtain ⟨hstate, -⟩ := (Operation.settled hfirst heap env).comm
      (Operation.settled hsecond heap other) henv hapart.1 hapart.2
    simp only [List.map_cons, after_cons, Step.perform_operate]
    rw [hstate]
    exact ih hrest _

/-- Two runs of operations, each of an environment of its own, leave the same heap in either order,
if they make nothing and neither deletes a reference that the other uses. -/
theorem after_append_comm {operations operations' : List (Operation Local Handle Int64)}
    (hrun : ∀ first ∈ operations, first.MakesNothing)
    (hrun' : ∀ second ∈ operations', second.MakesNothing)
    (hapart : ∀ first ∈ operations, ∀ second ∈ operations', first.Apart second)
    (henv : env ≠ other) (heap : Heap) :
    after heap (operations.map (.operate env) ++ operations'.map (.operate other)) =
      after heap (operations'.map (.operate other) ++ operations.map (.operate env)) := by
  rw [after_append, after_append]
  induction operations generalizing heap with
  | nil => rfl
  | cons first rest ih =>
    have hfirst := hrun first List.mem_cons_self
    have hpast : ∀ second ∈ operations', second.MakesNothing ∧ first.Apart second :=
      fun second h => ⟨hrun' second h, hapart first List.mem_cons_self second h⟩
    simp only [List.map_cons, after_cons, Step.perform_operate]
    rw [ih (fun operation h => hrun operation (List.mem_cons_of_mem first h))
        (fun operation h => hapart operation (List.mem_cons_of_mem first h)),
      after_operations_comm hfirst hpast henv]

end Heap

end DurableRefs
