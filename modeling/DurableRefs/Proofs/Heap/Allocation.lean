import DurableRefs.Proofs.Heap.Lifetime
import DurableRefs.Proofs.Heap.Slots

/-!
# New objects

An allocation takes the next number and does not look whether an object has it. As long as the
numbers last none has: every allocation makes one object more, and every object is live or has been
counted by the collection that freed it. There are as many numbers as 32 bits can tell apart. When
they have been given out they start over, and an allocation replaces the object that has its number,
which may be live.
-/

namespace DurableRefs.Heap

variable {heap : Heap} {env : EnvId} {f g : Frames} {id : ObjectId} {raw : Int64} {row : Row}
  {h : Handle} {label : String} {step : Step} {capacity : Option Nat}
  {steps before later : List Step}

/-! ### The next number -/

/-- As long as the numbers last, no object has the next one. -/
theorem get?_nextObject_eq_none
    (hnumbers : (allocated (history (fresh capacity) steps)).length < 2 ^ 32) :
    (after (fresh capacity) steps).objects.get? (after (fresh capacity) steps).nextObject =
      none := by
  cases hlabel : (after (fresh capacity) steps).objects.get?
      (after (fresh capacity) steps).nextObject with
  | none => rfl
  | some label =>
    have hmade := mem_allocated_of_get? hlabel
    exact absurd rfl (ne_nextObject_of_mem_allocated hnumbers hmade)

/-- The target of a reference was made in the history, and may have been freed since. -/
theorem target_mem_allocated
    (hrow : (after (fresh capacity) steps).references.get? raw = some row) :
    ∃ label, (row.target, label) ∈ allocated (history (fresh capacity) steps) := by
  induction steps using List.reverseRecOn with
  | nil =>
    rw [after_nil, references_fresh] at hrow
    cases hrow
  | append_singleton steps step ih =>
    rw [after_concat] at hrow
    rcases (step.change (after (fresh capacity) steps)).row_cases hrow with hold | ⟨-, hlive, -⟩
    · obtain ⟨label, hmade⟩ := ih hold
      exact ⟨label, mem_allocated_append hmade [step]⟩
    · obtain ⟨label, hlabel⟩ := isLive_iff.mp hlive
      exact ⟨label, mem_allocated_append (mem_allocated_of_get? hlabel) [step]⟩

/-- An allocation makes a new object. -/
structure MakesNew (heap : Heap) (env : EnvId) (label : String) (id : ObjectId) : Prop where
  /-- The answer is a local for the object. -/
  answer : ((Operation.alloc label).perform env heap).result = .ok (.object (some id))
  /-- The object was not live. -/
  notLive : heap.isLive id = false
  /-- No frame of an attached environment had a local for it. -/
  noLocal : ¬ heap.HasLocal id
  /-- No reference of either class had it for its target. -/
  noTarget : ∀ raw row, heap.references.get? raw = some row → row.target ≠ id
  /-- There is one object more. -/
  oneMore : ((Operation.alloc label).perform env heap).state.objects.size =
    heap.objects.size + 1
  /-- The objects that were live keep their labels. -/
  labels : ∀ other, heap.isLive other = true →
    ((Operation.alloc label).perform env heap).state.objects.get? other =
      heap.objects.get? other

/-- In an attached environment an allocation answers the next number, and the object of that number
gets the label. -/
theorem perform_alloc_of_attached (hf : heap.attached.get? env = some f) (label : String) :
    (Operation.alloc label).perform env heap =
      ⟨.ok (.object (some heap.nextObject)),
        (heap.withObject label).withFrames env (f.add heap.nextObject), []⟩ :=
  Action.bind_of_ok (alloc_of_attached hf label) _

/-- As long as the numbers last, an allocation makes a new object under the next one. -/
theorem makesNew_nextObject
    (hnumbers : (allocated (history (fresh capacity) steps)).length < 2 ^ 32)
    (hf : (after (fresh capacity) steps).attached.get? env = some f) (label : String) :
    (after (fresh capacity) steps).MakesNew env label
      (after (fresh capacity) steps).nextObject := by
  have hfree := get?_nextObject_eq_none hnumbers
  have hnotLive : (after (fresh capacity) steps).isLive
      (after (fresh capacity) steps).nextObject = false := by
    rw [isLive, Table.contains, hfree]
    rfl
  have hperform := perform_alloc_of_attached hf label
  refine
    { answer := by rw [hperform]
      notLive := hnotLive
      noLocal := ?_
      noTarget := ?_
      oneMore := ?_
      labels := ?_ }
  · intro hlocal
    have hroot := rootsLive_after capacity steps _ (.inl hlocal)
    simp [hnotLive] at hroot
  · intro raw row hrow
    obtain ⟨text, hmade⟩ := target_mem_allocated hrow
    exact ne_nextObject_of_mem_allocated hnumbers hmade
  · rw [hperform, withFrames_objects, withObject_objects]
    exact Table.size_insert_of_get?_eq_none hfree label
  · intro other hother
    have hne : other ≠ (after (fresh capacity) steps).nextObject := by
      rintro rfl
      simp [hnotLive] at hother
    rw [hperform, withFrames_objects, withObject_objects, Table.get?_insert_of_ne hne]

/-! ### Accounting -/

/-- The number of objects that a step answers to have freed. -/
def Moment.freed (m : Moment) : Nat :=
  match m.outcome.result with
  | .ok (.freed count) => count
  | _ => 0

/-- The number of objects that the collections of a run answer to have freed. -/
def freedIn : List Moment → Nat
  | [] => 0
  | m :: rest => m.freed + freedIn rest

/-- A collection answers by how many the objects have become fewer. -/
theorem Moment.freed_collect (heap : Heap) :
    (⟨heap, .collect⟩ : Moment).freed = heap.objects.size - heap.swept.objects.size := rfl

/-- A step that is no collection does not answer to have freed anything. -/
theorem Moment.freed_of_ne_collect (hstep : step ≠ .collect) :
    (⟨heap, step⟩ : Moment).freed = 0 := by
  cases step with
  | attach => rfl
  | detach env => rfl
  | collect => exact absurd rfl hstep
  | operate env operation =>
    rw [Moment.freed, Moment.outcome, Step.perform_operate]
    cases (operation.perform env heap).result <;> rfl

/-- The objects freed in two parts of a run. -/
theorem freedIn_append (first rest : List Moment) :
    freedIn (first ++ rest) = freedIn first + freedIn rest := by
  induction first with
  | nil => rw [List.nil_append, freedIn, Nat.zero_add]
  | cons m first ih => rw [List.cons_append, freedIn, freedIn, ih, Nat.add_assoc]

/-- The objects freed in a run and in one more step. -/
theorem freedIn_concat (start : Heap) (steps : List Step) (step : Step) :
    freedIn (history start (steps ++ [step])) =
      freedIn (history start steps) + (⟨after start steps, step⟩ : Moment).freed := by
  rw [history_append, freedIn_append]
  rfl

/-- As long as the numbers last, every object that was made is live or has been freed by one
collection. -/
theorem length_allocated_eq
    (hnumbers : (allocated (history (fresh capacity) steps)).length ≤ 2 ^ 32) :
    (allocated (history (fresh capacity) steps)).length =
      (after (fresh capacity) steps).objects.size + freedIn (history (fresh capacity) steps) := by
  induction steps using List.reverseRecOn with
  | nil => simp [freedIn, EmptyCollection.emptyCollection]
  | append_singleton steps step ih =>
    have hbefore := length_allocated_le_append (fresh capacity) steps [step]
    have ih := ih (by omega)
    rw [allocated_concat, List.length_append] at hnumbers ⊢
    rw [freedIn_concat, after_concat]
    rcases (step.change (after (fresh capacity) steps)).objects_cases with
      ⟨label, hmade, hlater, _⟩ | ⟨hmade, _, ⟨rfl, hlater⟩ | ⟨hstep, hlater⟩⟩
    · have hstep : step ≠ .collect := by
        rintro rfl
        cases hmade
      rw [hmade, Option.toList_some, List.length_singleton] at hnumbers ⊢
      rw [Moment.freed_of_ne_collect hstep, hlater,
        Table.size_insert_of_get?_eq_none (get?_nextObject_eq_none (by omega))]
      omega
    · have hfewer : (after (fresh capacity) steps).swept.objects.size ≤
          (after (fresh capacity) steps).objects.size := Table.size_filter_le _ _
      rw [hmade, Option.toList_none, List.length_nil, Moment.freed_collect, hlater]
      omega
    · rw [hmade, Option.toList_none, List.length_nil, Moment.freed_of_ne_collect hstep, hlater]
      omega

/-! ### What has been freed stays freed -/

/-- What was made in a run was live when it had just been made. -/
theorem exists_isLive_of_mem_allocated
    (hmade : (id, label) ∈ allocated (history (fresh capacity) steps)) :
    ∃ before step later, steps = before ++ step :: later ∧
      (after (fresh capacity) (before ++ [step])).isLive id = true := by
  obtain ⟨m, hm, hallocated⟩ := List.mem_filterMap.mp hmade
  obtain ⟨before, later, hsteps, hheap⟩ := mem_history_iff.mp hm
  refine ⟨before, m.step, later, hsteps, ?_⟩
  rw [after_concat, ← hheap]
  rcases (m.step.change m.heap).objects_cases with ⟨text, hfirst, hlater, _⟩ | ⟨hnone, _⟩
  · have hentry := Option.some.inj (hfirst.symm.trans hallocated)
    cases hentry
    rw [isLive_iff, hlater, Table.get?_insert_self]
    exact ⟨label, rfl⟩
  · have hcontra := hnone.symm.trans hallocated
    cases hcontra

/-- As long as the numbers last, an object that has been freed is never live again. -/
theorem isLive_eq_false_of_freed
    (hmade : (id, label) ∈ allocated (history (fresh capacity) before))
    (hfreed : (after (fresh capacity) before).isLive id = false)
    (hnumbers : (allocated (history (fresh capacity) (before ++ later))).length ≤ 2 ^ 32) :
    (after (fresh capacity) (before ++ later)).isLive id = false := by
  obtain ⟨first, step, rest, rfl, hlive⟩ := exists_isLive_of_mem_allocated hmade
  rw [List.append_cons] at hfreed hnumbers ⊢
  have hbefore := length_allocated_le_append (fresh capacity) ((first ++ [step]) ++ rest) later
  have hswept : SweptIn (after (fresh capacity) (first ++ [step])) rest id := by
    by_contra hkept
    have hstill := (isLive_after_iff hlive (by omega)).mpr hkept
    rw [hfreed] at hstill
    cases hstill
  rw [List.append_assoc] at hnumbers ⊢
  rw [← Bool.not_eq_true, isLive_after_iff hlive hnumbers, not_not]
  exact hswept.append later

/-- As long as the words last, a word that has a row keeps it or loses it for good. -/
theorem get?_eq_or_none_of_row
    (hwords : (made (history (fresh capacity) (before ++ later))).length < 2 ^ 64 - 1)
    (hrow : (after (fresh capacity) before).references.get? raw = some row) :
    (after (fresh capacity) (before ++ later)).references.get? raw = some row ∨
      (after (fresh capacity) (before ++ later)).references.get? raw = none := by
  induction later using List.reverseRecOn with
  | nil =>
    rw [List.append_nil]
    exact .inl hrow
  | append_singleton later step ih =>
    rw [← List.append_assoc] at hwords ⊢
    have hbefore := Nat.lt_of_le_of_lt
      (length_made_le_append (fresh capacity) (before ++ later) [step]) hwords
    have ih := ih hbefore
    rw [after_concat]
    have hne : raw ≠ (after (fresh capacity) (before ++ later)).nextRaw := by
      have hfirst := Nat.lt_of_le_of_lt
        (length_made_le_append (fresh capacity) before later) hbefore
      obtain ⟨h, rfl, -, hmade⟩ := mem_made_of_get? hfirst hrow
      exact ne_nextRaw_of_mem_made hbefore (mem_made_append hmade later)
    rcases (step.change (after (fresh capacity) (before ++ later))).get?_cases hne with
      hsame | ⟨-, hgone⟩
    · rwa [hsame]
    · exact .inr hgone

/-- A weak handle is gone only if it has a row and the referent of the row has been freed. -/
theorem row_of_resolveWeak_gone (hgone : ((host env).resolveWeak h heap).result = .ok none) :
    h.strength = .weak ∧
      ∃ row, heap.references.get? h.raw = some row ∧ heap.isLive row.target = false := by
  cases hs : h.strength with
  | strong => simp [resolveWeak_of_strong hs] at hgone
  | weak =>
    cases hrow : heap.references.get? h.raw with
    | none => simp [resolveWeak_of_dead hs hrow] at hgone
    | some row =>
      cases hlive : heap.isLive row.target with
      | false => exact ⟨rfl, row, rfl, hlive⟩
      | true =>
        cases hf : heap.attached.get? env with
        | none => simp [resolveWeak_of_notAttached hs hrow hlive hf] at hgone
        | some f => simp [resolveWeak_of_live hs hrow hlive hf] at hgone

/-- A weak handle without a row, or whose referent has been freed, does not resolve. -/
theorem resolveWeak_ne_some (hs : h.strength = .weak)
    (hspent : heap.references.get? h.raw = none ∨
      ∃ row, heap.references.get? h.raw = some row ∧ heap.isLive row.target = false)
    (env : EnvId) (x : Local) : ((host env).resolveWeak h heap).result ≠ .ok (some x) := by
  rcases hspent with hrow | ⟨row, hrow, hlive⟩
  · simp [resolveWeak_of_dead hs hrow]
  · simp [resolveWeak_of_freed hs hrow hlive]

/-- As long as numbers and words last, a weak handle that is gone never resolves again. -/
theorem resolveWeak_ne_some_of_gone
    (hnumbers : (allocated (history (fresh capacity) (before ++ later))).length ≤ 2 ^ 32)
    (hwords : (made (history (fresh capacity) (before ++ later))).length < 2 ^ 64 - 1)
    (hgone : ((host env).resolveWeak h (after (fresh capacity) before)).result = .ok none)
    (other : EnvId) (x : Local) :
    ((host other).resolveWeak h (after (fresh capacity) (before ++ later))).result ≠
      .ok (some x) := by
  obtain ⟨hs, row, hrow, hfreed⟩ := row_of_resolveWeak_gone hgone
  obtain ⟨label, hmade⟩ := target_mem_allocated hrow
  have hstill : (after (fresh capacity) (before ++ later)).isLive row.target = false :=
    isLive_eq_false_of_freed hmade hfreed hnumbers
  refine resolveWeak_ne_some hs ?_ other x
  rcases get?_eq_or_none_of_row hwords hrow with hkept | hlost
  · exact .inr ⟨row, hkept, hstill⟩
  · exact .inl hlost

/-- As long as the numbers last, every allocation in an attached environment makes a new object, the
objects made are those that are live and those that collections answer to have freed, and a weak
handle that is gone never resolves again, if the words last as well. -/
theorem objects_new_while_numbers_last (capacity : Option Nat) (steps : List Step)
    (hnumbers : (allocated (history (fresh capacity) steps)).length ≤ 2 ^ 32) :
    (∀ before env label later, steps = before ++ .operate env (.alloc label) :: later →
      (after (fresh capacity) before).attached.contains env = true →
        ∃ id, (after (fresh capacity) before).MakesNew env label id) ∧
    (allocated (history (fresh capacity) steps)).length =
      (after (fresh capacity) steps).objects.size + freedIn (history (fresh capacity) steps) ∧
    ((made (history (fresh capacity) steps)).length < 2 ^ 64 - 1 →
      ∀ before later, steps = before ++ later → ∀ h env,
        ((Operation.resolveWeak h).perform env (after (fresh capacity) before)).result =
            .ok (.referent none) →
          ∀ other x, ((Operation.resolveWeak h).perform other
            (after (fresh capacity) steps)).result ≠ .ok (.referent (some x))) := by
  refine ⟨?_, length_allocated_eq hnumbers, ?_⟩
  · rintro before env label later rfl hattached
    obtain ⟨f, hf⟩ := Option.isSome_iff_exists.mp hattached
    have hbefore : (allocated (history (fresh capacity) before)).length < 2 ^ 32 := by
      have hmore : (allocated (history (after (fresh capacity) before)
          (.operate env (.alloc label) :: later))).length =
            (allocated (history ((Step.operate env (.alloc label)).perform
              (after (fresh capacity) before)).state later)).length + 1 := rfl
      rw [history_append, allocated_append, List.length_append, hmore] at hnumbers
      omega
    exact ⟨_, makesNew_nextObject hbefore hf label⟩
  · rintro hwords before later rfl h env hgone other x hfound
    obtain ⟨y, hgone, hy⟩ := Action.result_bind_pure_eq_ok_iff.mp hgone
    cases hy
    obtain ⟨z, hfound, hz⟩ := Action.result_bind_pure_eq_ok_iff.mp hfound
    cases hz
    exact resolveWeak_ne_some_of_gone hnumbers hwords hgone other x hfound

/-- After an object has been collected another one is made. It is new, and the weak handle of the
first one stays gone. -/
theorem object_new_after_collection :
    (allocated (history (fresh none)
      [.attach, .operate 1 (.alloc "a"), .operate 1 (.createWeak (some 1)),
        .operate 1 (.deleteLocal (some 1)), .collect, .operate 1 (.alloc "b")])).length ≤ 2 ^ 32 ∧
    (∃ id, (after (fresh none)
      [.attach, .operate 1 (.alloc "a"), .operate 1 (.createWeak (some 1)),
        .operate 1 (.deleteLocal (some 1)), .collect]).MakesNew 1 "b" id) ∧
    (∀ x, ((Operation.resolveWeak ⟨.weak, 1, by decide⟩).perform 1 (after (fresh none)
      [.attach, .operate 1 (.alloc "a"), .operate 1 (.createWeak (some 1)),
        .operate 1 (.deleteLocal (some 1)), .collect, .operate 1 (.alloc "b")])).result ≠
          .ok (.referent (some x))) := by
  have hnew := objects_new_while_numbers_last none
    [.attach, .operate 1 (.alloc "a"), .operate 1 (.createWeak (some 1)),
      .operate 1 (.deleteLocal (some 1)), .collect, .operate 1 (.alloc "b")] (by decide)
  refine ⟨by decide, ?_, ?_⟩
  · exact hnew.1 [.attach, .operate 1 (.alloc "a"), .operate 1 (.createWeak (some 1)),
      .operate 1 (.deleteLocal (some 1)), .collect] 1 "b" [] rfl (by decide)
  · exact hnew.2.2 (by decide) [.attach, .operate 1 (.alloc "a"), .operate 1 (.createWeak (some 1)),
      .operate 1 (.deleteLocal (some 1)), .collect] _ rfl _ 1 (by decide) 1

/-! ### Locals of the base frame -/

/-- The base frame has a local for an object. -/
def Frames.InBase (f : Frames) (id : ObjectId) : Prop :=
  ∃ upper base, f.toList = upper ++ [base] ∧ id ∈ base

/-- A local of the base frame is a local. -/
theorem Frames.InBase.mem_locals (h : f.InBase id) : id ∈ f.locals := by
  obtain ⟨upper, base, hlist, hid⟩ := h
  have hbase : base ∈ f.toList := by simp [hlist]
  exact List.mem_flatten.mpr ⟨base, hbase, hid⟩

/-- A local of the base frame stays when another local is added, which goes to the base frame only
if no other frame is open. -/
theorem Frames.InBase.add (h : f.InBase id) (other : ObjectId) : (f.add other).InBase id := by
  obtain ⟨upper, base, hlist, hid⟩ := h
  cases upper with
  | nil =>
    obtain ⟨hinner, houter⟩ := List.cons.inj hlist
    refine ⟨[], other :: base, ?_, List.mem_cons_of_mem _ hid⟩
    rw [Frames.toList, Frames.add, hinner, houter, List.nil_append]
  | cons first rest =>
    obtain ⟨hinner, houter⟩ := List.cons.inj hlist
    refine ⟨(other :: first) :: rest, base, ?_, hid⟩
    rw [Frames.toList, Frames.add, hinner, houter]
    rfl

/-- A local of the base frame stays when a frame is opened. -/
theorem Frames.InBase.push (h : f.InBase id) : f.push.InBase id := by
  obtain ⟨upper, base, hlist, hid⟩ := h
  refine ⟨[] :: upper, base, ?_, hid⟩
  rw [Frames.toList_push, hlist, List.cons_append]

/-- A local of the base frame stays when a frame is closed, since the base frame is not. -/
theorem Frames.InBase.pop? (h : f.InBase id) (hg : f.pop? = some g) : g.InBase id := by
  obtain ⟨upper, base, hlist, hid⟩ := h
  rw [Frames.toList_of_pop?_eq_some hg] at hlist
  cases upper with
  | nil => cases hlist
  | cons first rest =>
    obtain ⟨-, houter⟩ := List.cons.inj hlist
    exact ⟨rest, base, houter, hid⟩

/-- The base frame of an attached environment has a local for an object. -/
def HasBaseLocal (heap : Heap) (env : EnvId) (id : ObjectId) : Prop :=
  ∃ f, heap.attached.get? env = some f ∧ f.InBase id

/-- The environment has the local if its new frames have. -/
theorem hasBaseLocal_withFrames (heap : Heap) (env : EnvId) (hbase : g.InBase id) :
    (heap.withFrames env g).HasBaseLocal env id :=
  ⟨g, Table.get?_insert_self _ _ _, hbase⟩

/-! ### Objects made in frames -/

/-- The steps of a caller that makes objects in frames and has the heap collected. -/
inductive Churn (env : EnvId) : Step → Prop
  /-- A frame is opened. -/
  | openFrame (capacity : Int32) : Churn env (.operate env (.openFrame capacity))
  /-- An object is made. -/
  | alloc (label : String) : Churn env (.operate env (.alloc label))
  /-- A frame is closed. -/
  | closeFrame : Churn env (.operate env .closeFrame)
  /-- The heap is collected. -/
  | collect : Churn env .collect

/-- Making objects in frames leaves the locals of the base frame. -/
theorem HasBaseLocal.churn (h : heap.HasBaseLocal env id) (hstep : Churn env step) :
    (step.perform heap).state.HasBaseLocal env id := by
  have hkept := h
  obtain ⟨f, hf, hbase⟩ := h
  cases hstep with
  | collect => exact ⟨f, hf, hbase⟩
  | alloc label =>
    rw [Step.perform_operate, perform_alloc_of_attached hf]
    exact hasBaseLocal_withFrames _ env (hbase.add heap.nextObject)
  | openFrame capacity =>
    rw [Step.perform_operate]
    simp only [Operation.perform, Action.bind_pure_apply, state_openFrame]
    by_cases hc : capacity < 0
    · rw [pushFrame_of_neg hc]
      exact hkept
    · rw [pushFrame_of_attached hc hf]
      exact hasBaseLocal_withFrames heap env hbase.push
  | closeFrame =>
    have hclose : (Operation.closeFrame.perform env heap).state =
        (popFrame env none heap).state := by
      simp only [Operation.perform, Host.closeFrame, Action.bind_pure_apply]
      rfl
    rw [Step.perform_operate, hclose]
    cases hg : f.pop? with
    | none =>
      rw [popFrame_of_base hf hg]
      exact hkept
    | some g =>
      rw [popFrame_null hf hg]
      exact hasBaseLocal_withFrames heap env (hbase.pop? hg)

/-- A run that makes objects in frames leaves the locals of the base frame. -/
theorem HasBaseLocal.after (h : heap.HasBaseLocal env id)
    (hsteps : ∀ step ∈ steps, Churn env step) : (heap.after steps).HasBaseLocal env id := by
  induction steps generalizing heap with
  | nil => exact h
  | cons step rest ih =>
    have hfirst := h.churn (hsteps step (List.mem_cons_self ..))
    exact ih hfirst fun s hs => hsteps s (List.mem_cons_of_mem _ hs)

/-! ### When the numbers start over -/

/-- Whether a step makes an object. -/
def Step.makesObject : Step → Bool
  | .operate _ operation => operation.label?.isSome
  | _ => false

/-- The objects that a run makes can be counted without running it. -/
theorem length_allocated (start : Heap) (steps : List Step) :
    (allocated (history start steps)).length = steps.countP Step.makesObject := by
  induction steps generalizing start with
  | nil => rfl
  | cons step rest ih =>
    have ih := ih (step.perform start).state
    have hmakes : (⟨start, step⟩ : Moment).allocated?.isSome = step.makesObject := by
      cases step with
      | operate env operation => simp [Moment.allocated?, Step.makesObject]
      | _ => rfl
    rw [history_cons, List.countP_cons, ← ih, ← hmakes, allocated, allocated, List.filterMap_cons]
    cases (⟨start, step⟩ : Moment).allocated? <;> simp

/-- When all numbers have been given out, the next one is the first. -/
theorem nextObject_of_all_made
    (hnumbers : (allocated (history (fresh capacity) steps)).length = 2 ^ 32) :
    (after (fresh capacity) steps).nextObject = 1 := by
  have hnext := (map_objectOrdinal_allocated capacity steps).2
  rw [hnumbers, Nat.mod_self, objectOrdinal] at hnext
  have hzero : (after (fresh capacity) steps).nextObject - 1 = 0 := UInt32.toNat_inj.mp hnext
  rw [← UInt32.sub_add_cancel (after (fresh capacity) steps).nextObject 1, hzero]
  rfl

/-- A caller makes an object in its base frame and then as many others in frames as there are
numbers left. The first object is live and has its label, and the next allocation replaces it: the
caller gets the old number, the first object has the new label, and there are as many objects as
before. -/
theorem first_object_replaced (capacity : Option Nat) (a b : String) {later : List Step}
    (hchurn : ∀ step ∈ later, Churn 1 step)
    (hcount : later.countP Step.makesObject = 2 ^ 32 - 1) :
    (after (fresh capacity) (.attach :: .operate 1 (.alloc a) :: later)).attached.contains 1 =
      true ∧
    (after (fresh capacity) (.attach :: .operate 1 (.alloc a) :: later)).objects.get? 1 = some a ∧
    ((Operation.alloc b).perform 1
      (after (fresh capacity) (.attach :: .operate 1 (.alloc a) :: later))).result =
        .ok (.object (some 1)) ∧
    ((Operation.alloc b).perform 1
      (after (fresh capacity) (.attach :: .operate 1 (.alloc a) :: later))).state.objects.get? 1 =
        some b ∧
    ((Operation.alloc b).perform 1
      (after (fresh capacity) (.attach :: .operate 1 (.alloc a) :: later))).state.objects.size =
        (after (fresh capacity) (.attach :: .operate 1 (.alloc a) :: later)).objects.size := by
  have hnumbers : (allocated (history (fresh capacity)
      (.attach :: .operate 1 (.alloc a) :: later))).length = 2 ^ 32 := by
    have hattach : ¬ Step.attach.makesObject = true := nofun
    have halloc : (Step.operate 1 (.alloc a)).makesObject = true := rfl
    rw [length_allocated, List.countP_cons_of_neg hattach, List.countP_cons_of_pos halloc, hcount]
    omega
  have hbase : (after (fresh capacity)
      (.attach :: .operate 1 (.alloc a) :: later)).HasBaseLocal 1 1 := by
    have hfirst : (after (fresh capacity) [.attach, .operate 1 (.alloc a)]).HasBaseLocal 1 1 := by
      cases capacity <;> exact ⟨⟨[1], []⟩, rfl, [], [1], rfl, List.mem_singleton_self 1⟩
    exact hfirst.after hchurn
  obtain ⟨f, hf, hinBase⟩ := hbase
  have hlabel : (after (fresh capacity)
      (.attach :: .operate 1 (.alloc a) :: later)).objects.get? 1 = some a := by
    have hlive := rootsLive_after capacity _ 1 (.inl ⟨1, f, hf, hinBase.mem_locals⟩)
    obtain ⟨label, hget⟩ := isLive_iff.mp hlive
    have hfirst : (1, a) ∈ allocated (history (fresh capacity)
        [.attach, .operate 1 (.alloc a)]) := by
      cases capacity <;> exact List.mem_singleton_self (1, a)
    have hmade := mem_allocated_append hfirst later
    rw [hget, label_unique (Nat.le_of_eq hnumbers) hmade (mem_allocated_of_get? hget)]
  have hperform := perform_alloc_of_attached hf b
  rw [nextObject_of_all_made hnumbers] at hperform
  have hattached : (after (fresh capacity)
      (.attach :: .operate 1 (.alloc a) :: later)).attached.contains 1 = true := by
    rw [Table.contains, hf]
    rfl
  rw [hperform, withFrames_objects, withObject_objects, nextObject_of_all_made hnumbers]
  exact ⟨hattached, hlabel, rfl, Table.get?_insert_self _ _ _,
    Table.size_insert_of_get?_eq_some hlabel b⟩

/-- Objects are made in a frame, which is closed, and then the heap is collected. -/
def round (env : EnvId) (label : String) (count : Nat) : List Step :=
  .operate env (.openFrame 16) :: (List.replicate count (.operate env (.alloc label)) ++
    [.operate env .closeFrame, .collect])

/-- A number of rounds, and one more up to its last object. -/
def rounds (env : EnvId) (label : String) (count : Nat) : Nat → List Step
  | 0 => .operate env (.openFrame 16) :: List.replicate (count - 1) (.operate env (.alloc label))
  | n + 1 => round env label count ++ rounds env label count n

/-- All steps of a round make objects in frames. -/
theorem churn_of_mem_round {count : Nat} (h : step ∈ round env label count) :
    Churn env step := by
  rcases List.mem_cons.mp h with rfl | h
  · exact .openFrame 16
  · rcases List.mem_append.mp h with h | h
    · rw [List.eq_of_mem_replicate h]
      exact .alloc label
    · simp only [List.mem_cons, List.not_mem_nil, or_false] at h
      rcases h with rfl | rfl
      · exact .closeFrame
      · exact .collect

/-- All steps of many rounds make objects in frames. -/
theorem churn_of_mem_rounds {count n : Nat} (h : step ∈ rounds env label count n) :
    Churn env step := by
  induction n with
  | zero =>
    rcases List.mem_cons.mp h with rfl | h
    · exact .openFrame 16
    · rw [List.eq_of_mem_replicate h]
      exact .alloc label
  | succ n ih =>
    rcases List.mem_append.mp h with h | h
    · exact churn_of_mem_round h
    · exact ih h

/-- The objects of all rounds, the last one unfinished. -/
theorem countP_rounds (env : EnvId) (label : String) {count : Nat} (hcount : 0 < count) (n : Nat) :
    (rounds env label count n).countP Step.makesObject = (n + 1) * count - 1 := by
  have hallocs : ∀ k, (List.replicate k (Step.operate env (.alloc label))).countP
      Step.makesObject = k := by
    intro k
    rw [List.countP_replicate]
    rfl
  have hround : (round env label count).countP Step.makesObject = count := by
    rw [round, List.countP_cons, List.countP_append, hallocs]
    rfl
  induction n with
  | zero =>
    rw [rounds, List.countP_cons, hallocs, Nat.zero_add, Nat.one_mul]
    rfl
  | succ n ih =>
    have hpos : 0 < (n + 1) * count := Nat.mul_pos (Nat.succ_pos n) hcount
    rw [rounds, List.countP_append, hround, ih, Nat.succ_mul (n + 1) count]
    omega

/-- An allocation can replace a live object. A caller makes an object and keeps its local. It goes
on for 2 ^ 24 rounds, in each of which it opens a frame, makes 256 objects, closes the frame and has
the heap collected. The last allocation of the last round makes nothing new: it answers the local of
the first object, which was live and had another label. -/
theorem allocation_replaces_live_object :
    (after (fresh none)
      (.attach :: .operate 1 (.alloc "a") :: rounds 1 "b" 256 16777215)).attached.contains 1 =
        true ∧
    (after (fresh none)
      (.attach :: .operate 1 (.alloc "a") :: rounds 1 "b" 256 16777215)).objects.get? 1 =
        some "a" ∧
    ((Operation.alloc "b").perform 1 (after (fresh none)
      (.attach :: .operate 1 (.alloc "a") :: rounds 1 "b" 256 16777215))).result =
        .ok (.object (some 1)) ∧
    ((Operation.alloc "b").perform 1 (after (fresh none)
      (.attach :: .operate 1 (.alloc "a") :: rounds 1 "b" 256 16777215))).state.objects.get? 1 =
        some "b" ∧
    ¬ ∃ id, (after (fresh none)
      (.attach :: .operate 1 (.alloc "a") :: rounds 1 "b" 256 16777215)).MakesNew 1 "b" id := by
  have hcount : (rounds 1 "b" 256 16777215).countP Step.makesObject = 2 ^ 32 - 1 :=
    countP_rounds 1 "b" (by decide) 16777215
  obtain ⟨hattached, hbefore, hanswer, hafter, hsize⟩ :=
    first_object_replaced none "a" "b" (fun step h => churn_of_mem_rounds h) hcount
  refine ⟨hattached, hbefore, hanswer, hafter, ?_⟩
  rintro ⟨id, hnew⟩
  have hmore := hnew.oneMore
  omega

end DurableRefs.Heap
