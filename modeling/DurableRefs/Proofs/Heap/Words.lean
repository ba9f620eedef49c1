import DurableRefs.Proofs.Heap.Numbering

/-!
# Words are given out once

As long as the words last, no word is given out twice. A word that has been deleted is dead: no
later reference takes it, and every use of it fails. A word that has been given out and not been
deleted is in use, and keeps its row in the table.
-/

namespace DurableRefs.Heap

variable {heap : Heap} {env : EnvId} {id : ObjectId} {h : Handle} {strength : Strength}
  {step deletion request : Step} {operation : Operation Local Handle Int64} {a : Answer}
  {capacity : Option Nat} {steps before later : List Step}

/-! ### Words that are given out -/

/-- A step that gives a handle out makes the row of that handle, to a live object. -/
theorem row_of_made? (hmade : (⟨heap, step⟩ : Moment).made? = some (h, id)) :
    heap.isLive id = true ∧ h.raw = heap.nextRaw ∧
      (step.perform heap).state = heap.withReference ⟨h.strength, id⟩ := by
  rcases (step.change heap).references_cases with
    ⟨strength, target, hlive, _, hgiven, hlater⟩ | ⟨_, _, _, _, hgiven, _⟩ | ⟨hgiven, _⟩
  · rw [hmade, eq_comm, Option.map_eq_some_iff] at hgiven
    obtain ⟨h', hraw, hpair⟩ := hgiven
    obtain ⟨hword, hs⟩ := Handle.ofRaw?_eq_some_iff.mp hraw
    cases hpair
    exact ⟨hlive, hword, by rw [hlater, hs]⟩
  · rw [hmade] at hgiven
    cases hgiven
  · rw [hmade] at hgiven
    cases hgiven

/-- As long as the words last, no word is given out twice. -/
theorem nodup_raw_made
    (hwords : (made (history (fresh capacity) steps)).length < 2 ^ 64 - 1) :
    ((made (history (fresh capacity) steps)).map fun entry => entry.1.raw).Nodup := by
  have hplaces := (map_rawOrdinal_made hwords).1
  have hnodup : (((made (history (fresh capacity) steps)).map fun entry => entry.1.raw).map
      rawOrdinal).Nodup := by
    rw [List.map_map]
    exact hplaces ▸ List.nodup_range
  exact List.Nodup.of_map _ hnodup

/-- An operation that is asked for a reference to an object and returns answers zero exactly when
the table is full, and otherwise gives its answer out as a handle. -/
theorem word?_of_asked? (hraw : heap.nextRaw ≠ 0)
    (hasked : operation.asked? = some (strength, some id))
    (hanswer : (operation.perform env heap).result = .ok a) :
    ∃ word, a.word? = some word ∧ (word = 0 ↔ heap.isFull = true) ∧
      (word ≠ 0 → ∃ h : Handle, h.raw = word ∧ h.strength = strength ∧
        (⟨heap, .operate env operation⟩ : Moment).made? = some (h, id)) := by
  have hform := Operation.perform_of_asked? hasked env
  rw [Moment.made?_of_asked?_some hasked]
  cases hlive : heap.isLive id with
  | false =>
    rcases hform with h | h | h <;>
      simp [h, makeHandle_of_freed hlive, makeReference_of_freed hlive] at hanswer
  | true =>
    cases hfull : heap.isFull with
    | true =>
      -- only a request for a bare reference returns here
      rcases hform with h | h | h <;>
        simp [h, makeHandle_of_full hlive hfull, makeReference_of_full hlive hfull] at hanswer
      exact ⟨0, by simp [← hanswer, Answer.word?], by simp, fun hzero => absurd rfl hzero⟩
    | false =>
      refine ⟨heap.nextRaw, ?_, by simp [hraw], fun _ => ⟨⟨strength, heap.nextRaw, hraw⟩, ?_⟩⟩
      · rcases hform with h | h | h <;>
          simp [h, makeHandle_of_room hlive hfull hraw,
            makeReference_of_room hlive hfull] at hanswer <;>
          simp [← hanswer, Answer.word?, Handle.toWord]
      · simp [makeReference_of_room hlive hfull, Handle.ofRaw?_of_ne_zero hraw]

/-! ### Words in use -/

/-- A handle was given out in a run and no later step was told to delete its reference. -/
def InUse (capacity : Option Nat) (steps : List Step) (h : Handle) : Prop :=
  ∃ before request later id, steps = before ++ request :: later ∧
    (⟨after (fresh capacity) before, request⟩ : Moment).made? = some (h, id) ∧
    ∀ step ∈ later, step.deleted? ≠ some h.raw

/-- A handle that one step gives out belongs to the handles that its run gives out. -/
theorem mem_made_of_made?
    (hmade : (⟨after (fresh capacity) before, request⟩ : Moment).made? = some (h, id))
    (later : List Step) :
    (h, id) ∈ made (history (fresh capacity) (before ++ request :: later)) := by
  rw [List.append_cons]
  apply mem_made_append
  rw [made_concat, hmade]
  simp

/-- As long as the words last, a handle that has not been deleted keeps its row. -/
theorem get?_of_made?
    (hwords : (made (history (fresh capacity) (before ++ request :: later))).length < 2 ^ 64 - 1)
    (hmade : (⟨after (fresh capacity) before, request⟩ : Moment).made? = some (h, id))
    (hkept : ∀ step ∈ later, step.deleted? ≠ some h.raw) :
    (after (fresh capacity) (before ++ request :: later)).references.get? h.raw =
      some ⟨h.strength, id⟩ := by
  induction later using List.reverseRecOn with
  | nil =>
    obtain ⟨-, hraw, hlater⟩ := row_of_made? hmade
    rw [after_concat, hlater, withReference_references, hraw, Table.get?_insert_self]
  | append_singleton later step ih =>
    rw [← List.cons_append, ← List.append_assoc] at hwords ⊢
    have hbefore := Nat.lt_of_le_of_lt (length_made_le_append _ _ [step]) hwords
    have ih := ih hbefore fun s hs => hkept s (List.mem_append_left _ hs)
    rw [after_concat]
    have hne := ne_nextRaw_of_mem_made hbefore (mem_made_of_made? hmade later)
    rcases (step.change (after (fresh capacity) (before ++ request :: later))).get?_cases hne
      with hsame | ⟨hdeleted, -⟩
    · rw [hsame, ih]
    · exact absurd hdeleted (hkept step (by simp))

/-- As long as the words last, a handle in use has a row of its own class. -/
theorem InUse.row (huse : InUse capacity steps h)
    (hwords : (made (history (fresh capacity) steps)).length < 2 ^ 64 - 1) :
    ∃ id, (after (fresh capacity) steps).references.get? h.raw = some ⟨h.strength, id⟩ := by
  obtain ⟨before, request, later, id, rfl, hmade, hkept⟩ := huse
  exact ⟨id, get?_of_made? hwords hmade hkept⟩

/-! ### Dead words -/

/-- As long as the words last, a word that was given out and deleted has no row ever after. -/
theorem get?_eq_none_of_deleted?
    (hwords : (made (history (fresh capacity) (before ++ deletion :: later))).length <
      2 ^ 64 - 1)
    (hmade : (h, id) ∈ made (history (fresh capacity) before))
    (hdeleted : deletion.deleted? = some h.raw) :
    (after (fresh capacity) (before ++ deletion :: later)).references.get? h.raw = none := by
  induction later using List.reverseRecOn with
  | nil =>
    rw [after_concat]
    cases deletion with
    | operate env operation =>
      rw [Step.perform_operate]
      rcases Operation.cases_of_deleted? hdeleted with ⟨hnone, hlater⟩ | ⟨row, -, hlater⟩
      · rw [hlater]
        exact hnone.resolve_left h.raw_ne_zero
      · rw [hlater, withoutReference_references, Table.get?_erase_self]
    | _ => cases hdeleted
  | append_singleton later step ih =>
    rw [← List.cons_append, ← List.append_assoc] at hwords ⊢
    have hbefore := Nat.lt_of_le_of_lt (length_made_le_append _ _ [step]) hwords
    have ih := ih hbefore
    rw [after_concat]
    have hne := ne_nextRaw_of_mem_made hbefore (mem_made_append hmade (deletion :: later))
    rcases (step.change (after (fresh capacity) (before ++ deletion :: later))).get?_cases hne
      with hsame | ⟨-, hgone⟩
    · rw [hsame, ih]
    · exact hgone

/-- Everything that uses a word, as a word or in a handle. -/
def wordUses (h : Handle) : List (Operation Local Handle Int64) :=
  [.resolve h, .resolveWeak h, .release h, .managed (.unref h.raw), .managed (.get h.raw),
    .managed (.getWeak h.raw), .newLocal h.raw, .deleteStrong h.raw, .deleteWeak h.raw]

/-- A word without a row fails in every use, and nothing is changed. -/
theorem perform_of_mem_wordUses (hdead : heap.references.get? h.raw = none) (env : EnvId)
    (hoperation : operation ∈ wordUses h) :
    ∃ fault, (operation.perform env heap).result = .error fault ∧
      (operation.perform env heap).state = heap := by
  simp only [wordUses, List.mem_cons, List.not_mem_nil, or_false] at hoperation
  rcases hoperation with rfl | rfl | rfl | rfl | rfl | rfl | rfl | rfl | rfl
  · cases hs : h.strength with
    | strong => simp [Operation.perform, resolve_of_dead hs hdead]
    | weak => simp [Operation.perform, resolve_of_weak hs]
  · cases hs : h.strength with
    | strong => simp [Operation.perform, resolveWeak_of_strong hs]
    | weak => simp [Operation.perform, resolveWeak_of_dead hs hdead]
  · simp [Operation.perform, release_eq, removeReference_of_dead hdead]
  · simp [Operation.perform, Host.answer, unref_of_dead h.raw_ne_zero hdead]
  · simp [Operation.perform, Host.answer, get_of_dead h.raw_ne_zero hdead]
  · simp [Operation.perform, Host.answer, getWeak_of_dead h.raw_ne_zero hdead]
  · simp [Operation.perform, host, newLocal_of_dead hdead]
  · simp [Operation.perform, host, h.raw_ne_zero, removeReference_of_dead hdead]
  · simp [Operation.perform, host, h.raw_ne_zero, removeReference_of_dead hdead]

/-- As long as the words last, the words that a run gives out are all different, and an operation
that is asked for a reference to an object and returns gives such a word out, unless the table is
full: only then is its answer zero. A word that was given out and deleted, whatever the deletion
reported, is dead: no matter what has been made since, every use of it fails and it has no
class. -/
theorem words_distinct_and_dead_for_good (capacity : Option Nat) (steps : List Step)
    (hwords : (made (history (fresh capacity) steps)).length < 2 ^ 64 - 1) :
    ((made (history (fresh capacity) steps)).map fun entry => entry.1.raw).Nodup ∧
    (∀ m ∈ history (fresh capacity) steps, ∀ env operation strength id a,
      m.step = .operate env operation → operation.asked? = some (strength, some id) →
        m.outcome.result = .ok (.answer a) →
          ∃ word, a.word? = some word ∧ (word = 0 ↔ m.heap.isFull = true) ∧
            (word ≠ 0 → ∃ h : Handle, h.raw = word ∧ h.strength = strength ∧
              m.made? = some (h, id))) ∧
    ∀ before deletion later, steps = before ++ deletion :: later → ∀ h id,
      (h, id) ∈ made (history (fresh capacity) before) → deletion.deleted? = some h.raw →
        ∀ env, (∀ g : Handle, g.raw = h.raw → ∀ operation ∈ wordUses g,
            ∃ fault, (operation.perform env (after (fresh capacity) steps)).result =
              .error fault) ∧
          ((Operation.classify h.raw).perform env (after (fresh capacity) steps)).result =
            .ok (.strength none) := by
  refine ⟨nodup_raw_made hwords, ?_, ?_⟩
  · rintro ⟨heap, step⟩ hm env operation strength id a rfl hasked hanswer
    obtain ⟨before, later, rfl, rfl⟩ := mem_history_iff.mp hm
    have hbefore := Nat.lt_of_le_of_lt (length_made_le_append _ before _) hwords
    have hresult : (operation.perform env (after (fresh capacity) before)).result = .ok a := by
      rw [Moment.outcome, Step.perform_operate] at hanswer
      cases h : (operation.perform env (after (fresh capacity) before)).result <;>
        simp_all [Except.map]
    exact word?_of_asked? (nextRaw_ne_zero hbefore) hasked hresult
  · rintro before deletion later rfl h id hmade hdeleted env
    have hdead := get?_eq_none_of_deleted? hwords hmade hdeleted
    refine ⟨fun g hg operation hoperation => ?_, ?_⟩
    · rw [← hg] at hdead
      obtain ⟨fault, hfault, -⟩ := perform_of_mem_wordUses hdead env hoperation
      exact ⟨fault, hfault⟩
    · simp only [Operation.perform, Action.bind_pure_apply, classify_eq, hdead]
      rfl

/-- A weak word that was deleted as a strong one, which is reported, stays dead although another
reference has been made since. -/
theorem words_dead_after_wrong_deletion :
    (made (history (fresh none)
      [.attach, .operate 1 (.alloc "a"), .operate 1 (.newWeak (some 1)),
        .operate 1 (.deleteStrong 1), .operate 1 (.createStrong (some 1))])).length <
          2 ^ 64 - 1 ∧
    ((Operation.deleteStrong 1).perform 1 (after (fresh none)
      [.attach, .operate 1 (.alloc "a"), .operate 1 (.newWeak (some 1))])).result =
        .error (.misuse (.wrongClass 1 .weak .strong)) ∧
    ∃ fault, ((Operation.managed (.getWeak 1)).perform 1 (after (fresh none)
      [.attach, .operate 1 (.alloc "a"), .operate 1 (.newWeak (some 1)),
        .operate 1 (.deleteStrong 1), .operate 1 (.createStrong (some 1))])).result =
          .error fault := by
  refine ⟨by decide, by decide, ?_⟩
  have hdead := (words_distinct_and_dead_for_good none
    [.attach, .operate 1 (.alloc "a"), .operate 1 (.newWeak (some 1)),
      .operate 1 (.deleteStrong 1), .operate 1 (.createStrong (some 1))] (by decide)).2.2
  exact (hdead [.attach, .operate 1 (.alloc "a"), .operate 1 (.newWeak (some 1))] _ _ rfl
    ⟨.weak, 1, by decide⟩ 1 (by decide) rfl 1).1 _ rfl _ (by simp [wordUses])

end DurableRefs.Heap
