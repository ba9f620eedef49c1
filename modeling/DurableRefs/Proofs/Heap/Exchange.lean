import DurableRefs.Proofs.Heap.Rooted
import DurableRefs.Proofs.Heap.Words

/-!
# Handles can be exchanged for words

A program that works with handles can work with their words instead, and ask as managed code does.
The words do not tell the class of a handle, so the calls that take them ask the host or take a
class for granted. As long as the handles are in use, that gives the class of the handle: step by
step the heap, the answers, the events and the failures are the same.
-/

namespace DurableRefs.Heap

variable {heap : Heap} {env : EnvId} {h : Handle} {m : Moment} {step : Step} {fault : Fault}
  {operation : Operation Local Handle Int64} {capacity : Option Nat}
  {earlier program : List Step}

/-! ### The same program with words -/

/-- The operation with the word of each handle in its place. -/
def Operation.inWords : Operation Local Handle Int64 → Operation Local Handle Int64
  | .createStrong x => .managed (.newRef x)
  | .createWeak x => .managed (.newWeakRef x)
  | .release h => .managed (.unref h.raw)
  | .resolve h => .managed (.get h.raw)
  | .resolveWeak h => .managed (.getWeak h.raw)
  | operation => operation

/-- The answer with the word of a handle in its place. No handle becomes zero, and no referent
becomes the null local. -/
def Answer.inWords : Answer → Answer
  | .handle h => .word (Handle.toWord h)
  | .referent x => .object (x.getD none)
  | a => a

/-- Managed code is answered in words already. -/
@[simp] theorem Answer.inWords_ofManaged (a : ManagedAnswer Local) :
    (Answer.ofManaged a).inWords = Answer.ofManaged a := by
  cases a <;> rfl

/-- The step with the word of each handle in its place. -/
def Step.inWords : Step → Step
  | .operate env operation => .operate env operation.inWords
  | step => step

/-- The reply with the word of a handle in its place. -/
def Reply.inWords : Reply → Reply
  | .answer a => .answer a.inWords
  | reply => reply

/-- The step of a moment with the words of its handles. -/
def Moment.inWords (m : Moment) : Moment := ⟨m.heap, m.step.inWords⟩

/-- Whether an operation makes, resolves or releases handles. -/
def Operation.isTyped {L H W : Type} : Operation L H W → Bool
  | .createStrong _ | .createWeak _ | .release _ | .resolve _ | .resolveWeak _ => true
  | _ => false

/-- After some earlier steps, a step uses handles well if it releases and resolves only handles
that are in use, each as one of its class. -/
def Step.UsesWell (capacity : Option Nat) (earlier : List Step) : Step → Prop
  | .operate _ (.release h) => InUse capacity earlier h
  | .operate _ (.resolve h) => InUse capacity earlier h ∧ h.strength = .strong
  | .operate _ (.resolveWeak h) => InUse capacity earlier h ∧ h.strength = .weak
  | _ => True

/-- After some earlier steps, a program uses handles well if each of its steps does. -/
def UsesWell (capacity : Option Nat) (earlier : List Step) : List Step → Prop
  | [] => True
  | step :: rest => step.UsesWell capacity earlier ∧ UsesWell capacity (earlier ++ [step]) rest

/-! ### One operation -/

/-- Two operations that do the same and put it into answers of which one is the other in words
leave the same behind. -/
theorem perform_inWords_of_eq {α : Type} {x : Task α} {form : α → Answer}
    (htyped : operation.perform env = x >>= fun a => pure (form a))
    (hwords : operation.inWords.perform env = x >>= fun a => pure (form a).inWords)
    (heap : Heap) :
    operation.inWords.perform env heap =
      ⟨(operation.perform env heap).result.map Answer.inWords,
        (operation.perform env heap).state, (operation.perform env heap).notes⟩ := by
  rw [htyped, hwords, Action.bind_pure_apply, Action.bind_pure_apply]
  cases (x heap).result <;> rfl

/-- A handle whose row has its class is released through its word as it is itself. -/
theorem perform_unref_of_row {id : ObjectId} (env : EnvId)
    (hrow : heap.references.get? h.raw = some ⟨h.strength, id⟩) :
    (Operation.managed (.unref h.raw)).perform env heap =
      (Operation.release h).perform env heap := by
  simp only [Operation.perform, Host.answer, Action.bind_pure_apply, release_eq,
    removeReference_of_row hrow, unref_of_row h.raw_ne_zero hrow, if_true]
  rfl

/-- The word of a strong handle is resolved as the handle is. -/
theorem perform_get_of_strong (env : EnvId) (hs : h.strength = .strong) :
    (Operation.managed (.get h.raw)).perform env =
      (host env).resolve h >>= fun x => pure (.object x) := by
  obtain ⟨strength, raw, hraw⟩ := h
  cases hs
  simp [Operation.perform, Host.answer, get_of_ne_zero env hraw, Answer.ofManaged]

/-- The word of a weak handle is resolved as the handle is, with null for nothing. -/
theorem perform_getWeak_of_weak (env : EnvId) (hs : h.strength = .weak) :
    (Operation.managed (.getWeak h.raw)).perform env =
      (host env).resolveWeak h >>= fun x => pure (.object (x.getD none)) := by
  obtain ⟨strength, raw, hraw⟩ := h
  cases hs
  simp [Operation.perform, Host.answer, getWeak_of_ne_zero env hraw, Answer.ofManaged]

/-- Each operation leaves the same heap and the same events in words, and answers or fails the
same. Only a release has to find its class in the table. -/
theorem Operation.perform_inWords (env : EnvId)
    (hrelease : ∀ h, operation = .release h →
      ∃ id, heap.references.get? h.raw = some ⟨h.strength, id⟩)
    (hresolve : ∀ h, operation = .resolve h → h.strength = .strong)
    (hresolveWeak : ∀ h, operation = .resolveWeak h → h.strength = .weak) :
    operation.inWords.perform env heap =
      ⟨(operation.perform env heap).result.map Answer.inWords,
        (operation.perform env heap).state, (operation.perform env heap).notes⟩ := by
  cases operation with
  | createStrong x => exact perform_inWords_of_eq rfl (Operation.perform_newRef env x) heap
  | createWeak x => exact perform_inWords_of_eq rfl (Operation.perform_newWeakRef env x) heap
  | release h =>
    obtain ⟨id, hrow⟩ := hrelease h rfl
    rw [Operation.inWords, perform_unref_of_row env hrow]
    simp only [Operation.perform, Action.bind_pure_apply]
    cases ((host env).release h heap).result <;> rfl
  | resolve h =>
    exact perform_inWords_of_eq rfl (perform_get_of_strong env (hresolve h rfl)) heap
  | resolveWeak h =>
    exact perform_inWords_of_eq rfl (perform_getWeak_of_weak env (hresolveWeak h rfl)) heap
  | null | isNull x | same x y | fatal reason => rfl
  | managed call =>
    refine perform_inWords_of_eq (x := (host env).answer call) rfl ?_ heap
    simp only [Answer.inWords_ofManaged]
    rfl
  | _ => exact perform_inWords_of_eq rfl rfl heap

/-- A step that uses handles well leaves the same heap and the same events in words, and answers or
fails the same, as long as the words last. -/
theorem Step.perform_inWords
    (hwords : (made (history (fresh capacity) earlier)).length < 2 ^ 64 - 1)
    (hwell : step.UsesWell capacity earlier) :
    step.inWords.perform (after (fresh capacity) earlier) =
      ⟨(step.perform (after (fresh capacity) earlier)).result.map Reply.inWords,
        (step.perform (after (fresh capacity) earlier)).state,
        (step.perform (after (fresh capacity) earlier)).notes⟩ := by
  cases step with
  | attach | detach env | collect => rfl
  | operate env operation =>
    rw [Step.inWords, Step.perform_operate, Step.perform_operate,
      Operation.perform_inWords env ?_ ?_ ?_]
    · cases (operation.perform env (after (fresh capacity) earlier)).result <;> rfl
    · rintro h rfl
      exact InUse.row hwell hwords
    · rintro h rfl
      exact hwell.2
    · rintro h rfl
      exact hwell.2

/-! ### Failures -/

/-- As long as the words last, making a handle fails because the table is full or the object has
been freed. -/
theorem fault_of_makeHandle {strength : Strength} {x : Local} (hraw : heap.nextRaw ≠ 0)
    (hfault : (makeHandle env strength x heap).result = .error fault) :
    fault = .fatal HostFailure.tableExhausted.message ∨
      ∃ id, fault = .misuse (.danglingLocal id) := by
  cases x with
  | none =>
    rw [makeHandle_null] at hfault
    cases hfault
  | some id =>
    cases hlive : heap.isLive id with
    | false =>
      rw [makeHandle_of_freed hlive] at hfault
      cases hfault
      exact .inr ⟨id, rfl⟩
    | true =>
      cases hfull : heap.isFull with
      | true =>
        rw [makeHandle_of_full hlive hfull] at hfault
        cases hfault
        exact .inl rfl
      | false =>
        rw [makeHandle_of_room hlive hfull hraw] at hfault
        cases hfault

/-- A step that makes, resolves or releases a handle, and uses it well, fails in two ways only. -/
theorem fault_of_usesWell (hwords : (made (history (fresh capacity) earlier)).length < 2 ^ 64 - 1)
    (htyped : operation.isTyped = true)
    (hattached : (after (fresh capacity) earlier).attached.contains env = true)
    (hwell : (Step.operate env operation).UsesWell capacity earlier)
    (hfault : (operation.perform env (after (fresh capacity) earlier)).result = .error fault) :
    fault = .fatal HostFailure.tableExhausted.message ∨
      ∃ id, fault = .misuse (.danglingLocal id) := by
  obtain ⟨f, hf⟩ := Option.isSome_iff_exists.mp hattached
  cases operation with
  | createStrong x =>
    have hfault : (makeHandle env .strong x (after (fresh capacity) earlier)).result =
        .error fault := Action.result_bind_pure_eq_error_iff.mp hfault
    exact fault_of_makeHandle (nextRaw_ne_zero hwords) hfault
  | createWeak x =>
    have hfault : (makeHandle env .weak x (after (fresh capacity) earlier)).result =
        .error fault := Action.result_bind_pure_eq_error_iff.mp hfault
    exact fault_of_makeHandle (nextRaw_ne_zero hwords) hfault
  | release h =>
    obtain ⟨id, hrow⟩ := InUse.row hwell hwords
    simp [Operation.perform, release_eq, removeReference_of_row hrow] at hfault
  | resolve h =>
    obtain ⟨huse, hs⟩ := hwell
    obtain ⟨id, hrow⟩ := huse.row hwords
    have hlive := rootsLive_after capacity earlier id (.inr ⟨_, _, hrow, hs, rfl⟩)
    simp [Operation.perform, resolve_of_live hs hrow hlive hf] at hfault
  | resolveWeak h =>
    obtain ⟨huse, hs⟩ := hwell
    obtain ⟨id, hrow⟩ := huse.row hwords
    cases hlive : (after (fresh capacity) earlier).isLive id with
    | true => simp [Operation.perform, resolveWeak_of_live hs hrow hlive hf] at hfault
    | false => simp [Operation.perform, resolveWeak_of_freed hs hrow hlive] at hfault
  | _ => cases htyped

/-! ### Programs -/

/-- In words, a program that uses handles well finds the same heap before each of its steps, and
leaves the same heap behind. At each step it changes the heap in the same way and reports the same
events, and answers the words of the handles that are answered, the null local where a referent is
gone, and otherwise the same; or it fails as the step fails. Where the step makes, resolves or
releases a handle, it fails because the table is full or the object of a local has been freed. -/
theorem program_agrees_in_words (capacity : Option Nat) (earlier program : List Step)
    (hwords : (made (history (fresh capacity) (earlier ++ program))).length < 2 ^ 64 - 1)
    (hwell : UsesWell capacity earlier program) :
    history (after (fresh capacity) earlier) (program.map Step.inWords) =
      (history (after (fresh capacity) earlier) program).map Moment.inWords ∧
    after (after (fresh capacity) earlier) (program.map Step.inWords) =
      after (after (fresh capacity) earlier) program ∧
    ∀ m ∈ history (after (fresh capacity) earlier) program,
      m.inWords.outcome =
        ⟨m.outcome.result.map Reply.inWords, m.outcome.state, m.outcome.notes⟩ ∧
      ∀ env operation fault, m.step = .operate env operation → operation.isTyped = true →
        m.heap.attached.contains env = true → m.outcome.result = .error fault →
          fault = .fatal HostFailure.tableExhausted.message ∨
            ∃ id, fault = .misuse (.danglingLocal id) := by
  induction program generalizing earlier with
  | nil => simp
  | cons step rest ih =>
    obtain ⟨hstep, hrest⟩ := hwell
    have hearlier := Nat.lt_of_le_of_lt (length_made_le_append _ earlier _) hwords
    have hsame := Step.perform_inWords hearlier hstep
    have hstate : (step.inWords.perform (after (fresh capacity) earlier)).state =
        after (fresh capacity) (earlier ++ [step]) := by rw [hsame, after_concat]
    rw [List.append_cons] at hwords
    obtain ⟨hhistory, hafter, hmoments⟩ := ih (earlier ++ [step]) hwords hrest
    rw [List.map_cons, history_cons, history_cons, after_cons, after_cons, hstate,
      ← after_concat, hhistory, hafter]
    refine ⟨rfl, rfl, ?_⟩
    intro m hm
    rcases List.mem_cons.mp hm with rfl | hm
    · refine ⟨hsame, ?_⟩
      rintro env operation fault rfl htyped hattached hfault
      have hfault := Action.result_bind_pure_eq_error_iff.mp hfault
      exact fault_of_usesWell hearlier htyped hattached hstep hfault
    · exact hmoments m hm

/-- With room for one reference, a strong handle is resolved, a weak one is refused, and the strong
one is released. In words the same program leaves the same heap, and its second step fails as the
second step of the program does. -/
theorem program_agrees_in_words_when_full :
    (made (history (fresh (some 1))
      ([.attach, .operate 1 (.alloc "a"), .operate 1 (.createStrong (some 1))] ++
        [.operate 1 (.resolve ⟨.strong, 1, by decide⟩), .operate 1 (.createWeak (some 1)),
          .operate 1 (.release ⟨.strong, 1, by decide⟩)]))).length < 2 ^ 64 - 1 ∧
    UsesWell (some 1) [.attach, .operate 1 (.alloc "a"), .operate 1 (.createStrong (some 1))]
      [.operate 1 (.resolve ⟨.strong, 1, by decide⟩), .operate 1 (.createWeak (some 1)),
        .operate 1 (.release ⟨.strong, 1, by decide⟩)] ∧
    after (after (fresh (some 1))
        [.attach, .operate 1 (.alloc "a"), .operate 1 (.createStrong (some 1))])
        [.operate 1 (.managed (.get 1)), .operate 1 (.managed (.newWeakRef (some 1))),
          .operate 1 (.managed (.unref 1))] =
      after (after (fresh (some 1))
        [.attach, .operate 1 (.alloc "a"), .operate 1 (.createStrong (some 1))])
        [.operate 1 (.resolve ⟨.strong, 1, by decide⟩), .operate 1 (.createWeak (some 1)),
          .operate 1 (.release ⟨.strong, 1, by decide⟩)] ∧
    ((Operation.managed (.newWeakRef (some 1))).perform 1 (after (fresh (some 1))
      [.attach, .operate 1 (.alloc "a"), .operate 1 (.createStrong (some 1)),
        .operate 1 (.resolve ⟨.strong, 1, by decide⟩)])).result =
          .error (.fatal HostFailure.tableExhausted.message) := by
  have huse : InUse (some 1)
      [.attach, .operate 1 (.alloc "a"), .operate 1 (.createStrong (some 1))]
      ⟨.strong, 1, by decide⟩ :=
    ⟨[.attach, .operate 1 (.alloc "a")], _, [], 1, rfl, by decide, by simp⟩
  have hlater : InUse (some 1)
      [.attach, .operate 1 (.alloc "a"), .operate 1 (.createStrong (some 1)),
        .operate 1 (.resolve ⟨.strong, 1, by decide⟩), .operate 1 (.createWeak (some 1))]
      ⟨.strong, 1, by decide⟩ :=
    ⟨[.attach, .operate 1 (.alloc "a")], _, _, 1, rfl, by decide, by decide⟩
  have hwell : UsesWell (some 1)
      [.attach, .operate 1 (.alloc "a"), .operate 1 (.createStrong (some 1))]
      [.operate 1 (.resolve ⟨.strong, 1, by decide⟩), .operate 1 (.createWeak (some 1)),
        .operate 1 (.release ⟨.strong, 1, by decide⟩)] :=
    ⟨⟨huse, rfl⟩, trivial, hlater, trivial⟩
  have hagrees := program_agrees_in_words (some 1) _ _ (by decide) hwell
  exact ⟨by decide, hwell, hagrees.2.1, by decide⟩

end DurableRefs.Heap
