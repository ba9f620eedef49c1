import DurableRefs.Proofs.FunctionTable.Failure

/-!
# Deleting what managed code gives up

Managed code holds references as words and gives them up by their words alone, so the host is asked
for the class of each before it is deleted. Read off a transcript, every deletion follows such a
question about the same word at once, and the deletions are those of the words that were given up.
No function is ever asked about the word zero.
-/

namespace DurableRefs.FunctionTable

variable {table : FunctionTable} {strength : Strength} {x v w raw : Int64}

/-! ### Programs of managed code -/

/-- Calls from managed code as calls of the library. -/
def managedCalls (calls : List (Caller × ManagedCall Int64 Int64)) : List Call :=
  calls.map fun c => .managed c.1 c.2

/-- The program that makes some calls from managed code. -/
def managedProgram (calls : List (Caller × ManagedCall Int64 Int64)) : List Step :=
  (managedCalls calls).map .call

/-- The word that a call from managed code passes. -/
def passedWord : ManagedCall Int64 Int64 → Int64
  | .newRef x | .newWeakRef x | .unref x | .get x | .getWeak x => x

/-- Whether a call from managed code gives a handle up. -/
def givesUp : ManagedCall Int64 Int64 → Bool
  | .unref _ => true
  | _ => false

/-- The class of the handle that a call from managed code asks for. -/
def madeClass : ManagedCall Int64 Int64 → Option Strength
  | .newRef _ => some .strong
  | .newWeakRef _ => some .weak
  | _ => none

/-- The word that a deed gives up as a handle. -/
def Moment.unref? (m : Moment) : Option Int64 :=
  match m.deed with
  | .call (.managed _ (.unref raw)) => some raw
  | _ => none

/-- A deed has got a handle of a class as a word. -/
structure Moment.Obtained (m : Moment) (strength : Strength) (v : Int64) : Prop where
  /-- Managed code asked for a handle. -/
  asked : ∃ caller call, m.deed = .call (.managed caller call) ∧ madeClass call = some strength
  /-- The call returned the word. -/
  returned : m.outcome.result = .ok (.word v)
  /-- The word is a handle. -/
  ne_zero : v ≠ 0

/-! ### Calls in a transcript -/

/-- Whether an item of a transcript is a call of a function. -/
def Item.isCall : Item → Bool
  | .call .. => true
  | _ => false

/-- Whether an item asks for the class of a reference or deletes one. -/
def Item.classifiesOrDeletes : Item → Bool
  | .call .getObjectRefType _ _ | .call .deleteGlobalRef _ _ => true
  | .call .deleteWeakGlobalRef _ _ => true
  | _ => false

/-- Whether an item deletes a reference. -/
def Item.deletes (v : Int64) (item : Item) : Bool :=
  item = .call .deleteGlobalRef (.word v) none ∨ item = .call .deleteWeakGlobalRef (.word v) none

/-- The words that are deleted in a list of calls. There are none unless each question for a class
is followed at once by the deletion of the same word, by the function for weak references just if
the answer was three, and no reference is deleted otherwise. -/
def deletions : List Item → Option (List Int64)
  | [] => some []
  | .call .getObjectRefType (.word v) (some w) :: .call entry (.word v') answer :: rest =>
    if v' = v ∧ entry = .deleter (if w = 3 then .weak else .strong) ∧ answer = none then
      (deletions rest).map (v :: ·)
    else
      none
  | item :: rest => if item.classifiesOrDeletes then none else deletions rest

/-- A host classifies truthfully in a transcript if a word that it has made and that has neither
been made again nor deleted since is of the class that it was made of. -/
def Truthful (items : List Item) : Prop :=
  ∀ before strength argument v between w after,
    items = before ++ .call (.maker strength) argument (some v) ::
      (between ++ .call .getObjectRefType (.word v) (some w) :: after) →
    (∀ item ∈ between, item.deletes v = false ∧
      ∀ s a, item ≠ .call (.maker s) a (some v)) →
    strengthOfType w = some strength

/-! ### What a call leaves behind -/

/-- What a call from managed code leaves behind that gives nothing up: it makes a reference to the
word that it passes if it asks for a handle, or a local from it, reports, and ends the host if it
has to. -/
inductive Item.IsQuestion (made : Option Strength) (x : Int64) : Item → Prop
  /-- A reference is made. -/
  | maker {strength : Strength} (hmade : made = some strength) (answer : Option Int64) :
      Item.IsQuestion made x (.call (.maker strength) (.word x) answer)
  /-- A local is made. -/
  | newLocal (answer : Option Int64) :
      Item.IsQuestion made x (.call .newLocalRef (.word x) answer)
  /-- Something is reported. -/
  | event (e : Log.Event) : Item.IsQuestion made x (.event e)
  /-- The host is ended. -/
  | lastCall (failure : HostFailure) : Item.IsQuestion made x (lastCall failure)

/-- A question neither asks for a class nor deletes. -/
theorem Item.IsQuestion.classifiesOrDeletes_eq {made : Option Strength} {item : Item}
    (h : item.IsQuestion made x) : item.classifiesOrDeletes = false := by
  cases h with
  | @maker strength hmade answer => cases strength <;> rfl
  | newLocal answer | event e | lastCall failure => rfl

/-- Making a handle to an object leaves nothing else behind. -/
theorem isQuestion_of_mem_makeHandle (hmissing : table.missing = []) (hx : x ≠ 0) {item : Item}
    (hitem : item ∈ (makeHandle strength x table).notes) : item.IsQuestion (some strength) x := by
  by_cases hword : table.upcoming (.maker strength) = 0
  · rw [makeHandle_of_refused hmissing hx hword] at hitem
    simp only [List.mem_cons, List.not_mem_nil, or_false] at hitem
    rcases hitem with rfl | rfl | rfl
    · exact .maker rfl _
    · exact .event _
    · exact .lastCall _
  · rw [makeHandle_of_made hmissing hx hword] at hitem
    simp only [List.mem_cons, List.not_mem_nil, or_false] at hitem
    rcases hitem with rfl | rfl
    · exact .maker rfl _
    · exact .event _

/-- Resolving a handle as a strong one leaves questions only. -/
theorem isQuestion_of_mem_resolve (hmissing : table.missing = []) {h : Handle} {item : Item}
    (hitem : item ∈ (host.resolve h table).notes) : item.IsQuestion none h.raw := by
  cases hs : h.strength with
  | weak =>
    rw [resolve_of_weak hs] at hitem
    cases hitem
  | strong =>
    by_cases hword : table.upcoming .newLocalRef = 0
    · rw [resolve_of_refused hmissing hs hword] at hitem
      simp only [List.mem_cons, List.not_mem_nil, or_false] at hitem
      rcases hitem with rfl | rfl | rfl
      · exact .newLocal _
      · exact .event _
      · exact .lastCall _
    · rw [resolve_of_made hmissing hs hword] at hitem
      rw [List.mem_singleton.mp hitem]
      exact .newLocal _

/-- Resolving a handle as a weak one leaves questions only. -/
theorem isQuestion_of_mem_resolveWeak (hmissing : table.missing = []) {h : Handle} {item : Item}
    (hitem : item ∈ (host.resolveWeak h table).notes) : item.IsQuestion none h.raw := by
  cases hs : h.strength with
  | strong =>
    rw [resolveWeak_of_strong hs] at hitem
    cases hitem
  | weak =>
    by_cases hword : table.upcoming .newLocalRef = 0
    · rw [resolveWeak_of_refused hmissing hs hword] at hitem
      simp only [List.mem_cons, List.not_mem_nil, or_false] at hitem
      rcases hitem with rfl | rfl
      · exact .newLocal _
      · exact .event _
    · rw [resolveWeak_of_made hmissing hs hword] at hitem
      rw [List.mem_singleton.mp hitem]
      exact .newLocal _

/-- What a call from managed code answers about no object or no handle. -/
def answerToZero : ManagedCall Int64 Int64 → Value
  | .unref _ => .nothing
  | _ => .word 0

variable {caller : Caller} {call : ManagedCall Int64 Int64}

/-- A call that asks for a handle makes it and returns its word. -/
theorem managed_run_of_madeClass (hmade : madeClass call = some strength) :
    (Call.managed caller call).run = makeHandle strength (passedWord call) >>= fun h =>
      pure (.word (Handle.toWord h)) := by
  cases call with
  | newRef x =>
    cases hmade
    simp [Call.run, Host.answer, Host.newRef, makeHandle, Value.ofManaged, passedWord]
  | newWeakRef x =>
    cases hmade
    simp [Call.run, Host.answer, Host.newWeakRef, makeHandle, Value.ofManaged, passedWord]
  | unref raw | get raw | getWeak raw => cases hmade

/-- A call about no object or no handle does nothing. -/
theorem managed_run_of_zero (hzero : passedWord call = 0) :
    (Call.managed caller call).run table = ⟨.ok (answerToZero call), table, []⟩ := by
  have hnull : ∀ {strength}, madeClass call = some strength → answerToZero call = .word 0 →
      (Call.managed caller call).run table = ⟨.ok (answerToZero call), table, []⟩ := by
    intro strength hmade hanswer
    rw [managed_run_of_madeClass hmade, hzero, Action.bind_pure_apply, makeHandle_null, hanswer]
    rfl
  cases call with
  | newRef x | newWeakRef x => exact hnull rfl rfl
  | unref raw =>
    obtain rfl : raw = 0 := hzero
    simp [Call.run, Host.answer, unref_zero]
    rfl
  | get raw =>
    obtain rfl : raw = 0 := hzero
    simp [Call.run, Host.answer, get_zero]
    rfl
  | getWeak raw =>
    obtain rfl : raw = 0 := hzero
    simp [Call.run, Host.answer, getWeak_zero]
    rfl

/-- Any other call that gives nothing up leaves nothing else behind than questions. -/
theorem isQuestion_of_mem_managed (hmissing : table.missing = []) (hx : passedWord call ≠ 0)
    (hkept : givesUp call = false) {item : Item}
    (hitem : item ∈ ((Call.managed caller call).run table).notes) :
    item.IsQuestion (madeClass call) (passedWord call) := by
  have hmakes : ∀ {strength}, madeClass call = some strength →
      item.IsQuestion (madeClass call) (passedWord call) := by
    intro strength hmade
    rw [managed_run_of_madeClass hmade, Action.bind_pure_apply] at hitem
    rw [hmade]
    exact isQuestion_of_mem_makeHandle hmissing hx hitem
  cases call with
  | unref raw => cases hkept
  | newRef x | newWeakRef x => exact hmakes rfl
  | get raw =>
    have hraw : raw ≠ 0 := hx
    simp only [Call.run, Host.answer, get_of_ne_zero hraw, Action.bind_pure_apply] at hitem
    exact isQuestion_of_mem_resolve hmissing hitem
  | getWeak raw =>
    have hraw : raw ≠ 0 := hx
    simp only [Call.run, Host.answer, getWeak_of_ne_zero hraw, Action.bind_pure_apply] at hitem
    exact isQuestion_of_mem_resolveWeak hmissing hitem

/-- A call that gives a handle up leaves the question for its class behind, some reports, and the
deletion. -/
theorem managed_notes_of_unref (caller : Caller) (hmissing : table.missing = [])
    (hraw : raw ≠ 0) :
    ∃ reports : List Item, (∀ item ∈ reports, ∃ e, item = .event e) ∧
      ((Call.managed caller (.unref raw)).run table).notes =
        .call .getObjectRefType (.word raw) (some (table.upcoming .getObjectRefType)) ::
          (reports ++ [.call (.deleter (releasedAs (table.upcoming .getObjectRefType)))
            (.word raw) none]) := by
  simp only [Call.run, Host.answer, Action.bind_pure_apply, unref_of_ne_zero hmissing hraw]
  cases strengthOfType (table.upcoming .getObjectRefType) with
  | some strength =>
    refine ⟨[.event (.releasing raw _)], ?_, rfl⟩
    intro item hitem
    exact ⟨_, List.mem_singleton.mp hitem⟩
  | none =>
    refine ⟨[.event (.unrecognised raw), .event (.releasing raw _)], ?_, rfl⟩
    intro item hitem
    simp only [List.mem_cons, List.not_mem_nil, or_false] at hitem
    rcases hitem with rfl | rfl
    · exact ⟨_, rfl⟩
    · exact ⟨_, rfl⟩

/-! ### Histories of calls -/

/-- A call after which nothing runs ends the history. -/
theorem deeds_of_last {c : Call} {rest : List Step}
    (hlast : (⟨table, [], .call c⟩ : Moment).isLast = true) :
    deeds table (.call c :: rest) = [⟨table, [], .call c⟩] := by
  have hrun : ((Step.call c).watch []).attempt table =
      (⟨.ok (c.run table).result, (c.run table).state, [⟨table, [], .call c⟩]⟩ :
        Run FunctionTable Moment Stop _) := rfl
  simp only [Moment.isLast, Moment.outcome, Deed.run] at hlast
  rw [deeds, watchProgram, Action.bind_of_ok hrun]
  cases hresult : (c.run table).result with
  | ok value =>
    rw [hresult] at hlast
    cases hlast
  | error stop =>
    rw [hresult] at hlast
    simp only [hlast, if_true, Action.stop_apply, List.append_nil]

/-- After any other call the history goes on. -/
theorem deeds_of_not_last {c : Call} {rest : List Step}
    (hgoes : (⟨table, [], .call c⟩ : Moment).isLast = false) :
    deeds table (.call c :: rest) =
      ⟨table, [], .call c⟩ :: deeds (c.run table).state rest := by
  have hrun : ((Step.call c).watch []).attempt table =
      (⟨.ok (c.run table).result, (c.run table).state, [⟨table, [], .call c⟩]⟩ :
        Run FunctionTable Moment Stop _) := rfl
  simp only [Moment.isLast, Moment.outcome, Deed.run] at hgoes
  rw [deeds, watchProgram, Action.bind_of_ok hrun]
  cases hresult : (c.run table).result with
  | ok value => rfl
  | error stop =>
    rw [hresult] at hgoes
    simp only [hgoes, Bool.false_eq_true, if_false]
    rfl

/-- The deeds of a history of calls are the calls, in order, up to one after which nothing runs. -/
theorem deeds_calls (calls : List Call) (table : FunctionTable) :
    ∃ rest, (deeds table (calls.map .call)).map (·.deed) ++ rest = calls.map .call ∧
      (rest ≠ [] → ∃ m ∈ deeds table (calls.map .call), m.isLast = true) := by
  induction calls generalizing table with
  | nil => exact ⟨[], rfl, fun h => absurd rfl h⟩
  | cons c calls ih =>
    rw [List.map_cons]
    cases hlast : (⟨table, [], .call c⟩ : Moment).isLast with
    | true =>
      rw [deeds_of_last hlast]
      exact ⟨calls.map .call, rfl, fun _ => ⟨_, List.mem_singleton_self _, hlast⟩⟩
    | false =>
      rw [deeds_of_not_last hlast]
      obtain ⟨rest, hdeeds, hrest⟩ := ih (c.run table).state
      refine ⟨rest, by simp [hdeeds], fun hne => ?_⟩
      obtain ⟨m, hm, hmlast⟩ := hrest hne
      exact ⟨m, List.mem_cons_of_mem _ hm, hmlast⟩

/-! ### Deletions -/

/-- Items that neither ask for a class nor delete do not count. -/
theorem deletions_append_of_kept {items : List Item}
    (hitems : ∀ item ∈ items, item.classifiesOrDeletes = false) (rest : List Item) :
    deletions (items ++ rest) = deletions rest := by
  induction items with
  | nil => rfl
  | cons item items ih =>
    have hitem := hitems item List.mem_cons_self
    have hrest := ih fun i hi => hitems i (List.mem_cons_of_mem item hi)
    rw [List.cons_append, ← hrest]
    cases item with
    | call entry argument answer => cases entry <;> first | rfl | cases hitem
    | event e | returned step value | failed stop => rfl

/-- A question for a class with the deletion that fits the answer counts. -/
theorem deletions_of_pair (v w : Int64) (rest : List Item) :
    deletions (.call .getObjectRefType (.word v) (some w) ::
      .call (.deleter (releasedAs w)) (.word v) none :: rest) = (deletions rest).map (v :: ·) := by
  have hclass : releasedAs w = if w = 3 then .weak else .strong := by
    split
    · next hw => exact releasedAs_eq_weak_iff.mpr hw
    · next hw =>
      cases hclass : releasedAs w with
      | strong => rfl
      | weak => exact absurd (releasedAs_eq_weak_iff.mp hclass) hw
  rw [deletions, if_pos ⟨rfl, by rw [hclass], rfl⟩]

/-- A deed is a call from managed code on a table that has all functions. -/
structure Moment.IsManaged (m : Moment) : Prop where
  /-- No function is missing. -/
  missing : m.table.missing = []
  /-- Managed code calls. -/
  managed : ∃ caller call, m.deed = .call (.managed caller call)

/-- What a deed of managed code leaves behind. -/
inductive Moment.Leaves (m : Moment) : Prop
  /-- Nothing, if it is about no object or no handle. -/
  | nothing (hgiven : ∀ raw ∈ m.unref?, raw = 0) (hnotes : m.outcome.notes = [])
  /-- The deletion of the word that it gives up, after the question for its class. -/
  | deletion {raw w : Int64} {reports : List Item} (hgiven : m.unref? = some raw) (hraw : raw ≠ 0)
      (hreports : ∀ item ∈ reports, ∃ e, item = .event e)
      (hnotes : m.outcome.notes = .call .getObjectRefType (.word raw) (some w) ::
        (reports ++ [.call (.deleter (releasedAs w)) (.word raw) none]))
  /-- Questions only. -/
  | questions {caller : Caller} {call : ManagedCall Int64 Int64}
      (hdeed : m.deed = .call (.managed caller call)) (hx : passedWord call ≠ 0)
      (hgiven : m.unref? = none)
      (hnotes : ∀ item ∈ m.outcome.notes, item.IsQuestion (madeClass call) (passedWord call))

/-- A managed call leaves nothing behind, or the deletion of the word that it gives up, or
questions. -/
theorem Moment.IsManaged.leaves {m : Moment} (hm : m.IsManaged) : m.Leaves := by
  obtain ⟨caller, call, hdeed⟩ := hm.managed
  have houtcome := Moment.outcome_of_call hdeed
  by_cases hzero : passedWord call = 0
  · refine .nothing (fun raw hraw => ?_) (by rw [houtcome, managed_run_of_zero hzero])
    rw [Moment.unref?, hdeed] at hraw
    cases call with
    | unref word =>
      cases hraw
      exact hzero
    | _ => cases hraw
  · have hquestions : givesUp call = false → m.unref? = none → m.Leaves := by
      intro hkept hgiven
      refine .questions hdeed hzero hgiven fun item hitem => ?_
      rw [houtcome] at hitem
      exact isQuestion_of_mem_managed hm.missing hzero hkept hitem
    cases call with
    | unref raw =>
      have hraw : raw ≠ 0 := hzero
      obtain ⟨reports, hreports, hnotes⟩ := managed_notes_of_unref caller hm.missing hraw
      rw [← houtcome] at hnotes
      exact .deletion (by rw [Moment.unref?, hdeed]) hraw hreports hnotes
    | newRef x | newWeakRef x | get raw | getWeak raw =>
      exact hquestions rfl (by rw [Moment.unref?, hdeed])

/-- The items around reports. -/
theorem mem_around_reports {first last item : Item} {reports : List Item}
    (hreports : ∀ item ∈ reports, ∃ e, item = .event e)
    (hitem : item ∈ first :: (reports ++ [last])) :
    item = first ∨ (∃ e, item = .event e) ∨ item = last := by
  rcases List.mem_cons.mp hitem with hfirst | hitem
  · exact .inl hfirst
  rcases List.mem_append.mp hitem with hreport | hlast
  · exact .inr (.inl (hreports item hreport))
  · exact .inr (.inr (List.mem_singleton.mp hlast))

/-- The deletions in the calls of a deed are those of the words that it gives up, zero apart. -/
theorem deletions_append_of_isManaged {m : Moment} (hm : m.IsManaged) (rest : List Item) :
    deletions (m.outcome.notes.filter Item.isCall ++ rest) =
      (deletions rest).map ((m.unref?.toList.filter (· ≠ 0)) ++ ·) := by
  cases hm.leaves with
  | nothing hgiven hnotes =>
    have hnone : m.unref?.toList.filter (· ≠ 0) = [] := by
      rw [List.filter_eq_nil_iff]
      intro raw hraw
      simp [hgiven raw (Option.mem_toList.mp hraw)]
    rw [hnotes, hnone]
    simp
  | questions _ _ hgiven hnotes =>
    rw [hgiven, deletions_append_of_kept fun item hitem =>
      (hnotes item (List.mem_filter.mp hitem).1).classifiesOrDeletes_eq]
    simp
  | @deletion raw w reports hgiven hraw hreports hnotes =>
    have hsome : m.unref?.toList.filter (· ≠ 0) = [raw] := by simp [hgiven, hraw]
    have hsilent : reports.filter Item.isCall = [] := by
      rw [List.filter_eq_nil_iff]
      intro item hitem
      obtain ⟨e, rfl⟩ := hreports item hitem
      exact Bool.false_ne_true
    rw [hnotes, hsome, List.filter_cons_of_pos rfl, List.filter_append, hsilent,
      List.nil_append, List.filter_cons_of_pos rfl, List.filter_nil]
    exact deletions_of_pair raw w rest

/-- The deletions in a transcript are those of the words that are given up. -/
theorem Tells.deletions_eq {ms : List Moment} {items : List Item} (h : Tells ms items)
    (hms : ∀ m ∈ ms, m.IsManaged) :
    deletions (items.filter Item.isCall) = some ((ms.filterMap Moment.unref?).filter (· ≠ 0)) := by
  induction h with
  | nil => rfl
  | returned step value _ ih | failed stop _ ih => exact ih hms
  | @deed m ms items _ ih =>
    have hrest := ih fun n hn => hms n (List.mem_cons_of_mem m hn)
    rw [List.filter_append, deletions_append_of_isManaged (hms m List.mem_cons_self), hrest]
    cases hgiven : m.unref? with
    | none => simp [hgiven]
    | some raw =>
      rw [List.filterMap_cons_some hgiven, ← List.singleton_append, List.filter_append]
      rfl

/-! ### Truthful hosts -/

/-- What a deed leaves behind that has got a handle. -/
theorem Moment.Obtained.notes_eq {m : Moment} (hmissing : m.table.missing = [])
    (h : m.Obtained strength v) :
    ∃ x, m.outcome.notes =
      [.call (.maker strength) (.word x) (some v), .event (.created v strength)] := by
  obtain ⟨⟨caller, call, hdeed, hmade⟩, hreturned, hv⟩ := h
  have hrun : (Call.managed caller call).run = _ := managed_run_of_madeClass hmade
  rw [Moment.outcome_of_call hdeed, hrun, Action.bind_pure_apply] at hreturned ⊢
  refine ⟨passedWord call, ?_⟩
  by_cases hx : passedWord call = 0
  · rw [hx, makeHandle_null] at hreturned
    cases hreturned
    exact absurd rfl hv
  · by_cases hword : m.table.upcoming (.maker strength) = 0
    · rw [makeHandle_of_refused hmissing hx hword] at hreturned
      cases hreturned
    · rw [makeHandle_of_made hmissing hx hword] at hreturned ⊢
      cases hreturned
      rfl

/-- A deed during which a reference has been made has got it. -/
theorem Moment.IsManaged.obtained {m : Moment} (hm : m.IsManaged) (hv : v ≠ 0)
    {argument : Argument}
    (hitem : .call (.maker strength) argument (some v) ∈ m.outcome.notes) :
    m.Obtained strength v := by
  cases hm.leaves with
  | nothing _ hnotes =>
    rw [hnotes] at hitem
    cases hitem
  | deletion _ _ hreports hnotes =>
    rw [hnotes] at hitem
    rcases mem_around_reports hreports hitem with hcall | ⟨e, hcall⟩ | hcall
    · cases strength <;> cases hcall
    · cases hcall
    · cases (Item.call.inj hcall).2.2
  | @questions caller call hdeed hx _ hnotes =>
    have hmade : madeClass call = some strength := by
      have hquestion := hnotes _ hitem
      generalize hcall : Item.call (.maker strength) argument (some v) = item at hquestion
      cases hquestion with
      | @maker made hmade answer =>
        rw [hmade]
        cases strength <;> cases made <;> first | rfl | cases hcall
      | newLocal answer | event e | lastCall failure => cases strength <;> cases hcall
    refine ⟨⟨caller, call, hdeed, hmade⟩, ?_, hv⟩
    rw [Moment.outcome_of_call hdeed, managed_run_of_madeClass hmade,
      Action.bind_pure_apply] at hitem ⊢
    by_cases hword : m.table.upcoming (.maker strength) = 0
    · rw [makeHandle_of_refused hm.missing hx hword] at hitem
      have hzero : argument = .word (passedWord call) ∧ v = 0 := by simpa [lastCall] using hitem
      exact absurd hzero.2 hv
    · rw [makeHandle_of_made hm.missing hx hword] at hitem ⊢
      have hanswer : argument = .word (passedWord call) ∧
          v = m.table.upcoming (.maker strength) := by
        simpa using hitem
      rw [hanswer.2]
      rfl

/-- A deed during which a word is deleted has given it up. -/
theorem Moment.IsManaged.unref?_eq {m : Moment} (hm : m.IsManaged) {item : Item}
    (hitem : item ∈ m.outcome.notes) (hdeletes : item.deletes v = true) : m.unref? = some v := by
  have hcalls := of_decide_eq_true hdeletes
  cases hm.leaves with
  | nothing _ hnotes =>
    rw [hnotes] at hitem
    cases hitem
  | questions _ _ _ hnotes =>
    have hkept := (hnotes item hitem).classifiesOrDeletes_eq
    rcases hcalls with rfl | rfl <;> cases hkept
  | @deletion raw w reports hgiven _ hreports hnotes =>
    rw [hnotes] at hitem
    have hsame : raw = v := by
      rcases mem_around_reports hreports hitem with rfl | ⟨e, rfl⟩ | rfl
      · rcases hcalls with hcall | hcall <;> cases hcall
      · rcases hcalls with hcall | hcall <;> cases hcall
      · rcases hcalls with hcall | hcall <;>
          exact Argument.word.inj (Item.call.inj hcall).2.1
    rw [hgiven, hsame]

/-- The deletions of a word while it is given up. -/
theorem filter_deletes_of_unref {m : Moment} (hm : m.IsManaged) (hgiven : m.unref? = some v)
    (hv : v ≠ 0) :
    ∃ w rest, m.outcome.notes = .call .getObjectRefType (.word v) (some w) :: rest ∧
      m.outcome.notes.filter (Item.deletes v) =
        [.call (.deleter (releasedAs w)) (.word v) none] := by
  cases hm.leaves with
  | nothing hnone _ => exact absurd (hnone v hgiven) hv
  | questions _ _ hnone _ =>
    rw [hnone] at hgiven
    cases hgiven
  | @deletion raw w reports hraw _ hreports hnotes =>
    obtain rfl : raw = v := Option.some.inj (hraw.symm.trans hgiven)
    have hsilent : reports.filter (Item.deletes raw) = [] := by
      rw [List.filter_eq_nil_iff]
      intro item hitem
      obtain ⟨e, rfl⟩ := hreports item hitem
      simp [Item.deletes]
    have hlast : Item.deletes raw (.call (.deleter (releasedAs w)) (.word raw) none) = true := by
      cases releasedAs w <;> simp [Item.deletes, Entry.deleter]
    refine ⟨w, _, hnotes, ?_⟩
    rw [hnotes, List.filter_cons_of_neg (by simp [Item.deletes]), List.filter_append, hsilent,
      List.nil_append, List.filter_cons_of_pos hlast, List.filter_nil]

/-- Deeds that do not give a word up do not delete it. -/
theorem filter_deletes_eq_nil {ms : List Moment} (hms : ∀ m ∈ ms, m.IsManaged)
    (hkept : ∀ m ∈ ms, m.unref? ≠ some v) :
    (ms.flatMap fun m => m.outcome.notes).filter (Item.deletes v) = [] := by
  rw [List.filter_eq_nil_iff]
  intro item hitem hdeletes
  obtain ⟨m, hm, hitem⟩ := List.mem_flatMap.mp hitem
  exact hkept m hm ((hms m hm).unref?_eq hitem hdeletes)

/-- Deeds that neither give a word up nor get it neither delete the word nor make it. -/
theorem Tells.untouched {ms : List Moment} {items : List Item} (h : Tells ms items)
    (hms : ∀ m ∈ ms, m.IsManaged) (hv : v ≠ 0)
    (hothers : ∀ m ∈ ms, m.unref? ≠ some v ∧ ∀ s, ¬m.Obtained s v) {item : Item}
    (hitem : item ∈ items) :
    item.deletes v = false ∧ ∀ s a, item ≠ .call (.maker s) a (some v) := by
  have hdeed : item.isCall = true → ∃ m ∈ ms, item ∈ m.outcome.notes := by
    intro hcall
    refine (h.mem_iff ?_ ?_).mp hitem
    · rintro _ _ rfl
      cases hcall
    · rintro _ rfl
      cases hcall
  constructor
  · cases hdeletes : item.deletes v with
    | false => rfl
    | true =>
      have hcall : item.isCall = true := by
        rcases of_decide_eq_true hdeletes with rfl | rfl <;> rfl
      obtain ⟨m, hm, hnote⟩ := hdeed hcall
      exact absurd ((hms m hm).unref?_eq hnote hdeletes) (hothers m hm).1
  · rintro s a rfl
    obtain ⟨m, hm, hnote⟩ := hdeed rfl
    exact (hothers m hm).2 s ((hms m hm).obtained hv hnote)

/-- A handle that has been got and is given up once, before its word is got again, is deleted once
on a host that classifies truthfully, by the function for its class. -/
theorem Truthful.deleted_once {items : List Item} (htrue : Truthful items)
    {before between after later : List Moment} {m n : Moment}
    (htells : Tells (before ++ m :: (between ++ n :: (after ++ later))) items)
    (hms : ∀ k ∈ before ++ m :: (between ++ n :: (after ++ later)), k.IsManaged)
    (hm : m.Obtained strength v) (hn : n.unref? = some v)
    (hothers : ∀ k ∈ between ++ after, k.unref? ≠ some v ∧ ∀ s, ¬k.Obtained s v) :
    ((m :: (between ++ n :: after)).flatMap fun k => k.outcome.notes).filter (Item.deletes v) =
      [.call (.deleter strength) (.word v) none] := by
  have hmm : m.IsManaged := hms m (by simp)
  have hnm : n.IsManaged := hms n (by simp)
  have hbetween : ∀ k ∈ between, k.IsManaged := fun k hk => hms k (by simp [hk])
  have hafter : ∀ k ∈ after, k.IsManaged := fun k hk => hms k (by simp [hk])
  obtain ⟨x, hmade⟩ := hm.notes_eq hmm.missing
  obtain ⟨w, more, hasked, hdeleted⟩ := filter_deletes_of_unref hnm hn hm.ne_zero
  have hclass : strengthOfType w = some strength := by
    obtain ⟨first, _, rfl, -, hrest⟩ := htells.exists_append
    obtain ⟨skipped, _, rfl, -, hrest⟩ := hrest.exists_cons
    obtain ⟨middle, _, rfl, hmiddle, hrest⟩ := hrest.exists_append
    obtain ⟨idle, rest, rfl, hidle, -⟩ := hrest.exists_cons
    have htold : Tells between (middle ++ idle) := by simpa using hmiddle.append hidle
    refine htrue (first ++ skipped) strength (.word x) v
      (.event (.created v strength) :: (middle ++ idle)) w (more ++ rest) ?_ ?_
    · simp [hmade, hasked]
    · -- in between the word is neither deleted nor made again
      refine List.forall_mem_cons.mpr ⟨⟨by simp [Item.deletes], nofun⟩, fun item hitem => ?_⟩
      exact htold.untouched hbetween hm.ne_zero
        (fun k hk => hothers k (List.mem_append_left _ hk)) hitem
  have hstrength : releasedAs w = strength := by rw [releasedAs, hclass, Option.getD_some]
  have hfirst : m.outcome.notes.filter (Item.deletes v) = [] := by
    rw [hmade]
    cases strength <;> simp [Item.deletes, Entry.maker]
  rw [List.flatMap_cons, List.flatMap_append, List.flatMap_cons, List.filter_append,
    List.filter_append, List.filter_append, hfirst, hdeleted, hstrength,
    filter_deletes_eq_nil hbetween fun k hk => (hothers k (List.mem_append_left _ hk)).1,
    filter_deletes_eq_nil hafter fun k hk => (hothers k (List.mem_append_right _ hk)).1]
  rfl

/-! ### Programs of managed code delete what they give up -/

/-- No function is asked about the word zero. -/
theorem Moment.IsManaged.argument_ne_zero {m : Moment} (hm : m.IsManaged) {entry : Entry}
    {answer : Option Int64} (hitem : .call entry (.word x) answer ∈ m.outcome.notes) : x ≠ 0 := by
  cases hm.leaves with
  | nothing _ hnotes =>
    rw [hnotes] at hitem
    cases hitem
  | questions _ hx _ hnotes =>
    have hquestion := hnotes _ hitem
    cases hquestion with
    | maker hmade answer | newLocal answer => exact hx
  | deletion _ hraw hreports hnotes =>
    rw [hnotes] at hitem
    rcases mem_around_reports hreports hitem with hcall | ⟨e, hcall⟩ | hcall
    · rw [Argument.word.inj (Item.call.inj hcall).2.1]
      exact hraw
    · cases hcall
    · rw [Argument.word.inj (Item.call.inj hcall).2.1]
      exact hraw

/-- The calls in a program of nothing but calls. -/
theorem Step.callsAll_map_call (calls : List Call) : Step.callsAll (calls.map .call) = calls := by
  induction calls with
  | nil => rfl
  | cons c calls ih =>
    rw [List.map_cons, Step.callsAll, Step.calls, ih]
    rfl

section

variable {calls : List (Caller × ManagedCall Int64 Int64)}

/-- The calls of managed code open and close no frames and do not end the host by themselves. -/
theorem isFrameCall_of_mem_managedProgram {c : Call}
    (hc : c ∈ Step.callsAll (managedProgram calls)) : c.isFrameCall = false := by
  rw [managedProgram, Step.callsAll_map_call] at hc
  obtain ⟨d, -, rfl⟩ := List.mem_map.mp hc
  rfl

/-- The deeds of a program of managed code are its calls, and find all functions. -/
theorem isManaged_of_mem_deeds (hmissing : table.missing = []) {m : Moment}
    (hm : m ∈ deeds table (managedProgram calls)) : m.IsManaged := by
  have hof := isOf_of_mem_deeds (fun _ hc => hc) hmissing
    (fun c hc => isFrameCall_of_mem_managedProgram hc) hm
  refine ⟨hof.missing, ?_⟩
  obtain ⟨rest, hdeeds, -⟩ := deeds_calls (managedCalls calls) table
  have hdeed : m.deed ∈ (managedCalls calls).map .call := by
    rw [← hdeeds]
    exact List.mem_append_left _ (List.mem_map_of_mem hm)
  obtain ⟨c, hc, hdeed⟩ := List.mem_map.mp hdeed
  obtain ⟨d, -, rfl⟩ := List.mem_map.mp hc
  exact ⟨d.1, d.2, hdeed.symm⟩

end

/-- On a table that has all functions, managed code may call with any words. The deeds of its
program are its calls up to the end of the host. No function is called with zero, and a call with
zero does nothing. The deletions are those of the words that were given up, zero apart, one by one
and each right after the question for its class, and no other call asks for a class or deletes. So a
host that classifies truthfully deletes a handle that is given up once just once, by the function
for its class. -/
theorem words_given_up_are_deleted (table : FunctionTable) (hmissing : table.missing = [])
    (calls : List (Caller × ManagedCall Int64 Int64)) :
    Tells (deeds table (managedProgram calls)) (transcript table (managedProgram calls)).1 ∧
      (∃ rest,
        (deeds table (managedProgram calls)).map (·.deed) ++ rest =
            (managedCalls calls).map .call ∧
          (rest ≠ [] →
            ∃ item ∈ (transcript table (managedProgram calls)).1, item.endsHost = true)) ∧
      (∀ entry answer,
        .call entry (.word 0) answer ∉ (transcript table (managedProgram calls)).1) ∧
      (∀ m ∈ deeds table (managedProgram calls), ∀ caller call,
        m.deed = .call (.managed caller call) →
          (passedWord call = 0 → m.outcome = ⟨.ok (answerToZero call), m.table, []⟩) ∧
          (givesUp call = false → ∀ item ∈ m.outcome.notes, item.classifiesOrDeletes = false)) ∧
      deletions ((transcript table (managedProgram calls)).1.filter Item.isCall) =
        some (((deeds table (managedProgram calls)).filterMap Moment.unref?).filter (· ≠ 0)) ∧
      (Truthful (transcript table (managedProgram calls)).1 →
        ∀ before m between n after later strength v,
          deeds table (managedProgram calls) =
              before ++ m :: (between ++ n :: (after ++ later)) →
            m.Obtained strength v → n.unref? = some v →
            (∀ k ∈ between ++ after, k.unref? ≠ some v ∧ ∀ s, ¬k.Obtained s v) →
            ((m :: (between ++ n :: after)).flatMap fun k => k.outcome.notes).filter
                (Item.deletes v) =
              [.call (.deleter strength) (.word v) none]) := by
  have hms : ∀ m ∈ deeds table (managedProgram calls), m.IsManaged :=
    fun m hm => isManaged_of_mem_deeds hmissing hm
  have hends : Ends table (managedProgram calls) :=
    ends_of_calls (fun _ hc => hc) hmissing fun c hc => isFrameCall_of_mem_managedProgram hc
  have htells := hends.tells
  refine ⟨htells, ?_, ?_, ?_, htells.deletions_eq hms, ?_⟩
  · obtain ⟨rest, hdeeds, hrest⟩ := deeds_calls (managedCalls calls) table
    refine ⟨rest, hdeeds, fun hne => ?_⟩
    obtain ⟨m, hm, hlast⟩ := hrest hne
    have hof : m.IsOf fun c => c.isFrameCall = false :=
      isOf_of_mem_deeds (fun _ hc => hc) hmissing
        (fun c hc => isFrameCall_of_mem_managedProgram hc) hm
    rcases hof.ends fun _ hc => hc with ⟨hgoes, -⟩ | ⟨-, -, before, reason, hnotes, -⟩
    · rw [hlast] at hgoes
      cases hgoes
    · have hitem : .call .fatalError (.text reason) none ∈ m.outcome.notes := by simp [hnotes]
      exact ⟨_, (htells.mem_iff (by rintro _ _ ⟨⟩) (by rintro _ ⟨⟩)).mpr ⟨m, hm, hitem⟩, rfl⟩
  · intro entry answer hitem
    obtain ⟨m, hm, hitem⟩ := (htells.mem_iff (by rintro _ _ ⟨⟩) (by rintro _ ⟨⟩)).mp hitem
    exact (hms m hm).argument_ne_zero hitem rfl
  · intro m hm caller call hdeed
    rw [Moment.outcome_of_call hdeed]
    refine ⟨fun hzero => managed_run_of_zero hzero, fun hkept item hitem => ?_⟩
    by_cases hzero : passedWord call = 0
    · rw [managed_run_of_zero hzero] at hitem
      cases hitem
    · exact (isQuestion_of_mem_managed (hms m hm).missing hzero hkept hitem).classifiesOrDeletes_eq
  · intro htrue before m between n after later strength v hdeeds hm hn hothers
    rw [hdeeds] at htells hms
    exact htrue.deleted_once htells hms hm hn hothers

/-- A table that makes the weak reference 8 and the strong reference 7, and knows both later. -/
def twoReferences : FunctionTable where
  script := ((({} : Table Entry (List Int64)).insert .newWeakGlobalRef [8]).insert
    .newGlobalRef [7]).insert .getObjectRefType [3, 2]

/-- Calls that get both references and give them up. -/
def lentAndReturned : List (Caller × ManagedCall Int64 Int64) :=
  [(.globalRef, .newWeakRef 6), (.refTest, .newRef 5), (.globalRef, .unref 8),
    (.globalRef, .unref 7), (.refTest, .get 0)]

/-- A weak reference that is given up is deleted by the function for weak references, and once. -/
theorem weak_reference_deleted_once :
    ((deeds twoReferences (managedProgram lentAndReturned)).flatMap
      fun k => k.outcome.notes).filter (Item.deletes 8) =
        [.call .deleteWeakGlobalRef (.word 8) none] := by
  have hcalls : (transcript twoReferences (managedProgram lentAndReturned)).1.filter Item.isCall =
      [.call .newWeakGlobalRef (.word 6) (some 8), .call .newGlobalRef (.word 5) (some 7),
        .call .getObjectRefType (.word 8) (some 3), .call .deleteWeakGlobalRef (.word 8) none,
        .call .getObjectRefType (.word 7) (some 2), .call .deleteGlobalRef (.word 7) none] := by
    decide
  have htrue : Truthful (transcript twoReferences (managedProgram lentAndReturned)).1 := by
    intro before strength argument v between w after hitems _
    rw [hitems] at hcalls
    have hmade : .call (.maker strength) argument (some v) ∈ (before ++
        .call (.maker strength) argument (some v) ::
          (between ++ .call .getObjectRefType (.word v) (some w) :: after)).filter Item.isCall :=
      List.mem_filter.mpr ⟨by simp, rfl⟩
    have hasked : .call .getObjectRefType (.word v) (some w) ∈ (before ++
        .call (.maker strength) argument (some v) ::
          (between ++ .call .getObjectRefType (.word v) (some w) :: after)).filter Item.isCall :=
      List.mem_filter.mpr ⟨by simp, rfl⟩
    rw [hcalls] at hmade hasked
    have hword : v = 8 ∧ w = 3 ∨ v = 7 ∧ w = 2 := by simpa using hasked
    cases strength with
    | strong =>
      have hv : argument = .word 5 ∧ v = 7 := by simpa [Entry.maker] using hmade
      rcases hword with ⟨rfl, -⟩ | ⟨-, rfl⟩
      · exact absurd hv.2 (by decide)
      · rfl
    | weak =>
      have hv : argument = .word 6 ∧ v = 8 := by simpa [Entry.maker] using hmade
      rcases hword with ⟨-, rfl⟩ | ⟨rfl, -⟩
      · rfl
      · exact absurd hv.2 (by decide)
  refine (words_given_up_are_deleted twoReferences rfl lentAndReturned).2.2.2.2.2 htrue
    [] _ [_] _ [_, _] [] .weak 8 rfl ⟨⟨.globalRef, .newWeakRef 6, rfl, rfl⟩, rfl, by decide⟩ rfl ?_
  intro k hk
  simp only [List.cons_append, List.nil_append, List.mem_cons, List.not_mem_nil, or_false] at hk
  rcases hk with rfl | rfl | rfl
  all_goals
    refine ⟨by decide, fun s h => ?_⟩
    cases h.returned

end DurableRefs.FunctionTable
