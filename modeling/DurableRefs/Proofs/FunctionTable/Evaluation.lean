import DurableRefs.Proofs.Host.Replay

/-!
# What the library leaves behind on a function table

On a table that has all functions each operation on handles, each call from managed code and each
local frame is run symbolically, once for every way it can end. Which way that is depends on the
next scripted word of one function. Later files cite these equations and never run an operation
again.
-/

namespace DurableRefs.FunctionTable

variable {table : FunctionTable} {entry : Entry} {argument : Argument} {x raw : Int64}
  {strength : Strength} {h : Handle} {capacity : Int32}

/-! ### Calls of functions -/

/-- The word that a function answers next. -/
def upcoming (table : FunctionTable) (entry : Entry) : Int64 :=
  ((table.script.get? entry).getD []).headD 0

/-- The table after a function has answered. -/
def answered (table : FunctionTable) (entry : Entry) : FunctionTable :=
  (takeScripted entry table).state

/-- A function answers its next word. -/
theorem takeScripted_eq (entry : Entry) (table : FunctionTable) :
    takeScripted entry table = ⟨.ok (table.upcoming entry), table.answered entry, []⟩ := by
  unfold answered upcoming takeScripted
  split
  · next hrow => simp [hrow]
  · next hrow =>
    cases hwords : table.script.get? entry with
    | none => rfl
    | some words =>
      cases words with
      | nil => rfl
      | cons w rest => exact absurd hwords (hrow w rest)

/-- No function is lost when one answers. -/
@[simp] theorem missing_answered (table : FunctionTable) (entry : Entry) :
    (table.answered entry).missing = table.missing := by
  unfold answered takeScripted
  split <;> rfl

/-- A function that answers notes the call with its answer. -/
theorem ask_of_missing (hmissing : table.missing = []) (entry : Entry) (argument : Argument) :
    ask entry argument table =
      ⟨.ok (table.upcoming entry), table.answered entry,
        [.call entry argument (some (table.upcoming entry))]⟩ := by
  simp [ask, require, hmissing, takeScripted_eq]

/-! ### Handles -/

/-- The function that makes references of a class. -/
def Entry.maker : Strength → Entry
  | .strong => .newGlobalRef
  | .weak => .newWeakGlobalRef

/-- The function that deletes references of a class. -/
def Entry.deleter : Strength → Entry
  | .strong => .deleteGlobalRef
  | .weak => .deleteWeakGlobalRef

/-- The call that ends the host because of a failure. -/
def lastCall (failure : HostFailure) : Item := .call .fatalError (.text failure.message) none

/-- Make a handle of a class that is given as data. -/
def makeHandle : Strength → Int64 → Task (Option Handle)
  | .strong, x => host.createStrong x
  | .weak, x => host.createWeak x

/-- There is no handle to the null local, and no function is asked for one. -/
theorem makeHandle_null : makeHandle strength 0 table = ⟨.ok none, table, []⟩ := by
  cases strength <;> simp [makeHandle, Host.createStrong, Host.createWeak, host]

/-- A handle to an object is a reference that has been adopted. -/
theorem makeHandle_of_ne_zero (hx : x ≠ 0) (strength : Strength) :
    makeHandle strength x = (do
      let raw ← ask (.maker strength) (.word x)
      let h ← host.adopt strength raw
      return some h) := by
  cases strength <;>
    simp [makeHandle, Host.createStrong, Host.createWeak, host, hx, Entry.maker]

/-- Adopting the word zero ends the host. -/
theorem adopt_zero (hmissing : table.missing = []) :
    host.adopt strength 0 table =
      ⟨.error .ended, table, [.event (.exhausted strength), lastCall .tableExhausted]⟩ := by
  have hemit : host.emit (.exhausted strength) table =
      ⟨.ok (), table, [.event (.exhausted strength)]⟩ := rfl
  simp only [Host.adopt, Handle.ofRaw?_zero]
  rw [Action.bind_of_ok hemit, fatal_of_missing hmissing .tableExhausted]
  rfl

/-- Adopting any other word gives the handle of that word. -/
theorem adopt_of_ne_zero (hraw : raw ≠ 0) :
    host.adopt strength raw table =
      ⟨.ok ⟨strength, raw, hraw⟩, table, [.event (.created raw strength)]⟩ := by
  simp only [Host.adopt, Handle.ofRaw?_of_ne_zero hraw]
  rfl

/-- A host that makes no reference has ended. -/
theorem makeHandle_of_refused (hmissing : table.missing = []) (hx : x ≠ 0)
    (hword : table.upcoming (.maker strength) = 0) :
    makeHandle strength x table =
      ⟨.error .ended, table.answered (.maker strength),
        [.call (.maker strength) (.word x) (some 0), .event (.exhausted strength),
          lastCall .tableExhausted]⟩ := by
  have hadopt : host.adopt strength 0 (table.answered (.maker strength)) = _ :=
    adopt_zero (by rw [missing_answered, hmissing])
  rw [makeHandle_of_ne_zero hx, Action.bind_of_ok (ask_of_missing hmissing _ _), hword,
    Action.bind_of_error hadopt]
  rfl

/-- A host that answers a word other than zero for a reference makes the handle of that word. -/
theorem makeHandle_of_made (hmissing : table.missing = []) (hx : x ≠ 0)
    (hword : table.upcoming (.maker strength) ≠ 0) :
    makeHandle strength x table =
      ⟨.ok (some ⟨strength, table.upcoming (.maker strength), hword⟩),
        table.answered (.maker strength),
        [.call (.maker strength) (.word x) (some (table.upcoming (.maker strength))),
          .event (.created (table.upcoming (.maker strength)) strength)]⟩ := by
  rw [makeHandle_of_ne_zero hx, Action.bind_of_ok (ask_of_missing hmissing _ _),
    Action.bind_of_ok (adopt_of_ne_zero hword)]
  rfl

/-- A release reports what it is about to do and calls the function of the class. -/
theorem release_eq (hmissing : table.missing = []) (h : Handle) :
    host.release h table =
      ⟨.ok (), table,
        [.event (.releasing h.raw h.strength),
          .call (.deleter h.strength) (.word h.raw) none]⟩ := by
  obtain ⟨strength, raw, hraw⟩ := h
  have hemit : host.emit (.releasing raw strength) table =
      ⟨.ok (), table, [.event (.releasing raw strength)]⟩ := rfl
  cases strength with
  | strong =>
    have hdelete : host.deleteStrong raw table = _ := tell_of_missing hmissing .deleteGlobalRef _
    simp [Host.release, hemit, hdelete, Entry.deleter]
  | weak =>
    have hdelete : host.deleteWeak raw table = _ := tell_of_missing hmissing .deleteWeakGlobalRef _
    simp [Host.release, hemit, hdelete, Entry.deleter]

/-- A weak handle is not resolved as a strong one. -/
theorem resolve_of_weak (hs : h.strength = .weak) :
    host.resolve h table = ⟨.error (.misapplied (.resolve h)), table, []⟩ := by
  simp [Host.resolve, hs, host]

/-- A host that makes no local from a strong reference has ended. -/
theorem resolve_of_refused (hmissing : table.missing = []) (hs : h.strength = .strong)
    (hword : table.upcoming .newLocalRef = 0) :
    host.resolve h table =
      ⟨.error .ended, table.answered .newLocalRef,
        [.call .newLocalRef (.word h.raw) (some 0), .event (.referentLost h.raw),
          lastCall .noLocal]⟩ := by
  have hlocal : host.newLocal h.raw table =
      ⟨.ok 0, table.answered .newLocalRef, [.call .newLocalRef (.word h.raw) (some 0)]⟩ := by
    rw [← hword]
    exact ask_of_missing hmissing .newLocalRef (.word h.raw)
  have hemit : host.emit (.referentLost h.raw) (table.answered .newLocalRef) =
      ⟨.ok (), table.answered .newLocalRef, [.event (.referentLost h.raw)]⟩ := rfl
  have hleft : (table.answered .newLocalRef).missing = [] := by rw [missing_answered, hmissing]
  have hnull : host.isNull 0 = true := rfl
  simp only [Host.resolve, hs]
  rw [Action.bind_of_ok hlocal, if_pos hnull, Action.bind_of_ok hemit,
    fatal_of_missing hleft .noLocal]
  rfl

/-- A strong handle for which the host answers a local is resolved to it. -/
theorem resolve_of_made (hmissing : table.missing = []) (hs : h.strength = .strong)
    (hword : table.upcoming .newLocalRef ≠ 0) :
    host.resolve h table =
      ⟨.ok (table.upcoming .newLocalRef), table.answered .newLocalRef,
        [.call .newLocalRef (.word h.raw) (some (table.upcoming .newLocalRef))]⟩ := by
  have hlocal : host.newLocal h.raw table = _ := ask_of_missing hmissing .newLocalRef (.word h.raw)
  have hobject : ¬ host.isNull (table.upcoming .newLocalRef) = true := by simpa [host] using hword
  simp only [Host.resolve, hs]
  rw [Action.bind_of_ok hlocal, if_neg hobject]
  rfl

/-- A strong handle is not resolved as a weak one. -/
theorem resolveWeak_of_strong (hs : h.strength = .strong) :
    host.resolveWeak h table = ⟨.error (.misapplied (.resolveWeak h)), table, []⟩ := by
  simp [Host.resolveWeak, hs, host]

/-- A weak handle from which the host makes no local has lost its referent, which is no failure. -/
theorem resolveWeak_of_refused (hmissing : table.missing = []) (hs : h.strength = .weak)
    (hword : table.upcoming .newLocalRef = 0) :
    host.resolveWeak h table =
      ⟨.ok none, table.answered .newLocalRef,
        [.call .newLocalRef (.word h.raw) (some 0), .event (.referentGone h.raw)]⟩ := by
  have hlocal : host.newLocal h.raw table =
      ⟨.ok 0, table.answered .newLocalRef, [.call .newLocalRef (.word h.raw) (some 0)]⟩ := by
    rw [← hword]
    exact ask_of_missing hmissing .newLocalRef (.word h.raw)
  have hnull : host.isNull 0 = true := rfl
  simp only [Host.resolveWeak, hs]
  rw [Action.bind_of_ok hlocal, if_pos hnull]
  rfl

/-- A weak handle for which the host answers a local is resolved to it. -/
theorem resolveWeak_of_made (hmissing : table.missing = []) (hs : h.strength = .weak)
    (hword : table.upcoming .newLocalRef ≠ 0) :
    host.resolveWeak h table =
      ⟨.ok (some (table.upcoming .newLocalRef)), table.answered .newLocalRef,
        [.call .newLocalRef (.word h.raw) (some (table.upcoming .newLocalRef))]⟩ := by
  have hlocal : host.newLocal h.raw table = _ := ask_of_missing hmissing .newLocalRef (.word h.raw)
  have hobject : ¬ host.isNull (table.upcoming .newLocalRef) = true := by simpa [host] using hword
  simp only [Host.resolveWeak, hs]
  rw [Action.bind_of_ok hlocal, if_neg hobject]
  rfl

/-! ### Calls from managed code -/

/-- The class that a reference is released as, given the answer of the host. -/
def releasedAs (answer : Int64) : Strength := (strengthOfType answer).getD .strong

/-- A reference is released as a weak one only if the host says that it is one. -/
theorem releasedAs_eq_weak_iff {answer : Int64} : releasedAs answer = .weak ↔ answer = 3 := by
  unfold releasedAs strengthOfType
  split
  · exact iff_of_false nofun (by decide)
  · exact iff_of_true rfl rfl
  · next hweak => exact iff_of_false nofun hweak

/-- Giving up no handle asks nothing of the host. -/
theorem unref_zero : host.unref 0 table = ⟨.ok (), table, []⟩ := by simp [Host.unref]

/-- Giving up a handle asks the host for its class and then deletes it. A class that the host does
not know is reported in between. -/
theorem unref_of_ne_zero (hmissing : table.missing = []) (hraw : raw ≠ 0) :
    host.unref raw table =
      ⟨.ok (), table.answered .getObjectRefType,
        .call .getObjectRefType (.word raw) (some (table.upcoming .getObjectRefType)) ::
          ((match strengthOfType (table.upcoming .getObjectRefType) with
            | some _ => []
            | none => [.event (.unrecognised raw)]) ++
          [.event (.releasing raw (releasedAs (table.upcoming .getObjectRefType))),
            .call (.deleter (releasedAs (table.upcoming .getObjectRefType)))
              (.word raw) none])⟩ := by
  have hclassify : host.classify raw table =
      ⟨.ok (strengthOfType (table.upcoming .getObjectRefType)), table.answered .getObjectRefType,
        [.call .getObjectRefType (.word raw) (some (table.upcoming .getObjectRefType))]⟩ := by
    have hask := ask_of_missing hmissing .getObjectRefType (.word raw)
    simp only [host, if_neg hraw]
    rw [Action.bind_of_ok hask]
    rfl
  have hleft : (table.answered .getObjectRefType).missing = [] := by
    rw [missing_answered, hmissing]
  rw [Host.unref, if_neg hraw, Action.bind_of_ok hclassify]
  have hemit : host.emit (.unrecognised raw) (table.answered .getObjectRefType) =
      ⟨.ok (), table.answered .getObjectRefType, [.event (.unrecognised raw)]⟩ := rfl
  unfold releasedAs
  cases strengthOfType (table.upcoming .getObjectRefType) with
  | some strength => simp [Handle.ofRaw?_of_ne_zero hraw, release_eq hleft]
  | none => simp [Handle.ofRaw?_of_ne_zero hraw, release_eq hleft, hemit]

/-- No handle stands for no object. -/
theorem get_zero : host.get 0 table = ⟨.ok 0, table, []⟩ := by simp [Host.get, host]

/-- Any other word is resolved as a strong handle. -/
theorem get_of_ne_zero (hraw : raw ≠ 0) : host.get raw = host.resolve ⟨.strong, raw, hraw⟩ := by
  simp [Host.get, Handle.ofRaw?_of_ne_zero hraw]

/-- No handle stands for no object, as a weak one neither. -/
theorem getWeak_zero : host.getWeak 0 table = ⟨.ok 0, table, []⟩ := by simp [Host.getWeak, host]

/-- Any other word is resolved as a weak handle, and null stands for a collected referent. -/
theorem getWeak_of_ne_zero (hraw : raw ≠ 0) :
    host.getWeak raw = (do
      let x ← host.resolveWeak ⟨.weak, raw, hraw⟩
      return x.getD 0) := by
  simp only [Host.getWeak, Handle.ofRaw?_of_ne_zero hraw]
  rfl

/-! ### Frames -/

/-- A host that opens no frame has ended. -/
theorem openFrame_of_refused (hmissing : table.missing = [])
    (hword : (table.upcoming .pushLocalFrame).toInt32 ≠ 0) :
    host.openFrame capacity table =
      ⟨.error .ended, table.answered .pushLocalFrame,
        [.call .pushLocalFrame (.capacity capacity) (some (table.upcoming .pushLocalFrame)),
          .event (.frameRefused capacity), lastCall .noFrame]⟩ := by
  have hpush : host.pushFrame capacity table =
      ⟨.ok false, table.answered .pushLocalFrame,
        [.call .pushLocalFrame (.capacity capacity) (some (table.upcoming .pushLocalFrame))]⟩ := by
    have hask := ask_of_missing hmissing .pushLocalFrame (.capacity capacity)
    simp only [host]
    rw [Action.bind_of_ok hask]
    simp [hword]
  have hemit : host.emit (.frameRefused capacity) (table.answered .pushLocalFrame) =
      ⟨.ok (), table.answered .pushLocalFrame, [.event (.frameRefused capacity)]⟩ := rfl
  have hleft : (table.answered .pushLocalFrame).missing = [] := by rw [missing_answered, hmissing]
  rw [Host.openFrame, Action.bind_of_ok hpush, if_neg Bool.false_ne_true, Action.bind_of_ok hemit,
    fatal_of_missing hleft .noFrame]
  rfl

/-- A frame for which the host answers zero is open. -/
theorem openFrame_of_opened (hmissing : table.missing = [])
    (hword : (table.upcoming .pushLocalFrame).toInt32 = 0) :
    host.openFrame capacity table =
      ⟨.ok (), table.answered .pushLocalFrame,
        [.call .pushLocalFrame (.capacity capacity) (some (table.upcoming .pushLocalFrame))]⟩ := by
  have hpush : host.pushFrame capacity table =
      ⟨.ok true, table.answered .pushLocalFrame,
        [.call .pushLocalFrame (.capacity capacity) (some (table.upcoming .pushLocalFrame))]⟩ := by
    have hask := ask_of_missing hmissing .pushLocalFrame (.capacity capacity)
    simp only [host]
    rw [Action.bind_of_ok hask]
    simp [hword]
  rw [Host.openFrame, Action.bind_of_ok hpush, if_pos rfl]
  rfl

/-- Closing a frame answers what the host answers. -/
theorem closeFrameWith_eq (hmissing : table.missing = []) (x : Int64) :
    host.closeFrameWith x table =
      ⟨.ok (table.upcoming .popLocalFrame), table.answered .popLocalFrame,
        [.call .popLocalFrame (.word x) (some (table.upcoming .popLocalFrame))]⟩ :=
  ask_of_missing hmissing .popLocalFrame (.word x)

/-! ### All calls -/

variable {α β : Type} {P : α → Prop} {Q : β → Prop}

/-- Whether an item is anything but a call that opens a frame, closes one or ends the host. -/
def Item.isPlain : Item → Bool
  | .call .pushLocalFrame _ _ | .call .popLocalFrame _ _ | .call .fatalError _ _ => false
  | _ => true

/-- A plain item does not end the host. -/
theorem Item.endsHost_of_isPlain {item : Item} (hplain : item.isPlain = true) :
    item.endsHost = false := by
  cases item with
  | call entry argument answer => cases entry <;> first | rfl | cases hplain
  | event e | returned step value | failed stop => rfl

/-- How an action on a table that has all functions ends if it opens and closes no frame: it notes
plain items only, and if it ends the host, the call that does so comes last. -/
inductive EndsPlainly (P : α → Prop) : Run FunctionTable Item Stop α → Prop
  /-- The action returns. -/
  | returned {a : α} {later : FunctionTable} {notes : List Item} (ha : P a)
      (hmissing : later.missing = []) (hnotes : ∀ item ∈ notes, item.isPlain = true) :
      EndsPlainly P ⟨.ok a, later, notes⟩
  /-- The action is refused. -/
  | refused {stop : Stop} {later : FunctionTable} {notes : List Item}
      (hstop : stop.isFinal = false) (hmissing : later.missing = [])
      (hnotes : ∀ item ∈ notes, item.isPlain = true) : EndsPlainly P ⟨.error stop, later, notes⟩
  /-- The action ends the host. -/
  | ended {reason : String} {later : FunctionTable} {notes : List Item}
      (hmissing : later.missing = []) (hnotes : ∀ item ∈ notes, item.isPlain = true) :
      EndsPlainly P ⟨.error .ended, later, notes ++ [.call .fatalError (.text reason) none]⟩

/-- An action ends plainly on every table that has all functions. -/
def Plainly (P : α → Prop) (p : Task α) : Prop :=
  ∀ table, table.missing = [] → EndsPlainly P (p table)

/-- Returning is plain. -/
theorem Plainly.pure {a : α} (ha : P a) : Plainly P (Pure.pure a) :=
  fun _ hmissing => .returned ha hmissing nofun

/-- Being refused is plain. -/
theorem Plainly.stop {stop : Stop} (hstop : stop.isFinal = false) :
    Plainly P (Action.stop stop : Task α) :=
  fun _ hmissing => .refused hstop hmissing nofun

/-- Going on is plain if both parts are. -/
theorem Plainly.bind {p : Task α} {f : α → Task β} (hp : Plainly P p)
    (hf : ∀ a, P a → Plainly Q (f a)) : Plainly Q (p >>= f) := by
  intro table hmissing
  have hfirst := hp table hmissing
  generalize hrun : p table = first at hfirst
  cases hfirst with
  | refused hstop hleft hnotes =>
    rw [Action.bind_of_error hrun]
    exact .refused hstop hleft hnotes
  | ended hleft hnotes =>
    rw [Action.bind_of_error hrun]
    exact .ended hleft hnotes
  | @returned a middle notes ha hleft hnotes =>
    rw [Action.bind_of_ok hrun]
    have hsecond := hf a ha middle hleft
    generalize f a middle = second at hsecond
    have hall : ∀ {more : List Item}, (∀ item ∈ more, item.isPlain = true) →
        ∀ item ∈ notes ++ more, item.isPlain = true := by
      intro more hmore item hitem
      rcases List.mem_append.mp hitem with hitem | hitem
      · exact hnotes item hitem
      · exact hmore item hitem
    cases hsecond with
    | returned hb hlast hmore => exact .returned hb hlast (hall hmore)
    | refused hstop hlast hmore => exact .refused hstop hlast (hall hmore)
    | ended hlast hmore =>
      rw [← List.append_assoc]
      exact .ended hlast (hall hmore)

/-- An action that ends plainly does so whatever weaker thing is said of its value. -/
theorem Plainly.mono {R : α → Prop} {p : Task α} (hp : Plainly P p) (hPR : ∀ a, P a → R a) :
    Plainly R p := by
  rw [← bind_pure p]
  exact hp.bind fun a ha => Plainly.pure (hPR a ha)

/-- Asking a function is plain unless it is one for frames or the end. -/
theorem plainly_ask (hentry : ∀ argument answer, (Item.call entry argument answer).isPlain = true)
    (argument : Argument) : Plainly (fun _ => True) (ask entry argument) := by
  intro table hmissing
  rw [ask_of_missing hmissing]
  refine .returned trivial (by rw [missing_answered, hmissing]) ?_
  intro item hitem
  rw [List.mem_singleton.mp hitem]
  exact hentry _ _

/-- Calling a function that does not answer is plain unless the function is one for frames or the
end. -/
theorem plainly_tell (hentry : ∀ argument answer, (Item.call entry argument answer).isPlain = true)
    (argument : Argument) : Plainly (fun _ => True) (tell entry argument) := by
  intro table hmissing
  rw [tell_of_missing hmissing]
  refine .returned trivial hmissing ?_
  intro item hitem
  rw [List.mem_singleton.mp hitem]
  exact hentry _ _

/-- Reporting an event is plain. -/
theorem plainly_emit (e : Log.Event) : Plainly (fun _ => True) (emit e) := by
  intro table hmissing
  refine .returned trivial hmissing ?_
  intro item hitem
  rw [List.mem_singleton.mp hitem]
  rfl

/-- Ending the host is plain. -/
theorem plainly_fatal (reason : String) : Plainly P (host.fatal reason : Task α) := by
  intro table hmissing
  have hend : (host.fatal reason : Task α) table =
      ⟨.error .ended, table, [] ++ [.call .fatalError (.text (hostText reason)) none]⟩ := by
    simp [host, tell_of_missing hmissing]
  rw [hend]
  exact .ended hmissing (List.forall_mem_nil _)

/-- Classifying a word is plain. -/
theorem plainly_classify (raw : Int64) : Plainly (fun _ => True) (host.classify raw) := by
  simp only [host]
  split
  · exact Plainly.pure trivial
  · exact (plainly_ask (fun _ _ => rfl) _).bind fun _ _ => Plainly.pure trivial

/-- What is plain of the questions that the library asks is plain of all that it does. -/
theorem agree_plainly :
    Host.Agree Eq (fun R p (_ : Task _) => Plainly (fun a => ∃ b, R a b) p) host host where
  pure hab := Plainly.pure ⟨_, hab⟩
  bind hpq hfg := hpq.bind fun _ ⟨_, hab⟩ => hfg _ _ hab
  null := rfl
  isNull hxy := by rw [hxy]
  newStrong _ := (plainly_ask (fun _ _ => rfl) _).mono fun _ _ => ⟨_, rfl⟩
  newWeak _ := (plainly_ask (fun _ _ => rfl) _).mono fun _ _ => ⟨_, rfl⟩
  deleteStrong _ := (plainly_tell (fun _ _ => rfl) _).mono fun _ _ => ⟨_, rfl⟩
  deleteWeak _ := (plainly_tell (fun _ _ => rfl) _).mono fun _ _ => ⟨_, rfl⟩
  newLocal raw := by
    have hask : Plainly (fun _ => True) (host.newLocal raw) := plainly_ask (fun _ _ => rfl) _
    exact hask.mono fun _ _ => ⟨_, rfl⟩
  classify {raw} _ := (plainly_classify raw).mono fun _ _ => ⟨_, rfl⟩
  fatal failure := plainly_fatal failure.message
  emit {e} _ := (plainly_emit e).mono fun _ _ => ⟨_, rfl⟩

/-- Whether a call opens or closes a frame and does nothing else. -/
def Call.isFrameCall : Call → Bool
  | .pushFrame _ | .popFrame _ => true
  | _ => false

/-- A call from managed code is the same as itself. -/
theorem matches_self (call : ManagedCall Int64 Int64) : call.Matches Eq call := by
  cases call with
  | newRef x => exact .newRef rfl
  | newWeakRef x => exact .newWeakRef rfl
  | unref raw => exact .unref raw
  | get raw => exact .get raw
  | getWeak raw => exact .getWeak raw

/-- A word is taken for a handle or refused. -/
theorem plainly_takeHandle (raw : Int64) (known : Option Strength) :
    Plainly (fun _ => True) (takeHandle raw known) := by
  unfold takeHandle
  cases known with
  | none => exact Plainly.stop rfl
  | some strength =>
    dsimp only
    cases Handle.ofRaw? raw strength with
    | none => exact Plainly.stop rfl
    | some h => exact Plainly.pure trivial

/-- Every call ends plainly, the two that open and close frames apart. -/
theorem Call.plainly_run {c : Call} (hc : c.isFrameCall = false) :
    Plainly (fun _ => True) c.run := by
  cases c with
  | pushFrame capacity | popFrame x => cases hc
  | managed caller call =>
    exact (agree_plainly.answer (matches_self call)).bind fun _ _ => Plainly.pure trivial
  | createStrong x => exact (agree_plainly.createStrong rfl).bind fun _ _ => Plainly.pure trivial
  | createWeak x => exact (agree_plainly.createWeak rfl).bind fun _ _ => Plainly.pure trivial
  | release raw known =>
    refine (plainly_takeHandle raw known).bind fun h _ => ?_
    exact (agree_plainly.release h).bind fun _ _ => Plainly.pure trivial
  | resolve raw known =>
    refine (plainly_takeHandle raw known).bind fun h _ => ?_
    cases hs : h.strength with
    | strong => exact (agree_plainly.resolve hs).bind fun _ _ => Plainly.pure trivial
    | weak =>
      have hreject : host.resolve h = Action.stop (.misapplied (.resolve h)) := by
        funext table
        exact resolve_of_weak hs
      rw [hreject]
      exact (Plainly.stop (P := fun _ => True) rfl).bind fun _ _ => Plainly.pure trivial
  | resolveWeak raw known =>
    refine (plainly_takeHandle raw known).bind fun h _ => ?_
    cases hs : h.strength with
    | weak =>
      refine (agree_plainly.resolveWeak hs).bind fun x _ => ?_
      cases x <;> exact Plainly.pure trivial
    | strong =>
      have hreject : host.resolveWeak h = Action.stop (.misapplied (.resolveWeak h)) := by
        funext table
        exact resolveWeak_of_strong hs
      rw [hreject]
      refine (Plainly.stop (P := fun _ => True) rfl).bind fun x _ => ?_
      cases x <;> exact Plainly.pure trivial
  | null | isNull x | roundTrip x => exact Plainly.pure trivial
  | newStrong x | newWeak x | newLocal x =>
    exact (plainly_ask (fun _ _ => rfl) _).bind fun _ _ => Plainly.pure trivial
  | deleteStrong raw | deleteWeak raw =>
    exact (plainly_tell (fun _ _ => rfl) _).bind fun _ _ => Plainly.pure trivial
  | classify raw => exact (plainly_classify raw).bind fun _ _ => Plainly.pure trivial
  | fatal reason => exact plainly_fatal reason
  | unknown name => exact Plainly.stop rfl

end DurableRefs.FunctionTable
