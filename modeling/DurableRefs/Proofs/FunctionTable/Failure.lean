import DurableRefs.Proofs.FunctionTable.History

/-!
# Failures of the host

The library ends the host when the host has failed it: no reference was made for an object, no local
for a strong handle, or no frame. Each way of using the library that can meet such a failure asks
the host a single question, so what is left behind is the question, one report and the end. A weak
handle without a referent is no failure.
-/

namespace DurableRefs.FunctionTable

variable {table : FunctionTable} {c : Call} {strength : Strength} {x raw : Int64}

/-! ### Calls that the host can fail -/

/-- Whether a call opens or closes a frame or ends the host, and does nothing else. -/
def Call.isDirect : Call → Bool
  | .fatal _ => true
  | c => c.isFrameCall

/-- Calls that do other things open and close no frames. -/
theorem Call.isFrameCall_of_isDirect (hc : c.isDirect = false) : c.isFrameCall = false := by
  cases c <;> first | exact hc | rfl

/-- The class of the handle that a call makes, and the object that it makes it for. -/
def Call.creates? : Call → Option (Strength × Int64)
  | .managed _ (.newRef x) | .createStrong x => some (.strong, x)
  | .managed _ (.newWeakRef x) | .createWeak x => some (.weak, x)
  | _ => none

/-- The word that a call resolves as a strong handle. -/
def Call.resolves? : Call → Option Int64
  | .managed _ (.get raw) | .resolve raw (some .strong) => some raw
  | _ => none

/-- Whether a call resolves a weak handle. -/
def Call.resolvesWeakly : Call → Bool
  | .managed _ (.getWeak _) | .resolveWeak .. => true
  | _ => false

/-- A call that resolves a weak handle makes no handle and resolves no strong one. -/
theorem Call.eq_none_of_resolvesWeakly (hweak : c.resolvesWeakly = true) :
    c.creates? = none ∧ c.resolves? = none := by
  unfold Call.resolvesWeakly at hweak
  split at hweak
  · exact ⟨rfl, rfl⟩
  · exact ⟨rfl, rfl⟩
  · cases hweak

/-- A call that makes a handle does nothing else. -/
theorem Call.run_of_creates (hc : c.creates? = some (strength, x)) :
    ∃ f : Option Handle → Value, c.run = makeHandle strength x >>= fun h => pure (f h) := by
  cases c with
  | createStrong y =>
    cases hc
    exact ⟨.handle, rfl⟩
  | createWeak y =>
    cases hc
    exact ⟨.handle, rfl⟩
  | managed caller call =>
    cases call with
    | newRef y =>
      cases hc
      refine ⟨fun h => .word (Handle.toWord h), ?_⟩
      simp [Call.run, Host.answer, Host.newRef, makeHandle, Value.ofManaged]
    | newWeakRef y =>
      cases hc
      refine ⟨fun h => .word (Handle.toWord h), ?_⟩
      simp [Call.run, Host.answer, Host.newWeakRef, makeHandle, Value.ofManaged]
    | _ => cases hc
  | _ => cases hc

/-- A call that resolves a strong handle does nothing else. -/
theorem Call.run_of_resolves (hc : c.resolves? = some raw) (hraw : raw ≠ 0) :
    c.run = host.resolve ⟨.strong, raw, hraw⟩ >>= fun y => pure (.word y) := by
  cases c with
  | managed caller call =>
    cases call with
    | get word =>
      cases hc
      simp [Call.run, Host.answer, get_of_ne_zero hraw, Value.ofManaged]
    | _ => cases hc
  | resolve word known =>
    rcases known with _ | _ | _
    · cases hc
    · cases hc
      simp [Call.run, takeHandle, Handle.ofRaw?_of_ne_zero hraw]
    · cases hc
  | _ => cases hc

/-- A call that would resolve no handle does nothing. -/
theorem Call.notes_of_resolves_zero (hc : c.resolves? = some 0) : (c.run table).notes = [] := by
  cases c with
  | managed caller call =>
    cases call with
    | get word =>
      cases hc
      simp [Call.run, Host.answer, get_zero]
    | _ => cases hc
  | resolve word known =>
    rcases known with _ | _ | _
    · cases hc
    · cases hc
      rfl
    · cases hc
  | _ => cases hc

/-! ### Calls that the host cannot fail -/

section Lasting

variable {α β : Type}

/-- On a table that has all functions, more can be done after an action, however the action ends. -/
def Lasting (p : Task α) : Prop :=
  ∀ table, table.missing = [] → (p table).state.missing = [] ∧
    ∀ stop, (p table).result = .error stop → stop.isFinal = false

/-- More can be done after a return. -/
theorem Lasting.pure (a : α) : Lasting (Pure.pure a) := fun _ hmissing => ⟨hmissing, nofun⟩

/-- More can be done after a refusal. -/
theorem Lasting.stop {stop : Stop} (hstop : stop.isFinal = false) :
    Lasting (Action.stop stop : Task α) := by
  intro table hmissing
  refine ⟨hmissing, ?_⟩
  rintro _ ⟨⟩
  exact hstop

/-- More can be done after two actions if more can be done after each of them. -/
theorem Lasting.bind {p : Task α} {f : α → Task β} (hp : Lasting p) (hf : ∀ a, Lasting (f a)) :
    Lasting (p >>= f) := by
  intro table hmissing
  obtain ⟨hleft, hresult⟩ := hp table hmissing
  rcases hrun : p table with ⟨stop | a, later, notes⟩
  · rw [Action.bind_of_error hrun]
    rw [hrun] at hleft hresult
    refine ⟨hleft, ?_⟩
    rintro _ ⟨⟩
    exact hresult stop rfl
  · rw [Action.bind_of_ok hrun]
    rw [hrun] at hleft
    exact hf a later hleft

/-- More can be done after a question. -/
theorem lasting_ask (entry : Entry) (argument : Argument) : Lasting (ask entry argument) := by
  intro table hmissing
  rw [ask_of_missing hmissing]
  exact ⟨by rw [missing_answered, hmissing], nofun⟩

/-- More can be done after a call that is not answered. -/
theorem lasting_tell (entry : Entry) (argument : Argument) : Lasting (tell entry argument) := by
  intro table hmissing
  rw [tell_of_missing hmissing]
  exact ⟨hmissing, nofun⟩

/-- More can be done after a report. -/
theorem lasting_emit (e : Log.Event) : Lasting (host.emit e) := fun _ hmissing => ⟨hmissing, nofun⟩

/-- More can be done after a word has been classified. -/
theorem lasting_classify (raw : Int64) : Lasting (host.classify raw) := by
  simp only [host]
  split
  · exact Lasting.pure none
  · exact (lasting_ask _ _).bind fun answer => Lasting.pure (strengthOfType answer)

/-- More can be done after a word has been taken for a handle, or refused. -/
theorem lasting_takeHandle (raw : Int64) (known : Option Strength) :
    Lasting (takeHandle raw known) := by
  unfold takeHandle
  cases known with
  | none => exact Lasting.stop rfl
  | some strength =>
    dsimp only
    cases Handle.ofRaw? raw strength with
    | none => exact Lasting.stop rfl
    | some h => exact Lasting.pure h

/-- More can be done after a release. -/
theorem lasting_release (h : Handle) : Lasting (host.release h) := by
  refine (lasting_emit _).bind fun _ => ?_
  cases h.strength <;> exact lasting_tell _ _

/-- More can be done after a handle has been resolved as a weak one. -/
theorem lasting_resolveWeak (h : Handle) : Lasting (host.resolveWeak h) := by
  unfold Host.resolveWeak
  cases h.strength with
  | strong => exact Lasting.stop rfl
  | weak =>
    refine (lasting_ask _ _).bind fun x => ?_
    split
    · exact (lasting_emit _).bind fun _ => Lasting.pure none
    · exact Lasting.pure (some x)

/-- More can be done after the release of a word's handle, if the word has one. -/
theorem lasting_release_ofRaw? (raw : Int64) (strength : Strength) :
    Lasting (match Handle.ofRaw? raw strength with
      | some h => host.release h
      | none => Pure.pure ()) := by
  cases Handle.ofRaw? raw strength with
  | some h => exact lasting_release h
  | none => exact Lasting.pure ()

/-- More can be done after managed code has given a handle up. -/
theorem lasting_unref (raw : Int64) : Lasting (host.unref raw) := by
  unfold Host.unref
  split
  · exact Lasting.pure ()
  · refine (lasting_classify raw).bind fun known => ?_
    cases known with
    | some strength => exact (Lasting.pure strength).bind (lasting_release_ofRaw? raw)
    | none =>
      refine (lasting_emit _).bind fun _ => ?_
      exact (Lasting.pure .strong).bind (lasting_release_ofRaw? raw)

/-- More can be done after managed code has asked for the object behind a weak handle. -/
theorem lasting_getWeak (raw : Int64) : Lasting (host.getWeak raw) := by
  unfold Host.getWeak
  cases Handle.ofRaw? raw .weak with
  | some h => exact (lasting_resolveWeak h).bind fun x => Lasting.pure (x.getD host.null)
  | none => exact Lasting.pure host.null

/-- More can be done after a handle to no object has been made. -/
theorem lasting_makeHandle_null (strength : Strength) : Lasting (makeHandle strength 0) := by
  intro table hmissing
  rw [makeHandle_null]
  exact ⟨hmissing, nofun⟩

/-- More can be done after a call that makes no handle to an object and resolves no strong handle.
-/
theorem Call.lasting_run (hc : c.isDirect = false)
    (hcreates : ∀ strength x, c.creates? = some (strength, x) → x = 0)
    (hresolves : ∀ raw, c.resolves? = some raw → raw = 0) : Lasting c.run := by
  have hmakes : ∀ {strength}, c.creates? = some (strength, 0) → Lasting c.run := by
    intro strength hzero
    obtain ⟨f, hrun⟩ := Call.run_of_creates hzero
    rw [hrun]
    exact (lasting_makeHandle_null strength).bind fun h => Lasting.pure (f h)
  cases c with
  | createStrong x =>
    obtain rfl := hcreates .strong x rfl
    exact hmakes rfl
  | createWeak x =>
    obtain rfl := hcreates .weak x rfl
    exact hmakes rfl
  | managed caller call =>
    cases call with
    | newRef x =>
      obtain rfl := hcreates .strong x rfl
      exact hmakes rfl
    | newWeakRef x =>
      obtain rfl := hcreates .weak x rfl
      exact hmakes rfl
    | get raw =>
      obtain rfl := hresolves raw rfl
      exact ((Lasting.pure _).bind fun _ => Lasting.pure _).bind fun _ => Lasting.pure _
    | getWeak raw =>
      exact ((lasting_getWeak raw).bind fun _ => Lasting.pure _).bind fun _ => Lasting.pure _
    | unref raw =>
      exact ((lasting_unref raw).bind fun _ => Lasting.pure _).bind fun _ => Lasting.pure _
  | release raw known =>
    refine (lasting_takeHandle raw known).bind fun h => ?_
    exact (lasting_release h).bind fun _ => Lasting.pure _
  | resolve raw known =>
    rcases known with _ | _ | _
    · exact @Lasting.stop Value (.unusable "kind") rfl
    · obtain rfl := hresolves raw rfl
      exact @Lasting.stop Value .zeroHandle rfl
    · by_cases hraw : raw = 0
      · subst hraw
        exact @Lasting.stop Value .zeroHandle rfl
      · have hrun : (Call.resolve raw (some .weak)).run =
            Action.stop (.misapplied (.resolve ⟨.weak, raw, hraw⟩)) := by
          funext table
          simp [Call.run, takeHandle, Handle.ofRaw?_of_ne_zero hraw, resolve_of_weak]
        rw [hrun]
        exact Lasting.stop rfl
  | resolveWeak raw known =>
    refine (lasting_takeHandle raw known).bind fun h => ?_
    refine (lasting_resolveWeak h).bind fun x => ?_
    cases x <;> exact Lasting.pure _
  | null | isNull x | roundTrip x => exact Lasting.pure _
  | newStrong x | newWeak x | newLocal x =>
    exact (lasting_ask _ _).bind fun _ => Lasting.pure _
  | deleteStrong raw | deleteWeak raw =>
    exact (lasting_tell _ _).bind fun _ => Lasting.pure _
  | classify raw => exact (lasting_classify raw).bind fun _ => Lasting.pure _
  | pushFrame capacity | popFrame x | fatal reason => cases hc
  | unknown name => exact Lasting.stop rfl

end Lasting

/-! ### Failures -/

/-- The host has failed a deed by its answer to a call, which is a failure of some kind and reported
as such. -/
inductive Moment.HostFailed (m : Moment) : Item → Log.Event → HostFailure → Prop
  /-- No reference has been made for an object. -/
  | exhausted {c : Call} {strength : Strength} {x : Int64} (hdeed : m.deed = .call c)
      (hcreates : c.creates? = some (strength, x)) (hx : x ≠ 0)
      (hitem : .call (.maker strength) (.word x) (some 0) ∈ m.outcome.notes) :
      m.HostFailed (.call (.maker strength) (.word x) (some 0)) (.exhausted strength)
        .tableExhausted
  /-- No local has been made from a strong handle. -/
  | referentLost {c : Call} {raw : Int64} (hdeed : m.deed = .call c)
      (hresolves : c.resolves? = some raw)
      (hitem : .call .newLocalRef (.word raw) (some 0) ∈ m.outcome.notes) :
      m.HostFailed (.call .newLocalRef (.word raw) (some 0)) (.referentLost raw) .noLocal
  /-- No frame has been opened. -/
  | frameRefused {capacity : Int32} {status : Int64} (hdeed : m.deed = .openFrame capacity)
      (hstatus : status.toInt32 ≠ 0)
      (hitem : .call .pushLocalFrame (.capacity capacity) (some status) ∈ m.outcome.notes) :
      m.HostFailed (.call .pushLocalFrame (.capacity capacity) (some status))
        (.frameRefused capacity) .noFrame

/-- Each failure is reported as an error. -/
theorem Moment.HostFailed.level_eq {m : Moment} {item : Item} {e : Log.Event}
    {failure : HostFailure} (h : m.HostFailed item e failure) : e.record.level = .error := by
  cases h <;> rfl

/-- What a deed leaves behind that the host has failed: the call, the report and the end. -/
theorem Moment.HostFailed.notes_eq {m : Moment} (hmissing : m.table.missing = []) {item : Item}
    {e : Log.Event} {failure : HostFailure} (h : m.HostFailed item e failure) :
    m.outcome.notes = [item, .event e, lastCall failure] := by
  obtain ⟨table, enclosing, deed⟩ := m
  simp only at hmissing
  cases h with
  | @exhausted c strength x hdeed hcreates hx hitem =>
    simp only at hdeed
    subst hdeed
    obtain ⟨f, hrun⟩ := Call.run_of_creates hcreates
    simp only [Moment.outcome, Deed.run, hrun, Action.bind_pure_apply] at hitem ⊢
    by_cases hword : table.upcoming (.maker strength) = 0
    · rw [makeHandle_of_refused hmissing hx hword]
    · rw [makeHandle_of_made hmissing hx hword] at hitem
      have hzero : 0 = table.upcoming (.maker strength) := by simpa using hitem
      exact absurd hzero.symm hword
  | @referentLost c raw hdeed hresolves hitem =>
    simp only at hdeed
    subst hdeed
    by_cases hraw : raw = 0
    · subst hraw
      simp only [Moment.outcome, Deed.run, Call.notes_of_resolves_zero hresolves] at hitem
      cases hitem
    · simp only [Moment.outcome, Deed.run, Call.run_of_resolves hresolves hraw,
        Action.bind_pure_apply] at hitem ⊢
      by_cases hword : table.upcoming .newLocalRef = 0
      · rw [resolve_of_refused hmissing rfl hword]
      · rw [resolve_of_made hmissing rfl hword] at hitem
        have hzero : 0 = table.upcoming .newLocalRef := by simpa using hitem
        exact absurd hzero.symm hword
  | @frameRefused capacity status hdeed hstatus hitem =>
    simp only at hdeed
    subst hdeed
    simp only [Moment.outcome, Deed.run, Action.bind_pure_apply] at hitem ⊢
    by_cases hword : (table.upcoming .pushLocalFrame).toInt32 = 0
    · rw [openFrame_of_opened hmissing hword] at hitem
      have hanswer : status = table.upcoming .pushLocalFrame := by simpa using hitem
      exact absurd (hanswer ▸ hword) hstatus
    · rw [openFrame_of_refused hmissing hword] at hitem ⊢
      have hanswer : status = table.upcoming .pushLocalFrame := by simpa [lastCall] using hitem
      rw [hanswer]

/-- A call after which more can be done is not the last one. -/
theorem Moment.isLast_of_lasting {m : Moment} (hmissing : m.table.missing = [])
    (hdeed : m.deed = .call c) (hgoes : Lasting c.run) : m.isLast = false := by
  have hresult : ∀ stop, m.outcome.result = .error stop → stop.isFinal = false := by
    intro stop hstop
    rw [Moment.outcome, hdeed] at hstop
    exact (hgoes m.table hmissing).2 stop hstop
  unfold Moment.isLast
  split
  · rfl
  · next stop hstop => exact hresult stop hstop

/-- A call for a handle that ends the host has been failed. -/
theorem Moment.hostFailed_of_creates {m : Moment} (hmissing : m.table.missing = [])
    (hdeed : m.deed = .call c) (hcreates : c.creates? = some (strength, x)) (hx : x ≠ 0)
    (hlast : m.isLast = true) :
    m.HostFailed (.call (.maker strength) (.word x) (some 0)) (.exhausted strength)
      .tableExhausted := by
  obtain ⟨f, hrun⟩ := Call.run_of_creates hcreates
  have houtcome := Moment.outcome_of_call hdeed
  have hword : m.table.upcoming (.maker strength) = 0 := by
    apply Classical.byContradiction
    intro hword
    simp only [Moment.isLast, houtcome, hrun, Action.bind_pure_apply,
      makeHandle_of_made hmissing hx hword] at hlast
    cases hlast
  refine .exhausted hdeed hcreates hx ?_
  simp only [houtcome, hrun, Action.bind_pure_apply, makeHandle_of_refused hmissing hx hword]
  exact List.mem_cons_self

/-- A call for the object behind a strong handle that ends the host has been failed. -/
theorem Moment.hostFailed_of_resolves {m : Moment} (hmissing : m.table.missing = [])
    (hdeed : m.deed = .call c) (hresolves : c.resolves? = some raw) (hraw : raw ≠ 0)
    (hlast : m.isLast = true) :
    m.HostFailed (.call .newLocalRef (.word raw) (some 0)) (.referentLost raw) .noLocal := by
  have hrun := Call.run_of_resolves hresolves hraw
  have houtcome := Moment.outcome_of_call hdeed
  have hword : m.table.upcoming .newLocalRef = 0 := by
    apply Classical.byContradiction
    intro hword
    have hmade : host.resolve ⟨.strong, raw, hraw⟩ m.table = _ :=
      resolve_of_made hmissing rfl hword
    simp only [Moment.isLast, houtcome, hrun, Action.bind_pure_apply, hmade] at hlast
    cases hlast
  have hrefused : host.resolve ⟨.strong, raw, hraw⟩ m.table = _ :=
    resolve_of_refused hmissing rfl hword
  refine .referentLost hdeed hresolves ?_
  simp only [houtcome, hrun, Action.bind_pure_apply, hrefused]
  exact List.mem_cons_self

/-- The host has failed every deed that ends it. -/
theorem Moment.IsOf.hostFailed {m : Moment} (hm : m.IsOf fun c => c.isDirect = false)
    (hlast : m.isLast = true) : ∃ item e failure, m.HostFailed item e failure := by
  have hmissing : m.table.missing = [] := hm.missing
  cases hdeed : m.deed with
  | closeFrame x =>
    simp only [Moment.isLast, Moment.outcome, hdeed, Deed.run, Action.bind_pure_apply,
      closeFrameWith_eq hmissing] at hlast
    cases hlast
  | openFrame capacity =>
    have hword : (m.table.upcoming .pushLocalFrame).toInt32 ≠ 0 := by
      intro hword
      simp only [Moment.isLast, Moment.outcome, hdeed, Deed.run, Action.bind_pure_apply,
        openFrame_of_opened hmissing hword] at hlast
      cases hlast
    refine ⟨_, _, _, .frameRefused hdeed hword ?_⟩
    simp only [Moment.outcome, hdeed, Deed.run, Action.bind_pure_apply,
      openFrame_of_refused hmissing hword]
    exact List.mem_cons_self
  | call c =>
    by_cases hcreates : ∃ strength x, c.creates? = some (strength, x) ∧ x ≠ 0
    · obtain ⟨strength, x, hcreates, hx⟩ := hcreates
      exact ⟨_, _, _, Moment.hostFailed_of_creates hmissing hdeed hcreates hx hlast⟩
    by_cases hresolves : ∃ raw, c.resolves? = some raw ∧ raw ≠ 0
    · obtain ⟨raw, hresolves, hraw⟩ := hresolves
      exact ⟨_, _, _, Moment.hostFailed_of_resolves hmissing hdeed hresolves hraw hlast⟩
    · -- nothing that the host could fail is asked
      have hgoes : Lasting c.run := by
        refine Call.lasting_run (hm.call hdeed) ?_ ?_
        · intro strength x hc
          exact Classical.byContradiction fun hx => hcreates ⟨strength, x, hc, hx⟩
        · intro raw hc
          exact Classical.byContradiction fun hraw => hresolves ⟨raw, hc, hraw⟩
      rw [Moment.isLast_of_lasting hmissing hdeed hgoes] at hlast
      cases hlast

/-- Resolving a weak handle does not end the host. -/
theorem Moment.IsOf.isLast_of_resolvesWeakly {m : Moment}
    (hm : m.IsOf fun c => c.isDirect = false) (hdeed : m.deed = .call c)
    (hweak : c.resolvesWeakly = true) : m.isLast = false := by
  obtain ⟨hcreates, hresolves⟩ := Call.eq_none_of_resolvesWeakly hweak
  refine Moment.isLast_of_lasting hm.missing hdeed (Call.lasting_run (hm.call hdeed) ?_ ?_)
  · intro strength x hc
    rw [hcreates] at hc
    cases hc
  · intro raw hc
    rw [hresolves] at hc
    cases hc

/-- A deed that leaves a call behind that ends the host is the last one, and the transcript ends
with what it leaves behind. -/
theorem Ends.of_mem {steps : List Step} (hends : Ends table steps) {m : Moment}
    (hm : m ∈ deeds table steps) {item : Item} (hitem : item ∈ m.outcome.notes)
    (hlast : item.endsHost = true) :
    (deeds table steps).getLast? = some m ∧
      ∃ before, (transcript table steps).1 = before ++ m.outcome.notes ∧
        ∀ i ∈ before, i.endsHost = false := by
  have hkept : (∀ step value, item ≠ .returned step value) ∧ ∀ stop, item ≠ .failed stop := by
    constructor
    · rintro _ _ rfl
      cases hlast
    · rintro _ rfl
      cases hlast
  have hnot : ∀ {ms items}, Tells ms items → m ∈ ms → ¬∀ i ∈ items, i.endsHost = false := by
    intro ms items htells hm hnone
    rw [hnone item ((htells.mem_iff hkept.1 hkept.2).mpr ⟨m, hm, hitem⟩)] at hlast
    cases hlast
  cases hends with
  | lasting htells hnone _ => exact absurd hnone (hnot htells hm)
  | @final ms n items before reason hdeeds _ _ _ hitems htells hnone =>
    have hfirst := (List.forall_mem_append.mp hnone).1
    rw [hdeeds] at hm ⊢
    rcases List.mem_append.mp hm with hm | hm
    · exact absurd hfirst (hnot htells hm)
    · rw [List.mem_singleton.mp hm]
      exact ⟨by simp, items, hitems, hfirst⟩

/-- On a table that has all functions, the transcript of a program that neither opens or closes a
frame by itself nor ends the host by itself has a call that ends the host just if the host has
failed a deed. That deed is the last one, and the transcript ends with the call that has failed, one
report of an error, and the call that ends the host. A weak handle without a referent ends
nothing. -/
theorem host_ended_iff_failed (table : FunctionTable) (hmissing : table.missing = [])
    (steps : List Step) (hcalls : ∀ c ∈ Step.callsAll steps, c.isDirect = false) :
    Tells (deeds table steps) (transcript table steps).1 ∧
      ((∃ item ∈ (transcript table steps).1, item.endsHost = true) ↔
        ∃ m ∈ deeds table steps, ∃ item e failure, m.HostFailed item e failure) ∧
      (∀ m ∈ deeds table steps, ∀ item e failure, m.HostFailed item e failure →
        e.record.level = .error ∧ (deeds table steps).getLast? = some m ∧
          ∃ before, (transcript table steps).1 = before ++ [item, .event e, lastCall failure] ∧
            ∀ i ∈ before, i.endsHost = false) ∧
      ∀ m ∈ deeds table steps, ∀ c, m.deed = .call c → c.resolvesWeakly = true →
        ∀ item ∈ m.outcome.notes, item.endsHost = false := by
  have hp : ∀ c : Call, c.isDirect = false → c.isFrameCall = false :=
    fun _ hc => Call.isFrameCall_of_isDirect hc
  have hof : ∀ m ∈ deeds table steps, m.IsOf fun c => c.isDirect = false :=
    fun m hm => isOf_of_mem_deeds hp hmissing hcalls hm
  have hends : Ends table steps := ends_of_calls hp hmissing hcalls
  have hfailed : ∀ m ∈ deeds table steps, ∀ item e failure, m.HostFailed item e failure →
      (deeds table steps).getLast? = some m ∧
        ∃ before, (transcript table steps).1 = before ++ [item, .event e, lastCall failure] ∧
          ∀ i ∈ before, i.endsHost = false := by
    intro m hm item e failure hfail
    have hnotes := hfail.notes_eq (hof m hm).missing
    have hitem : lastCall failure ∈ m.outcome.notes := by simp [hnotes]
    obtain ⟨hlast, before, hsplit, hnone⟩ := hends.of_mem hm hitem rfl
    exact ⟨hlast, before, by rw [hsplit, hnotes], hnone⟩
  refine ⟨hends.tells, ⟨?_, ?_⟩, ?_, ?_⟩
  · rintro ⟨item, hitem, hlast⟩
    cases hends with
    | lasting _ hnone _ =>
      rw [hnone item hitem] at hlast
      cases hlast
    | @final ms m items before reason hdeeds hlast _ _ _ _ _ =>
      have hm : m ∈ deeds table steps := by simp [hdeeds]
      exact ⟨m, hm, (hof m hm).hostFailed hlast⟩
  · rintro ⟨m, hm, item, e, failure, hfail⟩
    obtain ⟨-, before, hsplit, -⟩ := hfailed m hm item e failure hfail
    exact ⟨lastCall failure, by simp [hsplit], rfl⟩
  · intro m hm item e failure hfail
    exact ⟨hfail.level_eq, hfailed m hm item e failure hfail⟩
  · intro m hm c hdeed hweak
    rcases (hof m hm).ends hp with ⟨-, hnotes⟩ | ⟨hlast, -⟩
    · exact hnotes
    · rw [(hof m hm).isLast_of_resolvesWeakly hdeed hweak] at hlast
      cases hlast

/-- The host makes no local from either handle of a body. Only the strong one is a failure, and then
the frame of the body is not closed. -/
theorem host_ended_by_lost_referent :
    ∃ before,
      (transcript {} [.inFrame 16 [.call (.managed .globalRef (.getWeak 5)),
        .call (.managed .globalRef (.get 7))]]).1 =
          before ++ [.call .newLocalRef (.word 7) (some 0), .event (.referentLost 7),
            lastCall .noLocal] ∧
        ∀ i ∈ before, i.endsHost = false :=
  ((host_ended_iff_failed {} rfl [.inFrame 16 [.call (.managed .globalRef (.getWeak 5)),
      .call (.managed .globalRef (.get 7))]] (by decide)).2.2.1
    ⟨{}, [16], .call (.managed .globalRef (.get 7))⟩ (by decide) _ _ _
    (.referentLost rfl rfl (by decide))).2.2

end DurableRefs.FunctionTable
