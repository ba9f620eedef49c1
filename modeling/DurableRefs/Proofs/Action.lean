import DurableRefs.Action

/-!
# What actions keep and note

An action keeps a property of the state if it leads from states that have it to states that have
it, and takes only notes of some kind if every note it takes is of that kind. Both are told of an
action part by part, and hold however the action ends. An action that stops without a trace has
changed nothing before it stops. An action that needs no state does the same in every state.
-/

namespace DurableRefs.Action

variable {σ ν ε δ α β : Type} {P : σ → Prop} {Q : ν → Prop}

/-! ### Keeping a property -/

/-- An action keeps a property of the state, however the action ends. -/
def Keeps (P : σ → Prop) (x : Action σ ν ε α) : Prop := ∀ s, P s → P (x s).state

/-- Returning keeps everything. -/
theorem Keeps.pure (a : α) : (Pure.pure a : Action σ ν ε α).Keeps P := fun _ hs => hs

/-- Stopping keeps everything. -/
theorem Keeps.stop (e : ε) : (Action.stop e : Action σ ν ε α).Keeps P := fun _ hs => hs

/-- Taking a note keeps everything. -/
theorem Keeps.note (n : ν) : (Action.note n : Action σ ν ε Unit).Keeps P := fun _ hs => hs

/-- Looking at the state keeps everything. -/
theorem Keeps.state : (Action.state : Action σ ν ε σ).Keeps P := fun _ hs => hs

/-- A change of the state keeps what the function keeps. -/
theorem Keeps.change {f : σ → σ} (hf : ∀ s, P s → P (f s)) :
    (Action.change f : Action σ ν ε Unit).Keeps P := hf

/-- Two actions keep what each of them keeps, whether or not the second one is reached. -/
theorem Keeps.bind {x : Action σ ν ε α} {f : α → Action σ ν ε β} (hx : x.Keeps P)
    (hf : ∀ a, (f a).Keeps P) : (x >>= f).Keeps P := by
  intro s hs
  have hx := hx s hs
  cases h : x s with
  | mk result s' notes =>
    rw [h] at hx
    cases result with
    | error e => rwa [bind_of_error h]
    | ok a =>
      rw [bind_of_ok h]
      exact hf a s' hx

/-- An action keeps the same when its stop is turned into a value. -/
theorem Keeps.attempt {x : Action σ ν ε α} (hx : x.Keeps P) :
    (x.attempt : Action σ ν δ (Except ε α)).Keeps P := hx

/-- An action keeps the same when it is repeated. -/
theorem Keeps.times {x : Action σ ν ε Unit} (hx : x.Keeps P) (n : Nat) : (x.times n).Keeps P := by
  induction n with
  | zero => exact Keeps.pure ()
  | succ n ih => exact Keeps.bind hx fun _ => ih

/-! ### Taking notes -/

/-- Every note that an action takes has a property, however the action ends. -/
def NotesOnly (Q : ν → Prop) (x : Action σ ν ε α) : Prop := ∀ s, ∀ n ∈ (x s).notes, Q n

/-- Returning takes no notes. -/
theorem NotesOnly.pure (a : α) : (Pure.pure a : Action σ ν ε α).NotesOnly Q := fun _ => nofun

/-- Stopping takes no notes. -/
theorem NotesOnly.stop (e : ε) : (Action.stop e : Action σ ν ε α).NotesOnly Q := fun _ => nofun

/-- Looking at the state takes no notes. -/
theorem NotesOnly.state : (Action.state : Action σ ν ε σ).NotesOnly Q := fun _ => nofun

/-- Replacing the state takes no notes. -/
theorem NotesOnly.put (s : σ) : (Action.put s : Action σ ν ε Unit).NotesOnly Q := fun _ => nofun

/-- Changing the state takes no notes. -/
theorem NotesOnly.change (f : σ → σ) : (Action.change f : Action σ ν ε Unit).NotesOnly Q :=
  fun _ => nofun

/-- A note is taken only if it has the property. -/
theorem NotesOnly.note {n : ν} (hn : Q n) : (Action.note n : Action σ ν ε Unit).NotesOnly Q := by
  intro s m hm
  rw [List.mem_singleton.mp hm]
  exact hn

/-- Two actions take the notes that each of them takes. -/
theorem NotesOnly.bind {x : Action σ ν ε α} {f : α → Action σ ν ε β} (hx : x.NotesOnly Q)
    (hf : ∀ a, (f a).NotesOnly Q) : (x >>= f).NotesOnly Q := by
  intro s n hn
  have hx := hx s
  cases h : x s with
  | mk result s' notes =>
    rw [h] at hx
    cases result with
    | error e =>
      rw [bind_of_error h] at hn
      exact hx n hn
    | ok a =>
      rw [bind_of_ok h] at hn
      rcases List.mem_append.mp hn with hn | hn
      · exact hx n hn
      · exact hf a s' n hn

/-! ### Taking notes while keeping a property -/

/-- From states that have a property an action leads to states that have it, and every note that it
takes on the way has a property of its own. -/
def NotesUnder (P : σ → Prop) (Q : ν → Prop) (x : Action σ ν ε α) : Prop :=
  ∀ s, P s → P (x s).state ∧ ∀ n ∈ (x s).notes, Q n

/-- Returning takes no notes under any property. -/
theorem NotesUnder.pure (a : α) : (Pure.pure a : Action σ ν ε α).NotesUnder P Q :=
  fun _ hs => ⟨hs, nofun⟩

/-- Stopping takes no notes under any property. -/
theorem NotesUnder.stop (e : ε) : (Action.stop e : Action σ ν ε α).NotesUnder P Q :=
  fun _ hs => ⟨hs, nofun⟩

/-- Two actions take the notes that each of them takes, if the first one keeps the property. -/
theorem NotesUnder.bind {x : Action σ ν ε α} {f : α → Action σ ν ε β} (hx : x.NotesUnder P Q)
    (hf : ∀ a, (f a).NotesUnder P Q) : (x >>= f).NotesUnder P Q := by
  intro s hs
  obtain ⟨hstate, hnotes⟩ := hx s hs
  cases h : x s with
  | mk result s' notes =>
    rw [h] at hstate hnotes
    cases result with
    | error e =>
      rw [bind_of_error h]
      exact ⟨hstate, hnotes⟩
    | ok a =>
      rw [bind_of_ok h]
      obtain ⟨hlast, hrest⟩ := hf a s' hstate
      refine ⟨hlast, ?_⟩
      intro n hn
      rcases List.mem_append.mp hn with hn | hn
      · exact hnotes n hn
      · exact hrest n hn

/-- An action takes the same notes when its stop is turned into a value. -/
theorem NotesUnder.attempt {x : Action σ ν ε α} (hx : x.NotesUnder P Q) :
    (x.attempt : Action σ ν δ (Except ε α)).NotesUnder P Q := hx

/-! ### Stopping without a trace -/

/-- If an action stops in a state, it leaves that state as it is. -/
def CleanAt (s : σ) (x : Action σ ν ε α) : Prop :=
  ∀ e, (x s).result = .error e → (x s).state = s

/-- An action that stops in the state that it found stops without a trace. -/
theorem CleanAt.of_stop {x : Action σ ν ε α} {s : σ} {e : ε} {notes : List ν}
    (h : x s = ⟨.error e, s, notes⟩) : x.CleanAt s := by
  intro e' _
  rw [h]

/-- An action that returns leaves no trace of a stop, since there is none. -/
theorem CleanAt.of_ok {x : Action σ ν ε α} {s s' : σ} {a : α} {notes : List ν}
    (h : x s = ⟨.ok a, s', notes⟩) : x.CleanAt s := by
  intro e he
  rw [h] at he
  cases he

/-- An action whose value is only put into another form stops where the action stops. -/
theorem CleanAt.bind_pure {x : Action σ ν ε α} {s : σ} (hx : x.CleanAt s) (f : α → β) :
    (x >>= fun a => Pure.pure (f a)).CleanAt s := by
  intro e he
  rw [result_bind_pure_eq_error_iff] at he
  rw [bind_pure_apply]
  exact hx e he

/-! ### Acting without the state -/

/-- An action neither looks at the state nor changes it. -/
def Still (x : Action σ ν ε α) : Prop := ∃ result notes, ∀ s, x s = ⟨result, s, notes⟩

/-- Returning needs no state. -/
theorem Still.pure (a : α) : (Pure.pure a : Action σ ν ε α).Still := ⟨_, _, fun _ => rfl⟩

/-- Stopping needs no state. -/
theorem Still.stop (e : ε) : (Action.stop e : Action σ ν ε α).Still := ⟨_, _, fun _ => rfl⟩

/-- Taking a note needs no state. -/
theorem Still.note (n : ν) : (Action.note n : Action σ ν ε Unit).Still := ⟨_, _, fun _ => rfl⟩

/-- Two actions need no state if neither of them does. -/
theorem Still.bind {x : Action σ ν ε α} {f : α → Action σ ν ε β} (hx : x.Still)
    (hf : ∀ a, (f a).Still) : (x >>= f).Still := by
  obtain ⟨result, notes, hx⟩ := hx
  cases result with
  | error e => exact ⟨.error e, notes, fun s => bind_of_error (hx s) f⟩
  | ok a =>
    obtain ⟨result, more, hf⟩ := hf a
    refine ⟨result, notes ++ more, fun s => ?_⟩
    rw [bind_of_ok (hx s), hf s]

end DurableRefs.Action
