/-!
# Actions

An action changes a state, takes notes, and either returns a value or stops for a reason. A stop
undoes nothing: the state is as the action left it, and the notes taken so far are kept.
-/

namespace DurableRefs

/-- What an action left behind. -/
structure Run (σ ν ε α : Type) where
  /-- The value, or the reason for a stop. -/
  result : Except ε α
  /-- The state at the end. -/
  state : σ
  /-- The notes in the order they were taken. -/
  notes : List ν

/-- A computation on states of type `σ` with notes of type `ν` and reasons to stop of type
`ε`. -/
def Action (σ ν ε α : Type) : Type :=
  σ → Run σ ν ε α

namespace Action

variable {σ ν ε δ α β : Type}

/-- Return a value and do nothing else. -/
def pure (a : α) : Action σ ν ε α := fun s => ⟨.ok a, s, []⟩

/-- Go on after an action that returned; a stop is final. -/
def bind (x : Action σ ν ε α) (f : α → Action σ ν ε β) : Action σ ν ε β := fun s =>
  match x s with
  | ⟨.ok a, s', notes⟩ =>
    let rest := f a s'
    ⟨rest.result, rest.state, notes ++ rest.notes⟩
  | ⟨.error e, s', notes⟩ => ⟨.error e, s', notes⟩

instance : Monad (Action σ ν ε) where
  pure := pure
  bind := bind

/-- The state. -/
def state : Action σ ν ε σ := fun s => ⟨.ok s, s, []⟩

/-- Replace the state. -/
def put (s : σ) : Action σ ν ε Unit := fun _ => ⟨.ok (), s, []⟩

/-- Change the state. -/
def change (f : σ → σ) : Action σ ν ε Unit := fun s => ⟨.ok (), f s, []⟩

/-- Take a note. -/
def note (n : ν) : Action σ ν ε Unit := fun s => ⟨.ok (), s, [n]⟩

/-- Stop. -/
def stop (e : ε) : Action σ ν ε α := fun s => ⟨.error e, s, []⟩

/-- Turn a stop into a value. -/
def attempt (x : Action σ ν ε α) : Action σ ν δ (Except ε α) := fun s =>
  let r := x s
  ⟨.ok r.result, r.state, r.notes⟩

/-- Return the value that is there, or stop. -/
def ofExcept : Except ε α → Action σ ν ε α
  | .ok a => pure a
  | .error e => stop e

/-- Repeat an action. -/
def times (x : Action σ ν ε Unit) : Nat → Action σ ν ε Unit
  | 0 => pure ()
  | n + 1 => bind x fun _ => times x n

/-! ### What an action leaves behind -/

@[simp] theorem pure_apply (a : α) (s : σ) :
    (Pure.pure a : Action σ ν ε α) s = ⟨.ok a, s, []⟩ := rfl

@[simp] theorem state_apply (s : σ) : (state : Action σ ν ε σ) s = ⟨.ok s, s, []⟩ := rfl

@[simp] theorem put_apply (s t : σ) : (put t : Action σ ν ε Unit) s = ⟨.ok (), t, []⟩ := rfl

@[simp] theorem change_apply (f : σ → σ) (s : σ) :
    (change f : Action σ ν ε Unit) s = ⟨.ok (), f s, []⟩ := rfl

@[simp] theorem note_apply (n : ν) (s : σ) :
    (note n : Action σ ν ε Unit) s = ⟨.ok (), s, [n]⟩ := rfl

@[simp] theorem stop_apply (e : ε) (s : σ) :
    (stop e : Action σ ν ε α) s = ⟨.error e, s, []⟩ := rfl

@[simp] theorem attempt_apply (x : Action σ ν ε α) (s : σ) :
    (attempt x : Action σ ν δ (Except ε α)) s = ⟨.ok (x s).result, (x s).state, (x s).notes⟩ :=
  rfl

/-- What follows an action that returned. -/
theorem bind_of_ok {x : Action σ ν ε α} {s s' : σ} {a : α} {notes : List ν}
    (h : x s = ⟨.ok a, s', notes⟩) (f : α → Action σ ν ε β) :
    (x >>= f) s = ⟨(f a s').result, (f a s').state, notes ++ (f a s').notes⟩ := by
  change bind x f s = _
  simp [bind, h]

/-- Nothing follows an action that stopped. -/
theorem bind_of_error {x : Action σ ν ε α} {s s' : σ} {e : ε} {notes : List ν}
    (h : x s = ⟨.error e, s', notes⟩) (f : α → Action σ ν ε β) :
    (x >>= f) s = ⟨.error e, s', notes⟩ := by
  change bind x f s = _
  simp [bind, h]

/-- What two actions leave behind, by how the first one ended. -/
@[simp] theorem bind_apply (x : Action σ ν ε α) (f : α → Action σ ν ε β) (s : σ) :
    (x >>= f) s =
      match x s with
      | ⟨.ok a, s', notes⟩ => ⟨(f a s').result, (f a s').state, notes ++ (f a s').notes⟩
      | ⟨.error e, s', notes⟩ => ⟨.error e, s', notes⟩ := rfl

/-- What an action leaves behind when its value is turned into another. -/
@[simp] theorem map_apply (f : α → β) (x : Action σ ν ε α) (s : σ) :
    (f <$> x) s =
      match x s with
      | ⟨.ok a, s', notes⟩ => ⟨.ok (f a), s', notes⟩
      | ⟨.error e, s', notes⟩ => ⟨.error e, s', notes⟩ := by
  change bind x (fun a => pure (f a)) s = _
  rcases h : x s with ⟨_ | _, _, _⟩ <;> simp [bind, pure, h]

/-- An action whose value is only put into another form leaves the same state and notes. -/
theorem bind_pure_apply (f : α → β) (x : Action σ ν ε α) (s : σ) :
    (x >>= fun a => Pure.pure (f a)) s = ⟨(x s).result.map f, (x s).state, (x s).notes⟩ := by
  rcases h : x s with ⟨_ | _, _, _⟩ <;> simp [h, Except.map]

/-- An action whose value is put into another form stops exactly if the action stops, and for the
same reason. -/
theorem result_bind_pure_eq_error_iff {f : α → β} {x : Action σ ν ε α} {s : σ} {e : ε} :
    ((x >>= fun a => Pure.pure (f a)) s).result = .error e ↔ (x s).result = .error e := by
  rw [bind_pure_apply]
  cases (x s).result <;> simp [Except.map]

/-- An action whose value is put into another form returns the other form of a value that the action
returns. -/
theorem result_bind_pure_eq_ok_iff {f : α → β} {x : Action σ ν ε α} {s : σ} {b : β} :
    ((x >>= fun a => Pure.pure (f a)) s).result = .ok b ↔
      ∃ a, (x s).result = .ok a ∧ f a = b := by
  rw [bind_pure_apply]
  cases (x s).result <;> simp [Except.map]

/-- What follows an action and changes nothing leaves the state of that action. -/
theorem state_bind_of_still {f : α → Action σ ν ε β} (h : ∀ a s, (f a s).state = s)
    (x : Action σ ν ε α) (s : σ) : ((x >>= f) s).state = (x s).state := by
  rcases hx : x s with ⟨_ | a, s', _⟩ <;> simp [hx, h]

instance : LawfulMonad (Action σ ν ε) := LawfulMonad.mk' _
  (fun x => by
    funext s
    rcases h : x s with ⟨_ | _, _, _⟩ <;> simp [Functor.map, bind, pure, h])
  (fun a f => by
    funext s
    simp)
  (fun x f g => by
    funext s
    rcases hx : x s with ⟨_ | a, s', _⟩
    · simp [hx]
    · rcases hf : f a s' with ⟨_ | _, _, _⟩ <;> simp [hx, hf])

end Action

end DurableRefs
