import DurableRefs.Proofs.Host.Recording

/-!
# Replaying a heap on a function table

A function table answers from a script. If the script begins with the recorded answers of a heap,
an action of the library on the table ends as it did on the heap and takes just those answers. This
is another way for two hosts to agree.
-/

namespace DurableRefs

variable {α β γ δ : Type} {R : α → β → Prop} {pending : FunctionTable.Entry → List Int64}

/-! ### Scripts -/

namespace FunctionTable

variable {table : FunctionTable} {entry : Entry} {argument : Argument} {w : Int64}

/-- The words that a function answers in a transcript, in order. -/
def answers (entry : Entry) (items : List Item) : List Int64 :=
  items.filterMap fun
    | .call e _ (some w) => if e = entry then some w else none
    | _ => none

/-- The answers of a transcript are those of its parts. -/
theorem answers_append (entry : Entry) (first rest : List Item) :
    answers entry (first ++ rest) = answers entry first ++ answers entry rest :=
  List.filterMap_append

/-- Whether an item of a transcript is anything but an event of a host or about something else. -/
def Item.isOwn : Item → Bool
  | .event e => e.isOwn
  | _ => true

/-- Leaving the items of a host out of a transcript leaves their events out of its events. -/
theorem events_filter_isOwn (items : List Item) :
    events (items.filter Item.isOwn) = (events items).filter Log.Event.isOwn := by
  induction items with
  | nil => rfl
  | cons item rest ih =>
    cases item with
    | event e => by_cases he : e.isOwn = true <;> simp_all [events, Item.isOwn]
    | _ =>
      rw [List.filter_cons_of_pos rfl]
      exact ih

/-- A table has all functions, and its script has just the given words for each of them. -/
structure Scripted (table : FunctionTable) (pending : Entry → List Int64) : Prop where
  /-- No function is missing. -/
  missing : table.missing = []
  /-- The words are those that are given. -/
  script : ∀ entry, (table.script.get? entry).getD [] = pending entry

/-- A function answers the word that is first in its script, which is then taken. -/
theorem ask_of_scripted
    (hscript : table.Scripted fun e => answers e [.call entry argument (some w)] ++ pending e) :
    ∃ later, later.Scripted pending ∧
      ask entry argument table = ⟨.ok w, later, [.call entry argument (some w)]⟩ := by
  have hrow : table.script.get? entry = some (w :: pending entry) := by
    have hwords := hscript.script entry
    cases hrow : table.script.get? entry with
    | none => simp [hrow, answers] at hwords
    | some ws => simpa [hrow, answers] using hwords
  refine ⟨{ table with script := table.script.insert entry (pending entry) },
    ⟨hscript.missing, ?_⟩, ?_⟩
  · intro e
    rw [Table.get?_insert]
    split
    · next he => rw [he, Option.getD_some]
    · next he =>
      have hwords := hscript.script e
      simpa [answers, Ne.symm he] using hwords
  · simp [ask, require, hscript.missing, takeScripted, hrow]

/-- A function that does not answer only notes the call. -/
theorem tell_of_missing (hmissing : table.missing = []) (entry : Entry) (argument : Argument) :
    tell entry argument table = ⟨.ok (), table, [.call entry argument none]⟩ := by
  simp [tell, require, hmissing]

/-- A failure of the library reaches the host in its own words, and ends it. -/
theorem fatal_of_missing (hmissing : table.missing = []) (failure : HostFailure) :
    (host.fatal failure.message : Task α) table =
      ⟨.error .ended, table, [.call .fatalError (.text failure.message) none]⟩ := by
  have htext : hostText failure.message = failure.message := by cases failure <;> decide
  simp [host, tell_of_missing hmissing, htext]

end FunctionTable

open FunctionTable (Item Entry Argument Stop answers)
open Heap (recorder recording toWord)

/-! ### Replays -/

/-- How an action on a table ends, by how a recorded action ended: it returns a related value, or
ends the host for the same reason, and notes the same calls and the same events of the library.
Nothing is said about an action that was misused. -/
inductive Replayed (R : α → β → Prop) (pending : Entry → List Int64) :
    Run Heap Item Heap.Fault α → Run FunctionTable Item Stop β → Prop
  /-- The two actions return. -/
  | returned {a : α} {b : β} {heap : Heap} {table : FunctionTable} {notes : List Item}
      (hab : R a b) (hzero : heap.isLive 0 = false) (hscript : table.Scripted pending) :
      Replayed R pending ⟨.ok a, heap, notes⟩ ⟨.ok b, table, notes.filter Item.isOwn⟩
  /-- The two actions end the host. -/
  | ended {reason : String} {heap : Heap} {table : FunctionTable} {notes : List Item}
      (hscript : table.Scripted pending) :
      Replayed R pending ⟨.error (.fatal reason), heap, notes⟩
        ⟨.error .ended, table,
          notes.filter Item.isOwn ++ [.call .fatalError (.text reason) none]⟩
  /-- The recorded action was misused. -/
  | misused {m : Heap.Misuse} {heap : Heap} {notes : List Item}
      {run : Run FunctionTable Item Stop β} :
      Replayed R pending ⟨.error (.misuse m), heap, notes⟩ run

/-- One action replays another on every table that has the recorded answers first in its script.
No object has the number zero, which would be taken for null. -/
def Replays (R : α → β → Prop) (p : Action Heap Item Heap.Fault α) (q : FunctionTable.Task β) :
    Prop :=
  ∀ heap table pending, heap.isLive 0 = false →
    table.Scripted (fun e => answers e (p heap).notes ++ pending e) →
      Replayed R pending (p heap) (q table)

/-- Returning is replayed. -/
theorem Replays.pure {a : α} {b : β} (hab : R a b) : Replays R (Pure.pure a) (Pure.pure b) :=
  fun _ _ _ hzero hscript => .returned hab hzero hscript

/-- Going on is replayed if both parts are. -/
theorem Replays.bind {S : γ → δ → Prop} {p : Action Heap Item Heap.Fault α}
    {q : FunctionTable.Task β} {f : α → Action Heap Item Heap.Fault γ}
    {g : β → FunctionTable.Task δ} (hpq : Replays R p q)
    (hfg : ∀ a b, R a b → Replays S (f a) (g b)) : Replays S (p >>= f) (q >>= g) := by
  intro heap table pending hzero hscript
  rcases hp : p heap with ⟨fault | a, middle, notes⟩
  · rw [Action.bind_of_error hp] at hscript ⊢
    have hfirst := hpq heap table pending hzero (by rwa [hp])
    rw [hp] at hfirst
    generalize hq : q table = second at hfirst
    cases hfirst with
    | ended hleft =>
      rw [Action.bind_of_error hq]
      exact .ended hleft
    | misused => exact .misused
  · rw [Action.bind_of_ok hp] at hscript ⊢
    -- the first part leaves the answers of the second one in the script
    simp only [FunctionTable.answers_append, List.append_assoc] at hscript
    have hfirst := hpq heap table _ hzero (by rwa [hp])
    rw [hp] at hfirst
    generalize hq : q table = second at hfirst
    cases hfirst with
    | @returned _ b _ later _ hab hzero hleft =>
      rw [Action.bind_of_ok hq]
      have hrest := hfg a b hab middle later pending hzero hleft
      generalize f a middle = first at hrest
      generalize g b later = second at hrest
      cases hrest with
      | returned hcd hzero hleft =>
        rw [← List.filter_append]
        exact .returned hcd hzero hleft
      | ended hleft =>
        rw [← List.append_assoc, ← List.filter_append]
        exact .ended hleft
      | misused => exact .misused

/-! ### Questions to a heap -/

/-- An action answers plainly if it is misused, or returns a value of some kind and reports
nothing. No object zero appears. -/
def Heap.Plain (P : α → Prop) (p : Heap.Task α) : Prop :=
  ∀ heap, heap.isLive 0 = false →
    (∃ m later notes, p heap = ⟨.error (.misuse m), later, notes⟩) ∨
      ∃ a later, p heap = ⟨.ok a, later, []⟩ ∧ later.isLive 0 = false ∧ P a

namespace Heap

variable {heap : Heap} {P : α → Prop} {p : Task α}

/-- A reference is made plainly. -/
theorem plain_makeReference (env : EnvId) (strength : Strength) (x : Local) :
    Plain (fun _ => True) (makeReference env strength x) := by
  intro heap hzero
  cases x with
  | none => exact .inl ⟨_, _, _, makeReference_null⟩
  | some id =>
    cases hlive : heap.isLive id with
    | false => exact .inl ⟨_, _, _, makeReference_of_freed hlive⟩
    | true =>
      cases hfull : heap.isFull with
      | true => exact .inr ⟨_, _, makeReference_of_full hlive hfull, hzero, trivial⟩
      | false => exact .inr ⟨_, _, makeReference_of_room hlive hfull, hzero, trivial⟩

/-- A reference is deleted plainly. -/
theorem plain_removeReference (raw : Int64) (strength : Strength) :
    Plain (fun _ => True) (removeReference raw strength) := by
  intro heap hzero
  cases hrow : heap.references.get? raw with
  | none => exact .inl ⟨_, _, _, removeReference_of_dead hrow strength⟩
  | some row =>
    have hremove := removeReference_of_row hrow strength
    by_cases hs : row.strength = strength
    · rw [if_pos hs] at hremove
      exact .inr ⟨_, _, hremove, hzero, trivial⟩
    · rw [if_neg hs] at hremove
      exact .inl ⟨_, _, _, hremove⟩

/-- A reference is looked up plainly, and its object is not zero. -/
theorem plain_newLocal (env : EnvId) (raw : Int64) :
    Plain (fun x => x ≠ some 0) (newLocal env raw) := by
  intro heap hzero
  cases hrow : heap.references.get? raw with
  | none => exact .inl ⟨_, _, _, newLocal_of_dead hrow⟩
  | some row =>
    cases hlive : heap.isLive row.target with
    | false => exact .inr ⟨_, _, newLocal_of_freed hrow hlive, hzero, nofun⟩
    | true =>
      cases hf : heap.attached.get? env with
      | none => exact .inl ⟨_, _, _, newLocal_of_notAttached hrow hlive hf⟩
      | some f =>
        refine .inr ⟨_, _, newLocal_of_live hrow hlive hf, hzero, ?_⟩
        intro htarget
        rw [Option.some.inj htarget, hzero] at hlive
        cases hlive

/-- A word is classified plainly. -/
theorem plain_classify (env : EnvId) (raw : Int64) :
    Plain (fun _ => True) ((host env).classify raw) :=
  fun heap hzero => .inr ⟨_, _, classify_eq env raw heap, hzero, trivial⟩

end Heap

/-! ### Questions to a table -/

/-- A plain answer is replayed by the function that has its word in the script. -/
theorem replays_ask {P : α → Prop} {p : Heap.Task α} {R : α → Int64 → Prop} (hp : Heap.Plain P p)
    (entry : Entry) (argument : Argument) (word : α → Int64) (hword : ∀ a, P a → R a (word a)) :
    Replays R (recording (fun a => [.call entry argument (some (word a))]) p)
      (FunctionTable.ask entry argument) := by
  intro heap table pending hzero hscript
  rcases hp heap hzero with ⟨m, later, notes, hrun⟩ | ⟨a, later, hrun, hlater, ha⟩
  · simp only [recording, hrun]
    exact .misused
  · simp only [recording, hrun, List.map_nil, List.nil_append] at hscript ⊢
    obtain ⟨left, hleft, hask⟩ := FunctionTable.ask_of_scripted hscript
    rw [hask]
    exact .returned (hword a ha) hlater hleft

/-- A plain action is replayed by a function that does not answer. -/
theorem replays_tell {P : Unit → Prop} {p : Heap.Task Unit} (hp : Heap.Plain P p) (entry : Entry)
    (argument : Argument) :
    Replays Eq (recording (fun _ => [.call entry argument none]) p)
      (FunctionTable.tell entry argument) := by
  intro heap table pending hzero hscript
  rw [FunctionTable.tell_of_missing hscript.missing]
  rcases hp heap hzero with ⟨m, later, notes, hrun⟩ | ⟨a, later, hrun, hlater, _⟩
  · simp only [recording, hrun]
    exact .misused
  · simp only [recording, hrun, List.map_nil, List.nil_append] at hscript ⊢
    exact .returned rfl hlater hscript

/-- A word stands for a local if it is the word for it. An object zero would have the word of
null. -/
def SameObject (x : Heap.Local) (w : Int64) : Prop := x ≠ some 0 ∧ w = toWord x

/-- A function table agrees with the recorder of a heap. -/
theorem agree_functionTable (env : Heap.EnvId) :
    Host.Agree SameObject Replays (recorder env) FunctionTable.host where
  pure := Replays.pure
  bind := Replays.bind
  null := ⟨nofun, rfl⟩
  isNull {x y} hxy := by
    obtain ⟨hx, rfl⟩ := hxy
    rw [← Bool.coe_iff_coe]
    exact Option.isNone_iff_eq_none.trans ((Heap.toWord_eq_zero_iff hx).symm.trans
      decide_eq_true_iff.symm)
  newStrong {x y} hxy := by
    obtain ⟨-, rfl⟩ := hxy
    exact replays_ask (Heap.plain_makeReference env .strong x) _ _ id fun _ _ => rfl
  newWeak {x y} hxy := by
    obtain ⟨-, rfl⟩ := hxy
    exact replays_ask (Heap.plain_makeReference env .weak x) _ _ id fun _ _ => rfl
  deleteStrong {raw} hraw := by
    have hdelete : (Heap.host env).deleteStrong raw = Heap.removeReference raw .strong :=
      if_neg hraw
    simp only [recorder, hdelete]
    exact replays_tell (Heap.plain_removeReference raw .strong) _ _
  deleteWeak {raw} hraw := by
    have hdelete : (Heap.host env).deleteWeak raw = Heap.removeReference raw .weak := if_neg hraw
    simp only [recorder, hdelete]
    exact replays_tell (Heap.plain_removeReference raw .weak) _ _
  newLocal raw := replays_ask (Heap.plain_newLocal env raw) _ _ toWord fun _ hx => ⟨hx, rfl⟩
  classify {raw} hraw := by
    have hclassify : FunctionTable.host.classify raw =
        FunctionTable.ask .getObjectRefType (.word raw) >>= fun w =>
          pure (FunctionTable.strengthOfType w) := if_neg hraw
    have hask : Replays (fun known w => w = FunctionTable.typeOfStrength known)
        ((recorder env).classify raw) (FunctionTable.ask .getObjectRefType (.word raw)) :=
      replays_ask (Heap.plain_classify env raw) _ _ FunctionTable.typeOfStrength fun _ _ => rfl
    rw [hclassify, ← bind_pure ((recorder env).classify raw)]
    refine hask.bind ?_
    rintro known _ rfl
    exact Replays.pure (FunctionTable.strengthOfType_typeOfStrength known).symm
  fatal failure := by
    intro heap table pending hzero hscript
    rw [FunctionTable.fatal_of_missing hscript.missing]
    exact .ended hscript
  emit {e} he := by
    intro heap table pending hzero hscript
    have hkept : [Item.event e] = [Item.event e].filter Item.isOwn := by simp [Item.isOwn, he]
    have hemit : FunctionTable.host.emit e table = ⟨.ok (), table, [.event e]⟩ := rfl
    rw [hemit, hkept]
    exact .returned rfl hzero hscript

end DurableRefs
