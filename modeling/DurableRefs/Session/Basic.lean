import DurableRefs.Heap.Operation

/-!
# Sessions

A session works on one or more heaps and calls everything by name: environments, locals,
handles, words, and the guards of open frames. The five kinds of names do not meet.
-/

namespace DurableRefs

/-- An environment and the place of the heap that it is attached to. -/
structure Session.Attachment where
  /-- The place of the heap. -/
  place : Nat
  /-- The environment's number on that heap. -/
  env : Heap.EnvId
  deriving DecidableEq, Repr

/-- The heaps and the names of a session. -/
structure Session where
  /-- The heaps in their places. -/
  heaps : List Heap
  /-- The attached environments. -/
  envs : Table String Session.Attachment := {}
  /-- The locals. -/
  locals : Table String Heap.Local := {}
  /-- The handles. -/
  handles : Table String Handle := {}
  /-- The words. -/
  words : Table String Int64 := {}
  /-- The guards of open frames, each with the environment whose frame it closes. -/
  guards : Table String Session.Attachment := {}
  deriving DecidableEq, Repr

namespace Session

/-- Why a step of a session fails. -/
inductive Failure where
  /-- A heap stopped. -/
  | fault (f : Heap.Fault)
  /-- A name stands for nothing. -/
  | unknownName (name : String)
  /-- A part of a step is not usable. -/
  | unusable (part : String)
  deriving DecidableEq, Repr

/-- The wording of a failure. -/
def Failure.message : Failure → String
  | fault f => f.message
  | unknownName name => name
  | unusable part => part

/-- What a step of a session answers. -/
inductive Answer where
  /-- The answer of a heap. -/
  | ofHeap (a : Heap.Answer)
  /-- A number. -/
  | number (n : Int)
  /-- A handle to be looked at. -/
  | handle (h : Handle)
  /-- The number of locals of an environment and the number of its frames. -/
  | frames (locals depth : Nat)
  deriving DecidableEq, Repr

/-- What can be seen of a heap from outside. -/
structure HeapView where
  /-- The number of objects that have not been freed. -/
  objects : Nat
  /-- The number of strong references. -/
  strong : Nat
  /-- The number of weak references. -/
  weak : Nat
  /-- The number of attached environments. -/
  attached : Nat
  /-- How often the heap has been collected. -/
  collections : Nat
  deriving DecidableEq, Repr

/-- What can be seen of a heap from outside. -/
def HeapView.of (heap : Heap) : HeapView where
  objects := heap.objects.size
  strong := heap.countReferences .strong
  weak := heap.countReferences .weak
  attached := heap.attached.size
  collections := heap.collections.toNat

/-- What a session tells about a step that is over. -/
structure Entry where
  /-- The answer, or why the step failed. -/
  outcome : Except Failure Answer
  /-- The heaps after the step. -/
  heaps : List HeapView
  /-- The numbers of locals and of frames in the environment of the step, if it is attached. -/
  env : Option (Nat × Nat)

/-- What happens in a session, as far as it is told. -/
inductive Note where
  /-- An event of the library. -/
  | event (e : Log.Event)
  /-- A step is over. -/
  | entry (e : Entry)

/-- Actions of a session. -/
abbrev Task := Action Session Note Failure

/-- A word that is given by itself or by name, or is missing. -/
inductive WordName where
  /-- The word itself. -/
  | value (raw : Int64)
  /-- The name of a word. -/
  | named (name : String)
  /-- No word. -/
  | missing
  deriving DecidableEq, Repr

/-! ### Names -/

/-- The thing that a name stands for. -/
def find {α : Type} (names : Session → Table String α) (name : String) : Task α := do
  match (names (← Action.state)).get? name with
  | some a => return a
  | none => Action.stop (.unknownName name)

/-- The local of a name; without a name, the null local. -/
def findLocal : Option String → Task Heap.Local
  | none => return none
  | some name => find locals name

/-- The word that is given. -/
def findWord : WordName → Task Int64
  | .value raw => return raw
  | .named name => find words name
  | .missing => Action.stop (.unusable "raw")

/-- Give up the name of a handle. -/
def forgetHandle (name : String) : Task Unit :=
  Action.change fun s => { s with handles := s.handles.erase name }

/-- Give up the name of a guard. -/
def forgetGuard (name : String) : Task Unit :=
  Action.change fun s => { s with guards := s.guards.erase name }

/-- Give an answer a name. Where the answer is that there is no handle or no object, the name
stands for nothing from now on; other answers are not named. -/
def bindAnswer (name : Option String) (answer : Heap.Answer) : Task Unit :=
  match name, answer with
  | some name, .object x =>
    Action.change fun s => { s with locals := s.locals.insert name x }
  | some name, .referent (some x) =>
    Action.change fun s => { s with locals := s.locals.insert name x }
  | some name, .referent none =>
    Action.change fun s => { s with locals := s.locals.erase name }
  | some name, .handle (some h) =>
    Action.change fun s => { s with handles := s.handles.insert name h }
  | some name, .handle none => forgetHandle name
  | some name, .word raw =>
    Action.change fun s => { s with words := s.words.insert name raw }
  | _, _ => return

/-! ### Heaps -/

/-- Do something on the heap in a place. -/
def onHeap {α : Type} (place : Nat) (task : Heap.Task α) : Task α := fun s =>
  match s.heaps[place]? with
  | none => ⟨.error (.unknownName "heap"), s, []⟩
  | some heap =>
    let r := task heap
    ⟨r.result.mapError .fault, { s with heaps := s.heaps.set place r.state },
      r.notes.map .event⟩

/-- A place from which a heap can be had. -/
def findPlace (index : Int) : Task Nat := do
  let s ← Action.state
  if 0 ≤ index ∧ index.toNat < s.heaps.length then return index.toNat
  else Action.stop (.unknownName "heap")

/-- Detach an environment and forget the guards of its frames. -/
def detach (a : Attachment) : Task Unit := do
  onHeap a.place (Heap.detach a.env)
  Action.change fun s => { s with guards := s.guards.filter fun _ owner => owner ≠ a }

/-- The numbers of locals and of frames in the environment of a name. -/
def framesOf? (s : Session) (env : String) : Option (Nat × Nat) := do
  let a ← s.envs.get? env
  let heap ← s.heaps[a.place]?
  let f ← heap.attached.get? a.env
  return (f.count, f.depth)

/-- Tell that a step in an environment is over. -/
def report (env : String) (outcome : Except Failure Answer) : Task Unit := do
  let s ← Action.state
  Action.note (.entry
    { outcome := outcome
      heaps := s.heaps.map HeapView.of
      env := s.framesOf? env })

end Session

end DurableRefs
