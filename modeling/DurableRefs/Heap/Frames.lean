/-!
# The local frames of an attachment

Locals are kept in frames. The base frame is there from the beginning and is never closed, so
there is always an innermost frame to put a local into.
-/

namespace DurableRefs.Heap

/-- The number by which a heap knows an object. -/
abbrev ObjectId := UInt32

/-- The open frames of an attachment. Each frame lists the objects of its locals, the newest
first. -/
structure Frames where
  /-- The frame that new locals go to. -/
  innermost : List ObjectId
  /-- The frames around it, from the inside out. The last one is the base frame, unless the
  innermost frame is. -/
  enclosing : List (List ObjectId)
  deriving DecidableEq, Repr

namespace Frames

/-- The frames of a new attachment. -/
def base : Frames := ⟨[], []⟩

/-- All frames from the inside out. -/
def toList (f : Frames) : List (List ObjectId) := f.innermost :: f.enclosing

/-- The objects of all locals, the newest first. -/
def locals (f : Frames) : List ObjectId := f.toList.flatten

/-- The number of open frames. -/
def depth (f : Frames) : Nat := f.toList.length

/-- The number of locals in all frames. -/
def count (f : Frames) : Nat := f.locals.length

/-- Put a local into the innermost frame. -/
def add (f : Frames) (id : ObjectId) : Frames := { f with innermost := id :: f.innermost }

/-- Open a frame. -/
def push (f : Frames) : Frames := ⟨[], f.toList⟩

/-- Close the innermost frame, unless it is the base frame. -/
def pop? (f : Frames) : Option Frames :=
  match f.enclosing with
  | [] => none
  | g :: gs => some ⟨g, gs⟩

/-- Frames from the inside out without the newest local of an object. -/
def removeNewest? (id : ObjectId) : List (List ObjectId) → Option (List (List ObjectId))
  | [] => none
  | frame :: rest =>
    if id ∈ frame then some (frame.erase id :: rest)
    else (removeNewest? id rest).map (frame :: ·)

/-- Delete the newest local of an object. -/
def remove? (f : Frames) (id : ObjectId) : Option Frames :=
  if id ∈ f.innermost then some { f with innermost := f.innermost.erase id }
  else (removeNewest? id f.enclosing).map fun rest => { f with enclosing := rest }

@[simp] theorem toList_base : base.toList = [[]] := rfl

@[simp] theorem locals_base : base.locals = [] := rfl

@[simp] theorem toList_push (f : Frames) : f.push.toList = [] :: f.toList := rfl

@[simp] theorem locals_push (f : Frames) : f.push.locals = f.locals := rfl

@[simp] theorem locals_add (f : Frames) (id : ObjectId) : (f.add id).locals = id :: f.locals :=
  rfl

@[simp] theorem pop?_push (f : Frames) : f.push.pop? = some f := rfl

/-- There is always an open frame. -/
theorem depth_pos (f : Frames) : 0 < f.depth := Nat.succ_pos _

/-- A frame closes exactly when there is one around it. -/
theorem pop?_eq_none_iff {f : Frames} : f.pop? = none ↔ f.depth = 1 := by
  rcases f with ⟨inner, _ | ⟨g, gs⟩⟩ <;> simp [pop?, depth, toList]

/-- Closing a frame removes it from the list of frames. -/
theorem toList_of_pop?_eq_some {f g : Frames} (h : f.pop? = some g) :
    f.toList = f.innermost :: g.toList := by
  rcases f with ⟨inner, _ | ⟨first, rest⟩⟩
  · simp [pop?] at h
  · simp only [pop?, Option.some.injEq] at h
    simp [toList, ← h]

/-- Removing the newest local of an object removes its first occurrence. -/
theorem flatten_of_removeNewest?_eq_some {id : ObjectId} {fs gs : List (List ObjectId)}
    (h : removeNewest? id fs = some gs) : gs.flatten = fs.flatten.erase id := by
  induction fs generalizing gs with
  | nil => simp [removeNewest?] at h
  | cons frame rest ih =>
    by_cases hid : id ∈ frame
    · simp only [removeNewest?, hid, if_true, Option.some.injEq] at h
      simp [← h, List.erase_append, hid]
    · simp only [removeNewest?, hid, if_false, Option.map_eq_some_iff] at h
      obtain ⟨rest', hrest, rfl⟩ := h
      simp [List.erase_append, hid, ih hrest]

/-- The newest local of an object can be removed when there is one. -/
theorem removeNewest?_eq_none_iff {id : ObjectId} {fs : List (List ObjectId)} :
    removeNewest? id fs = none ↔ id ∉ fs.flatten := by
  induction fs with
  | nil => simp [removeNewest?]
  | cons frame rest ih =>
    by_cases hid : id ∈ frame <;> simp [removeNewest?, hid, ih]

/-- Deleting a local is removing one from the list of all frames. -/
theorem map_toList_remove? (f : Frames) (id : ObjectId) :
    (f.remove? id).map toList = removeNewest? id f.toList := by
  by_cases hid : id ∈ f.innermost
  · simp [remove?, removeNewest?, toList, hid]
  · cases h : removeNewest? id f.enclosing <;> simp [remove?, removeNewest?, toList, hid, h]

/-- A local can be deleted when the object has one. -/
theorem remove?_eq_none_iff {f : Frames} {id : ObjectId} :
    f.remove? id = none ↔ id ∉ f.locals := by
  rw [locals, ← removeNewest?_eq_none_iff, ← map_toList_remove?, Option.map_eq_none_iff]

/-- Deleting a local takes the newest local of the object away. -/
theorem locals_of_remove?_eq_some {f g : Frames} {id : ObjectId} (h : f.remove? id = some g) :
    g.locals = f.locals.erase id := by
  apply flatten_of_removeNewest?_eq_some
  rw [← map_toList_remove?, h, Option.map_some]

end Frames

end DurableRefs.Heap
