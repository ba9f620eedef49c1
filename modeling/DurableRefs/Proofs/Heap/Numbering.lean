import DurableRefs.Proofs.Heap.Changes
import Mathlib.Algebra.Group.Nat.Defs
import Mathlib.Data.List.Induction
import Mathlib.Data.List.Nodup

/-!
# Numbers of objects and words of references

A heap numbers its objects by a counter of 32 bits and its references by one of 64 bits. As long
as the numbers last, no number is given out twice: whatever a heap holds was made in its history,
and the next number is not among what it holds.
-/

namespace DurableRefs.Heap

variable {heap later : Heap} {id : ObjectId} {raw : Int64} {row : Row} {step : Step}
  {given : Option (Handle × ObjectId)} {capacity : Option Nat} {steps : List Step}

/-! ### Places in the order of numbers -/

/-- The place of an object's number in the order in which numbers are given out. -/
def objectOrdinal (id : ObjectId) : Nat := (id - 1).toNat

/-- The place of a word in the order in which words are given out. -/
def rawOrdinal (raw : Int64) : Nat := (raw - 1).toBitVec.toNat

/-- The next number has the next place, and the last one is followed by the first. -/
theorem objectOrdinal_succ (id : ObjectId) :
    objectOrdinal (id + 1) = (objectOrdinal id + 1) % 2 ^ 32 := by
  rw [objectOrdinal, UInt32.add_sub_cancel, ← UInt32.sub_add_cancel id 1]
  simpa [objectOrdinal] using UInt32.toNat_add (id - 1) 1

/-- The next word has the next place, and the last one is followed by the first. -/
theorem rawOrdinal_succ (raw : Int64) : rawOrdinal (raw + 1) = (rawOrdinal raw + 1) % 2 ^ 64 := by
  have hraw : (raw + 1 - 1).toBitVec = (raw - 1).toBitVec + 1#64 := by
    rw [Int64.add_sub_cancel, ← Int64.toBitVec_one, ← Int64.toBitVec_add, Int64.sub_add_cancel]
  rw [rawOrdinal, hraw]
  exact BitVec.toNat_add _ _

/-- Zero is the last number. -/
theorem objectOrdinal_zero : objectOrdinal 0 = 2 ^ 32 - 1 := by decide

/-- Zero is the last word. -/
theorem rawOrdinal_zero : rawOrdinal 0 = 2 ^ 64 - 1 := by decide

/-! ### What a step does to the tables -/

/-- A step makes the object that its history will tell of, or collects, or leaves the objects. -/
theorem Change.objects_cases (hchange : Change heap step given later) :
    (∃ label, (⟨heap, step⟩ : Moment).allocated? = some (heap.nextObject, label) ∧
      later.objects = heap.objects.insert heap.nextObject label ∧
      later.nextObject = heap.nextObject + 1) ∨
    ((⟨heap, step⟩ : Moment).allocated? = none ∧ later.nextObject = heap.nextObject ∧
      (step = .collect ∧ later = heap.swept ∨
        step ≠ .collect ∧ later.objects = heap.objects)) := by
  cases hchange with
  | alloc _ => exact .inl ⟨_, rfl, rfl, rfl⟩
  | allocDetached _ => exact .inl ⟨_, rfl, rfl, rfl⟩
  | collect => exact .inr ⟨rfl, rfl, .inl ⟨rfl, rfl⟩⟩
  | attach => exact .inr ⟨rfl, rfl, .inr ⟨nofun, rfl⟩⟩
  | detach => exact .inr ⟨rfl, rfl, .inr ⟨nofun, rfl⟩⟩
  | idle hlabel => exact .inr ⟨by simp [Moment.allocated?, hlabel], rfl, .inr ⟨nofun, rfl⟩⟩
  | reframe hlabel _ _ =>
    exact .inr ⟨by simp [Moment.allocated?, hlabel], rfl, .inr ⟨nofun, rfl⟩⟩
  | insert hasked _ _ =>
    have hlabel := Operation.label?_eq_none_of_asked? hasked
    exact .inr ⟨by simp [Moment.allocated?, hlabel], rfl, .inr ⟨nofun, rfl⟩⟩
  | erase hdeleted _ =>
    have hlabel := Operation.label?_eq_none_of_deleted? hdeleted
    exact .inr ⟨by simp [Moment.allocated?, hlabel], rfl, .inr ⟨nofun, rfl⟩⟩

/-- A step makes a reference, deletes the one it is told to, or leaves the references. -/
theorem Change.references_cases (hchange : Change heap step given later) :
    (∃ strength id, heap.isLive id = true ∧ heap.isFull = false ∧
      given = (Handle.ofRaw? heap.nextRaw strength).map (fun h => (h, id)) ∧
      later = heap.withReference ⟨strength, id⟩) ∨
    (∃ raw row, step.deleted? = some raw ∧ heap.references.get? raw = some row ∧
      given = none ∧ later = heap.withoutReference raw) ∨
    (given = none ∧ later.references = heap.references ∧ later.slots = heap.slots ∧
      later.nextRaw = heap.nextRaw ∧ later.capacity = heap.capacity) := by
  cases hchange with
  | insert _ hlive hroom => exact .inl ⟨_, _, hlive, hroom, rfl, rfl⟩
  | erase hdeleted hrow => exact .inr (.inl ⟨_, _, hdeleted, hrow, rfl, rfl⟩)
  | idle _ | attach | detach | collect | alloc _ | allocDetached _ | reframe _ _ _ =>
    exact .inr (.inr ⟨rfl, rfl, rfl, rfl, rfl⟩)

/-- A row that the table has after a step was there before, or the step made it under the next
word. -/
theorem Change.row_cases (hchange : Change heap step given later)
    (hrow : later.references.get? raw = some row) :
    heap.references.get? raw = some row ∨
      raw = heap.nextRaw ∧ heap.isLive row.target = true ∧
        given = (Handle.ofRaw? heap.nextRaw row.strength).map fun h => (h, row.target) := by
  rcases hchange.references_cases with
    ⟨strength, id, hlive, _, hgiven, hlater⟩ | ⟨r, other, _, _, _, hlater⟩ | ⟨_, hlater, _⟩
  · rw [hlater, withReference_references, Table.get?_insert] at hrow
    split at hrow
    · next hraw =>
      cases hrow
      exact .inr ⟨hraw, hlive, hgiven⟩
    · exact .inl hrow
  · by_cases hr : raw = r
    · subst hr
      rw [hlater, withoutReference_references, Table.get?_erase_self] at hrow
      cases hrow
    · rw [hlater, withoutReference_references, Table.get?_erase_of_ne hr] at hrow
      exact .inl hrow
  · rw [hlater] at hrow
    exact .inl hrow

/-- A word that is not the next one keeps its row, or has none because the step deleted it. -/
theorem Change.get?_cases (hchange : Change heap step given later) (hne : raw ≠ heap.nextRaw) :
    later.references.get? raw = heap.references.get? raw ∨
      step.deleted? = some raw ∧ later.references.get? raw = none := by
  rcases hchange.references_cases with
    ⟨_, _, _, _, _, hlater⟩ | ⟨r, _, hdeleted, _, _, hlater⟩ | ⟨_, hlater, _⟩
  · rw [hlater, withReference_references, Table.get?_insert_of_ne hne]
    exact .inl rfl
  · by_cases hr : raw = r
    · subst hr
      rw [hlater, withoutReference_references, Table.get?_erase_self]
      exact .inr ⟨hdeleted, rfl⟩
    · rw [hlater, withoutReference_references, Table.get?_erase_of_ne hr]
      exact .inl rfl
  · rw [hlater]
    exact .inl rfl

/-! ### Objects -/

/-- Objects are numbered in the order in which they are made. -/
theorem map_objectOrdinal_allocated (capacity : Option Nat) (steps : List Step) :
    (allocated (history (fresh capacity) steps)).map (fun entry => objectOrdinal entry.1) =
        (List.range (allocated (history (fresh capacity) steps)).length).map (· % 2 ^ 32) ∧
      objectOrdinal (after (fresh capacity) steps).nextObject =
        (allocated (history (fresh capacity) steps)).length % 2 ^ 32 := by
  induction steps using List.reverseRecOn with
  | nil => simp [objectOrdinal]
  | append_singleton steps step ih =>
    obtain ⟨hplaces, hnext⟩ := ih
    rw [allocated_concat, after_concat]
    rcases (step.change (after (fresh capacity) steps)).objects_cases with
      ⟨label, hmade, _, hlater⟩ | ⟨hmade, hlater, _⟩
    · rw [hmade, hlater, objectOrdinal_succ, hnext]
      simp [List.range_succ, hplaces, hnext]
    · rw [hmade, hlater]
      simpa using ⟨hplaces, hnext⟩

/-- What a heap holds was made in its history, with the label that it has. -/
theorem mem_allocated_of_get? {label : String}
    (h : (after (fresh capacity) steps).objects.get? id = some label) :
    (id, label) ∈ allocated (history (fresh capacity) steps) := by
  induction steps using List.reverseRecOn generalizing label with
  | nil =>
    rw [after_nil, objects_fresh] at h
    cases h
  | append_singleton steps step ih =>
    rw [after_concat] at h
    rcases (step.change (after (fresh capacity) steps)).objects_cases with
      ⟨text, hmade, hlater, _⟩ | ⟨_, _, ⟨_, hlater⟩ | ⟨_, hlater⟩⟩
    · rw [hlater, Table.get?_insert] at h
      split at h
      · next hid =>
        cases h
        rw [allocated_concat, hmade, hid]
        simp
      · exact mem_allocated_append (ih h) [step]
    · rw [hlater, swept, Table.get?_filter, Option.filter_eq_some_iff] at h
      exact mem_allocated_append (ih h.1) [step]
    · rw [hlater] at h
      exact mem_allocated_append (ih h) [step]

/-- What was made has a place among the numbers given out. -/
theorem objectOrdinal_lt_of_mem_allocated {label : String}
    (h : (id, label) ∈ allocated (history (fresh capacity) steps)) :
    objectOrdinal id < (allocated (history (fresh capacity) steps)).length := by
  have hmem := List.mem_map_of_mem (f := fun entry => objectOrdinal entry.1) h
  rw [(map_objectOrdinal_allocated capacity steps).1] at hmem
  obtain ⟨k, hk, hplace⟩ := List.mem_map.mp hmem
  have hk := List.mem_range.mp hk
  dsimp only at hplace
  omega

/-- As long as the numbers last, the next one belongs to no object that was ever made. -/
theorem ne_nextObject_of_mem_allocated {label : String}
    (hnumbers : (allocated (history (fresh capacity) steps)).length < 2 ^ 32)
    (h : (id, label) ∈ allocated (history (fresh capacity) steps)) :
    id ≠ (after (fresh capacity) steps).nextObject := by
  intro hid
  have hlt := objectOrdinal_lt_of_mem_allocated h
  have hnext := (map_objectOrdinal_allocated capacity steps).2
  rw [hid] at hlt
  omega

/-- As long as the numbers last, no object has the number zero. -/
theorem isLive_zero_eq_false
    (hnumbers : (allocated (history (fresh capacity) steps)).length < 2 ^ 32) :
    (after (fresh capacity) steps).isLive 0 = false := by
  rw [Bool.eq_false_iff]
  intro hlive
  obtain ⟨label, hlabel⟩ := isLive_iff.mp hlive
  have hlt := objectOrdinal_lt_of_mem_allocated (mem_allocated_of_get? hlabel)
  rw [objectOrdinal_zero] at hlt
  omega

/-- As long as the numbers last, an object has one label in a history. -/
theorem label_unique {a b : String}
    (hnumbers : (allocated (history (fresh capacity) steps)).length ≤ 2 ^ 32)
    (ha : (id, a) ∈ allocated (history (fresh capacity) steps))
    (hb : (id, b) ∈ allocated (history (fresh capacity) steps)) : a = b := by
  have hplaces := (map_objectOrdinal_allocated capacity steps).1
  have hnodup : ((List.range (allocated (history (fresh capacity) steps)).length).map
      (· % 2 ^ 32)).Nodup := by
    refine List.Nodup.map_on ?_ List.nodup_range
    intro i hi j hj hij
    rw [List.mem_range] at hi hj
    omega
  rw [← hplaces] at hnodup
  have hentry := List.inj_on_of_nodup_map hnodup ha hb rfl
  exact congrArg Prod.snd hentry

/-! ### References -/

/-- References take the words in order, as long as the words last. -/
theorem map_rawOrdinal_made
    (hwords : (made (history (fresh capacity) steps)).length < 2 ^ 64 - 1) :
    (made (history (fresh capacity) steps)).map (fun entry => rawOrdinal entry.1.raw) =
        List.range (made (history (fresh capacity) steps)).length ∧
      rawOrdinal (after (fresh capacity) steps).nextRaw =
        (made (history (fresh capacity) steps)).length := by
  induction steps using List.reverseRecOn with
  | nil =>
    rw [after_nil, nextRaw_fresh, history_nil, made_nil]
    exact ⟨rfl, by decide⟩
  | append_singleton steps step ih =>
    have hbefore := length_made_le_append (fresh capacity) steps [step]
    obtain ⟨hplaces, hnext⟩ := ih (by omega)
    rw [made_concat, List.length_append] at hwords
    rw [made_concat, after_concat]
    rcases (step.change (after (fresh capacity) steps)).references_cases with
      ⟨strength, id, _, _, hgiven, hlater⟩ | ⟨raw, row, _, _, hgiven, hlater⟩ |
      ⟨hgiven, _, _, hlater, _⟩
    · have hzero : (after (fresh capacity) steps).nextRaw ≠ 0 := by
        intro hzero
        rw [hzero, rawOrdinal_zero] at hnext
        omega
      rw [Handle.ofRaw?_of_ne_zero hzero, Option.map_some] at hgiven
      rw [hgiven, Option.toList_some, List.length_singleton] at hwords
      rw [hgiven, hlater, withReference_nextRaw, rawOrdinal_succ, hnext, Option.toList_some,
        List.length_append, List.length_singleton, List.map_append, hplaces, List.range_succ,
        List.map_singleton, hnext]
      exact ⟨rfl, by omega⟩
    · rw [hgiven, hlater]
      simpa using ⟨hplaces, hnext⟩
    · rw [hgiven, hlater]
      simpa using ⟨hplaces, hnext⟩

/-- As long as the words last, the next one is not zero. -/
theorem nextRaw_ne_zero
    (hwords : (made (history (fresh capacity) steps)).length < 2 ^ 64 - 1) :
    (after (fresh capacity) steps).nextRaw ≠ 0 := by
  intro hzero
  have hnext := (map_rawOrdinal_made hwords).2
  rw [hzero, rawOrdinal_zero] at hnext
  omega

/-- As long as the words last, the next one belongs to no handle that was ever given out. -/
theorem ne_nextRaw_of_mem_made {h : Handle}
    (hwords : (made (history (fresh capacity) steps)).length < 2 ^ 64 - 1)
    (hmade : (h, id) ∈ made (history (fresh capacity) steps)) :
    h.raw ≠ (after (fresh capacity) steps).nextRaw := by
  intro hraw
  obtain ⟨hplaces, hnext⟩ := map_rawOrdinal_made hwords
  have hmem := List.mem_map_of_mem (f := fun entry => rawOrdinal entry.1.raw) hmade
  rw [hplaces, List.mem_range] at hmem
  dsimp only at hmem
  rw [hraw, hnext] at hmem
  omega

/-- As long as the words last, the row of a word was made in the history. -/
theorem mem_made_of_get?
    (hwords : (made (history (fresh capacity) steps)).length < 2 ^ 64 - 1)
    (hrow : (after (fresh capacity) steps).references.get? raw = some row) :
    ∃ h : Handle, h.raw = raw ∧ h.strength = row.strength ∧
      (h, row.target) ∈ made (history (fresh capacity) steps) := by
  induction steps using List.reverseRecOn with
  | nil =>
    rw [after_nil, references_fresh] at hrow
    cases hrow
  | append_singleton steps step ih =>
    have hbefore := Nat.lt_of_le_of_lt (length_made_le_append _ steps [step]) hwords
    rw [after_concat] at hrow
    rcases (step.change (after (fresh capacity) steps)).row_cases hrow with
      hold | ⟨hraw, -, hgiven⟩
    · obtain ⟨h, hraw, hs, hmade⟩ := ih hbefore hold
      exact ⟨h, hraw, hs, mem_made_append hmade [step]⟩
    · have hzero := nextRaw_ne_zero hbefore
      rw [Handle.ofRaw?_of_ne_zero hzero, Option.map_some] at hgiven
      refine ⟨⟨row.strength, _, hzero⟩, hraw.symm, rfl, ?_⟩
      rw [made_concat, hgiven]
      simp

/-- As long as the words last, the next one has no row. -/
theorem get?_nextRaw_eq_none
    (hwords : (made (history (fresh capacity) steps)).length < 2 ^ 64 - 1) :
    (after (fresh capacity) steps).references.get? (after (fresh capacity) steps).nextRaw =
      none := by
  cases hrow : (after (fresh capacity) steps).references.get?
      (after (fresh capacity) steps).nextRaw with
  | none => rfl
  | some row =>
    obtain ⟨h, hraw, -, hmade⟩ := mem_made_of_get? hwords hrow
    exact absurd hraw (ne_nextRaw_of_mem_made hwords hmade)

end DurableRefs.Heap
