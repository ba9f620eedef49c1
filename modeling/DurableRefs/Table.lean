/-!
# Tables

A table assigns values to finitely many keys, each key at most once. A key keeps its place when
its value changes, so changes to different keys can be made in either order. The main facts say
what a look-up finds after each change, and how the changes move the number of keys.
-/

namespace DurableRefs

/-- A finite map from keys to values. -/
structure Table (κ ν : Type) where
  /-- The rows of the table. -/
  rows : List (κ × ν)
  /-- No key has two rows. -/
  nodup : (rows.map Prod.fst).Nodup
  deriving Repr, DecidableEq

namespace Table

variable {κ ν : Type}

/-- The table without rows. -/
def empty : Table κ ν := ⟨[], List.nodup_nil⟩

instance : Inhabited (Table κ ν) := ⟨empty⟩

instance : EmptyCollection (Table κ ν) := ⟨empty⟩

/-- The keys of the table. -/
def keys (t : Table κ ν) : List κ := t.rows.map Prod.fst

/-- The number of rows. -/
def size (t : Table κ ν) : Nat := t.rows.length

/-- The number of rows that pass a test. -/
def count (t : Table κ ν) (p : κ → ν → Bool) : Nat :=
  t.rows.countP fun row => p row.1 row.2

/-- The rows that pass a test. -/
def filter (t : Table κ ν) (p : κ → ν → Bool) : Table κ ν where
  rows := t.rows.filter fun row => p row.1 row.2
  nodup := t.nodup.sublist (List.filter_sublist.map _)

/-- The rows that pass a test are no more than all rows. -/
theorem size_filter_le (t : Table κ ν) (p : κ → ν → Bool) : (t.filter p).size ≤ t.size :=
  List.length_filter_le _ _

@[simp] theorem size_empty : (empty : Table κ ν).size = 0 := rfl

/-- The table with every value turned into another. -/
def mapValues {μ : Type} (f : ν → μ) (t : Table κ ν) : Table κ μ where
  rows := t.rows.map fun row => (row.1, f row.2)
  nodup := by simpa [Function.comp_def] using t.nodup

@[simp] theorem mapValues_empty {μ : Type} (f : ν → μ) :
    (empty : Table κ ν).mapValues f = empty := rfl

/-- Counting values that have been turned into others is counting by what they became. -/
theorem count_mapValues {μ : Type} (f : ν → μ) (t : Table κ ν) (p : κ → μ → Bool) :
    (t.mapValues f).count p = t.count fun k v => p k (f v) := by
  simp [count, mapValues, List.countP_map, Function.comp_def]

variable [DecidableEq κ]

/-- The value of a key. -/
def get? (t : Table κ ν) (k : κ) : Option ν := t.rows.lookup k

/-- Whether a key has a value. -/
def contains (t : Table κ ν) (k : κ) : Bool := (t.get? k).isSome

/-- The table without a key. -/
def erase (t : Table κ ν) (k : κ) : Table κ ν :=
  t.filter fun key _ => key ≠ k

/-- A row with another value, if it is the row of a key. -/
def replaceRow (k : κ) (v : ν) (row : κ × ν) : κ × ν :=
  if row.1 = k then (k, v) else row

@[simp] theorem replaceRow_fst (k : κ) (v : ν) (row : κ × ν) :
    (replaceRow k v row).1 = row.1 := by
  by_cases h : row.1 = k <;> simp [replaceRow, h]

/-- The table with another value where a key stands. A key that has no row gets none. -/
def replace (t : Table κ ν) (k : κ) (v : ν) : Table κ ν where
  rows := t.rows.map (replaceRow k v)
  nodup := by simpa [Function.comp_def] using t.nodup

/-- A key without a row is no key of the table. -/
theorem notMem_keys_of_get?_eq_none {t : Table κ ν} {k : κ} (h : t.get? k = none) :
    k ∉ t.keys := by
  simp only [get?, List.lookup_eq_none_iff, keys, List.mem_map, not_exists, not_and] at h ⊢
  intro row hrow he
  simpa [he] using h row hrow

/-- Give a key a value. A key that has one keeps its place; a new key goes in front. -/
def insert (t : Table κ ν) (k : κ) (v : ν) : Table κ ν :=
  match h : t.get? k with
  | some _ => t.replace k v
  | none => ⟨(k, v) :: t.rows, List.nodup_cons.mpr ⟨notMem_keys_of_get?_eq_none h, t.nodup⟩⟩

/-! ### Looking up -/

@[simp] theorem get?_empty (k : κ) : (empty : Table κ ν).get? k = none := rfl

/-- Looking a key up in filtered rows, when no key has two rows. -/
theorem lookup_filter {rows : List (κ × ν)} (h : (rows.map Prod.fst).Nodup)
    (p : κ → ν → Bool) (k : κ) :
    (rows.filter fun row => p row.1 row.2).lookup k =
      (rows.lookup k).filter (p k) := by
  induction rows with
  | nil => rfl
  | cons row rest ih =>
    obtain ⟨key, v⟩ := row
    simp only [List.map_cons, List.nodup_cons] at h
    have ih := ih h.2
    by_cases hk : k = key
    · subst hk
      by_cases hp : p k v
      · simp [hp, Option.filter]
      · have hnone : rest.lookup k = none := by
          rw [List.lookup_eq_none_iff]
          intro row hrow
          have hne : row.1 ≠ k := fun he => h.1 (List.mem_map.mpr ⟨row, hrow, he⟩)
          simpa using Ne.symm hne
        simp [hp, ih, hnone, Option.filter]
    · by_cases hp : p key v <;>
        simp [hp, ih, List.lookup_cons, beq_eq_false_iff_ne.mpr hk]

/-- Looking a key up in rows of which one value has been replaced. -/
theorem lookup_map_replaceRow (rows : List (κ × ν)) (k k' : κ) (v : ν) :
    (rows.map (replaceRow k v)).lookup k' =
      if k' = k then (rows.lookup k).map fun _ => v else rows.lookup k' := by
  induction rows with
  | nil => simp
  | cons row rest ih =>
    obtain ⟨key, old⟩ := row
    by_cases hk : k' = k
    · subst hk
      by_cases hkey : key = k'
      · simp [replaceRow, hkey]
      · have hne : (k' == key) = false := beq_eq_false_iff_ne.mpr (Ne.symm hkey)
        simpa [replaceRow, hkey, List.lookup_cons, hne] using ih
    · by_cases hkey : key = k
      · have hne : (k' == k) = false := beq_eq_false_iff_ne.mpr hk
        simpa [replaceRow, hkey, hk, List.lookup_cons, hne] using ih
      · cases he : k' == key
        · simpa [replaceRow, hkey, hk, List.lookup_cons, he] using ih
        · simp [replaceRow, hkey, hk, List.lookup_cons, he]

/-- A look-up in the rows that pass a test finds what it found before, if that passes. -/
@[simp] theorem get?_filter (t : Table κ ν) (p : κ → ν → Bool) (k : κ) :
    (t.filter p).get? k = (t.get? k).filter (p k) :=
  lookup_filter t.nodup p k

/-- After a key is given a value, it has that value and the others have theirs. -/
theorem get?_insert (t : Table κ ν) (k k' : κ) (v : ν) :
    (t.insert k v).get? k' = if k' = k then some v else t.get? k' := by
  unfold insert
  split
  · next old h =>
    have h' : t.rows.lookup k = some old := h
    simp only [get?, replace, lookup_map_replaceRow, h', Option.map_some]
  · by_cases hk : k' = k
    · simp [get?, hk]
    · simp [get?, hk, List.lookup_cons, beq_eq_false_iff_ne.mpr hk]

@[simp] theorem get?_insert_self (t : Table κ ν) (k : κ) (v : ν) :
    (t.insert k v).get? k = some v := by
  simp [get?_insert]

/-- Giving a key a value leaves the others. -/
theorem get?_insert_of_ne {k k' : κ} (h : k' ≠ k) (t : Table κ ν) (v : ν) :
    (t.insert k v).get? k' = t.get? k' := by
  simp [get?_insert, h]

@[simp] theorem get?_erase_self (t : Table κ ν) (k : κ) : (t.erase k).get? k = none := by
  cases h : t.get? k <;> simp [erase, h, Option.filter]

/-- Erasing a key leaves the others. -/
theorem get?_erase_of_ne {k k' : κ} (h : k' ≠ k) (t : Table κ ν) :
    (t.erase k).get? k' = t.get? k' := by
  cases hv : t.get? k' <;> simp [erase, hv, h, Option.filter]

/-- A look-up finds exactly the rows of the table. -/
theorem get?_eq_some_iff {t : Table κ ν} {k : κ} {v : ν} :
    t.get? k = some v ↔ (k, v) ∈ t.rows := by
  obtain ⟨rows, hnodup⟩ := t
  simp only [get?]
  induction rows with
  | nil => simp
  | cons row rest ih =>
    obtain ⟨key, w⟩ := row
    simp only [List.map_cons, List.nodup_cons] at hnodup
    by_cases hk : k = key
    · subst hk
      have hrest : (k, v) ∉ rest := fun h => hnodup.1 (List.mem_map.mpr ⟨_, h, rfl⟩)
      simp [hrest, eq_comm]
    · simp [List.lookup_cons, beq_eq_false_iff_ne.mpr hk, ih hnodup.2, hk]

/-! ### Counting -/

/-- A table without a key does not change when the key is erased. -/
theorem erase_of_get?_eq_none {t : Table κ ν} {k : κ} (h : t.get? k = none) : t.erase k = t := by
  rcases t with ⟨rows, hnodup⟩
  simp only [get?, List.lookup_eq_none_iff] at h
  simp only [erase, filter, mk.injEq, List.filter_eq_self, decide_eq_true_eq]
  intro row hrow
  simpa using Ne.symm (by simpa using h row hrow)

/-- A new key makes the table larger by one. -/
theorem size_insert_of_get?_eq_none {t : Table κ ν} {k : κ} (h : t.get? k = none) (v : ν) :
    (t.insert k v).size = t.size + 1 := by
  unfold insert
  split
  · next hsome => simp [h] at hsome
  · simp [size]

/-- A key that has a value makes the table no larger. -/
theorem size_insert_of_get?_eq_some {t : Table κ ν} {k : κ} {old : ν} (h : t.get? k = some old)
    (v : ν) : (t.insert k v).size = t.size := by
  unfold insert
  split
  · simp [size, replace]
  · next hnone => simp [h] at hnone

/-- Erasing a key that has a value makes the table smaller by one. -/
theorem size_erase_of_get?_eq_some {t : Table κ ν} {k : κ} {v : ν} (h : t.get? k = some v) :
    (t.erase k).size + 1 = t.size := by
  obtain ⟨rows, hnodup⟩ := t
  simp only [get?] at h
  simp only [size, erase, filter]
  induction rows with
  | nil => simp at h
  | cons row rest ih =>
    obtain ⟨key, w⟩ := row
    simp only [List.map_cons, List.nodup_cons] at hnodup
    by_cases hk : key = k
    · subst hk
      have hrest : ∀ row ∈ rest, decide (row.1 ≠ key) = true := fun row hrow =>
        decide_eq_true fun he => hnodup.1 (List.mem_map.mpr ⟨row, hrow, he⟩)
      simpa using List.filter_eq_self.mpr hrest
    · have hlookup : rest.lookup k = some v := by
        simpa [List.lookup_cons, beq_eq_false_iff_ne.mpr (Ne.symm hk)] using h
      have := ih hnodup.2 hlookup
      simpa [hk] using this

/-! ### Turning values into others -/

/-- Looking a key up in rows whose values have been turned into others. -/
theorem lookup_map_snd {μ : Type} (f : ν → μ) (rows : List (κ × ν)) (k : κ) :
    (rows.map fun row => (row.1, f row.2)).lookup k = (rows.lookup k).map f := by
  induction rows with
  | nil => rfl
  | cons row rest ih =>
    obtain ⟨key, v⟩ := row
    cases hk : k == key <;> simp [List.lookup_cons, hk, ih]

/-- A look-up finds what the value found before has become. -/
@[simp] theorem get?_mapValues {μ : Type} (f : ν → μ) (t : Table κ ν) (k : κ) :
    (t.mapValues f).get? k = (t.get? k).map f :=
  lookup_map_snd f t.rows k

/-- Values can be turned into others before or after a key is given one. -/
theorem mapValues_insert {μ : Type} (f : ν → μ) (t : Table κ ν) (k : κ) (v : ν) :
    (t.insert k v).mapValues f = (t.mapValues f).insert k (f v) := by
  have hget := get?_mapValues f t k
  unfold insert
  split <;> split <;> simp_all only [Option.map_some, Option.map_none, reduceCtorEq]
  · simp only [mapValues, replace, List.map_map, mk.injEq, List.map_inj_left]
    intro row _
    by_cases hk : row.1 = k <;> simp [replaceRow, hk]
  · rfl

/-- Values can be turned into others before or after a key is erased. -/
theorem mapValues_erase {μ : Type} (f : ν → μ) (t : Table κ ν) (k : κ) :
    (t.erase k).mapValues f = (t.mapValues f).erase k := by
  simp [erase, filter, mapValues, List.filter_map, Function.comp_def]

end Table

end DurableRefs
