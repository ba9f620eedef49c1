import DurableRefs.Proofs.Text.Encoding
import DurableRefs.Text.Word
import Mathlib.Data.List.Forall2
import Mathlib.Data.List.TakeWhile

/-!
# Words between blanks

A text is compared with a word without the blanks at its two ends and in small letters. The
relation `Spells` says which bytes such a comparison accepts: those of a text that has the letters
of the word in any case between blanks. A byte that belongs to no text leaves a replacement
character, which is neither blank nor a letter, so it cannot get lost on the way.
-/

namespace DurableRefs.Text

variable {c d : Char} {cs before word after : List Char} {bytes : List UInt8}

/-! ### Blanks -/

/-- All characters are blank. -/
def Blanks (cs : List Char) : Prop := ∀ c ∈ cs, isBlank c = true

/-- The characters in front of which trimming begins are blank. -/
theorem blanks_takeWhile (cs : List Char) : Blanks (cs.takeWhile isBlank) :=
  fun _ hc => List.mem_takeWhile_imp hc

/-- The first and the last character, if there are any, are not blank. -/
def Trimmed (cs : List Char) : Prop :=
  (∀ c ∈ cs.head?, isBlank c = false) ∧ ∀ c ∈ cs.getLast?, isBlank c = false

/-- In front of a character that is not blank nothing is dropped. -/
theorem dropWhile_of_head? (h : ∀ c ∈ cs.head?, isBlank c = false) :
    cs.dropWhile isBlank = cs := by
  cases cs with
  | nil => rfl
  | cons c cs =>
    have hc : isBlank c = false := h c rfl
    rw [List.dropWhile_cons_of_neg (by simp [hc])]

/-- What is left after dropping does not begin with a blank. -/
theorem isBlank_of_mem_head? (h : c ∈ (cs.dropWhile isBlank).head?) : isBlank c = false := by
  have hnot := List.head?_dropWhile_not isBlank cs
  rw [h] at hnot
  exact hnot

/-- Trimming the end takes blanks away. -/
theorem exists_trimEnd (cs : List Char) : ∃ after, Blanks after ∧ cs = trimEnd cs ++ after := by
  refine ⟨(cs.reverse.takeWhile isBlank).reverse, ?_, ?_⟩
  · intro c hc
    exact blanks_takeWhile cs.reverse c (List.mem_reverse.mp hc)
  · rw [trimEnd, ← List.reverse_append, List.takeWhile_append_dropWhile, List.reverse_reverse]

/-- Trimming the end leaves what comes before the blanks. -/
theorem trimEnd_append (hafter : Blanks after) (h : ∀ c ∈ word.getLast?, isBlank c = false) :
    trimEnd (word ++ after) = word := by
  have hreverse : Blanks after.reverse := fun c hc => hafter c (List.mem_reverse.mp hc)
  have hhead : ∀ c ∈ word.reverse.head?, isBlank c = false := by
    rw [List.head?_reverse]
    exact h
  rw [trimEnd, List.reverse_append, List.dropWhile_append_of_pos hreverse,
    dropWhile_of_head? hhead, List.reverse_reverse]

/-- Trimming takes blanks away at the two ends. -/
theorem exists_trimChars (cs : List Char) :
    ∃ before after, Blanks before ∧ Blanks after ∧ cs = before ++ trimChars cs ++ after := by
  obtain ⟨after, hafter, hcs⟩ := exists_trimEnd (cs.dropWhile isBlank)
  refine ⟨cs.takeWhile isBlank, after, blanks_takeWhile cs, hafter, ?_⟩
  rw [trimChars, List.append_assoc, ← hcs, List.takeWhile_append_dropWhile]

/-- Trimming takes away all blanks at the two ends. -/
theorem trimmed_trimChars (cs : List Char) : Trimmed (trimChars cs) := by
  constructor
  · intro c hc
    obtain ⟨after, -, hcs⟩ := exists_trimEnd (cs.dropWhile isBlank)
    have hfirst : (trimEnd (cs.dropWhile isBlank)).head? = some c := hc
    have hdropped : c ∈ (cs.dropWhile isBlank).head? := by
      rw [hcs, List.head?_append, hfirst]
      rfl
    exact isBlank_of_mem_head? hdropped
  · intro c hc
    rw [trimChars, trimEnd, List.getLast?_reverse] at hc
    exact isBlank_of_mem_head? hc

/-- Trimming leaves what stands between the blanks. -/
theorem trimChars_append (hbefore : Blanks before) (hafter : Blanks after) (hword : Trimmed word) :
    trimChars (before ++ word ++ after) = word := by
  rw [trimChars, List.append_assoc, List.dropWhile_append_of_pos hbefore]
  cases word with
  | nil =>
    have hnil : after.dropWhile isBlank = [] := List.dropWhile_eq_nil_iff.mpr hafter
    rw [List.nil_append, hnil]
    rfl
  | cons c word =>
    have hhead : ∀ d ∈ (c :: word ++ after).head?, isBlank d = false := hword.1
    rw [dropWhile_of_head? hhead, trimEnd_append hafter hword.2]

/-- What trimming leaves is what stands between blanks and has none at its own ends. -/
theorem trimChars_eq_iff :
    trimChars cs = word ↔
      Trimmed word ∧ ∃ before after, Blanks before ∧ Blanks after ∧ cs = before ++ word ++ after := by
  constructor
  · rintro rfl
    exact ⟨trimmed_trimChars cs, exists_trimChars cs⟩
  · rintro ⟨hword, before, after, hbefore, hafter, rfl⟩
    exact trimChars_append hbefore hafter hword

/-! ### Letters -/

/-- Two characters are the same, or an ASCII letter in its two cases. -/
def SameLetter (c d : Char) : Prop :=
  c = d ∨ c.isUpper = true ∧ d.toNat = c.toNat + 32 ∨ d.isUpper = true ∧ c.toNat = d.toNat + 32

/-- The capital letters by their numbers. -/
theorem isUpper_iff : c.isUpper = true ↔ 65 ≤ c.toNat ∧ c.toNat ≤ 90 :=
  decide_eq_true_iff

/-- The small letters by their numbers. -/
theorem isLower_iff : c.isLower = true ↔ 97 ≤ c.toNat ∧ c.toNat ≤ 122 :=
  Bool.and_eq_true_iff.trans (and_congr decide_eq_true_iff decide_eq_true_iff)

/-- The small form of a capital letter is 32 numbers further on; every other character is its own
small form. -/
theorem toNat_toLower (c : Char) :
    c.toLower.toNat = if c.isUpper = true then c.toNat + 32 else c.toNat := by
  by_cases hc : c.isUpper = true
  · have hbounds := isUpper_iff.mp hc
    have hsum : (c.val + ('a'.val - 'A'.val)).toNat = c.toNat + 32 := by
      rw [UInt32.toNat_add]
      change (c.toNat + 32) % 2 ^ 32 = c.toNat + 32
      omega
    have hlower : c.toLower.val = c.val + ('a'.val - 'A'.val) :=
      congrArg Char.val (dif_pos (of_decide_eq_true hc))
    rw [if_pos hc, Char.toNat, hlower, hsum]
  · have hlower : c.toLower = c := dif_neg fun h => hc (decide_eq_true h)
    rw [if_neg hc, hlower]

/-- A character has a small letter as its small form when it is that letter in one of its cases. -/
theorem toLower_eq_iff (hd : d.isLower = true) : c.toLower = d ↔ SameLetter c d := by
  have hbounds := isLower_iff.mp hd
  simp only [SameLetter, ← Char.toNat_inj, toNat_toLower, isUpper_iff]
  split <;> omega

/-- Comparing small forms with a word of small letters compares letter by letter. -/
theorem map_toLower_eq_iff (hword : word.all Char.isLower = true) :
    cs.map Char.toLower = word ↔ List.Forall₂ SameLetter cs word := by
  induction cs generalizing word with
  | nil => simp [eq_comm]
  | cons c cs ih =>
    cases word with
    | nil => simp
    | cons d word =>
      rw [List.all_cons, Bool.and_eq_true] at hword
      rw [List.map_cons, List.cons.injEq, List.forall₂_cons, toLower_eq_iff hword.1, ih hword.2]

/-- A character that is a small letter in one of its cases lies between the first capital and the
last small letter. -/
theorem SameLetter.bounds (h : SameLetter c d) (hd : d.isLower = true) :
    65 ≤ c.toNat ∧ c.toNat ≤ 122 := by
  rw [isLower_iff] at hd
  obtain rfl | ⟨hc, -⟩ | ⟨hupper, -⟩ := h
  · omega
  · have := isUpper_iff.mp hc
    omega
  · have := isUpper_iff.mp hupper
    omega

/-- All characters of a word in any case lie between the first capital and the last small letter. -/
theorem letter_bounds (hword : word.all Char.isLower = true)
    (h : List.Forall₂ SameLetter cs word) : ∀ c ∈ cs, 65 ≤ c.toNat ∧ c.toNat ≤ 122 := by
  induction h with
  | nil => simp
  | cons hc _ ih =>
    rw [List.all_cons, Bool.and_eq_true] at hword
    rw [List.forall_mem_cons]
    exact ⟨hc.bounds hword.1, ih hword.2⟩

/-- Between the letters nothing is blank. -/
theorem isBlank_eq_false (hc : 65 ≤ c.toNat ∧ c.toNat ≤ 122) : isBlank c = false := by
  have hranges : ∀ range ∈ blankRanges, range.2 < 65 ∨ 122 < range.1 := by decide
  rw [isBlank, Ranges.holds, List.any_eq_false]
  intro range hrange
  have := hranges range hrange
  simp only [Bool.and_eq_true, decide_eq_true_eq]
  omega

/-! ### Words -/

/-- Bytes are those of a text that is a word, in any letter case, between blanks. -/
def Spells (bytes : List UInt8) (word : String) : Prop :=
  ∃ before letters after : List Char, Blanks before ∧ Blanks after ∧
    List.Forall₂ SameLetter letters word.toList ∧
    bytes = encode (String.ofList (before ++ letters ++ after))

/-- The letters that a comparison sees of bytes that spell a word. -/
theorem foldCase_trim_eq_iff {text word : String} :
    foldCase (trim text) = word ↔ (trimChars text.toList).map Char.toLower = word.toList := by
  rw [foldCase, trim, String.toList_ofList, ← String.toList_inj, String.toList_ofList]

/-- A text that is nothing but a word between blanks has no replacement character. -/
theorem replacement_notMem (hbefore : Blanks before) (hafter : Blanks after)
    (hcs : ∀ c ∈ cs, 65 ≤ c.toNat ∧ c.toNat ≤ 122) : replacement ∉ before ++ cs ++ after := by
  have hblank : isBlank replacement = false := by decide
  simp only [List.mem_append, not_or]
  refine ⟨⟨fun hmem => ?_, fun hmem => ?_⟩, fun hmem => ?_⟩
  · simp [hbefore _ hmem] at hblank
  · exact absurd (hcs _ hmem).2 (by decide)
  · simp [hafter _ hmem] at hblank

/-- The bytes that a comparison accepts are those that spell the word. -/
theorem foldCase_trim_decode_eq_iff {word : String} (hword : word.toList.all Char.isLower = true) :
    foldCase (trim (decode bytes)) = word ↔ Spells bytes word := by
  rw [foldCase_trim_eq_iff, map_toLower_eq_iff hword]
  constructor
  · intro h
    obtain ⟨-, before, after, hbefore, hafter, hcs⟩ :=
      trimChars_eq_iff.mp (rfl : trimChars (decode bytes).toList = _)
    have hmem : replacement ∉ (decode bytes).toList := by
      rw [hcs]
      exact replacement_notMem hbefore hafter (letter_bounds hword h)
    refine ⟨before, _, after, hbefore, hafter, h, ?_⟩
    rw [← hcs, String.ofList_toList, encode_decode hmem]
  · rintro ⟨before, letters, after, hbefore, hafter, hletters, rfl⟩
    have hblank : ∀ c ∈ letters, isBlank c = false := fun c hc =>
      isBlank_eq_false (letter_bounds hword hletters c hc)
    have htrimmed : Trimmed letters :=
      ⟨fun c hc => hblank c (List.mem_of_mem_head? hc),
        fun c hc => hblank c (List.mem_of_mem_getLast? hc)⟩
    rw [decode_encode, String.toList_ofList,
      trimChars_eq_iff.mpr ⟨htrimmed, before, after, hbefore, hafter, rfl⟩]
    exact hletters

/-- Bytes that spell a word are those of a text. -/
theorem Spells.isText {word : String} (h : Spells bytes word) : ∃ text, bytes = encode text := by
  obtain ⟨before, letters, after, -, -, -, hbytes⟩ := h
  exact ⟨_, hbytes⟩

/-- Bytes that would be written otherwise than they are read spell no word. -/
theorem not_spells {word : String} (h : encode (decode bytes) ≠ bytes) : ¬ Spells bytes word := by
  intro hspells
  obtain ⟨text, rfl⟩ := hspells.isText
  exact h (by rw [decode_encode])

end DurableRefs.Text
