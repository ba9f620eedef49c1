import DurableRefs.Text.Utf8

/-!
# Texts and their bytes

Reading the UTF-8 form of a text gives the text back. Bytes that are the UTF-8 form of no text are
read with a replacement character somewhere, so a reading without one tells what the bytes were.
-/

namespace DurableRefs.Text

variable {s : Sequence} {b b₁ b₂ b₃ : UInt8} {bytes tail : List UInt8} {bits more n : Nat}
  {low high : UInt8} {c : Char}

/-- The bytes of a text in UTF-8. -/
def encode (text : String) : List UInt8 := text.toList.flatMap String.utf8EncodeChar

/-- A text is kept in the bytes that encode it. -/
theorem toList_toUTF8 (text : String) : text.toUTF8.data.toList = encode text := by
  obtain ⟨cs, rfl⟩ : ∃ cs, text = String.ofList cs := ⟨text.toList, String.ofList_toList.symm⟩
  have hbytes : (String.ofList cs).toUTF8 = (cs.flatMap String.utf8EncodeChar).toByteArray := rfl
  rw [hbytes, List.data_toByteArray, encode, String.toList_ofList]

/-! ### Sequences -/

/-- Bytes complete an open sequence, and all its bits together are a number. -/
inductive Sequence.Completes : Sequence → List UInt8 → Nat → Prop
  /-- The last byte is there. -/
  | last {s : Sequence} {b : UInt8} (hb : s.admits b = true) (hmore : s.more = 0) :
      Completes s [b] (s.extend b)
  /-- Another byte is there, and more follow. -/
  | next {s : Sequence} {b : UInt8} {tail : List UInt8} {n more : Nat} (hb : s.admits b = true)
      (hmore : s.more = more + 1) (htail : Completes ⟨s.extend b, 0x80, 0xBF, more⟩ tail n) :
      Completes s (b :: tail) n

/-- The next byte lies between the bounds. -/
theorem Sequence.admits_iff :
    s.admits b = true ↔ s.low.toNat ≤ b.toNat ∧ b.toNat ≤ s.high.toNat := by
  simp [admits, UInt8.le_iff_toNat_le]

/-- What completes a sequence that lacks one byte. -/
theorem Sequence.completes_zero :
    Completes ⟨bits, low, high, 0⟩ tail n ↔
      ∃ b, tail = [b] ∧ low.toNat ≤ b.toNat ∧ b.toNat ≤ high.toNat ∧
        n = bits * 0x40 + b.toNat % 0x40 := by
  constructor
  · rintro (⟨hb, -⟩ | ⟨-, hmore, -⟩)
    · obtain ⟨hlow, hhigh⟩ := admits_iff.mp hb
      exact ⟨_, rfl, hlow, hhigh, rfl⟩
    · cases hmore
  · rintro ⟨b, rfl, hlow, hhigh, rfl⟩
    exact .last (admits_iff.mpr ⟨hlow, hhigh⟩) rfl

/-- What completes a sequence that lacks more than one byte. -/
theorem Sequence.completes_succ :
    Completes ⟨bits, low, high, more + 1⟩ tail n ↔
      ∃ b rest, tail = b :: rest ∧ low.toNat ≤ b.toNat ∧ b.toNat ≤ high.toNat ∧
        Completes ⟨bits * 0x40 + b.toNat % 0x40, 0x80, 0xBF, more⟩ rest n := by
  constructor
  · rintro (⟨-, hmore⟩ | ⟨hb, hmore, htail⟩)
    · cases hmore
    · cases hmore
      obtain ⟨hlow, hhigh⟩ := admits_iff.mp hb
      exact ⟨_, _, rfl, hlow, hhigh, htail⟩
  · rintro ⟨b, rest, rfl, hlow, hhigh, hrest⟩
    exact .next (admits_iff.mpr ⟨hlow, hhigh⟩) rfl hrest

/-- Bytes that complete a sequence are read as its character. -/
theorem Sequence.Completes.readFrom_append (h : s.Completes tail n) (rest : List UInt8) :
    readFrom (some s) (tail ++ rest) = Char.ofNat n :: readFrom none rest := by
  induction h with
  | last hb hmore => simp [readFrom, hb, hmore]
  | next hb hmore _ ih => simp [readFrom, hb, hmore, ih]

/-- A sequence that breaks off leaves a replacement character, so without one it is completed. -/
theorem exists_completes (h : replacement ∉ readFrom (some s) bytes) :
    ∃ tail n rest, s.Completes tail n ∧ bytes = tail ++ rest := by
  induction bytes generalizing s with
  | nil => simp [readFrom] at h
  | cons b rest ih =>
    cases hb : s.admits b with
    | false =>
      rw [readFrom_of_not_admits hb] at h
      exact absurd List.mem_cons_self h
    | true =>
      cases hmore : s.more with
      | zero => exact ⟨[b], _, rest, .last hb hmore, rfl⟩
      | succ more =>
        simp only [readFrom, hb, hmore, if_true] at h
        obtain ⟨tail, n, last, htail, rfl⟩ := ih h
        exact ⟨b :: tail, n, last, .next hb hmore htail, rfl⟩

/-! ### First bytes -/

/-- The classes of first bytes by their numbers. -/
theorem lead_eq (b : UInt8) :
    lead b =
      if b.toNat < 0x80 then .single (Char.ofNat b.toNat)
      else if b.toNat < 0xC2 then .stray
      else if b.toNat < 0xE0 then .opens ⟨b.toNat % 0x20, 0x80, 0xBF, 0⟩
      else if b.toNat < 0xF0 then
        .opens ⟨b.toNat % 0x10, if b.toNat = 0xE0 then 0xA0 else 0x80,
          if b.toNat = 0xED then 0x9F else 0xBF, 1⟩
      else if b.toNat < 0xF5 then
        .opens ⟨b.toNat % 0x08, if b.toNat = 0xF0 then 0x90 else 0x80,
          if b.toNat = 0xF4 then 0x8F else 0xBF, 2⟩
      else .stray := by
  simp only [lead, UInt8.lt_iff_toNat_lt, ← UInt8.toNat_inj, UInt8.reduceToNat]
  grind

/-- A first byte that is a character of its own is in the ASCII range. -/
theorem lead_eq_single_iff :
    lead b = .single c ↔ b.toNat < 0x80 ∧ c = Char.ofNat b.toNat := by
  rw [lead_eq]
  grind

/-- The first bytes that open a sequence, by the number of bytes that follow. -/
theorem lead_eq_opens (h : lead b = .opens s) :
    (0xC2 ≤ b.toNat ∧ b.toNat < 0xE0 ∧ s = ⟨b.toNat % 0x20, 0x80, 0xBF, 0⟩) ∨
    (0xE0 ≤ b.toNat ∧ b.toNat < 0xF0 ∧ s = ⟨b.toNat % 0x10,
      if b.toNat = 0xE0 then 0xA0 else 0x80, if b.toNat = 0xED then 0x9F else 0xBF, 1⟩) ∨
    (0xF0 ≤ b.toNat ∧ b.toNat < 0xF5 ∧ s = ⟨b.toNat % 0x08,
      if b.toNat = 0xF0 then 0x90 else 0x80, if b.toNat = 0xF4 then 0x8F else 0xBF, 2⟩) := by
  rw [lead_eq] at h
  split at h
  · cases h
  split at h
  · cases h
  split at h
  · cases h
    exact .inl ⟨by omega, by omega, rfl⟩
  split at h
  · cases h
    exact .inr (.inl ⟨by omega, by omega, rfl⟩)
  split at h
  · cases h
    exact .inr (.inr ⟨by omega, by omega, rfl⟩)
  · cases h

/-! ### From a character to its bytes -/

/-- A number that takes two bytes. -/
theorem opens_two (hlow : 0x80 ≤ n) (hhigh : n < 0x800) :
    ∃ s, lead (UInt8.ofNat (n / 64 % 32 + 192)) = .opens s ∧
      s.Completes [UInt8.ofNat (n % 64 + 128)] n := by
  have hlead : (UInt8.ofNat (n / 64 % 32 + 192)).toNat = n / 64 + 192 := by
    rw [UInt8.toNat_ofNat']; omega
  have hlast : (UInt8.ofNat (n % 64 + 128)).toNat = n % 64 + 128 := by
    rw [UInt8.toNat_ofNat']; omega
  rw [lead_eq, hlead, if_neg (by omega), if_neg (by omega), if_pos (by omega)]
  refine ⟨_, rfl, Sequence.completes_zero.mpr ⟨_, rfl, ?_⟩⟩
  simp only [hlast, UInt8.reduceToNat]
  omega

/-- A number that takes three bytes. The bounds on the second byte are those of the numbers from
0x800 on that are no surrogates. -/
theorem opens_three (hlow : 0x800 ≤ n) (hhigh : n < 0x10000) (hvalid : n.isValidChar) :
    ∃ s, lead (UInt8.ofNat (n / 4096 % 16 + 224)) = .opens s ∧
      s.Completes [UInt8.ofNat (n / 64 % 64 + 128), UInt8.ofNat (n % 64 + 128)] n := by
  have hlead : (UInt8.ofNat (n / 4096 % 16 + 224)).toNat = n / 4096 + 224 := by
    rw [UInt8.toNat_ofNat']; omega
  have hsecond : (UInt8.ofNat (n / 64 % 64 + 128)).toNat = n / 64 % 64 + 128 := by
    rw [UInt8.toNat_ofNat']; omega
  have hlast : (UInt8.ofNat (n % 64 + 128)).toNat = n % 64 + 128 := by
    rw [UInt8.toNat_ofNat']; omega
  unfold Nat.isValidChar at hvalid
  rw [lead_eq, hlead, if_neg (by omega), if_neg (by omega), if_neg (by omega), if_pos (by omega)]
  refine ⟨_, rfl, Sequence.completes_succ.mpr ⟨_, _, rfl, ?_, ?_,
    Sequence.completes_zero.mpr ⟨_, rfl, ?_⟩⟩⟩
  · rw [hsecond]
    split <;> simp only [UInt8.reduceToNat] <;> omega
  · rw [hsecond]
    split <;> simp only [UInt8.reduceToNat] <;> omega
  · simp only [hsecond, hlast, UInt8.reduceToNat]
    omega

/-- A number that takes four bytes. -/
theorem opens_four (hlow : 0x10000 ≤ n) (hhigh : n < 0x110000) :
    ∃ s, lead (UInt8.ofNat (n / 262144 % 8 + 240)) = .opens s ∧
      s.Completes [UInt8.ofNat (n / 4096 % 64 + 128), UInt8.ofNat (n / 64 % 64 + 128),
        UInt8.ofNat (n % 64 + 128)] n := by
  have hlead : (UInt8.ofNat (n / 262144 % 8 + 240)).toNat = n / 262144 + 240 := by
    rw [UInt8.toNat_ofNat']; omega
  have hsecond : (UInt8.ofNat (n / 4096 % 64 + 128)).toNat = n / 4096 % 64 + 128 := by
    rw [UInt8.toNat_ofNat']; omega
  have hthird : (UInt8.ofNat (n / 64 % 64 + 128)).toNat = n / 64 % 64 + 128 := by
    rw [UInt8.toNat_ofNat']; omega
  have hlast : (UInt8.ofNat (n % 64 + 128)).toNat = n % 64 + 128 := by
    rw [UInt8.toNat_ofNat']; omega
  rw [lead_eq, hlead, if_neg (by omega), if_neg (by omega), if_neg (by omega),
    if_neg (by omega), if_pos (by omega)]
  refine ⟨_, rfl, Sequence.completes_succ.mpr ⟨_, _, rfl, ?_, ?_, Sequence.completes_succ.mpr
    ⟨_, _, rfl, ?_, ?_, Sequence.completes_zero.mpr ⟨_, rfl, ?_⟩⟩⟩⟩
  · rw [hsecond]
    split <;> simp only [UInt8.reduceToNat] <;> omega
  · rw [hsecond]
    split <;> simp only [UInt8.reduceToNat] <;> omega
  · simp only [hthird, UInt8.reduceToNat]
    omega
  · simp only [hthird, UInt8.reduceToNat]
    omega
  · simp only [hsecond, hthird, hlast, UInt8.reduceToNat]
    omega

/-- How a character is written: as one byte, or as a byte that opens a sequence and the bytes that
complete it. -/
theorem utf8EncodeChar_cases (c : Char) :
    (∃ b, String.utf8EncodeChar c = [b] ∧ lead b = .single c) ∨
      ∃ b tail s, String.utf8EncodeChar c = b :: tail ∧ lead b = .opens s ∧
        s.Completes tail c.toNat := by
  have hvalid : c.toNat.isValidChar := c.valid
  have hbound : c.toNat < 0x110000 := by
    unfold Nat.isValidChar at hvalid
    omega
  simp only [String.utf8EncodeChar, Char.toNat_val]
  split
  · have hbyte : (UInt8.ofNat c.toNat).toNat = c.toNat := by
      rw [UInt8.toNat_ofNat']; omega
    refine .inl ⟨_, rfl, lead_eq_single_iff.mpr ⟨by omega, ?_⟩⟩
    rw [hbyte, Char.ofNat_toNat]
  · split
    · obtain ⟨s, hlead, htail⟩ := opens_two (n := c.toNat) (by omega) (by omega)
      exact .inr ⟨_, _, s, rfl, hlead, htail⟩
    · split
      · obtain ⟨s, hlead, htail⟩ := opens_three (by omega) (by omega) hvalid
        exact .inr ⟨_, _, s, rfl, hlead, htail⟩
      · obtain ⟨s, hlead, htail⟩ := opens_four (by omega) hbound
        exact .inr ⟨_, _, s, rfl, hlead, htail⟩

/-- The bytes of a character are read as that character. -/
theorem readFrom_utf8EncodeChar_append (c : Char) (rest : List UInt8) :
    readFrom none (String.utf8EncodeChar c ++ rest) = c :: readFrom none rest := by
  obtain ⟨b, hbytes, hlead⟩ | ⟨b, tail, s, hbytes, hlead, htail⟩ := utf8EncodeChar_cases c
  · simp [hbytes, readFrom, hlead]
  · simp only [hbytes, List.cons_append, readFrom, hlead]
    rw [htail.readFrom_append, Char.ofNat_toNat]

/-- The bytes of characters are read as those characters. -/
theorem readFrom_flatMap_utf8EncodeChar (cs : List Char) :
    readFrom none (cs.flatMap String.utf8EncodeChar) = cs := by
  induction cs with
  | nil => rfl
  | cons c cs ih => rw [List.flatMap_cons, readFrom_utf8EncodeChar_append, ih]

/-- The bytes of a text are read as the text. -/
theorem decode_encode (text : String) : decode (encode text) = text := by
  rw [decode, encode, readFrom_flatMap_utf8EncodeChar, String.ofList_toList]

/-! ### From bytes to the character -/

/-- A number outside the surrogates belongs to a character. -/
theorem exists_char (h : n.isValidChar) : ∃ c : Char, c.toNat = n :=
  ⟨.ofNatAux n h, rfl⟩

/-- One byte is what its character is written as. -/
theorem utf8EncodeChar_of_single (h : lead b = .single c) : String.utf8EncodeChar c = [b] := by
  obtain ⟨hb, rfl⟩ := lead_eq_single_iff.mp h
  obtain ⟨c, hc⟩ := exists_char (n := b.toNat) (.inl (by omega))
  rw [← hc, Char.ofNat_toNat]
  simp only [String.utf8EncodeChar, Char.toNat_val]
  rw [if_pos (by omega), hc, UInt8.ofNat_toNat]

/-- Two bytes are what their character is written as. -/
theorem utf8EncodeChar_two (hlow : 0xC2 ≤ b.toNat) (hhigh : b.toNat < 0xE0)
    (hlow₁ : 0x80 ≤ b₁.toNat) (hhigh₁ : b₁.toNat ≤ 0xBF)
    (hn : n = b.toNat % 0x20 * 0x40 + b₁.toNat % 0x40) :
    String.utf8EncodeChar (Char.ofNat n) = [b, b₁] := by
  obtain ⟨c, rfl⟩ := exists_char (n := n) (.inl (by omega))
  rw [Char.ofNat_toNat]
  simp only [String.utf8EncodeChar, Char.toNat_val]
  rw [if_neg (by omega), if_pos (by omega)]
  simp only [List.cons.injEq, ← UInt8.toNat_inj, UInt8.toNat_ofNat', and_true]
  omega

/-- Three bytes are what their character is written as. -/
theorem utf8EncodeChar_three (hlow : 0xE0 ≤ b.toNat) (hhigh : b.toNat < 0xF0)
    (hlow₁ : 0x80 ≤ b₁.toNat ∧ (b.toNat = 0xE0 → 0xA0 ≤ b₁.toNat))
    (hhigh₁ : b₁.toNat ≤ 0xBF ∧ (b.toNat = 0xED → b₁.toNat ≤ 0x9F))
    (hlow₂ : 0x80 ≤ b₂.toNat) (hhigh₂ : b₂.toNat ≤ 0xBF)
    (hn : n = (b.toNat % 0x10 * 0x40 + b₁.toNat % 0x40) * 0x40 + b₂.toNat % 0x40) :
    String.utf8EncodeChar (Char.ofNat n) = [b, b₁, b₂] := by
  obtain ⟨c, rfl⟩ := exists_char (n := n) (by unfold Nat.isValidChar; omega)
  rw [Char.ofNat_toNat]
  simp only [String.utf8EncodeChar, Char.toNat_val]
  rw [if_neg (by omega), if_neg (by omega), if_pos (by omega)]
  simp only [List.cons.injEq, ← UInt8.toNat_inj, UInt8.toNat_ofNat', and_true]
  omega

/-- Four bytes are what their character is written as. -/
theorem utf8EncodeChar_four (hlow : 0xF0 ≤ b.toNat) (hhigh : b.toNat < 0xF5)
    (hlow₁ : 0x80 ≤ b₁.toNat ∧ (b.toNat = 0xF0 → 0x90 ≤ b₁.toNat))
    (hhigh₁ : b₁.toNat ≤ 0xBF ∧ (b.toNat = 0xF4 → b₁.toNat ≤ 0x8F))
    (hlow₂ : 0x80 ≤ b₂.toNat) (hhigh₂ : b₂.toNat ≤ 0xBF)
    (hlow₃ : 0x80 ≤ b₃.toNat) (hhigh₃ : b₃.toNat ≤ 0xBF)
    (hn : n = ((b.toNat % 0x08 * 0x40 + b₁.toNat % 0x40) * 0x40 + b₂.toNat % 0x40) * 0x40 +
      b₃.toNat % 0x40) :
    String.utf8EncodeChar (Char.ofNat n) = [b, b₁, b₂, b₃] := by
  obtain ⟨c, rfl⟩ := exists_char (n := n) (by unfold Nat.isValidChar; omega)
  rw [Char.ofNat_toNat]
  simp only [String.utf8EncodeChar, Char.toNat_val]
  rw [if_neg (by omega), if_neg (by omega), if_neg (by omega)]
  simp only [List.cons.injEq, ← UInt8.toNat_inj, UInt8.toNat_ofNat', and_true]
  omega

/-- A byte that opens a sequence and the bytes that complete it are what their character is
written as. -/
theorem utf8EncodeChar_of_completes (hlead : lead b = .opens s) (h : s.Completes tail n) :
    String.utf8EncodeChar (Char.ofNat n) = b :: tail := by
  obtain ⟨hlow, hhigh, rfl⟩ | ⟨hlow, hhigh, rfl⟩ | ⟨hlow, hhigh, rfl⟩ := lead_eq_opens hlead
  · obtain ⟨b₁, rfl, hlow₁, hhigh₁, hn⟩ := Sequence.completes_zero.mp h
    exact utf8EncodeChar_two hlow hhigh hlow₁ hhigh₁ hn
  · obtain ⟨b₁, _, rfl, hlow₁, hhigh₁, h⟩ := Sequence.completes_succ.mp h
    obtain ⟨b₂, rfl, hlow₂, hhigh₂, hn⟩ := Sequence.completes_zero.mp h
    simp only [apply_ite UInt8.toNat, UInt8.reduceToNat] at hlow₁ hhigh₁
    refine utf8EncodeChar_three hlow hhigh ?_ ?_ hlow₂ hhigh₂ hn
    · split at hlow₁ <;> omega
    · split at hhigh₁ <;> omega
  · obtain ⟨b₁, _, rfl, hlow₁, hhigh₁, h⟩ := Sequence.completes_succ.mp h
    obtain ⟨b₂, _, rfl, hlow₂, hhigh₂, h⟩ := Sequence.completes_succ.mp h
    obtain ⟨b₃, rfl, hlow₃, hhigh₃, hn⟩ := Sequence.completes_zero.mp h
    simp only [apply_ite UInt8.toNat, UInt8.reduceToNat] at hlow₁ hhigh₁
    refine utf8EncodeChar_four hlow hhigh ?_ ?_ hlow₂ hhigh₂ hlow₃ hhigh₃ hn
    · split at hlow₁ <;> omega
    · split at hhigh₁ <;> omega

/-- Bytes that are read without a replacement character are those of the characters read. The
induction is on the number of bytes, since a sequence takes several at once. -/
theorem flatMap_readFrom (h : replacement ∉ readFrom none bytes) :
    (readFrom none bytes).flatMap String.utf8EncodeChar = bytes := by
  induction hlength : bytes.length using Nat.strongRecOn generalizing bytes with
  | ind length ih =>
    subst hlength
    cases bytes with
    | nil => rfl
    | cons b rest =>
      cases hlead : lead b with
      | single c =>
        simp only [readFrom, hlead, List.mem_cons, not_or] at h
        have hrest := ih rest.length (by simp) h.2 rfl
        simp only [readFrom, hlead, List.flatMap_cons, hrest]
        rw [utf8EncodeChar_of_single hlead]
        rfl
      | stray => simp [readFrom, hlead] at h
      | opens s =>
        simp only [readFrom, hlead] at h
        obtain ⟨tail, n, last, htail, rfl⟩ := exists_completes h
        rw [htail.readFrom_append, List.mem_cons, not_or] at h
        have hshorter : last.length < (b :: (tail ++ last)).length := by
          rw [List.length_cons, List.length_append]
          omega
        have hlast := ih last.length hshorter h.2 rfl
        simp only [readFrom, hlead, htail.readFrom_append, List.flatMap_cons, hlast]
        rw [utf8EncodeChar_of_completes hlead htail]
        rfl

/-- Bytes that are read without a replacement character are those of the text read. -/
theorem encode_decode (h : replacement ∉ (decode bytes).toList) :
    encode (decode bytes) = bytes := by
  simp only [decode, String.toList_ofList] at h
  rw [encode, decode, String.toList_ofList, flatMap_readFrom h]

end DurableRefs.Text
