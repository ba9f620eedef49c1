import DurableRefs.Proofs.Text.Word
import DurableRefs.Settings
import DurableRefs.Table

/-!
# What the settings may say

The environment is accepted exactly when each variable that is set spells one of the words of its
setting. What is refused is told with the text of the variable, and a bad level is told before a
bad format. Both settings are read in the same way, so the reasoning is about any vocabulary.
-/

namespace DurableRefs

open Text (Spells)

/-! ### Vocabularies -/

section Vocabulary

variable {α : Type} {read : String → Except SettingsError α} {words : α → List String}
  {refusal : String → SettingsError} {default a : α} {var : Option (List UInt8)}
  {bytes : List UInt8}

/-- A setting is read by comparing small letters with words, and a text that is none of them is
given back. -/
structure Vocabulary (read : String → Except SettingsError α) (words : α → List String)
    (refusal : String → SettingsError) : Prop where
  /-- The words are written in small letters. -/
  isLower : ∀ a, ∀ word ∈ words a, word.toList.all Char.isLower = true
  /-- A text asks for the value of which it is a word. -/
  accepts : ∀ spec a, read spec = .ok a ↔ Text.foldCase spec ∈ words a
  /-- Other texts are refused. -/
  refuses : ∀ spec, (∃ a, read spec = .ok a) ∨ read spec = .error (refusal spec)

/-- Bytes ask for a value by spelling one of its words. -/
def Names (words : α → List String) (bytes : List UInt8) (a : α) : Prop :=
  ∃ word ∈ words a, Spells bytes word

/-- A variable asks for the default where it is not set. -/
def Asks (words : α → List String) (default : α) : Option (List UInt8) → α → Prop
  | none, a => a = default
  | some bytes, a => Names words bytes a

/-- How one setting is read. -/
def readSetting (read : String → Except SettingsError α) (default : α) :
    Option (List UInt8) → Except SettingsError α
  | none => .ok default
  | some bytes => read (Text.trim (Text.decode bytes))

/-- Reading gives a value to the bytes that name it. -/
theorem Vocabulary.read_eq_ok_iff (v : Vocabulary read words refusal) :
    read (Text.trim (Text.decode bytes)) = .ok a ↔ Names words bytes a := by
  rw [v.accepts]
  constructor
  · intro h
    exact ⟨_, h, (Text.foldCase_trim_decode_eq_iff (v.isLower a _ h)).mp rfl⟩
  · rintro ⟨word, hword, hspells⟩
    rw [(Text.foldCase_trim_decode_eq_iff (v.isLower a word hword)).mpr hspells]
    exact hword

/-- A setting has the value that its variable asks for. -/
theorem Vocabulary.readSetting_eq_ok_iff (v : Vocabulary read words refusal) :
    readSetting read default var = .ok a ↔ Asks words default var a := by
  cases var with
  | none => simp [readSetting, Asks, eq_comm]
  | some bytes => exact v.read_eq_ok_iff

/-- A variable that names nothing is refused with its text. -/
theorem Vocabulary.readSetting_of_not_names (v : Vocabulary read words refusal) (default : α)
    (h : ∀ a, ¬ Names words bytes a) :
    readSetting read default (some bytes) = .error (refusal (Text.trim (Text.decode bytes))) := by
  obtain ⟨a, ha⟩ | hrefused := v.refuses (Text.trim (Text.decode bytes))
  · exact absurd (v.read_eq_ok_iff.mp ha) (h a)
  · exact hrefused

/-- The bytes of a variable that asks for a value are those of a text. -/
theorem Asks.isText (h : Asks words default (some bytes) a) :
    ∃ text, bytes = Text.encode text := by
  obtain ⟨word, -, hspells⟩ := h
  exact hspells.isText

/-- A table of spellings makes a vocabulary: look the small letters of a text up in it, and refuse
the text where nothing is found. -/
theorem Vocabulary.of_spellings (spellings : List (String × α))
    (hnodup : (spellings.map Prod.fst).Nodup)
    (hwords : ∀ word a, (word, a) ∈ spellings ↔ word ∈ words a)
    (hlower : ∀ a, ∀ word ∈ words a, word.toList.all Char.isLower = true)
    (hread : ∀ spec, read spec =
      match spellings.lookup (Text.foldCase spec) with
      | some a => .ok a
      | none => .error (refusal spec)) :
    Vocabulary read words refusal where
  isLower := hlower
  accepts spec a := by
    have hlookup : spellings.lookup (Text.foldCase spec) = some a ↔ _ :=
      Table.get?_eq_some_iff (t := ⟨spellings, hnodup⟩)
    rw [← hwords, ← hlookup, hread]
    cases spellings.lookup (Text.foldCase spec) <;> simp
  refuses spec := by
    rw [hread]
    cases spellings.lookup (Text.foldCase spec) with
    | none => exact .inr rfl
    | some a => exact .inl ⟨a, rfl⟩

end Vocabulary

namespace Log

/-! ### The two settings -/

/-- The words that ask for a level. -/
def Level.words : Level → List String
  | error => ["error", "err"]
  | warn => ["warn", "warning"]
  | info => ["info"]
  | debug => ["debug"]
  | trace => ["trace", "verbose"]

/-- The words that ask for a format. -/
def Format.words : Format → List String
  | auto => ["auto"]
  | text => ["text", "plain"]
  | json => ["json"]

/-- The level is read with its words. -/
theorem Level.vocabulary : Vocabulary Level.read Level.words .invalidLevel := by
  refine .of_spellings spellings (by decide) ?_ ?_ ?_
  · intro word level
    cases level <;> simp [spellings, words]
  · intro level
    cases level <;> decide
  · intro spec
    rw [read, ofName?]
    cases spellings.lookup (Text.foldCase spec) <;> rfl

/-- The format is read with its words. -/
theorem Format.vocabulary : Vocabulary Format.read Format.words .invalidFormat := by
  refine .of_spellings spellings (by decide) ?_ ?_ ?_
  · intro word format
    cases format <;> simp [spellings, words]
  · intro format
    cases format <;> decide
  · intro spec
    rw [read, ofName?]
    cases spellings.lookup (Text.foldCase spec) <;> rfl

end Log

open Log (Level Format Options)

namespace Variables

variable {vars : Variables}

/-- The level is read first, then the format. -/
theorem options_eq (vars : Variables) :
    vars.options = (do
      let level ← readSetting Level.read .warn vars.level
      let format ← readSetting Format.read .auto vars.format
      return { level, format }) := by
  obtain ⟨level, format⟩ := vars
  simp only [options, Options.override]
  cases level <;> cases format <;> simp only [Option.map_none, Option.map_some, readSetting] <;> rfl

/-- The environment is read by its grammar. -/
structure FollowsGrammar (vars : Variables) : Prop where
  /-- The options are those that the two variables ask for, and there are some only where both ask
  for something. -/
  accepts : ∀ options, vars.options = .ok options ↔
    Asks Level.words .warn vars.level options.level ∧
      Asks Format.words .auto vars.format options.format
  /-- What is accepted is text. -/
  isText : ∀ options, vars.options = .ok options →
    ∀ bytes, vars.level = some bytes ∨ vars.format = some bytes → ∃ text, bytes = Text.encode text
  /-- A level that names nothing is refused, whatever the format is. -/
  refusesLevel : ∀ bytes, vars.level = some bytes → (∀ level, ¬ Names Level.words bytes level) →
    vars.options = .error (.invalidLevel (Text.trim (Text.decode bytes)))
  /-- A format that names nothing is refused where the level is not. -/
  refusesFormat : ∀ bytes level, Asks Level.words .warn vars.level level →
    vars.format = some bytes → (∀ format, ¬ Names Format.words bytes format) →
    vars.options = .error (.invalidFormat (Text.trim (Text.decode bytes)))

/-- There are options where both settings can be read. -/
theorem options_eq_ok_iff {options : Options} :
    vars.options = .ok options ↔
      Asks Level.words .warn vars.level options.level ∧
        Asks Format.words .auto vars.format options.format := by
  rw [options_eq, ← Level.vocabulary.readSetting_eq_ok_iff,
    ← Format.vocabulary.readSetting_eq_ok_iff]
  cases hlevel : readSetting Level.read .warn vars.level with
  | error e => simp [bind, Except.bind]
  | ok level =>
    cases hformat : readSetting Format.read .auto vars.format with
    | error e => simp [bind, Except.bind]
    | ok format =>
      obtain ⟨level', format'⟩ := options
      simp [bind, Except.bind, pure, Except.pure]

/-- The environment is accepted exactly when each variable that is set spells a word of its
setting, between blanks and in any case of the ASCII letters. A refusal gives back the text of the
first variable that does not. -/
theorem options_follow_grammar (vars : Variables) : vars.FollowsGrammar where
  accepts _ := options_eq_ok_iff
  isText options h bytes hbytes := by
    obtain ⟨hlevel, hformat⟩ := options_eq_ok_iff.mp h
    obtain hset | hset := hbytes
    · rw [hset] at hlevel
      exact hlevel.isText
    · rw [hset] at hformat
      exact hformat.isText
  refusesLevel bytes hset hnames := by
    have hread := Level.vocabulary.readSetting_of_not_names .warn hnames
    rw [options_eq, hset, hread]
    rfl
  refusesFormat bytes level hasks hset hnames := by
    have hlevel := Level.vocabulary.readSetting_eq_ok_iff.mpr hasks
    have hformat := Format.vocabulary.readSetting_of_not_names .auto hnames
    rw [options_eq, hlevel, hset, hformat]
    rfl

/-- A level in mixed case behind a no-break space is accepted; beside it a byte that belongs to no
text is refused as a format, and is told as a replacement character. -/
theorem level_accepted_and_format_refused :
    ({ level := some [0xC2, 0xA0, 0x54, 0x72, 0x41, 0x43, 0x45] } : Variables).options =
        .ok { level := .trace } ∧
      ({ level := some [0xC2, 0xA0, 0x54, 0x72, 0x41, 0x43, 0x45], format := some [0xFF] } :
        Variables).options = .error (.invalidFormat "\uFFFD") := by
  have hlevel : Names Level.words [0xC2, 0xA0, 0x54, 0x72, 0x41, 0x43, 0x45] .trace := by
    refine ⟨"trace", by decide, ['\u00A0'], ['T', 'r', 'A', 'C', 'E'], [], ?_, ?_, ?_, by decide⟩
    · intro c hc
      rw [List.mem_singleton.mp hc]
      decide
    · intro c hc
      cases hc
    · exact (Text.map_toLower_eq_iff (by decide)).mp (by decide)
  have hformat : ∀ format, ¬ Names Format.words [0xFF] format := by
    rintro format ⟨word, -, hspells⟩
    exact Text.not_spells (by decide) hspells
  constructor
  · exact ((options_follow_grammar _).accepts _).mpr ⟨hlevel, rfl⟩
  · have hrefused := (options_follow_grammar ⟨some [0xC2, 0xA0, 0x54, 0x72, 0x41, 0x43, 0x45],
      some [0xFF]⟩).refusesFormat [0xFF] .trace hlevel rfl hformat
    have htext : Text.trim (Text.decode [0xFF]) = "\uFFFD" := by decide
    rw [hrefused, htext]

end Variables

end DurableRefs
