import CodeFormatting.Ktfmt.Error
import CodeFormatting.Proofs.Text
namespace CodeFormatting.Ktfmt.Version

/-! A text names a release by two or three numerals with points between them. Blanks around the
text do not count, nor does what a dash or a plus divides from the numerals. -/

/-- A run of digits, with or without zeros in front, for a number of 32 bits. -/
structure Denotes (numeral : String) (number : UInt32) : Prop where
  nonempty : numeral ≠ ""
  isDigit : ∀ character ∈ numeral.toList, character.isDigit = true
  value : Nat.ofDigitChars 10 numeral.toList 0 = number.toNat

/-- The numerals of a release, of which the last one can be left out. -/
inductive Numbered (version : Version) : List String → Prop
  | pair {major minor : String} (hmajor : Denotes major version.major)
      (hminor : Denotes minor version.minor) (hpatch : version.patch = 0) :
      Numbered version [major, minor]
  | triple {major minor patch : String} (hmajor : Denotes major version.major)
      (hminor : Denotes minor version.minor) (hpatch : Denotes patch version.patch) :
      Numbered version [major, minor, patch]

inductive Qualifies : String → Prop
  | absent : Qualifies ""
  | dash (text : String) : Qualifies ("-" ++ text)
  | plus (text : String) : Qualifies ("+" ++ text)

/-- A text that names a release. -/
def Spelled (version : Version) (text : String) : Prop :=
  ∃ numerals qualifier, Numbered version numerals ∧
    Text.trim text = ".".intercalate numerals ++ qualifier ∧ Qualifies qualifier

theorem plain_of_isDigit {character : Char} (hdigit : character.isDigit = true) :
    Text.isBlank character = false ∧ character ≠ '-' ∧ character ≠ '+' ∧ character ≠ '.' := by
  have hrange : 48 ≤ character.toNat ∧ character.toNat ≤ 57 := by
    simpa [Char.isDigit, UInt32.le_iff_toNat_le] using hdigit
  refine ⟨?_, ?_, ?_, ?_⟩
  · simp only [Text.isBlank]
    simp
    omega
  · rintro rfl
    cases hdigit
  · rintro rfl
    cases hdigit
  · rintro rfl
    cases hdigit

theorem denotes_iff {numeral : String} {number : UInt32} :
    Decimal.word? numeral.toList = some number ↔ Denotes numeral number := by
  rw [Decimal.word?_eq_some_iff, Decimal.natural?_eq_some_iff, Decimal.isNumeral]
  constructor
  · rintro ⟨hnumeral, hvalue⟩
    simp only [Bool.and_eq_true, Bool.not_eq_true', List.isEmpty_eq_false_iff, List.all_eq_true,
      Ne, String.toList_eq_nil_iff] at hnumeral
    exact ⟨hnumeral.1, hnumeral.2, hvalue⟩
  · rintro ⟨hnonempty, hdigits, hvalue⟩
    refine ⟨?_, hvalue⟩
    simpa using ⟨hnonempty, hdigits⟩

theorem parse?_eq_some_iff_numbered {text : String} {version : Version} :
    parse? text = some version ↔ Numbered version (Text.pieces '.' (release text)) := by
  rw [parse?]
  generalize Text.pieces '.' (release text) = numerals
  constructor
  · intro hparse
    split at hparse
    · next major minor hnumbers =>
        cases hparse
        obtain ⟨first, rest, rfl, hfirst, hrest⟩ := List.map_eq_cons_iff.mp hnumbers
        obtain ⟨second, rfl, hsecond⟩ := List.map_eq_singleton_iff.mp hrest
        exact .pair (denotes_iff.mp hfirst) (denotes_iff.mp hsecond) rfl
    · next major minor patch hnumbers =>
        cases hparse
        obtain ⟨first, rest, rfl, hfirst, hrest⟩ := List.map_eq_cons_iff.mp hnumbers
        obtain ⟨second, last, rfl, hsecond, hlast⟩ := List.map_eq_cons_iff.mp hrest
        obtain ⟨third, rfl, hthird⟩ := List.map_eq_singleton_iff.mp hlast
        exact .triple (denotes_iff.mp hfirst) (denotes_iff.mp hsecond)
          (denotes_iff.mp hthird)
    · cases hparse
  · rcases version with ⟨major, minor, patch⟩
    rintro (⟨hmajor, hminor, hpatch⟩ | ⟨hmajor, hminor, hpatch⟩)
    · obtain rfl : patch = 0 := hpatch
      simp only [List.map_cons, List.map_nil, denotes_iff.mpr hmajor,
        denotes_iff.mpr hminor]
    · simp only [List.map_cons, List.map_nil, denotes_iff.mpr hmajor,
        denotes_iff.mpr hminor, denotes_iff.mpr hpatch]

/-! Numerals have none of the characters that divide a text. -/

theorem Numbered.denotes {version : Version} {numerals : List String}
    (hnumbered : Numbered version numerals) {numeral : String} (hnumeral : numeral ∈ numerals) :
    ∃ number, Denotes numeral number := by
  cases hnumbered with
  | pair hmajor hminor =>
      rcases List.mem_pair.mp hnumeral with rfl | rfl
      · exact ⟨_, hmajor⟩
      · exact ⟨_, hminor⟩
  | triple hmajor hminor hpatch =>
      simp only [List.mem_cons, List.not_mem_nil, or_false] at hnumeral
      rcases hnumeral with rfl | rfl | rfl
      · exact ⟨_, hmajor⟩
      · exact ⟨_, hminor⟩
      · exact ⟨_, hpatch⟩

theorem Numbered.ne_nil {version : Version} {numerals : List String}
    (hnumbered : Numbered version numerals) : numerals ≠ [] := by
  cases hnumbered <;> exact List.cons_ne_nil _ _

theorem Numbered.pieces_intercalate {version : Version} {numerals : List String}
    (hnumbered : Numbered version numerals) :
    Text.pieces '.' (".".intercalate numerals) = numerals := by
  refine Text.pieces_intercalate (fun numeral hnumeral hpoint => ?_) hnumbered.ne_nil
  obtain ⟨number, hdenotes⟩ := hnumbered.denotes hnumeral
  exact (plain_of_isDigit (hdenotes.isDigit _ hpoint)).2.2.2 rfl

theorem numbered_pieces_iff {version : Version} {release : String} :
    Numbered version (Text.pieces '.' release) ↔
      ∃ numerals, Numbered version numerals ∧ release = ".".intercalate numerals := by
  constructor
  · intro hnumbered
    exact ⟨_, hnumbered, (Text.intercalate_pieces '.' release).symm⟩
  · rintro ⟨numerals, hnumbered, rfl⟩
    rwa [hnumbered.pieces_intercalate]

theorem Numbered.mem_intercalate {version : Version} {numerals : List String}
    (hnumbered : Numbered version numerals) {character : Char}
    (hcharacter : character ∈ (".".intercalate numerals).toList) :
    character.isDigit = true ∨ character = '.' := by
  rcases Text.mem_or_exists_mem_of_mem_intercalate hcharacter with hpoint | ⟨numeral, hmem, hdigit⟩
  · exact .inr (List.mem_singleton.mp hpoint)
  · obtain ⟨number, hdenotes⟩ := hnumbered.denotes hmem
    exact .inl (hdenotes.isDigit character hdigit)

theorem qualifies_iff {qualifier : String} :
    Qualifies qualifier ↔ ∀ character ∈ qualifier.toList.head?,
      (character = '-' || character = '+') = true := by
  constructor
  · rintro (_ | text | text) character hfirst
    · cases hfirst
    · obtain rfl : '-' = character := by simpa using hfirst
      rfl
    · obtain rfl : '+' = character := by simpa using hfirst
      rfl
  · intro hfirst
    rw [← String.ofList_toList (s := qualifier)]
    cases hcharacters : qualifier.toList with
    | nil => exact .absent
    | cons first rest =>
        have hdivides := hfirst first (by simp [hcharacters])
        simp only [Bool.or_eq_true, decide_eq_true_eq] at hdivides
        rw [String.ofList_cons]
        rcases hdivides with rfl | rfl
        · exact .dash _
        · exact .plus _

theorem parse?_eq_some_iff_spelled {text : String} {version : Version} :
    parse? text = some version ↔ Spelled version text := by
  rw [parse?_eq_some_iff_numbered, numbered_pieces_iff]
  refine exists_congr fun numerals => ?_
  rw [release, Text.before_eq_iff, exists_and_left]
  refine and_congr_right fun hnumbered => exists_congr fun qualifier => ?_
  rw [qualifies_iff]
  refine and_congr_right fun _ => and_iff_right fun character hcharacter => ?_
  rcases hnumbered.mem_intercalate hcharacter with hdigit | rfl
  · obtain ⟨-, hdash, hplus, -⟩ := plain_of_isDigit hdigit
    simp [hdash, hplus]
  · rfl

theorem parse_eq_ok_iff {text : String} {version : Version} :
    parse text = .ok version ↔ parse? text = some version := by
  rw [parse]
  cases parse? text <;> simp

theorem parse_eq_error_iff {text : String} {error : JavaError} :
    parse text = .error error ↔ error = .invalidVersion text ∧ parse? text = none := by
  rw [parse]
  cases parse? text <;> simp [eq_comm]

/-! Every release is the one that its own text names. -/

def numerals (version : Version) : List String :=
  [version.major, version.minor, version.patch].map fun number =>
    String.ofList (Decimal.numeral number.toNat)

theorem text_eq_intercalate (version : Version) :
    version.text = ".".intercalate version.numerals := by
  simp [text, numerals, Decimal.numeral, String.intercalate_cons_cons, String.append_assoc,
    ← Nat.repr_eq_ofList_toDigits, Nat.toString_eq_repr]

theorem denotes_numeral (number : UInt32) :
    Denotes (String.ofList (Decimal.numeral number.toNat)) number := by
  rw [← denotes_iff, String.toList_ofList, Decimal.word?_numeral]

theorem numbered_numerals (version : Version) : Numbered version version.numerals :=
  .triple (denotes_numeral _) (denotes_numeral _) (denotes_numeral _)

theorem spelled_text (version : Version) : Spelled version version.text := by
  refine ⟨_, "", version.numbered_numerals, ?_, .absent⟩
  rw [text_eq_intercalate, String.append_empty, Text.trim_eq_self]
  intro character hcharacter
  rcases version.numbered_numerals.mem_intercalate hcharacter with hdigit | rfl
  · exact (plain_of_isDigit hdigit).1
  · rfl

theorem parse?_text (version : Version) : parse? version.text = some version :=
  parse?_eq_some_iff_spelled.mpr version.spelled_text

/-- A text is read as a release just if it names that release. Every other text is given back in
the error, as it is. -/
theorem parse_iff_spelled (text : String) :
    (∀ version, parse text = .ok version ↔ Spelled version text) ∧
    (∀ error, parse text = .error error ↔
      error = .invalidVersion text ∧ ∀ version, ¬ Spelled version text) ∧
    ∀ version, parse version.text = .ok version := by
  refine ⟨fun version => ?_, fun error => ?_, fun version => ?_⟩
  · rw [parse_eq_ok_iff, parse?_eq_some_iff_spelled]
  · rw [parse_eq_error_iff, Option.eq_none_iff_forall_ne_some]
    simp only [Ne, parse?_eq_some_iff_spelled]
  · rw [parse_eq_ok_iff, parse?_text]

example : parse "\u30000.04294967295-\t" = .ok ⟨0, 4294967295, 0⟩ := by decide

end CodeFormatting.Ktfmt.Version
