import CodeFormatting.Json.Parser
import CodeFormatting.Json.Printer
namespace CodeFormatting.Json

/-! A string is read back as it was printed, whatever follows its closing quote: each character
has one way to be written, from which it can be told and where it ends. -/

theorem hexadecimalValue?_hexadecimalDigit :
    ∀ digit < 16, hexadecimalValue? (hexadecimalDigit digit) = some digit := by
  decide

theorem unit?_of_control {code : Nat} (hcontrol : code < 0x20) :
    unit? '0' '0' (hexadecimalDigit (code / 16)) (hexadecimalDigit (code % 16)) = some code := by
  have hzero : hexadecimalValue? '0' = some 0 := rfl
  have hhigh := hexadecimalValue?_hexadecimalDigit (code / 16) (by omega)
  have hlow := hexadecimalValue?_hexadecimalDigit (code % 16) (by omega)
  simp only [unit?, hzero, hhigh, hlow, bind, Option.bind, pure, Option.some.injEq]
  omega

/-- A character has an escape with a letter of its own, or one with its code, or none. -/
theorem printedCharacter_cases (character : Char) :
    (∃ letter, letter ≠ 'u' ∧ escaped? letter = some character ∧
      printedCharacter character = ['\\', letter]) ∨
    (character.toNat < 0x20 ∧
      printedCharacter character = ['\\', 'u', '0', '0',
        hexadecimalDigit (character.toNat / 16), hexadecimalDigit (character.toNat % 16)]) ∨
    (character ≠ '"' ∧ character ≠ '\\' ∧ ¬ character.toNat < 0x20 ∧
      printedCharacter character = [character]) := by
  have hcode {code : Nat} (hsame : character.toNat = code) : Char.ofNat code = character := by
    rw [← hsame, Char.ofNat_toNat]
  unfold printedCharacter
  split
  · next hquote => exact .inl ⟨'"', by decide, by rw [hquote]; rfl, rfl⟩
  split
  · next hbackslash => exact .inl ⟨'\\', by decide, by rw [hbackslash]; rfl, rfl⟩
  split
  · next hbackspace => exact .inl ⟨'b', by decide, by rw [← hcode hbackspace]; rfl, rfl⟩
  split
  · next hfeed => exact .inl ⟨'f', by decide, by rw [← hcode hfeed]; rfl, rfl⟩
  split
  · next hline => exact .inl ⟨'n', by decide, by rw [hline]; rfl, rfl⟩
  split
  · next hreturn => exact .inl ⟨'r', by decide, by rw [hreturn]; rfl, rfl⟩
  split
  · next htab => exact .inl ⟨'t', by decide, by rw [htab]; rfl, rfl⟩
  split
  · next hcontrol => exact .inr (.inl ⟨hcontrol, rfl⟩)
  · next hquote hbackslash _ _ _ _ _ hplain =>
      exact .inr (.inr ⟨hquote, hbackslash, hplain, rfl⟩)

theorem readString?_printedCharacter (character : Char) (rest : List Char) :
    readString? none (printedCharacter character ++ rest) =
      (readString? none rest).map fun read => (character :: read.1, read.2) := by
  rcases printedCharacter_cases character with
    ⟨letter, hletter, hescaped, hprinted⟩ | ⟨hcontrol, hprinted⟩ |
      ⟨hquote, hbackslash, hplain, hprinted⟩
  · rw [hprinted, List.cons_append, List.cons_append, List.nil_append, readString?]
    · simp only [Option.isSome_none, hescaped, bind, Option.bind]
      cases readString? none rest <;> rfl
    · rintro - - - - - rfl -
      exact hletter rfl
  · have hunit := unit?_of_control hcontrol
    have hhigh : isHighSurrogate character.toNat = false := by
      simp only [isHighSurrogate, Bool.and_eq_false_iff, decide_eq_false_iff_not]
      omega
    have hlow : isLowSurrogate character.toNat = false := by
      simp only [isLowSurrogate, Bool.and_eq_false_iff, decide_eq_false_iff_not]
      omega
    rw [hprinted]
    simp only [List.cons_append, List.nil_append, readString?, hunit, hhigh, hlow, bind,
      Option.bind, Char.ofNat_toNat]
    cases readString? none rest <;> rfl
  · rw [hprinted, List.singleton_append, readString?]
    · simp only [hquote, hplain]
      cases readString? none rest <;> rfl
    · intro _ _ _ _ _ hescape
      exact absurd hescape hbackslash
    · intro _ _ hescape
      exact absurd hescape hbackslash

theorem readString?_printedString (text rest : List Char) :
    readString? none (text.flatMap printedCharacter ++ '"' :: rest) = some (text, rest) := by
  induction text with
  | nil => simp [readString?]
  | cons character text induction =>
      rw [List.flatMap_cons, List.append_assoc, readString?_printedCharacter, induction]
      rfl

end CodeFormatting.Json
