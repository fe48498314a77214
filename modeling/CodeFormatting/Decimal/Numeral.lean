namespace CodeFormatting.Decimal

/-! A numeral is a run of at least one ASCII digit. Leading zeros change nothing,
and the numeral of a number has none. -/

def numeral (value : Nat) : List Char :=
  Nat.toDigits 10 value

def isNumeral (characters : List Char) : Bool :=
  !characters.isEmpty && characters.all Char.isDigit

def value (characters : List Char) : Nat :=
  Nat.ofDigitChars 10 characters 0

def natural? (characters : List Char) : Option Nat :=
  if isNumeral characters then some (value characters) else none

/-- A numeral that denotes a number below `2 ^ 32`. -/
def word? (characters : List Char) : Option UInt32 :=
  match natural? characters with
  | some number => if number < UInt32.size then some (UInt32.ofNat number) else none
  | none => none

theorem isDigit_of_mem_numeral {number : Nat} {character : Char}
    (hmem : character ∈ numeral number) : character.isDigit = true :=
  Nat.isDigit_of_mem_toDigits (by decide) (by decide) hmem

theorem isNumeral_numeral (number : Nat) : isNumeral (numeral number) := by
  simp only [isNumeral, numeral, Bool.and_eq_true, Bool.not_eq_true', List.isEmpty_eq_false_iff,
    List.all_eq_true]
  exact ⟨Nat.toDigits_ne_nil, fun _ => isDigit_of_mem_numeral⟩

@[simp] theorem value_numeral (number : Nat) : value (numeral number) = number :=
  Nat.ofDigitChars_ten_toDigits

@[simp] theorem natural?_numeral (number : Nat) :
    natural? (numeral number) = some number := by
  simp [natural?, isNumeral_numeral]

@[simp] theorem word?_numeral (number : UInt32) :
    word? (numeral number.toNat) = some number := by
  simp [word?, UInt32.toNat_lt_size]

theorem natural?_eq_some_iff {characters : List Char} {number : Nat} :
    natural? characters = some number ↔ isNumeral characters ∧ value characters = number := by
  simp [natural?]

theorem word?_eq_some_iff {characters : List Char} {number : UInt32} :
    word? characters = some number ↔ natural? characters = some number.toNat := by
  cases hnatural : natural? characters with
  | none => simp [word?, hnatural]
  | some found =>
    simp only [word?, hnatural, Option.some.injEq]
    constructor
    · intro hword
      split at hword
      · next hsize =>
        rw [← Option.some.inj hword, UInt32.toNat_ofNat_of_lt' hsize]
      · contradiction
    · rintro rfl
      simp [UInt32.toNat_lt_size]

end CodeFormatting.Decimal
