import Mathlib.Data.List.Forall2
import CodeFormatting.Proofs.Text
namespace CodeFormatting.Text

/-! Texts that differ in the case of ASCII letters at most. No other letter has a case here, so
that one whose small letter is an ASCII letter elsewhere is a letter of its own. -/

/-- An ASCII letter as a capital and as a small letter. -/
structure Cases (capital small : Char) : Prop where
  first : 65 ≤ capital.toNat
  last : capital.toNat ≤ 90
  distance : small.toNat = capital.toNat + 32

inductive SameLetter : Char → Char → Prop
  | same (character : Char) : SameLetter character character
  | lowered {capital small : Char} (hcases : Cases capital small) : SameLetter capital small
  | raised {capital small : Char} (hcases : Cases capital small) : SameLetter small capital

def Recased (text other : String) : Prop :=
  List.Forall₂ SameLetter text.toList other.toList

variable {character left right capital small : Char} {text other third : String}

theorem isUpper_iff :
    character.isUpper = true ↔ 65 ≤ character.toNat ∧ character.toNat ≤ 90 :=
  decide_eq_true_iff.trans (and_congr UInt32.le_iff_toNat_le UInt32.le_iff_toNat_le)

theorem isLower_iff :
    character.isLower = true ↔ 97 ≤ character.toNat ∧ character.toNat ≤ 122 := by
  have hrange : character.isLower = true ↔ character.val ≥ 97 ∧ character.val ≤ 122 :=
    Bool.and_eq_true_iff.trans (and_congr decide_eq_true_iff decide_eq_true_iff)
  rw [hrange, ge_iff_le, UInt32.le_iff_toNat_le, UInt32.le_iff_toNat_le]
  rfl

theorem isAlpha_iff :
    character.isAlpha = true ↔ character.isUpper = true ∨ character.isLower = true :=
  Bool.or_eq_true_iff

theorem toNat_toLower (character : Char) :
    character.toLower.toNat =
      if character.isUpper then character.toNat + 32 else character.toNat := by
  unfold Char.toLower
  split
  · next hletter =>
      have hupper : character.isUpper = true := decide_eq_true hletter
      have hbound : character.toNat + 32 < 2 ^ 32 := by
        have hlast := (isUpper_iff.mp hupper).2
        omega
      rw [if_pos hupper]
      exact (UInt32.toNat_add _ _).trans (Nat.mod_eq_of_lt hbound)
  · next hother =>
      have hupper : ¬ character.isUpper = true := mt of_decide_eq_true hother
      rw [if_neg hupper]

theorem toLower_eq_toLower_iff : left.toLower = right.toLower ↔ SameLetter left right := by
  rw [← Char.toNat_inj, toNat_toLower, toNat_toLower]
  constructor
  · intro hsame
    by_cases hleft : left.isUpper = true
    · obtain ⟨hfirst, hlast⟩ := isUpper_iff.mp hleft
      by_cases hright : right.isUpper = true
      · rw [if_pos hleft, if_pos hright, Nat.add_right_cancel_iff, Char.toNat_inj] at hsame
        exact hsame ▸ .same left
      · rw [if_pos hleft, if_neg hright] at hsame
        exact .lowered ⟨hfirst, hlast, hsame.symm⟩
    · by_cases hright : right.isUpper = true
      · obtain ⟨hfirst, hlast⟩ := isUpper_iff.mp hright
        rw [if_neg hleft, if_pos hright] at hsame
        exact .raised ⟨hfirst, hlast, hsame⟩
      · rw [if_neg hleft, if_neg hright, Char.toNat_inj] at hsame
        exact hsame ▸ .same left
  · have hmeet {capital small : Char} (hcases : Cases capital small) :
        (if capital.isUpper then capital.toNat + 32 else capital.toNat) =
          if small.isUpper then small.toNat + 32 else small.toNat := by
      obtain ⟨hfirst, hlast, hdistance⟩ := hcases
      have hsmall : ¬ small.isUpper = true := by
        rw [isUpper_iff]
        omega
      rw [if_pos (isUpper_iff.mpr ⟨hfirst, hlast⟩), if_neg hsmall, hdistance]
    intro hsame
    cases hsame with
    | same => rfl
    | lowered hcases => exact hmeet hcases
    | raised hcases => exact (hmeet hcases).symm

theorem recased_iff :
    Recased text other ↔
      text.toList.map Char.toLower = other.toList.map Char.toLower := by
  rw [← List.forall₂_eq_eq_eq, List.forall₂_map_left_iff, List.forall₂_map_right_iff, Recased]
  simp only [toLower_eq_toLower_iff]

theorem Recased.refl (text : String) : Recased text text :=
  recased_iff.mpr rfl

theorem Recased.symm (hrecased : Recased text other) : Recased other text :=
  recased_iff.mpr (recased_iff.mp hrecased).symm

theorem Recased.trans (hfirst : Recased text other) (hsecond : Recased other third) :
    Recased text third :=
  recased_iff.mpr ((recased_iff.mp hfirst).trans (recased_iff.mp hsecond))

/-- What is true of an ASCII letter in one case and in the other is kept where a text is written
in other letters. -/
theorem Recased.forall_mem {Holds : Char → Prop} (hrecased : Recased text other)
    (hletters : ∀ {capital small : Char}, Cases capital small → (Holds capital ↔ Holds small))
    (htext : ∀ character ∈ text.toList, Holds character) :
    ∀ character ∈ other.toList, Holds character := by
  unfold Recased at hrecased
  generalize text.toList = characters, other.toList = others at *
  induction hrecased with
  | nil => exact htext
  | @cons left right _ _ hletter _ induction =>
      rw [List.forall_mem_cons] at htext ⊢
      refine ⟨?_, induction htext.2⟩
      cases hletter with
      | same => exact htext.1
      | lowered hcases => exact (hletters hcases).mp htext.1
      | raised hcases => exact (hletters hcases).mpr htext.1

/-! Blank characters are no letters. -/

theorem isBlank_of_isAlpha (hletter : character.isAlpha = true) : isBlank character = false := by
  rw [isAlpha_iff, isUpper_iff, isLower_iff] at hletter
  simp only [isBlank, Bool.or_eq_false_iff, Bool.and_eq_false_iff, decide_eq_false_iff_not,
    beq_eq_false_iff_ne]
  omega

theorem Cases.isAlpha (hcases : Cases capital small) :
    capital.isAlpha = true ∧ small.isAlpha = true := by
  obtain ⟨hfirst, hlast, hdistance⟩ := hcases
  simp only [isAlpha_iff, isUpper_iff, isLower_iff]
  omega

theorem isBlank_toLower (character : Char) : isBlank character.toLower = isBlank character := by
  by_cases hupper : character.isUpper = true
  · obtain ⟨hfirst, hlast⟩ := isUpper_iff.mp hupper
    have hcases : Cases character character.toLower :=
      ⟨hfirst, hlast, by rw [toNat_toLower, if_pos hupper]⟩
    rw [isBlank_of_isAlpha hcases.isAlpha.1, isBlank_of_isAlpha hcases.isAlpha.2]
  · have hkept : character.toLower = character := by
      rw [← Char.toNat_inj, toNat_toLower, if_neg hupper]
    rw [hkept]

theorem trimmed_map_toLower (characters : List Char) :
    trimmed (characters.map Char.toLower) = (trimmed characters).map Char.toLower := by
  have hblank : isBlank ∘ Char.toLower = isBlank := funext isBlank_toLower
  have hstart (characters : List Char) :
      trimmedStart (characters.map Char.toLower) =
        (trimmedStart characters).map Char.toLower := by
    rw [trimmedStart, List.dropWhile_map, hblank]
    rfl
  rw [trimmed, hstart, trimmedEnd, ← List.map_reverse, hstart, ← List.map_reverse]
  rfl

theorem Recased.trim (hrecased : Recased text other) : Recased (trim text) (trim other) := by
  rw [recased_iff] at hrecased ⊢
  rw [toList_trim, toList_trim, ← trimmed_map_toLower, hrecased, trimmed_map_toLower]

end CodeFormatting.Text
