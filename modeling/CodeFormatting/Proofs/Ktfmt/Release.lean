import Mathlib.Data.Prod.Lex
import CodeFormatting.Ktfmt.Java
namespace CodeFormatting.Ktfmt

/-! Releases are ordered by their numbers, the first one first, and what a release can do only
grows along this order. -/

/-- The first release with a constant for a style. -/
def Format.since : Format → Version
  | .dropbox | .google => ⟨0, 19, 0⟩
  | .kotlinlang => ⟨0, 21, 0⟩

namespace Version

def numbers (version : Version) : Nat ×ₗ Nat ×ₗ Nat :=
  toLex (version.major.toNat, toLex (version.minor.toNat, version.patch.toNat))

theorem numbers_injective : Function.Injective numbers := by
  rintro ⟨major, minor, patch⟩ ⟨otherMajor, otherMinor, otherPatch⟩ hsame
  simpa [numbers, UInt32.toNat_inj] using hsame

instance : LinearOrder Version where
  __ := PartialOrder.lift numbers numbers_injective
  le_total first second := le_total first.numbers second.numbers
  toDecidableLE first second := decidable_of_iff (first.numbers ≤ second.numbers) Iff.rfl
  toDecidableEq := inferInstance

theorem le_iff {first version : Version} :
    first ≤ version ↔ first.major < version.major ∨ first.major = version.major ∧
      (first.minor < version.minor ∨ first.minor = version.minor ∧
        first.patch ≤ version.patch) := by
  change first.numbers ≤ version.numbers ↔ _
  simp only [numbers, Prod.Lex.toLex_le_toLex, UInt32.lt_iff_toNat_lt, UInt32.le_iff_toNat_le,
    UInt32.toNat_inj]

theorem atLeast_iff {first version : Version} :
    version.atLeast first = true ↔ first ≤ version := by
  rw [le_iff, atLeast, compare, Ordering.isGE_iff_eq_gt_or_eq_eq]
  simp only [Ordering.then_eq_gt, Ordering.then_eq_eq, Std.compare_eq_gt, Std.compare_eq_iff_eq]
  simp only [UInt32.lt_iff_toNat_lt, UInt32.le_iff_toNat_le, ← UInt32.toNat_inj]
  omega

/-! What a release has. -/

theorem hasFormatConstant_iff {version : Version} {format : Format} :
    version.hasFormatConstant format = true ↔ format.since ≤ version := by
  cases format <;> exact atLeast_iff

theorem mainClass_eq (version : Version) :
    version.mainClass = if ⟨0, 31, 0⟩ ≤ version then "com.facebook.ktfmt.cli.Main"
      else "com.facebook.ktfmt.MainKt" := by
  rw [mainClass]
  exact if_congr atLeast_iff rfl rfl

end Version

end CodeFormatting.Ktfmt
