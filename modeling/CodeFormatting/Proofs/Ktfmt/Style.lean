import CodeFormatting.Ktfmt.Style
import CodeFormatting.Proofs.Text
namespace CodeFormatting.Ktfmt.Style

/-! A style is read from its name, in letters of either case and with blanks around it. -/

variable {style other : Style} {text : String}

theorem mem_all (style : Style) : style ∈ all := by
  cases style <;> decide

theorem sameLetters_iff {left right : String} :
    sameLetters left right = true ↔
      left.toList.map Char.toLower = right.toList.map Char.toLower :=
  beq_iff_eq

theorem eq_of_sameLetters_name (hsame : sameLetters style.name other.name = true) :
    style = other := by
  cases style <;> cases other <;> first | rfl | exact absurd hsame (by decide)

theorem parse_eq_ok_iff :
    parse text = .ok style ↔ sameLetters style.name (Text.trim text) = true := by
  rw [parse]
  constructor
  · intro hparse
    split at hparse
    · next found hfound =>
        cases hparse
        have hsame := List.find?_some hfound
        exact hsame
    · cases hparse
  · intro hsame
    split
    · next found hfound =>
        have hother := List.find?_some hfound
        rw [sameLetters_iff] at hsame hother
        exact congrArg _ (eq_of_sameLetters_name (sameLetters_iff.mpr (hother.trans hsame.symm)))
    · next hnone =>
        exact absurd hsame (List.find?_eq_none.mp hnone style (mem_all style))

theorem text_of_parse {error : InvalidStyle} (hparse : parse text = .error error) :
    error.text = text := by
  rw [parse] at hparse
  split at hparse
  · cases hparse
  · cases hparse
    rfl

theorem parse_name (style : Style) : parse style.name = .ok style := by
  have htight : Text.trim style.name = style.name := by cases style <;> decide
  rw [parse_eq_ok_iff, sameLetters_iff, htight]

end CodeFormatting.Ktfmt.Style
