import CodeFormatting.Text.Pieces
namespace CodeFormatting.Text

/-! A text occurs in another one where it is the front of what is left there. The empty
text occurs everywhere. -/

def occursIn (wanted : List Char) : List Char → Bool
  | [] => wanted.isEmpty
  | present :: rest => wanted.isPrefixOf (present :: rest) || occursIn wanted rest

def occurs (wanted text : String) : Bool :=
  occursIn wanted.toList text.toList

theorem occursIn_iff (wanted text : List Char) :
    occursIn wanted text ↔ wanted <:+: text := by
  induction text with
  | nil => simp [occursIn]
  | cons present rest induction =>
    simp [occursIn, induction, List.infix_cons_iff]

end CodeFormatting.Text
