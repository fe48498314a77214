import CodeFormatting.Proofs.Ktfmt.Style
import CodeFormatting.Proofs.Text.Case
namespace CodeFormatting.Ktfmt.Style

/-! Which texts name a style. A text may be written in letters of either case and with blanks
around it, a record has the one name of the style. -/

open Text (Padded Recased)

/-- The text is the name of the style but for the case of its letters and for blanks around it. -/
def Names (style : Style) (text : String) : Prop :=
  ∃ name, Recased style.name name ∧ Padded name text

def word : Style → String
  | .standard => "Default"
  | .dropbox => "Dropbox"
  | .google => "Google"
  | .kotlinlang => "Kotlinlang"

/-- The word for a style in capitals. -/
def tag (style : Style) : String :=
  String.ofList (style.word.toList.map Char.toUpper)

variable {style : Style} {name text other : String} {character : Char}

theorem isAlpha_of_mem_name (style : Style) :
    ∀ character ∈ style.name.toList, character.isAlpha = true := by
  rw [← List.all_eq_true]
  cases style <;> rfl

theorem isAlpha_of_recased (hrecased : Recased style.name name) :
    ∀ character ∈ name.toList, character.isAlpha = true :=
  hrecased.forall_mem (fun hcases => iff_of_true hcases.isAlpha.1 hcases.isAlpha.2)
    style.isAlpha_of_mem_name

theorem names_iff : style.Names text ↔ Recased style.name (Text.trim text) := by
  constructor
  · rintro ⟨name, hrecased, hpadded⟩
    have htight : Text.Tight name := by
      rw [← Text.trim_eq_self_iff]
      apply Text.trim_eq_self
      intro character hcharacter
      exact Text.isBlank_of_isAlpha (isAlpha_of_recased hrecased character hcharacter)
    rwa [Text.trim_of_padded htight hpadded]
  · intro hrecased
    exact ⟨_, hrecased, Text.padded_trim text⟩

/-- Every character of a text that names a style is a letter or a blank. -/
theorem Names.isAlpha (hnames : style.Names text) (hcharacter : character ∈ text.toList)
    (hvisible : Text.isBlank character = false) : character.isAlpha = true := by
  obtain ⟨name, hrecased, front, back, hfront, hback, rfl⟩ := hnames
  rw [String.toList_append, String.toList_append, List.mem_append, List.mem_append] at hcharacter
  rcases hcharacter with (hcharacter | hcharacter) | hcharacter
  · rw [List.all_eq_true.mp hfront character hcharacter] at hvisible
    contradiction
  · exact isAlpha_of_recased hrecased character hcharacter
  · rw [List.all_eq_true.mp hback character hcharacter] at hvisible
    contradiction

theorem Names.not_isBlankText (hnames : style.Names text) : Text.isBlankText text = false := by
  rw [Bool.eq_false_iff, Ne, Text.isBlankText_iff]
  intro hblank
  rw [names_iff, Text.recased_iff, hblank] at hnames
  cases style <;> contradiction

theorem names_congr (hrecased : Recased (Text.trim text) (Text.trim other)) :
    style.Names other ↔ style.Names text := by
  rw [names_iff, names_iff]
  exact ⟨fun hnames => hnames.trans hrecased.symm, fun hnames => hnames.trans hrecased⟩

theorem parse_eq_ok_iff_names : parse text = .ok style ↔ style.Names text := by
  rw [parse_eq_ok_iff, sameLetters_iff, names_iff, Text.recased_iff]

theorem parse_eq_error_iff {error : InvalidStyle} :
    parse text = .error error ↔ error = ⟨text⟩ ∧ ∀ style : Style, ¬ style.Names text := by
  simp only [← parse_eq_ok_iff_names]
  cases hparse : parse text with
  | ok style => simp
  | error other =>
      obtain rfl : other.text = text := text_of_parse hparse
      simp [eq_comm]

theorem toOption_parse_eq_some_iff : (parse text).toOption = some style ↔ style.Names text := by
  rw [← parse_eq_ok_iff_names]
  cases parse text <;> simp [Except.toOption]

theorem toOption_parse_congr (hrecased : Recased (Text.trim text) (Text.trim other)) :
    (parse other).toOption = (parse text).toOption := by
  ext style
  rw [toOption_parse_eq_some_iff, toOption_parse_eq_some_iff, names_congr hrecased]

theorem tag_eq_name (style : Style) : style.tag = style.name := by
  cases style <;> decide

/-- A record has the word in capitals, just as it stands. -/
theorem ofJson?_string_eq_some_iff : ofJson? (.string text) = some style ↔ text = style.tag := by
  rw [tag_eq_name, ofJson?]
  constructor
  · intro hfound
    have hname := List.find?_some hfound
    exact (beq_iff_eq.mp hname).symm
  · rintro rfl
    cases style <;> rfl

/-- A text is read as the style that it names, and one that names no style is rejected as it
stands. -/
theorem parse_iff_named (text : String) :
    (∀ style : Style, parse text = .ok style ↔ style.Names text) ∧
    (∀ error, parse text = .error error ↔ error = ⟨text⟩ ∧ ∀ style : Style, ¬ style.Names text) ∧
    (∀ character ∈ text.toList, Text.isBlank character = false → character.isAlpha = false →
      parse text = .error ⟨text⟩) ∧
    (Text.isBlankText text = true → parse text = .error ⟨text⟩) ∧
    (∀ other, Recased text other → (parse other).toOption = (parse text).toOption) ∧
    (∀ padded, Padded text padded → (parse padded).toOption = (parse text).toOption) ∧
    (∀ style : Style, parse style.name = .ok style) ∧
    ∀ style, (ofJson? (.string text) = some style ↔ text = style.tag) ∧
      (ofJson? (.string text) = some style → parse text = .ok style) := by
  refine ⟨fun style => parse_eq_ok_iff_names, fun error => parse_eq_error_iff, ?_, ?_, ?_, ?_,
    parse_name, ?_⟩
  · intro character hcharacter hvisible hother
    refine parse_eq_error_iff.mpr ⟨rfl, fun style hnames => ?_⟩
    rw [hnames.isAlpha hcharacter hvisible] at hother
    contradiction
  · intro hblank
    refine parse_eq_error_iff.mpr ⟨rfl, fun style hnames => ?_⟩
    rw [hnames.not_isBlankText] at hblank
    contradiction
  · intro other hrecased
    exact toOption_parse_congr hrecased.trim
  · intro padded hpadded
    apply toOption_parse_congr
    rw [hpadded.trim_eq]
    exact .refl _
  · intro style
    refine ⟨ofJson?_string_eq_some_iff, fun hdecoded => ?_⟩
    obtain rfl := ofJson?_string_eq_some_iff.mp hdecoded
    rw [tag_eq_name]
    exact parse_name style

/-- The Kelvin sign is no letter K. -/
example : parse "\u212aotlinlang" = .error ⟨"\u212aotlinlang"⟩ := by decide

end CodeFormatting.Ktfmt.Style
