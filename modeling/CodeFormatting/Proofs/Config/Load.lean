import CodeFormatting.Config.Load
namespace CodeFormatting

/-! Where a configuration is obtained from. The check of its style is made on the text alone, and
nothing that happens to the configuration afterwards changes the style. -/

namespace KtfmtConfig

theorem isBlankText_effectiveVersion (config : KtfmtConfig) :
    Text.isBlankText config.effectiveVersion = false := by
  rw [effectiveVersion]
  cases hversion : config.version.filter fun version => !Text.isBlankText version with
  | none => decide
  | some version =>
      obtain ⟨-, hvisible⟩ := Option.filter_eq_some_iff.mp hversion
      simpa using hvisible

end KtfmtConfig

namespace Config

variable {machine : Machine} {path directory : Path} {text : String} {config : Config}

theorem exists_style_of_ofTree {tree : Toml} (htree : ofTree tree = .ok config) :
    ∃ style, config.ktfmt.effectiveStyle = .ok style := by
  rw [ofTree] at htree
  split at htree
  · cases htree
  · split at htree
    · cases htree
    · next style hstyle =>
        cases htree
        exact ⟨style, hstyle⟩

theorem exists_style_of_parse (hparse : parse text = .ok config) :
    ∃ style, config.ktfmt.effectiveStyle = .ok style := by
  rw [parse] at hparse
  split at hparse
  · cases hparse
  · exact exists_style_of_ofTree hparse

theorem exists_parse_of_load (hload : load machine path = .ok config) :
    ∃ text document, machine.readText path = .ok text ∧ parse text = .ok document ∧
      config.ktfmt.style = document.ktfmt.style := by
  rw [load] at hload
  split at hload
  · cases hload
  · next text htext =>
      cases hparse : parse text with
      | error error =>
          rw [hparse] at hload
          cases hload
      | ok document =>
          rw [hparse] at hload
          refine ⟨text, document, htext, hparse, ?_⟩
          cases hparent : path.parent <;> rw [hparent] at hload <;> cases hload <;> rfl

/-- The text of the configuration file in a directory, if there is one. -/
def textIn? (machine : Machine) (directory : Path) : Option String :=
  if machine.isFile (directory.join ⟨fileName⟩) then
    (machine.readText (directory.join ⟨fileName⟩)).toOption
  else none

/-- The configurations there are, each with the text that it is obtained from. -/
inductive Obtained : Option String → Config → Prop
  | parsed {text : String} {config : Config} (hparse : parse text = .ok config) :
      Obtained (some text) config
  | loaded {machine : Machine} {path : Path} {config : Config}
      (hload : load machine path = .ok config) :
      Obtained (machine.readText path).toOption config
  | discovered {machine : Machine} {directory : Path} {config : Config}
      (hdiscover : discover machine directory = .ok config) :
      Obtained (textIn? machine directory) config

/-- What a configuration says of the style is what its text says. -/
inductive Documented : Option String → Option String → Prop
  | absent : Documented none none
  | written {text : String} {document : Config} (hparse : parse text = .ok document) :
      Documented (some text) document.ktfmt.style

theorem documented_of_load (hload : load machine path = .ok config) :
    Documented (machine.readText path).toOption config.ktfmt.style := by
  obtain ⟨text, document, htext, hparse, hstyle⟩ := exists_parse_of_load hload
  rw [htext, hstyle]
  exact .written hparse

theorem Obtained.documented {source : Option String} (hobtained : Obtained source config) :
    Documented source config.ktfmt.style := by
  cases hobtained with
  | parsed hparse => exact .written hparse
  | loaded hload => exact documented_of_load hload
  | @discovered machine directory _ hdiscover =>
      rw [discover] at hdiscover
      rw [textIn?]
      split at hdiscover
      · next hfile =>
          rw [if_pos hfile]
          exact documented_of_load hdiscover
      · next hnone =>
          rw [if_neg hnone]
          cases hdiscover
          exact .absent

end Config

end CodeFormatting
