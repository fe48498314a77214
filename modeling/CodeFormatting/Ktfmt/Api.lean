import CodeFormatting.Artifact.Repository
import CodeFormatting.Engine
import CodeFormatting.Ktfmt.Options
import CodeFormatting.Ktfmt.Style
namespace CodeFormatting.Ktfmt

/-! What a loaded formatter offers. Its constants are asked first for the options of a
style, and a factory method only where there is no such constant. -/

variable {World : Type}

structure Api (World : Type) where
  format : String → StateM World (Except EngineError String)
  formatWithOptions : Options → String → StateM World (Except EngineError String)
  formatConstant : Format → StateM World (Except LookupError Options)
  companionStyle : Factory → StateM World (Except LookupError Options)

abbrev Loader (World : Type) := Bundle → StateM World (Except EngineError (Api World))

inductive OptionsSource
  | formatConstant
  | companionFactory
  deriving DecidableEq, Repr

structure ResolvedOptions where
  options : Options
  source : OptionsSource
  deriving DecidableEq, Repr

/-- The options of a style; the default style has none. -/
def resolveOptions (api : Api World) (style : Style) :
    StateM World (Except LookupError (Option ResolvedOptions)) :=
  match style.accessors? with
  | none => pure (.ok none)
  | some (constant, factory) => do
    match ← api.formatConstant constant with
    | .ok options => return .ok (some ⟨options, .formatConstant⟩)
    | .error (.fieldNotFound _) =>
      match ← api.companionStyle factory with
      | .ok options => return .ok (some ⟨options, .companionFactory⟩)
      | .error error => return .error error
    | .error error => return .error error

/-- The engine that formats in the style whose options were resolved. -/
def Api.engine (api : Api World) : Option ResolvedOptions → Engine World
  | none => api.format
  | some resolved => api.formatWithOptions resolved.options

end CodeFormatting.Ktfmt
