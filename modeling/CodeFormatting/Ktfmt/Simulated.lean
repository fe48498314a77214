import CodeFormatting.Ktfmt.Api
import CodeFormatting.Substitution
namespace CodeFormatting.Ktfmt

/-! A simulated formatter answers from tables and formats by substitution. Every call of it is
noted in the journal, so that a run shows what was asked for and in which order. -/

structure Simulated where
  loadFailure : Option String := none
  constants : List (String × Except LookupError Options) := []
  companions : List (String × Except LookupError Options) := []
  substitution : Substitution := {}

/-- A provisioner that answers with the same files or the same error every time. -/
structure SimulatedProvisioner where
  files : List Path := []
  failure : Option (Coordinate → ProvisionError) := none

def callTarget : String :=
  "call"

def note (call : String) : Action Unit :=
  log .trace callTarget call

def notes (records : List Log.Record) : List String :=
  (records.filter fun record => record.target == callTarget).map (·.text)

/-- The options by value, as they stand in front of a text formatted with them. -/
def optionsMark (options : Options) : String :=
  "[" ++ options.style.name ++ " " ++ toString options.maxWidth.toNat ++ " " ++
    toString options.blockIndent.toNat ++ " " ++ toString options.continuationIndent.toNat ++
    " " ++ toString options.removeUnusedImports ++ "]"

namespace Simulated

def api (simulated : Simulated) : Api Machine where
  format input := do
    note "format"
    simulated.substitution.engine input
  formatWithOptions options input := do
    note "format_with_options"
    match ← simulated.substitution.engine input with
    | .ok output => return .ok (optionsMark options ++ output)
    | .error error => return .error error
  formatConstant constant := do
    note ("format_constant " ++ constant.fieldName)
    return (simulated.constants.lookup constant.fieldName).getD
      (.error (.fieldNotFound constant.fieldName))
  companionStyle factory := do
    note ("companion_style " ++ factory.methodName)
    return (simulated.companions.lookup factory.methodName).getD
      (.error (.methodNotFound factory.methodName))

def loader (simulated : Simulated) : Loader Machine := fun bundle => do
  note ("load " ++ bundle.coordinate.text ++ " [" ++
    ",".intercalate (bundle.files.map Path.text) ++ "]")
  match simulated.loadFailure with
  | some message => return .error (.rejected message)
  | none => return .ok simulated.api

end Simulated

def SimulatedProvisioner.provisioner (simulated : SimulatedProvisioner) :
    Provisioner Machine := fun coordinate => do
  note ("provision " ++ coordinate.text)
  match simulated.failure with
  | some failure => return .error (failure coordinate)
  | none => return .ok ⟨coordinate, simulated.files⟩

end CodeFormatting.Ktfmt
