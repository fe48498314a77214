import CodeFormatting.Engine
import CodeFormatting.Machine
import CodeFormatting.Text.Occurrence
namespace CodeFormatting

/-! A substitution engine replaces texts by others, one rule after the other. It can be told
to reject texts that contain a mark, and to remove a directory before it starts. -/

structure Substitution where
  rejected : Option String := none
  complaint : String := "engine failed"
  removed : Option Path := none
  rules : List (String × String) := []
  deriving DecidableEq, Repr, Inhabited

namespace Substitution

/-- Replaces every occurrence, where `pending` characters still belong to the last one. -/
def replaceFrom (wanted written : List Char) (pending : Nat) : List Char → List Char
  | [] => []
  | present :: rest =>
    match pending with
    | more + 1 => replaceFrom wanted written more rest
    | 0 =>
      if wanted.isPrefixOf (present :: rest) then
        written ++ replaceFrom wanted written (wanted.length - 1) rest
      else present :: replaceFrom wanted written 0 rest

/-- Replaces the occurrences of a text from left to right; the empty text occurs around
every character. -/
def replace (wanted written text : List Char) : List Char :=
  if wanted.isEmpty then
    written ++ text.flatMap fun character => character :: written
  else replaceFrom wanted written 0 text

def substituted (rules : List (String × String)) (text : String) : String :=
  rules.foldl (fun text (wanted, written) =>
    String.ofList (replace wanted.toList written.toList text.toList)) text

def removeDirectory (path : Path) : Action (Except IoError Unit) := fun machine =>
  let (files, answer) := machine.files.removeDirectory machine.location path
  (answer, { machine with files })

def rejects (substitution : Substitution) (input : String) : Bool :=
  match substitution.rejected with
  | some mark => Text.occurs mark input
  | none => false

def engine (substitution : Substitution) : Engine Machine := fun input => do
  if substitution.rejects input then return .error (.rejected substitution.complaint)
  match substitution.removed with
  | none => return .ok (substituted substitution.rules input)
  | some path =>
    match ← removeDirectory path with
    | .error error => return .error (.io error)
    | .ok () => return .ok (substituted substitution.rules input)

end Substitution

end CodeFormatting
