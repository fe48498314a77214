import CodeFormatting.Shell.Octets
namespace CodeFormatting.Shell

/-! A script is made of commands, and commands of words. A word is a row of parts: texts, with
or without quotes around them, and expansions, which are replaced when the command is run. -/

inductive OpenMode
  | read
  | write
  | append
  deriving DecidableEq, Repr

mutual

/-- A part of a word. An empty quoted text marks where quotes stood. -/
inductive Part
  | plain (text : Octets)
  | quoted (text : Octets)
  | parameter (name : Octets) (use : Use) (quoted : Bool)
  | output (body : Option Command) (quoted : Bool)
  | arithmetic (source : List Part) (quoted : Bool)

/-- What becomes of the value of a parameter. A flag tells whether an empty value counts as
none, or at which end of the value the longest or the shortest match is left out. -/
inductive Use
  | value
  | length
  | fallback (emptyToo : Bool) (word : List Part)
  | alternative (emptyToo : Bool) (word : List Part)
  | assigned (emptyToo : Bool) (word : List Part)
  | demanded (emptyToo : Bool) (word : List Part)
  | trimmed (atFront longest : Bool) (pattern : List Part)
  | invalid

/-- A change of what a descriptor refers to: a file, what another descriptor refers to, or a
text. -/
inductive Redirection
  | file (descriptor : Nat) (mode : OpenMode) (path : List Part)
  | copy (descriptor : Nat) (other : List Part)
  | text (descriptor : Nat) (body : List Part)

inductive Command
  | simple (line : Nat) (assignments words : List (List Part)) (changes : List Redirection)
  | redirected (body : Command) (changes : List Redirection)
  | separate (body : Command)
  | pipeline (parts : List Command)
  | negated (body : Command)
  | both (first second : Command)
  | either (first second : Command)
  | sequence (first second : Command)
  | conditional (condition body : Command) (otherwise : Option Command)
  | loop (wanted : Bool) (condition body : Command)
  | each (name : Octets) (words : List (List Part)) (body : Command)
  | choice (subject : List Part) (branches : List (List (List Part) × Option Command))
  | function (name : Octets) (body : Command)

end

abbrev Word := List Part

instance : Inhabited Command := ⟨.simple 0 [] [] []⟩

namespace Word

/-- Joins neighbouring texts of one kind. -/
def joined : Word → Word
  | [] => []
  | .plain first :: rest =>
    match joined rest with
    | .plain second :: rest => .plain (first ++ second) :: rest
    | rest => .plain first :: rest
  | .quoted first :: rest =>
    match joined rest with
    | .quoted second :: rest => .quoted (first ++ second) :: rest
    | rest => .quoted first :: rest
  | part :: rest => part :: joined rest

/-- The text of a word in which nothing is expanded. -/
def text (word : Word) : Octets :=
  word.flatMap fun part =>
    match part with
    | .plain text | .quoted text => text
    | _ => []

/-- The text of a word without quotes and expansions. -/
def plain? : Word → Option Octets
  | [.plain text] => some text
  | _ => none

/-- The name and the value of a word that begins like an assignment. -/
def assignment? : Word → Option (Octets × Word)
  | .plain text :: rest => (Shell.assignment? text).map fun (name, value) =>
    (name, if value.isEmpty then rest else .plain value :: rest)
  | _ => none

end Word

end CodeFormatting.Shell
