import CodeFormatting.Command.Help
import CodeFormatting.Ktfmt.Style
import CodeFormatting.Path
import CodeFormatting.Text.Pieces
namespace CodeFormatting.Command

/-! Arguments are read from left to right. The first operand names a command, and what
follows belongs to it. An option takes its text from behind an equals sign or from the
next argument, two dashes end the options, and only a location may be named more
than once. -/

structure KtfmtArguments where
  version : Option String := none
  style : Option Ktfmt.Style := none
  repository : Option Path := none
  java : Option Path := none
  check : Bool := false
  files : List Path := []
  deriving DecidableEq, Repr, Inhabited

inductive Layout
  | json
  | raw
  deriving DecidableEq, Repr

structure NpmArguments where
  executable : Option Path := none
  npmrc : Option Path := none
  locations : List Path := []
  layout : Option Layout := none
  deriving DecidableEq, Repr, Inhabited

inductive Task
  | ktfmt (arguments : KtfmtArguments)
  | npm (arguments : NpmArguments)
  deriving DecidableEq, Repr

structure Arguments where
  config : Option Path
  task : Task
  deriving DecidableEq, Repr

inductive UsageError
  | unexpected (argument : String)
  | repeated (option : String)
  | missingText (option : String)
  | invalidText (option text : String)
  | missingCommand
  deriving DecidableEq, Repr

def UsageError.message : UsageError → String
  | .unexpected argument => "unexpected argument '" ++ argument ++ "' found"
  | .repeated option => "the argument '" ++ option ++ "' cannot be used multiple times"
  | .missingText option => "a value is required for '" ++ option ++ "' but none was supplied"
  | .invalidText option text => "invalid value '" ++ text ++ "' for '" ++ option ++ "'"
  | .missingCommand => "'" ++ programName ++ "' requires a subcommand but one was not provided"

inductive Stop
  | help (page : Page)
  | version
  | usage (error : UsageError)
  deriving DecidableEq, Repr

/-- The command that is being read; the help command reads the name of a page. -/
inductive Reading
  | program
  | ktfmt (arguments : KtfmtArguments)
  | npm (arguments : NpmArguments)
  | help (page : Page)
  deriving DecidableEq, Repr

/-- What was read so far, with the configuration that was named before the command and
the one that was named after it. -/
structure Progress where
  before : Option Path := none
  config : Option Path := none
  reading : Reading := .program
  deriving DecidableEq, Repr

abbrev Answer := Except Stop Progress

/-- A switch is complete with its name, the other options take a text. -/
inductive Effect
  | switch (answer : Answer)
  | text (take : String → Answer)

def usage {Result : Type} (error : UsageError) : Except Stop Result :=
  .error (.usage error)

/-- The text of an option that may be given once. -/
def once {Value : Type} (option : String) (present : Option Value) (value : Value) :
    Except Stop (Option Value) :=
  match present with
  | some _ => usage (.repeated option)
  | none => .ok (some value)

def pathOf (option text : String) : Except Stop Path :=
  if text.isEmpty then usage (.missingText option) else .ok ⟨text⟩

def oncePath (option : String) (present : Option Path) (text : String) :
    Except Stop (Option Path) := do
  once option present (← pathOf option text)

def styleOf (text : String) : Except Stop Ktfmt.Style :=
  match Ktfmt.Style.parse text with
  | .ok style => .ok style
  | .error _ => usage (.invalidText "style" text)

def layoutOf (text : String) : Except Stop Layout :=
  if text = "json" then .ok .json
  else if text = "raw" then .ok .raw
  else usage (.invalidText "output" text)

namespace Progress

def page (progress : Progress) : Page :=
  match progress.reading with
  | .program => .program
  | .ktfmt _ => .ktfmt
  | .npm _ => .npm
  | .help _ => .help

def withKtfmt (progress : Progress) (answer : Except Stop KtfmtArguments) : Answer := do
  return { progress with reading := .ktfmt (← answer) }

def withNpm (progress : Progress) (answer : Except Stop NpmArguments) : Answer := do
  return { progress with reading := .npm (← answer) }

def withConfig (progress : Progress) (text : String) : Answer :=
  match progress.reading with
  | .program => do
    return { progress with before := ← oncePath "config" progress.before text }
  | _ => do
    return { progress with config := ← oncePath "config" progress.config text }

end Progress

namespace KtfmtArguments

def option? (arguments : KtfmtArguments) (name : String) :
    Option (String → Except Stop KtfmtArguments) :=
  match name with
  | "ktfmt-version" => some fun text => do
    return { arguments with version := ← once name arguments.version text }
  | "style" => some fun text => do
    return { arguments with style := ← once name arguments.style (← styleOf text) }
  | "repository" => some fun text => do
    return { arguments with repository := ← oncePath name arguments.repository text }
  | "java" => some fun text => do
    return { arguments with java := ← oncePath name arguments.java text }
  | _ => none

def checked (arguments : KtfmtArguments) : Except Stop KtfmtArguments :=
  if arguments.check then usage (.repeated "check") else .ok { arguments with check := true }

def operand (arguments : KtfmtArguments) (text : String) : Except Stop KtfmtArguments := do
  return { arguments with files := arguments.files ++ [← pathOf "files" text] }

end KtfmtArguments

namespace NpmArguments

def option? (arguments : NpmArguments) (name : String) :
    Option (String → Except Stop NpmArguments) :=
  match name with
  | "executable" => some fun text => do
    return { arguments with executable := ← oncePath name arguments.executable text }
  | "npmrc" => some fun text => do
    return { arguments with npmrc := ← oncePath name arguments.npmrc text }
  | "npmrc-location" => some fun text => do
    return { arguments with locations := arguments.locations ++ [← pathOf name text] }
  | "output" => some fun text => do
    return { arguments with layout := ← once name arguments.layout (← layoutOf text) }
  | _ => none

end NpmArguments

namespace Progress

/-- What an option with a long name does here. -/
def long? (progress : Progress) (name : String) : Option Effect :=
  match progress.reading, name with
  | .help _, _ => none
  | _, "help" => some (.switch (.error (.help progress.page)))
  | _, "config" => some (.text progress.withConfig)
  | .program, "version" => some (.switch (.error .version))
  | .program, _ => none
  | .ktfmt arguments, "check" => some (.switch (progress.withKtfmt arguments.checked))
  | .ktfmt arguments, _ =>
    (arguments.option? name).map fun take => .text fun text => progress.withKtfmt (take text)
  | .npm arguments, _ =>
    (arguments.option? name).map fun take => .text fun text => progress.withNpm (take text)

def longName? (progress : Progress) (letter : Char) : Option String :=
  match progress.reading, letter with
  | .help _, _ => none
  | _, 'h' => some "help"
  | .program, 'V' => some "version"
  | .npm _, 'o' => some "output"
  | _, _ => none

def operand (progress : Progress) (text : String) : Answer :=
  match progress.reading, text with
  | .program, "ktfmt" => .ok { progress with reading := .ktfmt {} }
  | .program, "npm" => .ok { progress with reading := .npm {} }
  | .program, "help" => .ok { progress with reading := .help .program }
  | .help .program, "ktfmt" => .ok { progress with reading := .help .ktfmt }
  | .help .program, "npm" => .ok { progress with reading := .help .npm }
  | .help .program, "help" => .ok { progress with reading := .help .help }
  | .ktfmt arguments, _ => progress.withKtfmt (arguments.operand text)
  | _, _ => usage (.unexpected text)

/-- What follows two dashes is an operand, but no name of a command. -/
def lateOperand (progress : Progress) (text : String) : Answer :=
  match progress.reading with
  | .ktfmt arguments => progress.withKtfmt (arguments.operand text)
  | _ => usage (.unexpected text)

end Progress

/-- After an option either all is read or a text is still to come. -/
inductive Next
  | done (progress : Progress)
  | wants (option : String) (take : String → Answer)

def finished (answer : Answer) : Except Stop Next := do
  return .done (← answer)

/-- An option with a long name, and with a text if there is an equals sign. -/
def readLong (progress : Progress) (word : List Char) : Except Stop Next :=
  let name := String.ofList (word.takeWhile (· ≠ '='))
  match progress.long? name, word.dropWhile (· ≠ '=') with
  | none, _ => usage (.unexpected name)
  | some (.switch answer), [] => finished answer
  | some (.switch _), _ :: text => usage (.invalidText name (String.ofList text))
  | some (.text take), [] => .ok (.wants name take)
  | some (.text take), _ :: text => finished (take (String.ofList text))

/-- Letters that stand for options. The first that takes a text takes what is left of
them, if anything is. -/
def readLetters (progress : Progress) : List Char → Except Stop Next
  | [] => .ok (.done progress)
  | letter :: rest =>
    match (progress.longName? letter).bind progress.long?, rest with
    | none, _ => usage (.unexpected (String.ofList ['-', letter]))
    | some (.switch answer), _ => do readLetters (← answer) rest
    | some (.text take), [] => .ok (.wants (String.ofList ['-', letter]) take)
    | some (.text take), '=' :: text => finished (take (String.ofList text))
    | some (.text take), _ :: _ => finished (take (String.ofList rest))

/-- A word is no option if it has no dash in front or is a dash alone. -/
def isOperand (word : String) : Bool :=
  match word.toList with
  | '-' :: _ :: _ => false
  | _ => true

def readWord (progress : Progress) (word : String) : Except Stop Next :=
  match word.toList with
  | '-' :: '-' :: name => readLong progress name
  | '-' :: first :: rest => readLetters progress (first :: rest)
  | _ => finished (progress.operand word)

/-- Reads words, of which the first may have to be the text of an option. -/
def readWords : Next → List String → Answer
  | .done progress, [] => .ok progress
  | .wants option _, [] => usage (.missingText option)
  | .wants option take, word :: rest =>
    if isOperand word then do readWords (.done (← take word)) rest
    else usage (.missingText option)
  | .done progress, word :: rest =>
    if word = "--" then rest.foldlM Progress.lateOperand progress
    else do readWords (← readWord progress word) rest

namespace Arguments

/-- What was read once there is nothing more to read. -/
def ofProgress (progress : Progress) : Except Stop Arguments :=
  let config := progress.config.or progress.before
  match progress.reading with
  | .program => usage .missingCommand
  | .ktfmt arguments => .ok ⟨config, .ktfmt arguments⟩
  | .npm arguments => .ok ⟨config, .npm arguments⟩
  | .help page => .error (.help page)

def parse (words : List String) : Except Stop Arguments := do
  ofProgress (← readWords (.done {}) words)

end Arguments

end CodeFormatting.Command
