import CodeFormatting.Shell.Process
namespace CodeFormatting.Shell

/-! Words are replaced by what they stand for. The values of expansions that are not quoted
fall into several arguments, and arguments that are patterns are replaced by the files that
they match. -/

/-! Patterns -/

/-- A character with whether it can have a meaning in a pattern. -/
abbrev Marked := Char × Bool

/-- Whether a pattern matches a whole text. A star stands for any text, a question mark for any
character and brackets for one of a set. -/
def matchesPattern : Nat → List Marked → Octets → Bool
  | 0, _, _ => false
  | _ + 1, [], text => text.isEmpty
  | fuel + 1, ('*', true) :: rest, text =>
    matchesPattern fuel rest text ||
      (!text.isEmpty && matchesPattern fuel (('*', true) :: rest) text.tail)
  | _ + 1, _, [] => false
  | fuel + 1, ('?', true) :: rest, _ :: text => matchesPattern fuel rest text
  | fuel + 1, ('[', true) :: rest, character :: text =>
    match readBracket? '!' (rest.map Prod.fst) with
    | some (accepts, after) =>
      accepts character && matchesPattern fuel (rest.drop (rest.length - after.length)) text
    | none => character = '[' && matchesPattern fuel rest text
  | fuel + 1, (wanted, _) :: rest, character :: text =>
    wanted = character && matchesPattern fuel rest text

def patternMatches (pattern : List Marked) (text : Octets) : Bool :=
  matchesPattern (pattern.length + text.length + 1) pattern text

/-- Whether a text has characters that mean something in a pattern. -/
def isPattern (text : List Marked) : Bool :=
  text.any fun (character, active) => active && ['*', '?', '['].contains character

/-- What is left of a value without what a pattern matches at one end of it. -/
def trimmed (atFront longest : Bool) (pattern : List Marked) (value : Octets) : Octets :=
  let counts := List.range (value.length + 1)
  let fits (count : Nat) : Bool :=
    if atFront then patternMatches pattern (value.take count)
    else patternMatches pattern (value.drop (value.length - count))
  match if longest then counts.reverse.find? fits else counts.find? fits with
  | none => value
  | some count => if atFront then value.drop count else value.take (value.length - count)

/-! Splitting -/

/-- A piece of a word: a character of the script, which can have a meaning in a pattern, a
character of a value, the end of an argument, or a mark where quotes stood. -/
inductive Piece
  | written (character : Char) (active : Bool)
  | found (character : Char)
  | boundary
  | mark
  deriving DecidableEq, Repr

namespace Piece

def ofQuoted (text : Octets) : List Piece :=
  .mark :: text.map (.written · false)

def ofValue (quoted : Bool) (text : Octets) : List Piece :=
  if quoted then text.map (.written · false) else text.map .found

/-- The characters of pieces that do not split. -/
def marked (pieces : List Piece) : List Marked :=
  pieces.filterMap fun piece =>
    match piece with
    | .written character active => some (character, active)
    | .found character => some (character, true)
    | .boundary => some (' ', false)
    | .mark => none

def text (pieces : List Piece) : Octets :=
  (marked pieces).map Prod.fst

/-- The arguments into which pieces split, the present one in reverse. White space around a
separator belongs to it. -/
def split (separators : Octets) (isAfterSpace : Bool) :
    Option (List Marked) → List Piece → List (List Marked)
  | current, [] => ended current
  | current, .written character active :: rest =>
    split separators false (some ((character, active) :: current.getD [])) rest
  | current, .mark :: rest => split separators false (some (current.getD [])) rest
  | current, .boundary :: rest => ended current ++ split separators false none rest
  | current, .found character :: rest =>
    if !separators.contains character then
      split separators false (some ((character, true) :: current.getD [])) rest
    else if isSpace character then
      ended current ++ split separators (isAfterSpace || current.isSome) none rest
    else if isAfterSpace then split separators false none rest
    else (current.getD []).reverse :: split separators false none rest
where
  ended (current : Option (List Marked)) : List (List Marked) :=
    (current.map List.reverse).toList

end Piece

/-! Files that match a pattern -/

namespace Process

def patternPieces : List Marked → List (List Marked)
  | [] => [[]]
  | ('/', _) :: rest => [] :: patternPieces rest
  | item :: rest =>
    match patternPieces rest with
    | [] => [[item]]
    | piece :: pieces => (item :: piece) :: pieces

/-- The names in a directory that a piece of a pattern matches. A dot in front of a name has
to be written. -/
def matching (process : Process) (around : Octets) (piece : List Marked) : List Octets :=
  match process.locate (if around.isEmpty then ['.'] else around) with
  | .error _ => []
  | .ok location =>
    ((process.world.entries location).map octetsOf).filter fun name =>
      (name.head? ≠ some '.' || (piece.head?.map Prod.fst) = some '.') &&
        patternMatches piece name

/-- The paths that begin with a text and go on like the pieces of a pattern. -/
def pathsFrom (process : Process) (around : Octets) : List (List Marked) → List Octets
  | [] => if (process.node? around).isSome then [around] else []
  | piece :: rest =>
    let sign : Octets := if rest.isEmpty then [] else ['/']
    if isPattern piece then
      (process.matching around piece).flatMap fun name =>
        let path := around ++ name
        if rest.isEmpty then [path]
        else if process.isDirectory path then pathsFrom process (path ++ sign) rest
        else []
    else pathsFrom process (around ++ piece.map Prod.fst ++ sign) rest

def paths (process : Process) (item : List Marked) : List Octets :=
  let found := if isPattern item && !process.options.contains 'f'
    then process.pathsFrom [] (patternPieces item) else []
  if found.isEmpty then [item.map Prod.fst] else found

/-! Values of parameters -/

def parameter? (process : Process) (name : Octets) : Option Octets :=
  match name with
  | ['#'] => some (Decimal.numeral process.arguments.length)
  | ['?'] => some (Decimal.numeral process.status)
  | ['$'] => some "4242".toList
  | ['-'] => some process.options
  | ['0'] => some process.name
  | name =>
    if Decimal.isNumeral name then process.arguments[Decimal.value name - 1]?
    else process.value? name

def isArguments (name : Octets) : Bool :=
  name = ['@'] || name = ['*']

/-- The pieces of the value of a parameter, if it has one. -/
def parameterPieces? (process : Process) (name : Octets) (splits quoted : Bool) :
    Option (List Piece) :=
  if !isArguments name then (process.parameter? name).map (Piece.ofValue quoted)
  else if splits && (name = ['@'] || !quoted) then
    some ([Piece.boundary].intercalate (process.arguments.map fun argument =>
      if quoted then Piece.ofQuoted argument else Piece.ofValue false argument))
  else some (Piece.ofValue quoted ((process.separators.take 1).intercalate process.arguments))

end Process

/-! Expansion -/

/-- A word with the home directory in place of a tilde in front of it. -/
def withHome (process : Process) (word : Word) : Word :=
  match word, process.value? "HOME".toList with
  | .plain ['~'] :: [], some home => [.quoted home]
  | .plain ('~' :: '/' :: text) :: rest, some home => .quoted home :: .plain ('/' :: text) :: rest
  | word, _ => word

namespace Activity

/-- The last newlines of an output do not count, nor do octets that are zero. -/
def outputText (text : Octets) : Octets :=
  ((text.filter (· ≠ '\x00')).reverse.dropWhile (· = '\n')).reverse

def arithmeticText (source : Octets) : Activity Octets := do
  let process ← get
  match Arithmetic.evaluate (fun name => (process.value? name).getD []) source with
  | .ok value => return signed value
  | .error (.illegalNumber text) => fail ("Illegal number: ".toList ++ text)
  | .error (.expected what) => failFor ("expecting " ++ what)
  | .error .divisionByZero => failFor "division by zero"
where
  failFor (reason : String) : Activity Octets :=
    fail ("arithmetic expression: ".toList ++ reason.toList ++ ": \"".toList ++ source ++ ['"'])

section Expanding

/-! What a substitution writes is found out by running its commands. -/

variable (output : Option Command → Activity Octets)

mutual

/-- The pieces of a word, which may split or not. -/
def wordPieces : Nat → Bool → Word → Activity (List Piece)
  | 0, _, _ => return []
  | fuel + 1, splits, word => do
    let pieces ← (withHome (← get) word).mapM (partPieces fuel splits)
    return pieces.flatten

def partPieces : Nat → Bool → Part → Activity (List Piece)
  | 0, _, _ => return []
  | fuel + 1, splits, part => do
    match part with
    | .plain text => return text.map (.written · true)
    | .quoted text => return Piece.ofQuoted text
    | .output body quoted => return Piece.ofValue quoted (outputText (← output body))
    | .arithmetic source quoted =>
      let source ← wordPieces fuel false source
      return Piece.ofValue quoted (← arithmeticText (Piece.text source))
    | .parameter name use quoted => do
      let process ← get
      let present := process.parameterPieces? name splits quoted
      if present.isNone && process.options.contains 'u' &&
          (use matches .value | .length | .trimmed _ _ _) then
        fail (name ++ ": parameter not set".toList)
      let isMissing (emptyToo : Bool) : Bool :=
        present.isNone || (emptyToo && (present.getD []).isEmpty)
      let instead (word : Word) : Activity (List Piece) := do
        let pieces ← wordPieces fuel splits word
        return if quoted then pieces else pieces.map loosened
      match use with
      | .invalid => fail "Bad substitution".toList
      | .value => return present.getD []
      | .length =>
        return Piece.ofValue quoted (Decimal.numeral (Piece.text (present.getD [])).length)
      | .fallback emptyToo word =>
        if isMissing emptyToo then instead word else return present.getD []
      | .alternative emptyToo word =>
        if isMissing emptyToo then return [] else instead word
      | .assigned emptyToo word =>
        if isMissing emptyToo then
          let value := Piece.text (← wordPieces fuel false word)
          assign name value
          return Piece.ofValue quoted value
        else return present.getD []
      | .demanded emptyToo word =>
        if isMissing emptyToo then
          let reason := Piece.text (← wordPieces fuel false word)
          let unset := "parameter not set" ++ if emptyToo then " or null" else ""
          fail (name ++ ": ".toList ++ if reason.isEmpty then unset.toList else reason)
        else return present.getD []
      | .trimmed atFront longest pattern =>
        let pattern := Piece.marked (← wordPieces fuel false pattern)
        return Piece.ofValue quoted (trimmed atFront longest pattern (Piece.text (present.getD [])))
where
  loosened (piece : Piece) : Piece :=
    match piece with
    | .written character true => .found character
    | piece => piece

end

def expansionDepth : Nat :=
  10000

def expandPattern (word : Word) : Activity (List Marked) := do
  return Piece.marked (← wordPieces output expansionDepth false word)

/-- The text of a word that is not split. -/
def expandText (word : Word) : Activity Octets := do
  return (← expandPattern output word).map Prod.fst

def expandWord (word : Word) : Activity (List Octets) := do
  let pieces ← wordPieces output expansionDepth true word
  let process ← get
  return (Piece.split process.separators false none pieces).flatMap process.paths

end Expanding

/-! Redirections -/

def openStream (process : Process) (location : Location) (mode : OpenMode) :
    Except IoError (Stream × World) :=
  let world := process.world
  let stream := Stream.file location 0 mode
  if location = ["null", "dev"] then .ok (.nothing, world)
  else
    match world.files.node location, mode with
    | none, .read => .error .notFound
    | some _, .read => .ok (stream, world)
    | some .directory, _ => .error .isADirectory
    | some (.file content executable), mode =>
      let kept := if mode = .append then content else .empty
      .ok (stream, world.put location (.file kept executable))
    | none, _ =>
      match world.files.node location.tail with
      | some .directory => .ok (stream, world.put location (.file .empty false))
      | _ => .error .notFound

/-- Why a file could not be opened, in the words for opening or for making one. -/
def refusal (makes : Bool) (path : Octets) (error : IoError) : Octets :=
  let reason := match error with
    | .notFound | .notADirectory => if makes then "Directory nonexistent" else "No such file"
    | error => error.reason
  (if makes then "cannot create " else "cannot open ").toList ++ path ++ ": ".toList ++
    octetsOf reason

def duplicate (descriptor : Nat) (text : Octets) : Activity Unit := do
  match text with
  | ['-'] => modify (·.withDescriptor descriptor none)
  | [digit] =>
    let process ← get
    match process.descriptors.lookup (digit.toNat - 48) with
    | some number => set (process.withDescriptor descriptor (some number))
    | none => fail (text ++ ": Bad file descriptor".toList)
  | _ => fail "Syntax error: Bad fd number".toList

/-- Makes a descriptor refer to a file, a text, what another one refers to, or nothing. -/
def redirect (output : Option Command → Activity Octets) :
    Redirection → Activity Unit
  | .copy descriptor other => do duplicate descriptor (← expandText output other)
  | .text descriptor body => do
    let number ← addStream (.pipe (← expandText output body) [])
    modify (·.withDescriptor descriptor (some number))
  | .file descriptor mode path => do
    let path ← expandText output path
    let process ← get
    match (process.locate path).bind (openStream process · mode) with
    | .ok (stream, world) =>
      let (number, world) := world.addStream stream
      set ({ process with world }.withDescriptor descriptor (some number))
    | .error error => fail (refusal (mode ≠ .read) path error)

end Activity

end CodeFormatting.Shell
