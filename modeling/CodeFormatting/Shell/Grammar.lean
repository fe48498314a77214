import CodeFormatting.Shell.Reader
namespace CodeFormatting.Shell.Reader

/-! Commands are read from tokens. The commands of a script are read line by line, so that a
line can be carried out before the next one is looked at. -/

/-- Where a list of commands stands: it ends with its line, it has to hold a command, or it may
be empty. -/
inductive ListPlace
  | line
  | needed
  | optional
  deriving DecidableEq, Repr

/-- What a simple command has got so far, in reverse. -/
structure Simple where
  assignments : List Word
  words : List Word
  changes : List Redirection

def Simple.command (simple : Simple) (line : Nat) : Command :=
  .simple line simple.assignments.reverse simple.words.reverse simple.changes.reverse

def sequenced (first : Option Command) (second : Command) : Command :=
  match first with
  | none => second
  | some first => .sequence first second

def withChanges (body : Command) (changes : List Redirection) : Command :=
  if changes.isEmpty then body else .redirected body changes

section Parts

variable (commands : Reader (Option Command))

/-- Takes the lines of a document, which begin behind the present line, out of the text. -/
def takeDocument (isIndented : Bool) (ending : Octets) : Reader Octets := do
  let source ← get
  let front := source.rest.takeWhile (· ≠ '\n')
  let lines := (source.rest.drop (front.length + 1)).splitOn '\n'
  let unindented := lines.map fun line => if isIndented then line.dropWhile (· = '\t') else line
  let body := unindented.takeWhile (· ≠ ending)
  let after := lines.drop (body.length + 1)
  set { source with
    rest := front ++ '\n' :: ['\n'].intercalate after
    taken := source.taken + body.length + 1 }
  return (if after.isEmpty then body.filter (!·.isEmpty) else body).flatMap (· ++ ['\n'])

/-- Reads what stands behind an arrow. Nothing is expanded in a document if there are quotes in
the word that ends it. -/
def readTarget (descriptor : Nat) (arrow : Arrow) : Reader Redirection := do
  match ← readAgain commands, arrow with
  | .word word, .file mode => return .file descriptor mode word
  | .word word, .copy => return .copy descriptor word
  | .word word, .document isIndented =>
    let body ← takeDocument isIndented word.text
    if word.plain?.isNone then return .text descriptor [.quoted body]
    else
      let parts ← within body (readParts commands (body.length + 1) .document [])
      return .text descriptor parts
  | _, _ => failUnexpected

def readChanges : Nat → Reader (List Redirection)
  | 0 => return []
  | fuel + 1 => do
    match ← readToken commands false true with
    | .arrow descriptor arrow =>
      let change ← readTarget commands descriptor arrow
      return change :: (← readChanges fuel)
    | _ =>
      putBack
      return []

/-- Reads words and whatever ends them. -/
def readWords : Nat → Reader (List Word)
  | 0 => return []
  | fuel + 1 => do
    match ← readToken commands false false with
    | .word word => return word :: (← readWords fuel)
    | _ => return []

def readSignOf (wanted : String) (skipsLines : Bool) : Reader Unit := do
  match ← readToken commands skipsLines true with
  | .sign text => if text ≠ wanted then failExpecting wanted
  | _ => failExpecting wanted

/-- Reads the patterns of a branch of a choice. -/
def readPatterns : Nat → Reader (List Word)
  | 0 => return []
  | fuel + 1 => do
    match ← readToken commands false false with
    | .word pattern =>
      match ← readToken commands false false with
      | .sign "|" => return pattern :: (← readPatterns fuel)
      | .sign ")" => return [pattern]
      | _ => failExpecting ")"
    | _ =>
      let _ ← readToken commands false false
      failExpecting ")"

/-- Reads the words of a loop over words, and whatever ends them. -/
def readLoopWords : Reader (List Word) := do
  match ← readToken commands true true with
  | .sign "in" =>
    let words ← readWords commands ((← get).rest.length + 1)
    match (← get).last with
    | .newline | .sign ";" => return words
    | _ => failUnexpected
  | .sign ";" => return [[.parameter ['@'] .value true]]
  | _ =>
    putBack
    return [[.parameter ['@'] .value true]]

end Parts

mutual

/-- Reads commands up to the parenthesis that closes a substitution. -/
def readInner : Nat → Reader (Option Command)
  | 0 => return none
  | fuel + 1 => do
    let outer ← get
    let body ← readList fuel .optional none
    readSignOf (readInner fuel) ")" false
    modify fun inner => { inner with last := outer.last }
    return body

def readList : Nat → ListPlace → Option Command → Reader (Option Command)
  | 0, _, first => return first
  | fuel + 1, place, first => do
    match ← readToken (readInner fuel) (place ≠ .line) true with
    | .newline => return first
    | token =>
      putBack
      if (token matches .finished) || (place = .optional && token.endsList) then return first
      let first := some (sequenced first (← readEither fuel))
      let place : ListPlace := if place = .line then .line else .optional
      match ← readToken (readInner fuel) false false with
      | .sign ";" => readList fuel place first
      | .newline | .finished =>
        putBack
        readList fuel place first
      | _ =>
        if place = .line then failUnexpected
        putBack
        return first

/-- Reads a list that has to hold a command. -/
def readBody : Nat → Reader Command
  | 0 => return default
  | fuel + 1 => do
    match ← readList fuel .needed none with
    | some body => return body
    | none => failUnexpected

/-- Reads pipelines with signs between them that make one depend on another. -/
def readEither : Nat → Reader Command
  | 0 => return default
  | fuel + 1 => do readEitherRest fuel (← readPipeline fuel false)

def readEitherRest : Nat → Command → Reader Command
  | 0, first => return first
  | fuel + 1, first => do
    match ← readToken (readInner fuel) false false with
    | .sign "&&" => readEitherRest fuel (.both first (← readPipeline fuel true))
    | .sign "||" => readEitherRest fuel (.either first (← readPipeline fuel true))
    | _ =>
      putBack
      return first

def readPipeline : Nat → Bool → Reader Command
  | 0, _ => return default
  | fuel + 1, skipsLines => do
    let negated ← match ← readToken (readInner fuel) skipsLines true with
      | .sign "!" => pure true
      | _ =>
        putBack
        pure false
    let command ← match ← readPipes fuel false with
      | [command] => pure command
      | commands => pure (.pipeline commands)
    return if negated then .negated command else command

def readPipes : Nat → Bool → Reader (List Command)
  | 0, _ => return []
  | fuel + 1, skipsLines => do
    let command ← readCommand fuel skipsLines
    match ← readToken (readInner fuel) false false with
    | .sign "|" => return command :: (← readPipes fuel true)
    | _ =>
      putBack
      return [command]

def readCommand : Nat → Bool → Reader Command
  | 0, _ => return default
  | fuel + 1, skipsLines => do
    match ← readToken (readInner fuel) skipsLines true with
    | .sign "if" => readCompound fuel "fi" (← readConditional fuel)
    | .sign "while" => readLoop fuel true
    | .sign "until" => readLoop fuel false
    | .sign "for" => do
      match ← readToken (readInner fuel) false false with
      | .word [.plain name] =>
        if !isName name then fail "Bad for loop variable"
        let words ← readLoopWords (readInner fuel)
        readSignOf (readInner fuel) "do" true
        readCompound fuel "done" (.each name words (← readBody fuel))
      | _ => fail "Bad for loop variable"
    | .sign "case" => do
      match ← readToken (readInner fuel) false false with
      | .word subject =>
        readSignOf (readInner fuel) "in" true
        let branches ← readBranches fuel
        let changes ← readChanges (readInner fuel) ((← get).rest.length + 1)
        return withChanges (.choice subject branches) changes
      | _ => failUnexpected
    | .sign "(" => readCompound fuel ")" (.separate (← readBody fuel))
    | .sign "\x7b" => readCompound fuel "\x7d" (← readBody fuel)
    | .word _ | .arrow _ _ => do
      putBack
      readSimple fuel (← get).line ⟨[], [], []⟩
    | _ => failUnexpected

def readLoop : Nat → Bool → Reader Command
  | 0, _ => return default
  | fuel + 1, wanted => do
    let condition ← readBody fuel
    readSignOf (readInner fuel) "do" false
    readCompound fuel "done" (.loop wanted condition (← readBody fuel))

/-- Reads the sign that ends a compound command, and redirections behind it. -/
def readCompound : Nat → String → Command → Reader Command
  | 0, _, body => return body
  | fuel + 1, ending, body => do
    readSignOf (readInner fuel) ending false
    return withChanges body (← readChanges (readInner fuel) ((← get).rest.length + 1))

/-- Reads a condition and what depends on it, up to the keyword that ends it all. -/
def readConditional : Nat → Reader Command
  | 0 => return default
  | fuel + 1 => do
    let condition ← readBody fuel
    readSignOf (readInner fuel) "then" false
    let body ← readBody fuel
    match ← readToken (readInner fuel) false true with
    | .sign "elif" => return .conditional condition body (some (← readConditional fuel))
    | .sign "else" => return .conditional condition body (some (← readBody fuel))
    | _ =>
      putBack
      return .conditional condition body none

/-- Reads the branches of a choice up to the keyword that ends it. -/
def readBranches : Nat → Reader (List (List Word × Option Command))
  | 0 => return []
  | fuel + 1 => do
    match ← readToken (readInner fuel) true true with
    | .sign "esac" => return []
    | .sign "(" => pure ()
    | _ => putBack
    let patterns ← readPatterns (readInner fuel) ((← get).rest.length + 1)
    let body ← readList fuel .optional none
    match ← readToken (readInner fuel) true true with
    | .sign "esac" => return [(patterns, body)]
    | .sign ";;" => return (patterns, body) :: (← readBranches fuel)
    | _ => failExpecting ";;"

/-- Reads assignments, words and redirections in any order. -/
def readSimple : Nat → Nat → Simple → Reader Command
  | 0, line, found => return found.command line
  | fuel + 1, line, found => do
    match ← readToken (readInner fuel) false false with
    | .word word =>
      if found.words.isEmpty && word.assignment?.isSome then
        readSimple fuel line { found with assignments := word :: found.assignments }
      else readSimple fuel line { found with words := word :: found.words }
    | .arrow descriptor arrow =>
      let change ← readTarget (readInner fuel) descriptor arrow
      readSimple fuel line { found with changes := change :: found.changes }
    | token =>
      match token, found with
      | .sign "(", ⟨[], [[.plain name]], []⟩ =>
        readSignOf (readInner fuel) ")" false
        if !isName name then fail "Bad function name"
        return .function name (← readCommand fuel true)
      | _, _ =>
        putBack
        return found.command line

end

/-- Reads a line. Without a command on it, there may be another line or nothing any more. -/
def readLine : Reader (Option Command) := do
  readList (8 * (← get).rest.length + 16) .line none

def hasEnded (source : Source) : Bool :=
  source.isPutBack && source.last matches .finished

end CodeFormatting.Shell.Reader
