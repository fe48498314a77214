import CodeFormatting.Shell.Syntax
namespace CodeFormatting.Shell

/-! A script is read from its front. Its tokens are words, signs and the ends of lines, and one
token can be put back. Quotes take the meaning from characters, and a dollar sign begins an
expansion. -/

/-- What stands behind the arrow of a redirection. The lines of a document may be indented. -/
inductive Arrow
  | file (mode : OpenMode)
  | copy
  | document (isIndented : Bool)
  deriving DecidableEq, Repr

inductive Token
  | finished
  | newline
  | sign (text : String)
  | word (word : Word)
  | arrow (descriptor : Nat) (arrow : Arrow)

def Token.name : Token → String
  | .finished => "end of file"
  | .newline => "newline"
  | .sign text => "\"" ++ text ++ "\""
  | .word _ => "word"
  | .arrow _ _ => "redirection"

/-- Words that are signs at the beginning of a command. -/
def keywords : List String :=
  ["!", "case", "do", "done", "elif", "else", "esac", "fi", "for", "if", "in", "then", "until",
    "while", "\x7b", "\x7d"]

/-- Whether a token ends the commands within a command. -/
def Token.endsList : Token → Bool
  | .finished => true
  | .sign text =>
    [")", ";;", "do", "done", "elif", "else", "esac", "fi", "then", "\x7d"].contains text
  | _ => false

/-- Lines that were taken out of the text as a document are counted at the end of the line. -/
structure Source where
  rest : Octets
  line : Nat
  taken : Nat
  last : Token
  isPutBack : Bool

def Source.ofText (text : Octets) : Source :=
  ⟨text, 1, 0, .newline, false⟩

structure SyntaxError where
  line : Nat
  message : String
  deriving DecidableEq, Repr

abbrev Reader := StateT Source (Except SyntaxError)

/-- What the parts that are being read stand in. -/
inductive Setting
  | bare
  | quotes
  | braces (quoted : Bool)
  | arithmetic (depth : Nat)
  | document
  deriving DecidableEq, Repr

namespace Setting

/-- Whether texts and values keep their shape. -/
def isQuoted : Setting → Bool
  | .bare => false
  | .braces quoted => quoted
  | _ => true

/-- Whether a backslash between quotes takes the meaning from a character. -/
def isEscapable (setting : Setting) (character : Char) : Bool :=
  ['\\', '$', '\x60'].contains character || (character = '"' && setting ≠ .document) ||
    (character = '\x7d' && setting = .braces true)

def complaint? : Setting → Option String
  | .bare | .document => none
  | .quotes | .braces true => some "Unterminated quoted string"
  | .braces false => some "Missing '\x7d'"
  | .arithmetic _ => some "Missing '))'"

end Setting

/-- Whether a character ends a word when no quote is around it. -/
def endsWord (character : Char) : Bool :=
  isBlank character || ['\n', ';', '&', '|', '<', '>', '(', ')'].contains character

def isSpecialParameter (character : Char) : Bool :=
  character.isDigit || ['!', '#', '$', '*', '-', '?', '@'].contains character

namespace Reader

def fail {Answer : Type} (message : String) : Reader Answer := do
  throw ⟨(← get).line, message⟩

def failUnexpected {Answer : Type} : Reader Answer := do
  fail ((← get).last.name ++ " unexpected")

def failExpecting {Answer : Type} (wanted : String) : Reader Answer := do
  fail ((← get).last.name ++ " unexpected (expecting " ++ (Token.sign wanted).name ++ ")")

/-! Characters -/

/-- Takes the next character as it stands and counts the lines. -/
def next? : Reader (Option Char) := do
  let source ← get
  match source.rest with
  | [] => return none
  | character :: rest =>
    set { source with rest }
    if character = '\n' then
      modify fun source => { source with line := source.line + 1 + source.taken, taken := 0 }
    return some character

/-- Passes over a backslash with the end of a line behind it, as often as it comes. -/
def joinLines : Nat → Reader Unit
  | 0 => return ()
  | fuel + 1 => do
    let source ← get
    match source.rest with
    | '\\' :: '\n' :: rest =>
      set { source with rest, line := source.line + 1 }
      joinLines fuel
    | _ => return ()

def peek? : Reader (Option Char) := do
  joinLines (← get).rest.length
  return (← get).rest.head?

def take? : Reader (Option Char) := do
  let _ ← peek?
  next?

/-- Takes the next character if it is a given one. -/
def accept (wanted : Char) : Reader Bool := do
  if (← peek?) = some wanted then
    let _ ← next?
    return true
  else return false

def takeWhile (belongs : Char → Bool) : Nat → Reader Octets
  | 0 => return []
  | fuel + 1 => do
    match ← peek? with
    | some character =>
      if belongs character then
        let _ ← next?
        return character :: (← takeWhile belongs fuel)
      else return []
    | none => return []

def takeName : Reader Octets := do
  takeWhile isNameCharacter (← get).rest.length

/-- The text up to the quote that ends it. -/
def readVerbatim : Nat → Reader Octets
  | 0 => fail "Unterminated quoted string"
  | fuel + 1 => do
    match ← next? with
    | none => fail "Unterminated quoted string"
    | some '\'' => return []
    | some character => return character :: (← readVerbatim fuel)

/-- The commands between backquotes, where a backslash can take the meaning from a few
characters. -/
def readBackquoted (isQuoted : Bool) : Nat → Reader Octets
  | 0 => fail "EOF in backquote substitution"
  | fuel + 1 => do
    match ← next? with
    | none => fail "EOF in backquote substitution"
    | some '\x60' => return []
    | some '\\' =>
      let escaped := (← next?).toList
      let front := if escaped.all fun character => ['\\', '$', '\x60'].contains character ||
          (isQuoted && character = '"')
        then escaped else '\\' :: escaped
      return front ++ (← readBackquoted isQuoted fuel)
    | some character => return character :: (← readBackquoted isQuoted fuel)

/-- Reads a text that stands elsewhere. -/
def within {Answer : Type} (text : Octets) (reader : Reader Answer) : Reader Answer := do
  let outer ← get
  set { outer with rest := text }
  let answer ← reader
  set outer
  return answer

/-! Words -/

/-- A quoted text of parts, which is marked as such unless it is the list of arguments. -/
def quotedParts (parts : Word) : Word :=
  match parts with
  | [.parameter ['@'] .value true] => parts
  | parts => .quoted [] :: parts

section Words

/-! How the commands of a substitution are read is left open until there are commands. -/

variable (commands : Reader (Option Command))

mutual

/-- The parts up to the end of a setting, behind those that have been read. -/
def readParts : Nat → Setting → List Part → Reader Word
  | 0, _, parts => return Word.joined parts.reverse
  | fuel + 1, setting, parts => do
    let ended := Word.joined parts.reverse
    let go (more : List Part) : Reader Word := readParts fuel setting (more ++ parts)
    let stay (character : Char) : Reader Word := do
      let _ ← next?
      go [if setting.isQuoted then .quoted [character] else .plain [character]]
    match ← peek?, setting with
    | none, setting =>
      match setting.complaint? with
      | some complaint => fail complaint
      | none => return ended
    | some '\\', setting => do
      let _ ← next?
      match ← next? with
      | none => go [.quoted ['\\']]
      | some escaped =>
        if !setting.isQuoted || setting.isEscapable escaped then go [.quoted [escaped]]
        else go [.quoted ['\\', escaped]]
    | some '$', _ => do
      let _ ← next?
      go [(← readDollar fuel setting).getD
        (if setting.isQuoted then .quoted ['$'] else .plain ['$'])]
    | some '"', .quotes => do
      let _ ← next?
      return ended
    | some '"', .arithmetic _ | some '"', .document => stay '"'
    | some '"', _ => do
      let _ ← next?
      go (quotedParts (← readParts fuel .quotes [])).reverse
    | some '\x60', _ => do
      let _ ← next?
      let inner ← readBackquoted setting.isQuoted ((← get).rest.length + 1)
      go [.output (← within (inner ++ [')']) commands) setting.isQuoted]
    | some '\n', .braces false => fail "Missing '\x7d'"
    | some '\x7d', .braces _ => do
      let _ ← next?
      return ended
    | some '(', .arithmetic depth => do
      let _ ← next?
      readParts fuel (.arithmetic (depth + 1)) (.quoted ['('] :: parts)
    | some ')', .arithmetic (depth + 1) => do
      let _ ← next?
      readParts fuel (.arithmetic depth) (.quoted [')'] :: parts)
    | some ')', .arithmetic 0 => do
      let _ ← next?
      if ← accept ')' then return ended else go [.quoted [')']]
    | some '\'', setting =>
      if setting.isQuoted then stay '\''
      else do
        let _ ← next?
        go [.quoted (← readVerbatim ((← get).rest.length + 1))]
    | some character, .bare => if endsWord character then return ended else stay character
    | some character, _ => stay character

/-- The expansion after a dollar sign, or nothing if the sign stands for itself. -/
def readDollar : Nat → Setting → Reader (Option Part)
  | 0, _ => return none
  | fuel + 1, setting => do
    let quoted := setting.isQuoted
    match ← peek? with
    | none => return none
    | some '(' =>
      let _ ← next?
      if ← accept '(' then
        return some (.arithmetic (← readParts fuel (.arithmetic 0) []) quoted)
      else return some (.output (← commands) quoted)
    | some '\x7b' =>
      let _ ← next?
      return some (← readBraces fuel quoted)
    | some character =>
      if isNameStart character then return some (.parameter (← takeName) .value quoted)
      else if isSpecialParameter character then
        let _ ← next?
        return some (.parameter [character] .value quoted)
      else return none

/-- The expansion within braces. One that makes no sense is read to its end nevertheless. -/
def readBraces : Nat → Bool → Reader Part
  | 0, quoted => return .parameter [] .invalid quoted
  | fuel + 1, quoted => do
    let isLength ← do
      if (← peek?) = some '#' && (← get).rest[1]? ≠ some '\x7d' then accept '#' else pure false
    let name ← match ← peek? with
      | some first =>
        if isNameCharacter first then takeName
        else if isSpecialParameter first then do
          let _ ← next?
          pure [first]
        else pure []
      | none => pure []
    if ← accept '\x7d' then
      let use := if isLength then Use.length else .value
      return .parameter name (if name.isEmpty then .invalid else use) quoted
    let emptyToo ← accept ':'
    let sign ← if (← peek?) = some '\n' then pure none else next?
    let isDoubled ← match sign with
      | some '%' => accept '%'
      | some '#' => accept '#'
      | _ => pure false
    let isTrimming := sign = some '%' || sign = some '#'
    let word ← readParts fuel (.braces (quoted && !isTrimming)) []
    let use : Use := match sign, emptyToo with
      | some '-', _ => .fallback emptyToo word
      | some '+', _ => .alternative emptyToo word
      | some '=', _ => .assigned emptyToo word
      | some '?', _ => .demanded emptyToo word
      | some '%', false => .trimmed false isDoubled word
      | some '#', false => .trimmed true isDoubled word
      | _, _ => .invalid
    return .parameter name (if name.isEmpty || isLength then .invalid else use) quoted

end

/-! Tokens -/

def readArrow (sign : Char) (given : Option Nat) : Reader Token := do
  if sign = '<' then
    let descriptor := given.getD 0
    if ← accept '&' then return .arrow descriptor .copy
    else if ← accept '<' then return .arrow descriptor (.document (← accept '-'))
    else return .arrow descriptor (.file .read)
  else
    let descriptor := given.getD 1
    if ← accept '&' then return .arrow descriptor .copy
    else if ← accept '>' then return .arrow descriptor (.file .append)
    else return .arrow descriptor (.file .write)

/-- Reads a word, or the redirection that a digit belongs to. -/
def readWord : Reader Token := do
  let word ← readParts commands ((← get).rest.length + 1) .bare []
  let sign := (← get).rest.head?
  match word, sign with
  | [.plain [digit]], some sign =>
    if digit.isDigit && (sign = '<' || sign = '>') then
      let _ ← next?
      readArrow sign (some (digit.toNat - 48))
    else return .word word
  | _, _ => return .word word

/-- Reads a sign that may be doubled. -/
def readSign (character : Char) : Reader Token := do
  let _ ← next?
  let single := String.singleton character
  return .sign (if ← accept character then single ++ single else single)

def readRaw : Nat → Reader Token
  | 0 => return .finished
  | fuel + 1 => do
    match ← peek? with
    | none => return .finished
    | some ' ' | some '\t' =>
      let _ ← next?
      readRaw fuel
    | some '#' =>
      modify fun source => { source with rest := source.rest.dropWhile (· ≠ '\n') }
      readRaw fuel
    | some '\n' =>
      let _ ← next?
      return .newline
    | some '&' => readSign '&'
    | some '|' => readSign '|'
    | some ';' => readSign ';'
    | some '(' | some ')' => return .sign (String.singleton ((← next?).getD '('))
    | some '<' | some '>' => readArrow ((← next?).getD '<') none
    | some _ => readWord commands

/-- The token that was put back, or the next one. -/
def readAgain : Reader Token := do
  let source ← get
  if source.isPutBack then
    set { source with isPutBack := false }
    return source.last
  else
    let token ← readRaw commands (source.rest.length + 1)
    modify fun source => { source with last := token }
    return token

def skipNewlines : Nat → Token → Reader Token
  | fuel + 1, .newline => do skipNewlines fuel (← readAgain commands)
  | _, token => return token

/-- Reads a token. The ends of lines may not count, and words may be keywords. -/
def readToken (skipsLines knowsKeywords : Bool) : Reader Token := do
  let token ← readAgain commands
  let token ← if skipsLines then skipNewlines commands ((← get).rest.length + 1) token
    else pure token
  match token with
  | .word word =>
    match if knowsKeywords then word.plain? else none with
    | some text =>
      let text := String.ofList text
      if keywords.contains text then
        modify fun source => { source with last := .sign text }
        return .sign text
      else return token
    | none => return token
  | token => return token

end Words

def putBack : Reader Unit :=
  modify fun source => { source with isPutBack := true }

end Reader

end CodeFormatting.Shell
