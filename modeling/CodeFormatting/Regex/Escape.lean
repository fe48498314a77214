import CodeFormatting.Regex.Cursor
import CodeFormatting.Decimal.Numeral
import CodeFormatting.Json.Parser
namespace CodeFormatting.Regex

/-! A backslash takes the special meaning from a character or gives one to a letter. Numbers
within a pattern are decimal in counts and hexadecimal in codes. -/

/-- A part of a pattern that is no group, no set and no repetition. -/
inductive Primitive
  | literal (written : Literal)
  | assertion (span : Span) (kind : AssertionKind)
  | dot (span : Span)
  | named (known : NamedClass)
  | property (asked : PropertyClass)

namespace Primitive

def span : Primitive → Span
  | .literal written => written.span
  | .assertion span _ => span
  | .dot span => span
  | .named known => known.span
  | .property asked => asked.span

def expression : Primitive → Expression
  | .literal written => .literal written
  | .assertion span kind => .assertion span kind
  | .dot span => .dot span
  | .named known => .named known
  | .property asked => .property asked

def setItem : Primitive → Reader SetItem
  | .literal written => return .literal written
  | .named known => return .named known
  | .property asked => return .property asked
  | other => Reader.fail .classEscapeInvalid other.span

def boundary : Primitive → Reader Literal
  | .literal written => return written
  | other => Reader.fail .classRangeLiteral other.span

end Primitive

def scalar? (digits : List Char) : Option Char :=
  let code := digits.foldl
    (fun value digit => value * 16 + (Json.hexadecimalValue? digit).getD 0) 0
  if code < 0xD800 ∨ (0xE000 ≤ code ∧ code < 0x110000) then some (Char.ofNat code) else none

def isHexadecimal (character : Char) : Bool :=
  (Json.hexadecimalValue? character).isSome

/-- The number of so many digits, of which the first one comes next. -/
def readDigits (count : Nat) : Reader (List Char) := do
  match (← get).character? with
  | none => Reader.failHere .escapeUnfinished
  | some digit =>
    if !isHexadecimal digit then Reader.failAtCharacter .hexadecimalDigit
    match count with
    | 0 => return []
    | 1 =>
      let _ ← Reader.advanceBlanks
      return [digit]
    | more + 1 =>
      let _ ← Reader.advanceBlanks
      return digit :: (← readDigits more)

def readFixed (start : Position) (count : Nat) : Reader Literal := do
  let first ← Reader.position
  let digits ← readDigits count
  let stop ← Reader.position
  match scalar? digits with
  | some character => return ⟨⟨start, stop⟩, character, count = 2⟩
  | none => Reader.fail .hexadecimalInvalid ⟨first, stop⟩

def readBraced : Nat → Position → Reader (List Char)
  | 0, brace => Reader.failFrom .escapeUnfinished brace
  | fuel + 1, brace => do
    match ← Reader.advanceBlanks with
    | none => Reader.failFrom .escapeUnfinished brace
    | some '\x7d' => return []
    | some digit =>
      if !isHexadecimal digit then Reader.failAtCharacter .hexadecimalDigit
      return digit :: (← readBraced fuel brace)

def readCode (start : Position) (count : Nat) : Reader Literal := do
  match ← Reader.advanceBlanks with
  | none => Reader.failHere .escapeUnfinished
  | some '\x7b' =>
    let cursor ← get
    let digits ← readBraced (cursor.rest.length + 1) cursor.position
    let stop ← Reader.position
    let _ ← Reader.advanceBlanks
    if digits.isEmpty then Reader.failFrom .hexadecimalEmpty cursor.position
    match scalar? digits with
    | some character => return ⟨⟨start, ← Reader.position⟩, character, false⟩
    | none => Reader.fail .hexadecimalInvalid ⟨cursor.advanced.position, stop⟩
  | some _ => readFixed start count

/-- The name of a property without what does not count in it. -/
def looseName (name : List Char) : List Char :=
  let isPrefixed := (name.take 2).map Char.toLower = ['i', 's']
  let rest := if isPrefixed then name.drop 2 else name
  let kept := (rest.filter fun character =>
    !(character = ' ' || character = '_' || character = '-') && character.toNat < 0x80).map
      Char.toLower
  if isPrefixed ∧ kept = ['c'] then ['i', 's', 'c'] else kept

/-- The names that properties and their values have in common. -/
def namesValue (name : List Char) : Bool :=
  !name.contains ':' && !name.contains '=' &&
    [['c', 'f'], ['s', 'c'], ['l', 'c']].contains (looseName name)

def readName : Nat → Reader (List Char)
  | 0 => Reader.failHere .escapeUnfinished
  | fuel + 1 => do
    match ← Reader.advanceBlanks with
    | none => Reader.failHere .escapeUnfinished
    | some '\x7d' => return []
    | some character => return character :: (← readName fuel)

def readProperty (start : Position) : Reader Primitive := do
  match ← Reader.advanceBlanks with
  | none => Reader.failHere .escapeUnfinished
  | some '\x7b' =>
    let name ← readName ((← get).rest.length + 1)
    Reader.skip
    return .property ⟨⟨start, ← Reader.position⟩, namesValue name⟩
  | some '\\' => Reader.failAtCharacter .propertyInvalid
  | some _ =>
    let _ ← Reader.advanceBlanks
    return .property ⟨⟨start, ← Reader.position⟩, false⟩

def isSpecial (character : Char) : Bool :=
  ['\\', '.', '+', '*', '?', '(', ')', '|', '[', ']', '\x7b', '\x7d', '^', '$', '#', '&', '-',
    '~'].contains character

/-- Whether a backslash in front of a character changes nothing. -/
def isEscapable (character : Char) : Bool :=
  character.toNat < 0x80 && !character.isAlphanum && character ≠ '<' && character ≠ '>'

def special? : Char → Option Char
  | 'a' => some '\x07'
  | 'f' => some '\x0c'
  | 't' => some '\t'
  | 'n' => some '\n'
  | 'r' => some '\r'
  | 'v' => some '\x0b'
  | _ => none

def assertion? : Char → Option AssertionKind
  | 'A' => some .textStart
  | 'z' => some .textEnd
  | 'B' => some .noWordBoundary
  | '<' => some .wordStart
  | '>' => some .wordEnd
  | _ => none

def className? : Char → Option ClassName
  | 'd' => some .digit
  | 's' => some .space
  | 'w' => some .word
  | _ => none

def boundary? : List Char → Option AssertionKind
  | ['s', 't', 'a', 'r', 't'] => some .wordStart
  | ['e', 'n', 'd'] => some .wordEnd
  | ['s', 't', 'a', 'r', 't', '-', 'h', 'a', 'l', 'f'] => some .halfWordStart
  | ['e', 'n', 'd', '-', 'h', 'a', 'l', 'f'] => some .halfWordEnd
  | _ => none

def isBoundaryCharacter (character : Char) : Bool :=
  character.isAlpha || character = '-'

def readBoundaryName : Nat → Reader (List Char)
  | 0 => return []
  | fuel + 1 => do
    match ← Reader.character? with
    | none => return []
    | some character =>
      if isBoundaryCharacter character then
        let _ ← Reader.advanceBlanks
        return character :: (← readBoundaryName fuel)
      else return []

/-- The kind of a word boundary that is given in braces. Braces around something else belong
to a repetition and are left alone. -/
def readBoundaryKind? (start : Position) : Reader (Option AssertionKind) := do
  let brace ← get
  match ← Reader.advanceBlanks with
  | none => Reader.failFrom .wordBoundaryUnfinished start
  | some character =>
    if !isBoundaryCharacter character then
      set brace
      return none
    let first ← Reader.position
    let name ← readBoundaryName (brace.rest.length + 1)
    match ← Reader.character? with
    | some '\x7d' =>
      let stop ← Reader.position
      Reader.skip
      match boundary? name with
      | some kind => return some kind
      | none => Reader.fail .wordBoundaryUnrecognized ⟨first, stop⟩
    | _ => Reader.failFrom .wordBoundaryUnclosed brace.position

def readBoundary (start : Position) : Reader Primitive := do
  match ← Reader.character? with
  | some '\x7b' =>
    let kind ← readBoundaryKind? start
    match kind with
    | some kind => return .assertion ⟨start, ← Reader.position⟩ kind
    | none => return .assertion ⟨start, ← Reader.position⟩ .wordBoundary
  | _ => return .assertion ⟨start, ← Reader.position⟩ .wordBoundary

def readEscape : Reader Primitive := do
  let start ← Reader.position
  match ← Reader.advance with
  | none => Reader.failFrom .escapeUnfinished start
  | some character =>
    if character.isDigit then
      Reader.fail .backreference ⟨start, (← get).characterSpan.stop⟩
    match character with
    | 'x' => return .literal (← readCode start 2)
    | 'u' => return .literal (← readCode start 4)
    | 'U' => return .literal (← readCode start 8)
    | 'p' => readProperty start
    | 'P' => readProperty start
    | character =>
      Reader.skip
      let span : Span := ⟨start, ← Reader.position⟩
      match className? character.toLower with
      | some name => return .named ⟨span, name, character.isUpper⟩
      | none =>
        if isSpecial character || isEscapable character then
          return .literal ⟨span, character, false⟩
        else if character = 'b' then readBoundary start
        else
          match special? character, assertion? character with
          | some meant, _ => return .literal ⟨span, meant, false⟩
          | none, some kind => return .assertion span kind
          | none, none => Reader.fail .escapeUnrecognized span

/-- The decimal number that comes next, with blanks around it. -/
def readDecimal : Reader Nat := do
  passBlanks ((← get).rest.length)
  let start ← Reader.position
  let digits ← takeDigits ((← get).rest.length)
  let span : Span := ⟨start, ← Reader.position⟩
  passBlanks ((← get).rest.length)
  if digits.isEmpty then Reader.fail .decimalEmpty span
  let value := Decimal.value digits
  if value < Nat.pow 2 32 then return value else Reader.fail .decimalInvalid span
where
  passBlanks : Nat → Reader Unit
    | 0 => return ()
    | fuel + 1 => do
      match ← Reader.character? with
      | some character =>
        if Text.isBlank character then
          let _ ← Reader.advanceBlanks
          passBlanks fuel
      | none => return ()
  takeDigits : Nat → Reader (List Char)
    | 0 => return []
    | fuel + 1 => do
      match ← Reader.character? with
      | some character =>
        if character.isDigit then
          let _ ← Reader.advanceBlanks
          return character :: (← takeDigits fuel)
        else return []
      | none => return []

end CodeFormatting.Regex
