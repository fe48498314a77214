import CodeFormatting.Regex.Escape
namespace CodeFormatting.Regex

/-! A group stands between parentheses. A question mark after the first of them makes it a
group with a name or one with flags, or tells of flags for what comes after it. -/

inductive GroupStart
  | flags (span : Span) (items : List FlagItem)
  | group (opening : Span) (captures : Bool) (items : List FlagItem)

def flag? : Char → Option Flag
  | 'i' => some .caseInsensitive
  | 'm' => some .multiLine
  | 's' => some .dotMatchesLineEnd
  | 'U' => some .swapGreed
  | 'u' => some .unicode
  | 'R' => some .carriageReturns
  | 'x' => some .ignoreBlanks
  | _ => none

/-- The flag or dash that a cursor stands at. -/
def readFlagItem : Reader FlagItem := do
  let cursor ← get
  let span := cursor.characterSpan
  match cursor.character? with
  | some '-' => return ⟨span, none⟩
  | some character =>
    match flag? character with
    | some flag => return ⟨span, some flag⟩
    | none => Reader.fail .flagUnrecognized span
  | none => Reader.failHere .flagUnfinished

def repeated (item : FlagItem) : Cause :=
  match item.flag with
  | some _ => .flagDuplicate
  | none => .flagRepeatedNegation

/-- Reads flags up to a colon or a closing parenthesis. -/
def readFlags : Nat → List FlagItem → Reader (List FlagItem)
  | 0, items => return items
  | fuel + 1, items => do
    let ended ← Reader.character?
    if ended = some ':' || ended = some ')' then
      match items.getLast? with
      | some ⟨span, none⟩ => Reader.fail .flagDanglingNegation span
      | _ => return items
    let item ← readFlagItem
    match items.find? (·.flag = item.flag) with
    | some earlier => Reader.failAgain (repeated item) item.span earlier.span
    | none =>
      if (← Reader.advance).isNone then Reader.failHere .flagUnfinished
      readFlags fuel (items ++ [item])

/-- Whether a character beyond ASCII is a letter. Signs and pictures are none. -/
def isForeignLetter (character : Char) : Bool :=
  let code := character.toNat
  code = 0xAA || code = 0xB5 || code = 0xBA ||
    (0xC0 ≤ code && code ≠ 0xD7 && code ≠ 0xF7 && !(0x2000 ≤ code && code < 0x2C00) &&
      !(0x3000 ≤ code && code < 0x3005) && !(0xD800 ≤ code && code < 0xF900) &&
      !(0xFE00 ≤ code && code < 0xFE70) && !(0xFF00 ≤ code && code < 0xFF21) && code < 0x1F000)

def isNameStart (character : Char) : Bool :=
  character = '_' || character.isAlpha || isForeignLetter character

def isNamePart (character : Char) : Bool :=
  isNameStart character || character.isDigit || ['.', '[', ']'].contains character

/-- Reads the characters of a name up to its end. -/
def readNameParts : Nat → List Char → Reader (List Char)
  | 0, name => return name
  | fuel + 1, name => do
    match ← Reader.character? with
    | none => Reader.failHere .groupNameUnfinished
    | some '>' => return name
    | some character =>
      if !(if name.isEmpty then isNameStart character else isNamePart character) then
        Reader.failAtCharacter .groupNameInvalid
      Reader.skip
      readNameParts fuel (name ++ [character])

/-- Reads the name of a group. No two groups have the same. -/
def readGroupName : Reader Unit := do
  let start ← Reader.position
  let name ← readNameParts ((← get).rest.length + 1) []
  let span : Span := ⟨start, ← Reader.position⟩
  Reader.skip
  if name.isEmpty then Reader.fail .groupNameEmpty ⟨start, start⟩
  let names := (← get).names
  match names.lookup (String.ofList name) with
  | some earlier => Reader.failAgain .groupNameDuplicate span earlier
  | none => modify fun cursor => { cursor with names := (String.ofList name, span) :: names }

/-- Whether a text of some comes next, and if so passes over it. -/
def takeAny (texts : List String) : Reader Bool :=
  texts.anyM Reader.take?

def readGroupFlags (opening inner : Span) : Reader GroupStart := do
  let items ← readFlags ((← get).rest.length + 1) []
  let closed := (← Reader.character?) = some ')'
  Reader.skip
  if !closed then return .group opening false items
  if items.isEmpty then Reader.fail .repetitionMissing inner
  return .flags ⟨opening.start, ← Reader.position⟩ items

def readGroupStart : Reader GroupStart := do
  let opening := (← get).characterSpan
  let _ ← Reader.advanceBlanks
  let inner := (← get).emptySpan
  if ← takeAny ["?=", "?!", "?<=", "?<!"] then Reader.failFrom .lookAround opening.start
  if ← takeAny ["?P<", "?<"] then
    readGroupName
    return .group opening true []
  if ← Reader.take? "?" then
    if (← Reader.character?).isNone then Reader.fail .groupUnclosed opening
    readGroupFlags opening inner
  else return .group opening true []

end CodeFormatting.Regex
