import CodeFormatting.Regex.Error
import CodeFormatting.Text.Blank
namespace CodeFormatting.Regex

/-! A pattern is read from its front. What is left of it is kept with the position where that
begins. Blanks and comments may be passed over where a flag says so. -/

structure Cursor where
  rest : List Char
  position : Position
  ignoresBlanks : Bool
  names : List (String × Span)

abbrev Reader := StateT Cursor (Except Fault)

namespace Cursor

def ofPattern (pattern : String) : Cursor :=
  ⟨pattern.toList, ⟨0, 1, 1⟩, false, []⟩

def advanced (cursor : Cursor) : Cursor :=
  match cursor.rest with
  | [] => cursor
  | character :: rest => { cursor with rest, position := cursor.position.after character }

def advancedBy (cursor : Cursor) : Nat → Cursor
  | 0 => cursor
  | count + 1 => cursor.advanced.advancedBy count

/-- How many characters blanks and comments at a front take up. -/
def blankLength (inComment : Bool) : List Char → Nat
  | [] => 0
  | character :: rest =>
    if inComment then blankLength (character ≠ '\n') rest + 1
    else if Text.isBlank character then blankLength false rest + 1
    else if character = '#' then blankLength true rest + 1
    else 0

def withoutBlanks (cursor : Cursor) : Cursor :=
  if cursor.ignoresBlanks then cursor.advancedBy (blankLength false cursor.rest) else cursor

def character? (cursor : Cursor) : Option Char :=
  cursor.rest.head?

/-- The character after the one that a cursor stands at. Where blanks are ignored, they and one
mark of a comment are passed over. -/
def next? (cursor : Cursor) : Option Char :=
  let rest := cursor.rest.drop 1
  if cursor.ignoresBlanks then
    match rest.dropWhile Text.isBlank with
    | '#' :: rest => (rest.dropWhile Text.isBlank).head?
    | rest => rest.head?
  else rest.head?

def characterSpan (cursor : Cursor) : Span :=
  ⟨cursor.position, cursor.advanced.position⟩

def emptySpan (cursor : Cursor) : Span :=
  ⟨cursor.position, cursor.position⟩

end Cursor

namespace Reader

def fail {Answer : Type} (cause : Cause) (span : Span) : Reader Answer :=
  throw ⟨cause, span, none⟩

def failAgain {Answer : Type} (cause : Cause) (span earlier : Span) : Reader Answer :=
  throw ⟨cause, span, some earlier⟩

def position : Reader Position := do
  return (← get).position

def character? : Reader (Option Char) := do
  return (← get).character?

def skip : Reader Unit :=
  modify Cursor.advanced

def skipBlanks : Reader Unit :=
  modify Cursor.withoutBlanks

/-- Passes over a character and answers with the next one. -/
def advance : Reader (Option Char) := do
  skip
  character?

/-- Passes over a character and the blanks after it and answers with the next one. -/
def advanceBlanks : Reader (Option Char) := do
  skip
  skipBlanks
  character?

def take? (wanted : String) : Reader Bool := do
  let cursor ← get
  if wanted.toList.isPrefixOf cursor.rest then
    set (cursor.advancedBy wanted.length)
    return true
  else return false

/-- Fails with the span from a position to here. -/
def failFrom {Answer : Type} (cause : Cause) (start : Position) : Reader Answer := do
  fail cause ⟨start, ← position⟩

def failHere {Answer : Type} (cause : Cause) : Reader Answer := do
  fail cause (← get).emptySpan

def failAtCharacter {Answer : Type} (cause : Cause) : Reader Answer := do
  fail cause (← get).characterSpan

end Reader

end CodeFormatting.Regex
