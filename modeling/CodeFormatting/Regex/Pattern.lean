import CodeFormatting.Regex.Codes
import CodeFormatting.Regex.Expression
namespace CodeFormatting.Regex

/-! What a pattern means: which places of a text can be reached from which other places. The
places of a text are marked all at once, so that every part of a pattern is gone through but
once for each time that it comes. -/

inductive Look
  | textStart
  | textEnd
  | lineStart
  | lineEnd
  | anyLineStart
  | anyLineEnd
  | word (kind : AssertionKind)
  | unicodeWord (kind : AssertionKind)
  deriving DecidableEq, Repr

inductive Pattern
  | empty
  | oneOf (codes : CodeSet)
  | look (look : Look)
  | sequence (first second : Pattern)
  | choice (first second : Pattern)
  | repetition (least : Nat) (most : Option Nat) (repeated : Pattern)
  | capture (inner : Pattern)
  deriving DecidableEq, Repr

/-! Places of a text -/

structure Place where
  before : Option Char
  after : Option Char
  deriving DecidableEq, Repr

def placesAfter (before : Option Char) : List Char → List Place
  | [] => [⟨before, none⟩]
  | character :: rest => ⟨before, some character⟩ :: placesAfter (some character) rest

def isWordCharacter (character : Char) : Bool :=
  character.isAlphanum || character = '_'

namespace Look

def holdsAtBoundary (before after : Bool) : AssertionKind → Bool
  | .wordBoundary => before != after
  | .noWordBoundary => before == after
  | .wordStart => !before && after
  | .wordEnd => before && !after
  | .halfWordStart => !before
  | .halfWordEnd => !after
  | _ => true

def holds (place : Place) : Look → Bool
  | .textStart => place.before.isNone
  | .textEnd => place.after.isNone
  | .lineStart => place.before.isNone || place.before = some '\n'
  | .lineEnd => place.after.isNone || place.after = some '\n'
  | .anyLineStart =>
    place.before.isNone || place.before = some '\n' ||
      (place.before = some '\r' && place.after ≠ some '\n')
  | .anyLineEnd =>
    place.after.isNone || place.after = some '\r' ||
      (place.after = some '\n' && place.before ≠ some '\r')
  | .word kind =>
    holdsAtBoundary (place.before.any isWordCharacter) (place.after.any isWordCharacter) kind
  | .unicodeWord _ => false

end Look

/-! Matching -/

/-- For each place, whether it is reached. -/
abbrev Reached := List Bool

def Reached.or (left right : Reached) : Reached :=
  List.zipWith (· || ·) left right

namespace Pattern

def isAfter (codes : CodeSet) (place : Place) : Bool :=
  place.after.any fun character => codes.contains character.toNat

/-- Goes on as often as may be, and gathers where that leads; nothing new ends it. -/
def gather (advance : Reached → Reached) : Nat → Reached → Reached → Reached
  | 0, gathered, _ => gathered
  | count + 1, gathered, present =>
    let next := advance present
    let more := gathered.or next
    if more = gathered then gathered else gather advance count more next

/-- Goes on a number of times; a time that changes nothing is the last one needed. -/
def iterate (advance : Reached → Reached) : Nat → Reached → Reached
  | 0, present => present
  | count + 1, present =>
    let next := advance present
    if next = present then present else iterate advance count next

def advance (places : List Place) : Pattern → Reached → Reached
  | .empty, reached => reached
  | .oneOf codes, reached =>
    (false :: List.zipWith (fun place here => here && isAfter codes place) places reached).take
      places.length
  | .look wanted, reached =>
    List.zipWith (fun place here => here && wanted.holds place) places reached
  | .sequence first second, reached => advance places second (advance places first reached)
  | .choice first second, reached =>
    (advance places first reached).or (advance places second reached)
  | .repetition least most repeated, reached =>
    let needed := iterate (advance places repeated) least reached
    let more := match most with
      | some most => most - least
      | none => places.length
    gather (advance places repeated) more needed needed
  | .capture inner, reached => advance places inner reached

/-- Whether a pattern fits some part of a text. -/
def occurs (pattern : Pattern) (text : String) : Bool :=
  let places := placesAfter none text.toList
  (pattern.advance places (places.map fun _ => true)).any id

end Pattern

/-! Size -/

namespace Pattern

/-- The octets that the states for some codes take up. -/
def codesSize (codes : CodeSet) : Nat :=
  if codes.isAscii then
    if codes.ranges.length ≤ 1 then 32 else 32 + 8 * codes.ranges.length
  else 368

/-- About how many octets the states for a pattern take up. -/
def size : Pattern → Nat
  | .empty => 32
  | .oneOf codes => codesSize codes
  | .look _ => 32
  | .sequence first second => first.size + second.size
  | .choice first second => first.size + second.size + 36
  | .repetition least most repeated =>
    match most with
    | some most => least * repeated.size + (most - least) * (repeated.size + 40)
    | none => max least 1 * repeated.size + 40
  | .capture inner => inner.size + 64

def sizeLimit : Nat :=
  10485760

/-- Whether a pattern asks for the bounds of words in a script beyond ASCII. -/
def asksForWords : Pattern → Bool
  | .look (.unicodeWord _) => true
  | .sequence first second => first.asksForWords || second.asksForWords
  | .choice first second => first.asksForWords || second.asksForWords
  | .repetition _ _ repeated => repeated.asksForWords
  | .capture inner => inner.asksForWords
  | _ => false

def isLengthless : Pattern → Bool
  | .empty => true
  | .look _ => true
  | .oneOf _ => false
  | .sequence first second => first.isLengthless && second.isLengthless
  | .choice first second => first.isLengthless && second.isLengthless
  | .repetition _ most repeated => most = some 0 || repeated.isLengthless
  | .capture inner => inner.isLengthless

/-- A pattern that comes a number of times. What has no length comes once at most. -/
def repeated (least : Nat) (most : Option Nat) (inner : Pattern) : Pattern :=
  let (least, most) :=
    if inner.isLengthless then (min least 1, some (min (most.getD 1) 1)) else (least, most)
  if most = some 0 then .empty
  else if least = 1 ∧ most = some 1 then inner
  else .repetition least most inner

end Pattern

end CodeFormatting.Regex
