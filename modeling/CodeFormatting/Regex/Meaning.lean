import CodeFormatting.Regex.Error
import CodeFormatting.Regex.Pattern
namespace CodeFormatting.Regex

/-! Expressions are given their meaning from left to right, under the flags that hold at each
place. Tables of characters beyond ASCII are not at hand, so what needs one is refused. -/

structure Mode where
  ignoresCase : Bool
  multiLine : Bool
  dotMatchesLineEnd : Bool
  unicode : Bool
  carriageReturns : Bool
  deriving DecidableEq, Repr

namespace Mode

def standard : Mode :=
  ⟨false, false, false, true, false⟩

def applying (mode : Mode) (items : List FlagItem) : Mode where
  ignoresCase := (flagState .caseInsensitive items).getD mode.ignoresCase
  multiLine := (flagState .multiLine items).getD mode.multiLine
  dotMatchesLineEnd := (flagState .dotMatchesLineEnd items).getD mode.dotMatchesLineEnd
  unicode := (flagState .unicode items).getD mode.unicode
  carriageReturns := (flagState .carriageReturns items).getD mode.carriageReturns

def lastCode (mode : Mode) : Nat :=
  if mode.unicode then 0x10FFFF else 0xFF

end Mode

def refuse {Answer : Type} (cause : Cause) (span : Span) : Except Fault Answer :=
  .error ⟨cause, span, none⟩

/-! Sets -/

/-- Adds the other cases of letters where case does not count. -/
def folded (mode : Mode) (span : Span) (codes : CodeSet) : Except Fault CodeSet :=
  if !mode.ignoresCase then .ok codes
  else if !mode.unicode then .ok codes.withBothCases
  else if codes.isEmpty then .ok codes
  else refuse .caseNotAvailable span

/-- Takes the complement of codes that are negated. A set of octets has to be text. -/
def finished (mode : Mode) (span : Span) (negated : Bool) (codes : CodeSet) :
    Except Fault CodeSet := do
  let codes ← folded mode span codes
  let codes := if negated then codes.complement mode.lastCode else codes
  if !mode.unicode && !codes.isAscii then refuse .notText span
  return codes

def ClassName.codes : ClassName → CodeSet
  | .digit => .ofRanges [(48, 57)]
  | .space => .ofRanges [(9, 13), (32, 32)]
  | .word => .ofRanges [(48, 57), (65, 90), (95, 95), (97, 122)]

def NamedClass.codes (mode : Mode) (known : NamedClass) : Except Fault CodeSet :=
  if mode.unicode then refuse .classNotAvailable known.span
  else if known.negated then refuse .notText known.span
  else .ok known.name.codes

def PropertyClass.cause (mode : Mode) (asked : PropertyClass) : Cause :=
  if !mode.unicode then .propertyNotAllowed
  else if asked.namesValue then .propertyValueNotFound
  else .propertyNotFound

/-- The code that a character has within a set. -/
def Literal.code (mode : Mode) (written : Literal) : Except Fault Nat :=
  let code := written.character.toNat
  if mode.unicode || code < 0x80 then .ok code
  else if written.isOctet then refuse .notText written.span
  else refuse .propertyNotAllowed written.span

mutual

def SetItem.codes (mode : Mode) : SetItem → Except Fault CodeSet
  | .empty _ => .ok .empty
  | .literal written => do
    let code ← written.code mode
    return .ofRanges [(code, code)]
  | .range _ first last => do
    let low ← first.code mode
    let high ← last.code mode
    return .ofRanges [(low, high)]
  | .ascii known => finished mode known.span known.negated (.ofRanges known.ranges)
  | .named known => known.codes mode
  | .property asked => refuse (asked.cause mode) asked.span
  | .bracketed span negated item => do
    finished mode span negated (← item.codes mode)
  | .union _ items => itemsCodes mode items
  | .operation _ operator left right => do
    let leftCodes ← left.codes mode
    let rightCodes ← right.codes mode
    let rightCodes ← folded mode right.span rightCodes
    let leftCodes ← folded mode left.span leftCodes
    match operator with
    | .intersection => return leftCodes.intersection mode.lastCode rightCodes
    | .difference => return leftCodes.difference mode.lastCode rightCodes
    | .symmetricDifference => return leftCodes.symmetricDifference mode.lastCode rightCodes

def itemsCodes (mode : Mode) : List SetItem → Except Fault CodeSet
  | [] => .ok .empty
  | item :: rest => do
    let codes ← item.codes mode
    return codes.union (← itemsCodes mode rest)

end

/-! Single signs -/

def single (code : Nat) : CodeSet :=
  .ofRanges [(code, code)]

def Literal.pattern (mode : Mode) (written : Literal) : Except Fault Pattern :=
  let code := written.character.toNat
  if !mode.unicode && written.isOctet && 0x80 ≤ code then refuse .notText written.span
  else if !mode.ignoresCase then .ok (.oneOf (single code))
  else if mode.unicode then refuse .caseNotAvailable written.span
  else .ok (.oneOf (single code).withBothCases)

/-- What a dot stands for: any character, or any but the ends of lines. -/
def dotCodes (mode : Mode) : CodeSet :=
  let ends :=
    if mode.dotMatchesLineEnd then CodeSet.empty
    else if mode.carriageReturns then .ofRanges [(10, 10), (13, 13)]
    else .ofRanges [(10, 10)]
  ends.complement mode.lastCode

def AssertionKind.look (mode : Mode) : AssertionKind → Look
  | .textStart => .textStart
  | .textEnd => .textEnd
  | .lineStart =>
    if !mode.multiLine then .textStart
    else if mode.carriageReturns then .anyLineStart else .lineStart
  | .lineEnd =>
    if !mode.multiLine then .textEnd
    else if mode.carriageReturns then .anyLineEnd else .lineEnd
  | kind => if mode.unicode then .unicodeWord kind else .word kind

/-! Expressions -/

mutual

/-- The meaning of an expression, with the flags that hold after it. -/
def Expression.meaning (mode : Mode) : Expression → Except Fault (Pattern × Mode)
  | .empty _ => .ok (.empty, mode)
  | .flags _ items => .ok (.empty, mode.applying items)
  | .literal written => do
    return (← written.pattern mode, mode)
  | .dot span =>
    if mode.unicode then .ok (.oneOf (dotCodes mode), mode) else refuse .notText span
  | .assertion _ kind => .ok (.look (kind.look mode), mode)
  | .named known => do
    return (.oneOf (← known.codes mode), mode)
  | .property asked => refuse (asked.cause mode) asked.span
  | .bracketed span negated item => do
    return (.oneOf (← finished mode span negated (← item.codes mode)), mode)
  | .repetition _ least most repeated => do
    let (pattern, mode) ← repeated.meaning mode
    return (pattern.repeated least most, mode)
  | .group _ captures items inner => do
    let (pattern, _) ← inner.meaning (mode.applying items)
    return (if captures then .capture pattern else pattern, mode)
  | .alternation _ branches => choiceMeaning mode branches
  | .sequence _ parts => sequenceMeaning mode parts

def choiceMeaning (mode : Mode) : List Expression → Except Fault (Pattern × Mode)
  | [] => .ok (.empty, mode)
  | [branch] => branch.meaning mode
  | branch :: rest => do
    let (first, mode) ← branch.meaning mode
    let (second, mode) ← choiceMeaning mode rest
    return (.choice first second, mode)

def sequenceMeaning (mode : Mode) : List Expression → Except Fault (Pattern × Mode)
  | [] => .ok (.empty, mode)
  | [part] => part.meaning mode
  | part :: rest => do
    let (first, mode) ← part.meaning mode
    let (second, mode) ← sequenceMeaning mode rest
    return (.sequence first second, mode)

end

end CodeFormatting.Regex
