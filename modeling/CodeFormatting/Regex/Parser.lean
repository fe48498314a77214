import CodeFormatting.Regex.Group
import CodeFormatting.Regex.Set
namespace CodeFormatting.Regex

/-! A pattern is a choice of sequences. Signs after a part of a sequence say how often it
comes. -/

/-- What has been read between two parentheses: the branches that are complete, where the
present branch begins, and its parts, with the last one first. -/
structure Content where
  start : Position
  branches : List Expression
  branchStart : Position
  parts : List Expression

namespace Content

def empty (position : Position) : Content :=
  ⟨position, [], position, []⟩

def add (content : Content) (part : Expression) : Content :=
  { content with parts := part :: content.parts }

/-- The present branch, when it ends at a position. -/
def branch (content : Content) (stop : Position) : Expression :=
  let span : Span := ⟨content.branchStart, stop⟩
  match content.parts with
  | [] => .empty span
  | [part] => part
  | parts => .sequence span parts.reverse

def nextBranch (content : Content) (stop start : Position) : Content :=
  ⟨content.start, content.branch stop :: content.branches, start, []⟩

def expression (content : Content) (stop : Position) : Expression :=
  match content.branches with
  | [] => content.branch stop
  | branches => .alternation ⟨content.start, stop⟩ (content.branch stop :: branches).reverse

/-- Takes off the part that a repetition is about. -/
def lastPart (content : Content) : Reader (Expression × Content) :=
  match content.parts with
  | [] => Reader.failHere .repetitionMissing
  | .empty _ :: _ => Reader.failHere .repetitionMissing
  | .flags _ _ :: _ => Reader.failHere .repetitionMissing
  | part :: parts => return (part, { content with parts })

def repeated (content : Content) (least : Nat) (most : Option Nat) (part : Expression) :
    Reader Content := do
  return content.add (.repetition ⟨part.span.start, ← Reader.position⟩ least most part)

end Content

/-- Passes over the sign of a repetition that takes as little as it can. -/
def takeLazy : Reader Unit := do
  if (← Reader.character?) = some '?' then Reader.skip

def readRepetition (content : Content) (least : Nat) (most : Option Nat) : Reader Content := do
  let (part, content) ← content.lastPart
  Reader.skip
  takeLazy
  content.repeated least most part

/-- A count. It is refused where it is used, and without digits as a count. -/
def readCount? : Reader (Except Fault Nat) := fun cursor =>
  match readDecimal.run cursor with
  | .ok (count, cursor) => .ok (.ok count, cursor)
  | .error fault =>
    let cause := if fault.cause = .decimalEmpty then .repetitionCountEmpty else fault.cause
    .ok (.error { fault with cause }, afterDecimal cursor)
where
  afterDecimal (cursor : Cursor) : Cursor :=
    let blank := passed Text.isBlank cursor cursor.rest.length
    let digits := passed Char.isDigit blank blank.rest.length
    passed Text.isBlank digits digits.rest.length
  passed (belongs : Char → Bool) (cursor : Cursor) : Nat → Cursor
    | 0 => cursor
    | fuel + 1 =>
      if cursor.character?.any belongs then passed belongs cursor.advanced.withoutBlanks fuel
      else cursor

/-- The bounds within braces, and after them nothing but the closing brace. -/
def readBounds (start : Position) : Reader (Nat × Option Nat) := do
  let least ← readCount?
  match ← Reader.character? with
  | none => Reader.failFrom .repetitionCountUnclosed start
  | some ',' =>
    match ← Reader.advanceBlanks with
    | none => Reader.failFrom .repetitionCountUnclosed start
    | some '\x7d' => return (← least, none)
    | some _ =>
      let least ← least
      let most ← readCount?
      return (least, some (← most))
  | some _ =>
    let count ← least
    return (count, some count)

def readCounted (content : Content) : Reader Content := do
  let start ← Reader.position
  let (part, content) ← content.lastPart
  if (← Reader.advanceBlanks).isNone then Reader.failFrom .repetitionCountUnclosed start
  let (least, most) ← readBounds start
  if (← Reader.character?) ≠ some '\x7d' then
    Reader.failFrom .repetitionCountUnclosed start
  let _ ← Reader.advanceBlanks
  takeLazy
  if most.any (· < least) then Reader.failFrom .repetitionCountInvalid start
  content.repeated least most part

def readPrimitive : Reader Primitive := do
  let cursor ← get
  let span := cursor.characterSpan
  match cursor.character? with
  | some '\\' => readEscape
  | some '.' =>
    Reader.skip
    return .dot span
  | some '^' =>
    Reader.skip
    return .assertion span .lineStart
  | some '$' =>
    Reader.skip
    return .assertion span .lineEnd
  | some character =>
    Reader.skip
    return .literal ⟨span, character, false⟩
  | none => Reader.failHere .escapeUnfinished

def setIgnoresBlanks (ignoresBlanks : Bool) : Reader Unit :=
  modify fun cursor => { cursor with ignoresBlanks }

def ignoredIn (items : List FlagItem) (present : Bool) : Bool :=
  (flagState .ignoreBlanks items).getD present

/-- Reads up to the end of the pattern or to a parenthesis that was not opened here. -/
def readContent : Nat → Content → Reader Content
  | 0, content => return content
  | fuel + 1, content => do
    Reader.skipBlanks
    match ← Reader.character? with
    | none => return content
    | some ')' => return content
    | some '(' =>
      let ignored := (← get).ignoresBlanks
      match ← readGroupStart with
      | .flags span items =>
        setIgnoresBlanks (ignoredIn items ignored)
        readContent fuel (content.add (.flags span items))
      | .group opening captures items =>
        setIgnoresBlanks (ignoredIn items ignored)
        let inner ← readContent fuel (.empty (← Reader.position))
        if (← Reader.character?).isNone then Reader.fail .groupUnclosed opening
        setIgnoresBlanks ignored
        let stop ← Reader.position
        Reader.skip
        let span : Span := ⟨opening.start, ← Reader.position⟩
        readContent fuel (content.add (.group span captures items (inner.expression stop)))
    | some '|' =>
      let stop ← Reader.position
      Reader.skip
      readContent fuel (content.nextBranch stop (← Reader.position))
    | some '[' => readContent fuel (content.add (← readSet))
    | some '?' => readContent fuel (← readRepetition content 0 (some 1))
    | some '*' => readContent fuel (← readRepetition content 0 none)
    | some '+' => readContent fuel (← readRepetition content 1 none)
    | some '\x7b' => readContent fuel (← readCounted content)
    | some _ => readContent fuel (content.add (← readPrimitive).expression)

def readPattern : Reader Expression := do
  let fuel := (← get).rest.length + 1
  let content ← readContent fuel (.empty (← Reader.position))
  if (← Reader.character?).isSome then Reader.failAtCharacter .groupUnopened
  return content.expression (← Reader.position)

/-! Nesting -/

def nestingLimit : Nat :=
  250

/-- The span of a part that stands too deep within others. -/
def checkNesting (depth : Nat) (span : Span) : Except Fault Unit :=
  if nestingLimit ≤ depth then .error ⟨.nestingTooDeep nestingLimit, span, none⟩ else .ok ()

mutual

def SetItem.checkDepth (depth : Nat) : SetItem → Except Fault Unit
  | .bracketed span _ item => do
    checkNesting depth span
    item.checkDepth (depth + 1)
  | .union span items => do
    checkNesting depth span
    checkItems (depth + 1) items
  | .operation span _ left right => do
    checkNesting depth span
    left.checkDepth (depth + 1)
    right.checkDepth (depth + 1)
  | _ => .ok ()

def checkItems (depth : Nat) : List SetItem → Except Fault Unit
  | [] => .ok ()
  | item :: rest => do
    item.checkDepth depth
    checkItems depth rest

end

mutual

def Expression.checkDepth (depth : Nat) : Expression → Except Fault Unit
  | .bracketed span _ item => do
    checkNesting depth span
    item.checkDepth (depth + 1)
  | .repetition span _ _ repeated => do
    checkNesting depth span
    repeated.checkDepth (depth + 1)
  | .group span _ _ inner => do
    checkNesting depth span
    inner.checkDepth (depth + 1)
  | .alternation span branches => do
    checkNesting depth span
    checkParts (depth + 1) branches
  | .sequence span parts => do
    checkNesting depth span
    checkParts (depth + 1) parts
  | _ => .ok ()

def checkParts (depth : Nat) : List Expression → Except Fault Unit
  | [] => .ok ()
  | part :: rest => do
    part.checkDepth depth
    checkParts depth rest

end

def Expression.parse (pattern : String) : Except Fault Expression := do
  let (expression, _) ← readPattern.run (.ofPattern pattern)
  expression.checkDepth 0
  return expression

end CodeFormatting.Regex
