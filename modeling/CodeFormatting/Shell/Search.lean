import CodeFormatting.Decimal.Numeral
import CodeFormatting.Shell.Octets
namespace CodeFormatting.Shell.Search

/-! An expression describes the texts that a search looks for. It is written in one of two ways,
which differ in whether a backslash gives a sign its meaning or takes it away. A search finds
the first place where a text matches, and there the longest match. -/

inductive Expression
  | empty
  | character (accepts : Char → Bool)
  | start
  | finish
  | group (number : Nat) (body : Expression)
  | sequence (first second : Expression)
  | choice (first second : Expression)
  | repeated (least : Nat) (most : Option Nat) (body : Expression)
  | same (number : Nat)

instance : Inhabited Expression := ⟨.empty⟩

/-! Reading -/

/-- How an expression is written, and whether the case of letters counts. -/
structure Style where
  extended : Bool
  ignoresCase : Bool

/-- What is left of an expression that is being read, and how many groups there have been. -/
structure State where
  rest : Octets
  groups : Nat

abbrev Reader := StateT State (Except String)

def Style.set (style : Style) (accepts : Char → Bool) : Expression :=
  .character (if style.ignoresCase then
    fun character => accepts character.toLower || accepts character.toUpper else accepts)

/-- Takes a sign if it comes next, with the backslash that gives it its meaning. -/
def accept (style : Style) (sign : Char) : Reader Bool :=
  modifyGet fun state =>
    match style.extended, state.rest with
    | true, first :: rest =>
      if first = sign then (true, { state with rest }) else (false, state)
    | false, '\\' :: first :: rest =>
      if first = sign then (true, { state with rest }) else (false, state)
    | _, _ => (false, state)

def acceptStar : Reader Bool :=
  modifyGet fun state =>
    match state.rest with
    | '*' :: rest => (true, { state with rest })
    | _ => (false, state)

/-- The bounds in braces, of which the first has been read. -/
def readBounds (style : Style) : Reader (Nat × Option Nat) := do
  let low := (← get).rest.takeWhile Char.isDigit
  modify fun state => { state with rest := state.rest.drop low.length }
  let bounds ← match (← get).rest with
    | ',' :: rest => do
      let high := rest.takeWhile Char.isDigit
      modify fun state => { state with rest := rest.drop high.length }
      pure (Decimal.value low, if high.isEmpty then none else some (Decimal.value high))
    | _ => pure (Decimal.value low, some (Decimal.value low))
  if ← accept style '\x7d' then return bounds
  else throw "Invalid content of \\\x7b\\\x7d"

/-- Reads the signs behind an expression that repeat it. -/
def readRepetitions (style : Style) : Nat → Expression → Reader Expression
  | 0, body => return body
  | fuel + 1, body => do
    if ← acceptStar then readRepetitions style fuel (.repeated 0 none body)
    else if ← accept style '+' then readRepetitions style fuel (.repeated 1 none body)
    else if ← accept style '?' then readRepetitions style fuel (.repeated 0 (some 1) body)
    else if ← accept style '\x7b' then
      let (least, most) ← readBounds style
      readRepetitions style fuel (.repeated least most body)
    else return body

def wordClass? (letter : Char) : Option (Char → Bool) :=
  match letter with
  | 'w' => some isNameCharacter
  | 'W' => some fun character => !isNameCharacter character
  | 's' => some isSpace
  | 'S' => some fun character => !isSpace character
  | _ => none

/-- Reads a character, a set or a place. A caret and a dollar sign mean places only at the ends
of what they stand in unless the expression is extended. -/
def readAtom (style : Style) (isStart : Bool) : Reader Expression := do
  let state ← get
  let put (rest : Octets) (expression : Expression) : Reader Expression := do
    set { state with rest }
    return expression
  match state.rest with
  | [] => return .empty
  | '.' :: rest => put rest (.character fun _ => true)
  | '[' :: rest =>
    match readBracket? '^' rest with
    | some (accepts, after) => put after (style.set accepts)
    | none => throw "Unmatched [, [^, [:, [., or [="
  | '^' :: rest =>
    put rest (if style.extended || isStart then .start else style.set (· = '^'))
  | '$' :: rest =>
    let isEnd := rest.isEmpty || style.extended ||
      ["\\)".toList, "\\|".toList].contains (rest.take 2)
    put rest (if isEnd then .finish else style.set (· = '$'))
  | ['\\'] => throw "Trailing backslash"
  | '\\' :: letter :: rest =>
    match wordClass? letter with
    | some accepts => put rest (.character accepts)
    | none =>
      if '1' ≤ letter && letter ≤ '9' then put rest (.same (letter.toNat - 48))
      else put rest (style.set (· = if letter = 'n' then '\n' else letter))
  | character :: rest => put rest (style.set (· = character))

mutual

def readChoice (style : Style) : Nat → Reader Expression
  | 0 => return .empty
  | fuel + 1 => do
    let first ← readSequence style fuel true
    if ← accept style '|' then return .choice first (← readChoice style fuel) else return first

def readSequence (style : Style) : Nat → Bool → Reader Expression
  | 0, _ => return .empty
  | fuel + 1, isStart => do
    let before ← get
    if before.rest.isEmpty then return .empty
    if ← accept style '(' then
      let number := before.groups + 1
      modify fun state => { state with groups := number }
      let body ← readChoice style fuel
      if !(← accept style ')') then throw "Unmatched ( or \\("
      let group ← readRepetitions style fuel (.group number body)
      return .sequence group (← readSequence style fuel false)
    else if (← accept style '|') || (← accept style ')') then
      set before
      return .empty
    else
      let isStar := isStart && before.rest.head? = some '*'
      let atom ← if isStar then do
          let _ ← acceptStar
          pure (style.set (· = '*'))
        else readAtom style isStart
      let part ← match atom with
        | .start => pure atom
        | atom => readRepetitions style fuel atom
      return .sequence part (← readSequence style fuel (atom matches .start))

end

def Expression.read (style : Style) (text : Octets) : Except String Expression := do
  let (expression, state) ← (readChoice style (4 * text.length + 8)).run ⟨text, 0⟩
  if state.rest.isEmpty then return expression else throw "Unmatched ) or \\)"

/-! Searching -/

/-- A place in a text: how far it is from the beginning, and what comes after it. -/
structure Spot where
  position : Nat
  rest : Octets

/-- A way to match: where it ends, and what the groups have found. -/
structure Found where
  stop : Spot
  groups : List (Nat × Octets)

def between (start stop : Spot) : Octets :=
  start.rest.take (stop.position - start.position)

def Found.group (found : Found) (number : Nat) : Octets :=
  (found.groups.lookup number).getD []

/-- All ways in which an expression matches from where another match has ended, the preferred
ones first. -/
def ends? : Nat → Expression → Found → List Found
  | 0, _, _ => []
  | fuel + 1, expression, found =>
    let spot := found.stop
    match expression with
    | .empty => [found]
    | .character accepts =>
      match spot.rest with
      | first :: rest =>
        if accepts first then [{ found with stop := ⟨spot.position + 1, rest⟩ }] else []
      | [] => []
    | .start => if spot.position = 0 then [found] else []
    | .finish => if spot.rest.isEmpty then [found] else []
    | .group number body =>
      (ends? fuel body found).map fun inner =>
        { inner with groups := (number, between spot inner.stop) :: inner.groups }
    | .sequence first second => (ends? fuel first found).flatMap (ends? fuel second)
    | .choice first second => ends? fuel first found ++ ends? fuel second found
    | .repeated least most body =>
      let more := if most = some 0 then [] else
        ((ends? fuel body found).filter fun next =>
          least ≠ 0 || spot.position < next.stop.position).flatMap
          (ends? fuel (.repeated (least - 1) (most.map (· - 1)) body))
      if least = 0 then more ++ [found] else more
    | .same number =>
      let wanted := found.group number
      if wanted.isPrefixOf spot.rest then
        [{ found with stop := ⟨spot.position + wanted.length, spot.rest.drop wanted.length⟩ }]
      else []

/-- The longest of some matches, the first of those that are equally long. -/
def longest? (ways : List Found) : Option Found :=
  ways.foldl (fun best found =>
    match best with
    | some other => if other.stop.position < found.stop.position then some found else best
    | none => some found) none

/-- The first match at a place or behind it, with the place where it begins. -/
def find? (expression : Expression) (limit position : Nat) : Octets → Option (Spot × Found)
  | [] => (longest? (ends? limit expression ⟨⟨position, []⟩, []⟩)).map fun found =>
    (⟨position, []⟩, found)
  | first :: rest =>
    match longest? (ends? limit expression ⟨⟨position, first :: rest⟩, []⟩) with
    | some found => some (⟨position, first :: rest⟩, found)
    | none => find? expression limit (position + 1) rest

def search? (expression : Expression) (spot : Spot) : Option (Spot × Found) :=
  find? expression (10000 + 4 * spot.rest.length) spot.position spot.rest

end CodeFormatting.Shell.Search
