import CodeFormatting.Regex.Escape
namespace CodeFormatting.Regex

/-! A set stands between brackets. It holds characters, ranges of them, classes and other sets.
Two sets are put together by doubled signs, from left to right. -/

/-- The items of a set that stand beside one another so far, with the last one first. -/
structure Union where
  span : Span
  items : List SetItem

def Union.empty (position : Position) : Union :=
  ⟨⟨position, position⟩, []⟩

def Union.add (united : Union) (item : SetItem) : Union :=
  match united.items with
  | [] => ⟨item.span, [item]⟩
  | items => ⟨⟨united.span.start, item.span.stop⟩, item :: items⟩

def Union.item (united : Union) : SetItem :=
  match united.items with
  | [] => .empty united.span
  | [item] => item
  | items => .union united.span items.reverse

/-- A set that is being read: where it was opened, what stands to the left of the operator
before the present items, and these items. -/
structure OpenSet where
  opening : Span
  negated : Bool
  left : Option (SetItem × SetOperator)
  united : Union

namespace OpenSet

def add (opened : OpenSet) (item : SetItem) : OpenSet :=
  { opened with united := opened.united.add item }

def item (opened : OpenSet) : SetItem :=
  match opened.left with
  | none => opened.united.item
  | some (left, operator) =>
    let right := opened.united.item
    .operation ⟨left.span.start, right.span.stop⟩ operator left right

def operate (opened : OpenSet) (operator : SetOperator) (position : Position) : OpenSet :=
  { opened with left := some (opened.item, operator), united := .empty position }

def failUnclosed {Answer : Type} (opened : OpenSet) : Reader Answer :=
  Reader.fail .classUnclosed opened.opening

end OpenSet

/-! ASCII classes -/

def asciiRanges? : String → Option (List (Nat × Nat))
  | "alnum" => some [(48, 57), (65, 90), (97, 122)]
  | "alpha" => some [(65, 90), (97, 122)]
  | "ascii" => some [(0, 127)]
  | "blank" => some [(9, 9), (32, 32)]
  | "cntrl" => some [(0, 31), (127, 127)]
  | "digit" => some [(48, 57)]
  | "graph" => some [(33, 126)]
  | "lower" => some [(97, 122)]
  | "print" => some [(32, 126)]
  | "punct" => some [(33, 47), (58, 64), (91, 96), (123, 126)]
  | "space" => some [(9, 13), (32, 32)]
  | "upper" => some [(65, 90)]
  | "word" => some [(48, 57), (65, 90), (95, 95), (97, 122)]
  | "xdigit" => some [(48, 57), (65, 70), (97, 102)]
  | _ => none

/-- The class between colons at a front, with the count of its characters. -/
def asciiClassAt? (text : List Char) : Option (Nat × Bool × List (Nat × Nat)) :=
  match text with
  | '[' :: ':' :: rest =>
    let negated := rest.head? = some '^'
    let named := if negated then rest.drop 1 else rest
    let name := named.takeWhile (· ≠ ':')
    let sign := if negated then 1 else 0
    if [':', ']'].isPrefixOf (named.drop name.length) then
      (asciiRanges? (String.ofList name)).map fun ranges =>
        (name.length + 4 + sign, negated, ranges)
    else none
  | _ => none

/-- Reads a class between colons if there is one. -/
def readAsciiClass? : Reader (Option SetItem) := do
  let cursor ← get
  match asciiClassAt? cursor.rest with
  | none => return none
  | some (length, negated, ranges) =>
    set (cursor.advancedBy length)
    return some (.ascii ⟨⟨cursor.position, ← Reader.position⟩, ranges, negated⟩)

/-! Items -/

def readSetPrimitive : Reader Primitive := do
  let cursor ← get
  match cursor.character? with
  | some '\\' => readEscape
  | some character =>
    Reader.skip
    return .literal ⟨cursor.characterSpan, character, false⟩
  | none => Reader.failHere .classUnclosed

/-- A character, a class, or a range from one character to another. -/
def readSetItem (opened : OpenSet) : Reader SetItem := do
  let first ← readSetPrimitive
  Reader.skipBlanks
  let cursor ← get
  match cursor.character? with
  | none => opened.failUnclosed
  | some '-' =>
    if cursor.next? = some ']' || cursor.next? = some '-' then first.setItem
    else
      if (← Reader.advanceBlanks).isNone then opened.failUnclosed
      let last ← readSetPrimitive
      let span : Span := ⟨first.span.start, last.span.stop⟩
      let low ← first.boundary
      let high ← last.boundary
      if high.character < low.character then Reader.fail .classRangeInvalid span
      return .range span low high
  | some _ => first.setItem

/-- Reads the dashes that stand for themselves at the beginning of a set. -/
def readDashes (start : Position) : Nat → Union → Reader Union
  | 0, united => return united
  | fuel + 1, united => do
    let cursor ← get
    if cursor.character? = some '-' then
      if (← Reader.advanceBlanks).isNone then Reader.fail .classUnclosed ⟨start, start⟩
      readDashes start fuel (united.add (.literal ⟨cursor.characterSpan, '-', false⟩))
    else return united

/-- Reads the opening of a set, and after it what stands for itself only there. -/
def readSetOpening : Reader OpenSet := do
  let start ← Reader.position
  let first ← Reader.advanceBlanks
  if first.isNone then Reader.failFrom .classUnclosed start
  let negated := first = some '^'
  if negated then
    if (← Reader.advanceBlanks).isNone then Reader.failFrom .classUnclosed start
  let united ← readDashes start (← get).rest.length (.empty (← Reader.position))
  let cursor ← get
  if united.items.isEmpty && cursor.character? = some ']' then
    if (← Reader.advanceBlanks).isNone then Reader.failFrom .classUnclosed start
    let bracket := SetItem.literal ⟨cursor.characterSpan, ']', false⟩
    return ⟨⟨start, ← Reader.position⟩, negated, none, united.add bracket⟩
  else return ⟨⟨start, ← Reader.position⟩, negated, none, united⟩

def takeOperator? : Reader (Option SetOperator) := do
  if ← Reader.take? "&&" then return some .intersection
  if ← Reader.take? "--" then return some .difference
  if ← Reader.take? "~~" then return some .symmetricDifference
  return none

def readSetRest : Nat → OpenSet → Reader SetItem
  | 0, opened => opened.failUnclosed
  | fuel + 1, opened => do
    Reader.skipBlanks
    match ← Reader.character? with
    | none => opened.failUnclosed
    | some '[' =>
      match ← readAsciiClass? with
      | some item => readSetRest fuel (opened.add item)
      | none =>
        let inner ← readSetOpening
        let item ← readSetRest fuel inner
        readSetRest fuel (opened.add item)
    | some ']' =>
      Reader.skip
      return .bracketed ⟨opened.opening.start, ← Reader.position⟩ opened.negated opened.item
    | some _ =>
      match ← takeOperator? with
      | some operator => readSetRest fuel (opened.operate operator (← Reader.position))
      | none => readSetRest fuel (opened.add (← readSetItem opened))

def readSet : Reader Expression := do
  let fuel := (← get).rest.length + 1
  match ← readSetRest fuel (← readSetOpening) with
  | .bracketed span negated item => return .bracketed span negated item
  | other => return .bracketed other.span false other

end CodeFormatting.Regex
