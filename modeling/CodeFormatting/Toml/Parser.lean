import CodeFormatting.Toml.Document
import CodeFormatting.Toml.Scalar
import CodeFormatting.Toml.Text
namespace CodeFormatting.Toml

/-! Reading a document takes one expression after the other off the front of its text: a
header, which says to which table the following values belong, or a key with its value.
Values nest no deeper than a fixed limit. -/

abbrev Reader (Answer : Type) := List Char → Option (Answer × List Char)

def isBlank (character : Char) : Bool :=
  character = ' ' || character = '\t'

def skipBlanks (characters : List Char) : List Char :=
  characters.dropWhile isBlank

def isBareKeyCharacter (character : Char) : Bool :=
  character.isAlphanum || character = '_' || character = '-'

/-- Passes over a comment up to the end of its line. -/
def skipComment? (characters : List Char) : Option (List Char) :=
  match characters with
  | '#' :: rest =>
    let text := rest.takeWhile (· ≠ '\n')
    let text := if text.getLast? = some '\r' ∧ text.length < rest.length then text.dropLast
      else text
    if text.any isForbidden then none else some (rest.drop text.length)
  | rest => some rest

def skipLineEnd? (characters : List Char) : Option (List Char) :=
  match characters with
  | '\n' :: rest => some rest
  | '\r' :: '\n' :: rest => some rest
  | _ => none

def skipSpace? : Nat → List Char → Option (List Char)
  | 0, _ => none
  | fuel + 1, characters => do
    let rest ← skipComment? (skipBlanks characters)
    match skipLineEnd? rest with
    | some rest => skipSpace? fuel rest
    | none => return rest

def skipAllSpace? (characters : List Char) : Option (List Char) :=
  skipSpace? (characters.length + 1) characters

def readSimpleKey? : Reader String := fun characters =>
  match characters with
  | '"' :: _ => (readLine? characters).map fun (text, rest) => (String.ofList text, rest)
  | '\'' :: _ => (readLine? characters).map fun (text, rest) => (String.ofList text, rest)
  | characters =>
    let key := characters.takeWhile isBareKeyCharacter
    if key.isEmpty then none
    else some (String.ofList key, characters.dropWhile isBareKeyCharacter)

/-- The parts of a key with dots between them. -/
def readParts? : Nat → Reader (List String)
  | 0, _ => none
  | fuel + 1, characters => do
    let (key, rest) ← readSimpleKey? (skipBlanks characters)
    match skipBlanks rest with
    | '.' :: rest =>
      let (more, rest) ← readParts? fuel rest
      return (key :: more, rest)
    | rest => return ([key], rest)

/-- How deep arrays and tables may stand in each other, and how many parts a key may have. -/
def nestingLimit : Nat :=
  80

def readKey? : Reader (List String) := fun characters => do
  let (key, rest) ← readParts? (characters.length + 1) characters
  if nestingLimit < key.length then none else return (key, rest)

def endsScalar (character : Char) : Bool :=
  isBlank character || character = '\n' || character = '\r' || character = ',' ||
    character = ']' || character = '\x7d' || character = '#'

/-- A scalar, which has a blank within it only between a date and a time. -/
def readScalar? : Reader Toml := fun characters => do
  let text := characters.takeWhile (!endsScalar ·)
  let rest := characters.dropWhile (!endsScalar ·)
  match rest with
  | ' ' :: time =>
    let more := time.takeWhile (!endsScalar ·)
    if isMoment text ∧ (more.head?.any Char.isDigit) then
      let value ← scalar? (text ++ ' ' :: more)
      return (value, time.dropWhile (!endsScalar ·))
    else return (← scalar? text, rest)
  | rest => return (← scalar? text, rest)

/-- Sets a value in the table that is written in braces. -/
def setKey? (key : List String) (value : Toml) (node : Node) : Option Node :=
  match key.getLast? with
  | some last => node.set? key.dropLast last value
  | none => none

mutual

def readValue? : Nat → Nat → Reader Toml
  | 0, _, _ => none
  | fuel + 1, nesting, characters =>
    match characters with
    | '"' :: _ => (readText? characters).map fun (text, rest) =>
        (.string (String.ofList text), rest)
    | '\'' :: _ => (readText? characters).map fun (text, rest) =>
        (.string (String.ofList text), rest)
    | '[' :: rest =>
      match nesting with
      | 0 => none
      | nesting + 1 => do
        let (items, rest) ← readItems? fuel nesting rest
        return (.array items, rest)
    | '\x7b' :: rest =>
      match nesting with
      | 0 => none
      | nesting + 1 => do
        let (node, rest) ← readEntries? fuel nesting .root rest
        return (node.toToml, rest)
    | characters => readScalar? characters

/-- The items up to the closing bracket; a comma may follow the last. -/
def readItems? : Nat → Nat → Reader (List Toml)
  | 0, _, _ => none
  | fuel + 1, nesting, characters => do
    match ← skipAllSpace? characters with
    | ']' :: rest => return ([], rest)
    | rest =>
      let (item, rest) ← readValue? fuel nesting rest
      match ← skipAllSpace? rest with
      | ',' :: rest =>
        let (items, rest) ← readItems? fuel nesting rest
        return (item :: items, rest)
      | ']' :: rest => return ([item], rest)
      | _ => none

/-- The entries up to the closing brace; a comma may follow the last. -/
def readEntries? : Nat → Nat → Node → Reader Node
  | 0, _, _, _ => none
  | fuel + 1, nesting, node, characters => do
    match ← skipAllSpace? characters with
    | '\x7d' :: rest => return (node, rest)
    | rest =>
      let (key, rest) ← readKey? rest
      match ← skipAllSpace? rest with
      | '=' :: rest =>
        let (value, rest) ← readValue? fuel nesting (← skipAllSpace? rest)
        let node ← setKey? key value node
        match ← skipAllSpace? rest with
        | ',' :: rest => readEntries? fuel nesting node rest
        | '\x7d' :: rest => return (node, rest)
        | _ => none
      | _ => none

end

/-- A document as far as it was read, with the path of the table that is being filled. -/
structure Draft where
  node : Node
  current : List String
  deriving Inhabited

namespace Draft

def empty : Draft :=
  ⟨.root, []⟩

def set? (draft : Draft) (key : List String) (value : Toml) : Option Draft := do
  let node ← draft.node.modify? false (setKey? key value) draft.current
  return { draft with node }

def begin? (draft : Draft) (several : Bool) (key : List String) : Option Draft := do
  let last ← key.getLast?
  let action := if several then Node.openItem? last else Node.openTable? last
  let node ← draft.node.modify? false action key.dropLast
  return ⟨node, key⟩

end Draft

def readHeader? (draft : Draft) : Reader Draft := fun characters => do
  let several : Bool := characters.head? == some '['
  let inner := if several then characters.drop 1 else characters
  let (key, rest) ← readKey? inner
  let draft ← draft.begin? several key
  match several, rest with
  | true, ']' :: ']' :: rest => return (draft, rest)
  | false, ']' :: rest => return (draft, rest)
  | _, _ => none

def readPair? (draft : Draft) : Reader Draft := fun characters => do
  let (key, rest) ← readKey? characters
  match skipBlanks rest with
  | '=' :: rest =>
    let rest := skipBlanks rest
    let (value, rest) ← readValue? (rest.length + 1) nestingLimit rest
    let draft ← draft.set? key value
    return (draft, rest)
  | _ => none

/-- The rest after what may follow an expression on its line. -/
def afterExpression? (characters : List Char) : Option (List Char) := do
  let rest ← skipComment? (skipBlanks characters)
  if rest.isEmpty then return [] else skipLineEnd? rest

def readExpressions? : Nat → Draft → List Char → Option Draft
  | 0, _, _ => none
  | fuel + 1, draft, characters => do
    match ← skipAllSpace? characters with
    | [] => return draft
    | '[' :: rest =>
      let (draft, rest) ← readHeader? draft rest
      readExpressions? fuel draft (← afterExpression? rest)
    | rest =>
      let (draft, rest) ← readPair? draft rest
      readExpressions? fuel draft (← afterExpression? rest)

def withoutMark (characters : List Char) : List Char :=
  match characters with
  | '\ufeff' :: rest => rest
  | rest => rest

def parse? (text : String) : Option Toml := do
  let characters := withoutMark text.toList
  let draft ← readExpressions? (characters.length + 1) .empty characters
  return draft.node.toToml

end CodeFormatting.Toml
