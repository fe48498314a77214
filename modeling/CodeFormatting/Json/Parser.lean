import CodeFormatting.Decimal.Numeral
import CodeFormatting.Json.Basic
namespace CodeFormatting.Json

/-! Reading a value takes it off the front of a text and answers with the rest.
The depth of the recursion is bounded by the length of the text, since every
value, item and member takes at least one character. -/

def isSpace (character : Char) : Bool :=
  character = ' ' || character = '\t' || character = '\n' || character = '\r'

def afterSpace (characters : List Char) : List Char :=
  characters.dropWhile isSpace

def hexadecimalValue? (character : Char) : Option Nat :=
  if '0' ≤ character ∧ character ≤ '9' then some (character.toNat - 48)
  else if 'a' ≤ character ∧ character ≤ 'f' then some (character.toNat - 87)
  else if 'A' ≤ character ∧ character ≤ 'F' then some (character.toNat - 55)
  else none

def unit? (first second third fourth : Char) : Option Nat := do
  let first ← hexadecimalValue? first
  let second ← hexadecimalValue? second
  let third ← hexadecimalValue? third
  let fourth ← hexadecimalValue? fourth
  return ((first * 16 + second) * 16 + third) * 16 + fourth

def escaped? (letter : Char) : Option Char :=
  match letter with
  | '"' => some '"'
  | '\\' => some '\\'
  | '/' => some '/'
  | 'b' => some '\x08'
  | 'f' => some '\x0c'
  | 'n' => some '\n'
  | 'r' => some '\r'
  | 't' => some '\t'
  | _ => none

def isHighSurrogate (unit : Nat) : Bool :=
  0xD800 ≤ unit && unit < 0xDC00

def isLowSurrogate (unit : Nat) : Bool :=
  0xDC00 ≤ unit && unit < 0xE000

/-- Reads the rest of a string after its opening quote, or after the first half
of a character that is written as two units. -/
def readString? (pending : Option Nat) : List Char → Option (List Char × List Char)
  | [] => none
  | '\\' :: 'u' :: first :: second :: third :: fourth :: rest => do
    let unit ← unit? first second third fourth
    match pending with
    | some high =>
      if isLowSurrogate unit then
        let (text, rest) ← readString? none rest
        return (Char.ofNat (0x10000 + (high - 0xD800) * 0x400 + (unit - 0xDC00)) :: text, rest)
      else none
    | none =>
      if isHighSurrogate unit then readString? (some unit) rest
      else if isLowSurrogate unit then none
      else
        let (text, rest) ← readString? none rest
        return (Char.ofNat unit :: text, rest)
  | '\\' :: letter :: rest => do
    if pending.isSome then none
    let character ← escaped? letter
    let (text, rest) ← readString? none rest
    return (character :: text, rest)
  | character :: rest =>
    if pending.isSome then none
    else if character = '"' then some ([], rest)
    else if character.toNat < 0x20 then none
    else do
      let (text, rest) ← readString? none rest
      return (character :: text, rest)

def isNumberCharacter (character : Char) : Bool :=
  character.isDigit || character = '-' || character = '+' || character = '.' ||
    character = 'e' || character = 'E'

def exponent? (characters : List Char) : Option Int :=
  match characters with
  | '-' :: rest => (Decimal.natural? rest).map fun value => -(value : Int)
  | '+' :: rest => (Decimal.natural? rest).map fun value => (value : Int)
  | rest => (Decimal.natural? rest).map fun value => (value : Int)

def unsigned? (negative : Bool) (characters : List Char) : Option Json := do
  let whole := characters.takeWhile Char.isDigit
  let rest := characters.dropWhile Char.isDigit
  if whole.isEmpty || (whole.length ≠ 1 && whole.head? == some '0') then none
  let magnitude := Decimal.value whole
  match rest with
  | [] =>
    if negative then
      if magnitude = 0 then return .fraction (.zero true)
      else if magnitude ≤ Nat.pow 2 63 then return .integer (-(magnitude : Int))
      else return .fraction (.ofDecimal true magnitude 0)
    else if magnitude < Nat.pow 2 64 then return .integer magnitude
    else return .fraction (.ofDecimal false magnitude 0)
  | '.' :: rest =>
    let digits := rest.takeWhile Char.isDigit
    if digits.isEmpty then none
    let exponent ← match rest.dropWhile Char.isDigit with
      | [] => some 0
      | letter :: power => if letter = 'e' ∨ letter = 'E' then exponent? power else none
    return .fraction (.ofDecimal negative (Decimal.value (whole ++ digits))
      (exponent - digits.length))
  | letter :: power =>
    if letter = 'e' ∨ letter = 'E' then
      let exponent ← exponent? power
      return .fraction (.ofDecimal negative magnitude exponent)
    else none

def number? : List Char → Option Json
  | '-' :: rest => unsigned? true rest
  | characters => unsigned? false characters

def literal? (characters : List Char) : Option (Json × List Char) :=
  match characters with
  | 'n' :: 'u' :: 'l' :: 'l' :: rest => some (.null, rest)
  | 't' :: 'r' :: 'u' :: 'e' :: rest => some (.boolean true, rest)
  | 'f' :: 'a' :: 'l' :: 's' :: 'e' :: rest => some (.boolean false, rest)
  | _ => do
    let number ← number? (characters.takeWhile isNumberCharacter)
    return (number, characters.dropWhile isNumberCharacter)

def readName? (characters : List Char) : Option (String × List Char) :=
  match afterSpace characters with
  | '"' :: rest => do
    let (name, rest) ← readString? none rest
    match afterSpace rest with
    | ':' :: rest => return (String.ofList name, rest)
    | _ => none
  | _ => none

mutual

def readValue? : Nat → List Char → Option (Json × List Char)
  | 0, _ => none
  | depth + 1, characters =>
    match afterSpace characters with
    | '"' :: rest => do
      let (text, rest) ← readString? none rest
      return (.string (String.ofList text), rest)
    | '[' :: rest =>
      match afterSpace rest with
      | ']' :: rest => some (.array [], rest)
      | rest => do
        let (items, rest) ← readItems? depth rest
        return (.array items, rest)
    | '\x7b' :: rest =>
      match afterSpace rest with
      | '\x7d' :: rest => some (.object [], rest)
      | rest => do
        let (members, rest) ← readMembers? depth rest
        return (.object members, rest)
    | rest => literal? rest

def readItems? : Nat → List Char → Option (List Json × List Char)
  | 0, _ => none
  | depth + 1, characters => do
    let (item, rest) ← readValue? depth characters
    match afterSpace rest with
    | ',' :: rest =>
      let (items, rest) ← readItems? depth rest
      return (item :: items, rest)
    | ']' :: rest => return ([item], rest)
    | _ => none

def readMembers? : Nat → List Char → Option (List (String × Json) × List Char)
  | 0, _ => none
  | depth + 1, characters => do
    let (name, rest) ← readName? characters
    let (value, rest) ← readValue? depth rest
    match afterSpace rest with
    | ',' :: rest =>
      let (members, rest) ← readMembers? depth rest
      return ((name, value) :: members, rest)
    | '\x7d' :: rest => return ([(name, value)], rest)
    | _ => none

end

def parse? (text : String) : Option Json := do
  let characters := text.toList
  let (value, rest) ← readValue? (characters.length + 1) characters
  if (afterSpace rest).isEmpty then return value else none

end CodeFormatting.Json
