import CodeFormatting.Decimal.Numeral
import CodeFormatting.Decimal.Shortest
import CodeFormatting.Json.Basic
namespace CodeFormatting.Json

/-! The compact text of a value has no blank between its parts. In a string only
the quote, the backslash and the controls below the space are escaped; five of
the controls have a letter of their own. -/

def hexadecimalDigit (digit : Nat) : Char :=
  Nat.digitChar digit

def printedCharacter (character : Char) : List Char :=
  if character = '"' then ['\\', '"']
  else if character = '\\' then ['\\', '\\']
  else if character.toNat = 0x08 then ['\\', 'b']
  else if character.toNat = 0x0C then ['\\', 'f']
  else if character = '\n' then ['\\', 'n']
  else if character = '\r' then ['\\', 'r']
  else if character = '\t' then ['\\', 't']
  else if character.toNat < 0x20 then
    ['\\', 'u', '0', '0', hexadecimalDigit (character.toNat / 16),
      hexadecimalDigit (character.toNat % 16)]
  else [character]

def printedString (text : String) : List Char :=
  '"' :: text.toList.flatMap printedCharacter ++ ['"']

def printedInteger : Int → List Char
  | .ofNat value => Decimal.numeral value
  | .negSucc value => '-' :: Decimal.numeral (value + 1)

mutual

def printed : Json → List Char
  | .null => ['n', 'u', 'l', 'l']
  | .boolean true => ['t', 'r', 'u', 'e']
  | .boolean false => ['f', 'a', 'l', 's', 'e']
  | .integer value => printedInteger value
  | .fraction value => value.compactText.toList
  | .string text => printedString text
  | .array [] => ['[', ']']
  | .array (item :: rest) => '[' :: (printed item ++ printedItems rest)
  | .object [] => ['\x7b', '\x7d']
  | .object ((name, value) :: rest) =>
    '\x7b' :: (printedString name ++ ':' :: (printed value ++ printedMembers rest))

def printedItems : List Json → List Char
  | [] => [']']
  | item :: rest => ',' :: (printed item ++ printedItems rest)

def printedMembers : List (String × Json) → List Char
  | [] => ['\x7d']
  | (name, value) :: rest =>
    ',' :: (printedString name ++ ':' :: (printed value ++ printedMembers rest))

end

def compact (json : Json) : String :=
  String.ofList (printed json)

end CodeFormatting.Json
