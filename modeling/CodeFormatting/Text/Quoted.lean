import CodeFormatting.Text.Printable
namespace CodeFormatting.Text

/-! A quoted text stands between double quotes. The quote, the backslash and the
common controls are written with a backslash and a letter, every other character
that would not show on its own by its code point in hexadecimal. -/

def hexadecimal (code : Nat) : List Char :=
  Nat.toDigits 16 code

def quotedCharacter (character : Char) : List Char :=
  if character = '"' then ['\\', '"']
  else if character = '\\' then ['\\', '\\']
  else if character = '\t' then ['\\', 't']
  else if character = '\n' then ['\\', 'n']
  else if character = '\r' then ['\\', 'r']
  else if character.toNat = 0 then ['\\', '0']
  else if isPrintable character && !extendsPrevious character then [character]
  else ['\\', 'u', '\x7b'] ++ hexadecimal character.toNat ++ ['\x7d']

def quoted (text : String) : String :=
  String.ofList (['"'] ++ text.toList.flatMap quotedCharacter ++ ['"'])

def quotedOption : Option String → String
  | some text => "Some(" ++ quoted text ++ ")"
  | none => "None"

def quotedList (texts : List String) : String :=
  "[" ++ ", ".intercalate (texts.map quoted) ++ "]"

end CodeFormatting.Text
