import CodeFormatting.Json.Parser
namespace CodeFormatting.Toml

/-! Texts in quotes. Between single quotes every character stands for itself, between double
quotes a backslash begins an escape. Three quotes begin a text of several lines, of which
an empty first line does not count. Reading answers with the rest after the closing quotes. -/

/-- A control character that may stand in no text and no comment. -/
def isForbidden (character : Char) : Bool :=
  (character.toNat < 0x20 && character ≠ '\t') || character.toNat = 0x7F

def scalarValue? (code : Nat) : Option Char :=
  if code < 0xD800 ∨ (0xE000 ≤ code ∧ code < 0x110000) then some (Char.ofNat code) else none

/-- The character with a code of so many hexadecimal digits. -/
def coded? (count : Nat) (characters : List Char) : Option (Char × List Char) := do
  let digits := characters.take count
  if digits.length ≠ count then none
  let values ← digits.mapM Json.hexadecimalValue?
  let character ← scalarValue? (values.foldl (fun code value => code * 16 + value) 0)
  return (character, characters.drop count)

/-- The character that an escape stands for, after its backslash. -/
def escape? : List Char → Option (Char × List Char)
  | 'b' :: rest => some ('\x08', rest)
  | 't' :: rest => some ('\t', rest)
  | 'n' :: rest => some ('\n', rest)
  | 'f' :: rest => some ('\x0c', rest)
  | 'r' :: rest => some ('\r', rest)
  | 'e' :: rest => some ('\x1b', rest)
  | '"' :: rest => some ('"', rest)
  | '\\' :: rest => some ('\\', rest)
  | 'x' :: rest => coded? 2 rest
  | 'u' :: rest => coded? 4 rest
  | 'U' :: rest => coded? 8 rest
  | _ => none

def readBasic? : Nat → List Char → Option (List Char × List Char)
  | 0, _ => none
  | _ + 1, [] => none
  | _ + 1, '"' :: rest => some ([], rest)
  | fuel + 1, '\\' :: rest => do
    let (character, rest) ← escape? rest
    let (text, rest) ← readBasic? fuel rest
    return (character :: text, rest)
  | fuel + 1, character :: rest => do
    if isForbidden character then none
    let (text, rest) ← readBasic? fuel rest
    return (character :: text, rest)

def readLiteral? (characters : List Char) : Option (List Char × List Char) :=
  let text := characters.takeWhile (· ≠ '\'')
  match characters.dropWhile (· ≠ '\'') with
  | _ :: rest => if text.any isForbidden then none else some (text, rest)
  | [] => none

/-- The text after a backslash that ends a line: the blanks and line ends after it do not
count. -/
def afterLineEnd? (characters : List Char) : Option (List Char) :=
  let isBlank (character : Char) : Bool := character = ' ' || character = '\t'
  match characters.dropWhile isBlank with
  | '\n' :: rest => some (skip rest)
  | '\r' :: '\n' :: rest => some (skip rest)
  | _ => none
where
  skip : List Char → List Char
    | ' ' :: rest => skip rest
    | '\t' :: rest => skip rest
    | '\n' :: rest => skip rest
    | '\r' :: '\n' :: rest => skip rest
    | rest => rest

/-- The quotes that end a text of several lines. Of a longer run the first ones belong to
the text, two at most. -/
def closing? (quote : Char) (characters : List Char) : Option (List Char × List Char) :=
  let run := (characters.takeWhile (· = quote)).length
  if run < 3 then none
  else
    let extra := min (run - 3) 2
    some (List.replicate extra quote, characters.drop (3 + extra))

/-- Reads a text of several lines; escapes count only between double quotes. -/
def readLines? (quote : Char) : Nat → List Char → Option (List Char × List Char)
  | 0, _ => none
  | _ + 1, [] => none
  | fuel + 1, character :: rest =>
    match closing? quote (character :: rest) with
    | some closed => some closed
    | none =>
      if character = '\\' ∧ quote = '"' then
        match afterLineEnd? rest with
        | some rest => readLines? quote fuel rest
        | none => do
          let (character, rest) ← escape? rest
          let (text, rest) ← readLines? quote fuel rest
          return (character :: text, rest)
      else if character = '\r' then
        match rest with
        | '\n' :: rest => do
          let (text, rest) ← readLines? quote fuel rest
          return ('\r' :: '\n' :: text, rest)
        | _ => none
      else if isForbidden character ∧ character ≠ '\n' then none
      else do
        let (text, rest) ← readLines? quote fuel rest
        return (character :: text, rest)

def withoutFirstLineEnd (characters : List Char) : List Char :=
  match characters with
  | '\n' :: rest => rest
  | '\r' :: '\n' :: rest => rest
  | rest => rest

def readLine? (characters : List Char) : Option (List Char × List Char) :=
  match characters with
  | '"' :: rest => readBasic? (rest.length + 1) rest
  | '\'' :: rest => readLiteral? rest
  | _ => none

/-- A text in quotes of either kind and number. -/
def readText? (characters : List Char) : Option (List Char × List Char) :=
  match characters with
  | '"' :: '"' :: '"' :: rest => readLines? '"' (rest.length + 1) (withoutFirstLineEnd rest)
  | '\'' :: '\'' :: '\'' :: rest =>
    readLines? '\'' (rest.length + 1) (withoutFirstLineEnd rest)
  | characters => readLine? characters

end CodeFormatting.Toml
