import CodeFormatting.Decimal.Numeral
import CodeFormatting.Json.Parser
import CodeFormatting.Toml.Basic
namespace CodeFormatting.Toml

/-! Values without quotes and brackets: numbers, truth values, dates and times. An
underscore may stand between two digits of a number. A number may also be well written but
have no value, because it is too large, has no digits after the mark of its base, or has letters
among its digits that no check of its form finds. -/

/-- The digits of a numeral without its underscores, each of which stands between two
digits. -/
def digits? (isDigit : Char → Bool) (characters : List Char) : Option (List Char) :=
  let groups := characters.splitOn '_'
  if groups.all fun group => !group.isEmpty && group.all isDigit then some groups.flatten
  else none

def isHexadecimalDigit (character : Char) : Bool :=
  (Json.hexadecimalValue? character).isSome

def isOctalDigit (character : Char) : Bool :=
  '0' ≤ character && character ≤ '7'

def isBinaryDigit (character : Char) : Bool :=
  character = '0' || character = '1'

def magnitude (base : Nat) (digits : List Char) : Nat :=
  digits.foldl
    (fun value digit => value * base + (Json.hexadecimalValue? digit).getD 0) 0

/-- A whole number, which is represented in 64 bits. -/
def bounded (value : Int) : Toml :=
  let limit : Int := Nat.pow 2 63
  if -limit ≤ value ∧ value < limit then .integer value else .unrepresentable

def based? (base : Nat) (isDigit : Char → Bool) (characters : List Char) : Option Toml :=
  if characters.isEmpty then some .unrepresentable
  else (digits? isDigit characters).map fun digits => bounded (magnitude base digits)

/-- Whether groups of characters are only checked where they meet: every group ends in a
digit of any base, and so does every group but the first begin. -/
def meetInDigits : List (List Char) → Bool
  | group :: next :: rest =>
    group.getLast?.any isHexadecimalDigit && next.head?.any isHexadecimalDigit &&
      meetInDigits (next :: rest)
  | _ => true

/-- Whether a decimal number has letters behind an underscore that do not count as its end. -/
def isLooseDecimal (characters : List Char) : Bool :=
  let digits := characters.takeWhile Char.isDigit
  let groups := characters.splitOn '_'
  !digits.isEmpty && digits.head? ≠ some '0' && 1 < groups.length &&
    characters[digits.length]? == some '_' && groups.all (!List.isEmpty ·) &&
    meetInDigits groups &&
    characters.all fun character => !(['.', 'e', 'E', '=', '[', '\x7b'].contains character)

/-- The digits of a decimal numeral, which has no leading zero. -/
def decimal? (characters : List Char) : Option (List Char) := do
  let digits ← digits? Char.isDigit characters
  if digits.head? = some '0' ∧ digits.length ≠ 1 then none else return digits

def signed (characters : List Char) : Bool × List Char :=
  match characters with
  | '-' :: rest => (true, rest)
  | '+' :: rest => (false, rest)
  | rest => (false, rest)

def integer? (characters : List Char) : Option Toml :=
  match characters with
  | '0' :: 'x' :: rest => based? 16 isHexadecimalDigit rest
  | '0' :: 'o' :: rest => based? 8 isOctalDigit rest
  | '0' :: 'b' :: rest => based? 2 isBinaryDigit rest
  | characters =>
    let (negative, rest) := signed characters
    match decimal? rest with
    | some digits =>
      let value : Int := Decimal.value digits
      some (bounded (if negative then -value else value))
    | none => if isLooseDecimal rest then some .unrepresentable else none

def isExponentMark (character : Char) : Bool :=
  character = 'e' || character = 'E'

def exponent? (characters : List Char) : Option Int :=
  match characters with
  | [] => some 0
  | _ :: rest => do
    let (negative, rest) := signed rest
    let value : Int := Decimal.value (← digits? Char.isDigit rest)
    return if negative then -value else value

/-- A finite number, which has a fraction or an exponent and is not too great. -/
def finite? (negative : Bool) (characters : List Char) : Option Toml := do
  let mantissa := characters.takeWhile (!isExponentMark ·)
  let exponent ← exponent? (characters.dropWhile (!isExponentMark ·))
  let whole ← decimal? (mantissa.takeWhile (· ≠ '.'))
  let fraction ← match mantissa.dropWhile (· ≠ '.') with
    | [] => if mantissa.length = characters.length then none else some []
    | _ :: rest => digits? Char.isDigit rest
  match Decimal.Binary64.ofDecimal negative (Decimal.value (whole ++ fraction))
      (exponent - fraction.length) with
  | .infinite _ => some .unrepresentable
  | value => return .fraction value

def fraction? (characters : List Char) : Option Toml :=
  let (negative, rest) := signed characters
  match rest with
  | ['i', 'n', 'f'] => some (.fraction (.infinite negative))
  | ['n', 'a', 'n'] => some (.fraction .notANumber)
  | rest => finite? negative rest

/-- The number of two digits. -/
def pair? (first second : Char) : Option Nat :=
  Decimal.natural? [first, second]

def isLeap (year : Nat) : Bool :=
  year % 4 = 0 && (year % 100 ≠ 0 || year % 400 = 0)

def daysIn (year month : Nat) : Nat :=
  if month = 2 then (if isLeap year then 29 else 28)
  else if month = 4 ∨ month = 6 ∨ month = 9 ∨ month = 11 then 30
  else 31

/-- The text after a date at the front of some characters. -/
def afterDate? : List Char → Option (List Char)
  | first :: second :: third :: fourth :: '-' :: tens :: ones :: '-' :: ten :: one :: rest => do
    let year ← Decimal.natural? [first, second, third, fourth]
    let month ← pair? tens ones
    let day ← pair? ten one
    if 1 ≤ month ∧ month ≤ 12 ∧ 1 ≤ day ∧ day ≤ daysIn year month then return rest
    else none
  | _ => none

/-- The text after the part of a time that follows the minutes. -/
def afterSeconds? : List Char → Option (List Char)
  | ':' :: tens :: ones :: rest => do
    if 60 < (← pair? tens ones) then none
    match rest with
    | '.' :: parts =>
      if (parts.takeWhile Char.isDigit).isEmpty then none
      else return parts.dropWhile Char.isDigit
    | rest => return rest
  | rest => some rest

def afterTime? : List Char → Option (List Char)
  | first :: second :: ':' :: third :: fourth :: rest => do
    if 23 < (← pair? first second) ∨ 59 < (← pair? third fourth) then none
    afterSeconds? rest
  | _ => none

/-- Whether a text is empty or an offset from the standard time. -/
def isOffset : List Char → Bool
  | [] => true
  | ['Z'] => true
  | ['z'] => true
  | [sign, first, second, ':', third, fourth] =>
    (sign = '+' || sign = '-') &&
      match pair? first second, pair? third fourth with
      | some hours, some minutes => hours ≤ 23 && minutes ≤ 59
      | _, _ => false
  | _ => false

def isMoment (characters : List Char) : Bool :=
  match afterDate? characters with
  | some [] => true
  | some (separator :: rest) =>
    (separator = 'T' || separator = 't' || separator = ' ') &&
      (afterTime? rest).any isOffset
  | none => afterTime? characters == some []

def scalar? (characters : List Char) : Option Toml :=
  match characters with
  | ['t', 'r', 'u', 'e'] => some (.boolean true)
  | ['f', 'a', 'l', 's', 'e'] => some (.boolean false)
  | characters =>
    if isMoment characters then some .moment
    else (integer? characters).or (fraction? characters)

end CodeFormatting.Toml
