import CodeFormatting.Decimal.Numeral
import CodeFormatting.Json.Parser
import CodeFormatting.Shell.Octets
namespace CodeFormatting.Shell

/-! Arithmetic on whole numbers of 64 bits. A name stands for the number that its variable
holds, or for zero; a comparison is one where it holds and zero where it does not. -/

namespace Arithmetic

inductive Fault
  | expected (what : String)
  | divisionByZero
  | illegalNumber (text : Octets)

def wrapped (value : Int) : Int :=
  Int.bmod value 0x10000000000000000

def octalValue (digits : Octets) : Nat :=
  Nat.ofDigitChars 8 digits 0

/-- The number in front of a text and what comes after it. A zero in front of a numeral makes
it an octal one, and with a letter behind it a hexadecimal one. -/
def readNatural (text : Octets) : Nat × Octets :=
  match text with
  | '0' :: 'x' :: rest =>
    let digits := rest.takeWhile fun digit => (Json.hexadecimalValue? digit).isSome
    (digits.foldl (fun value digit => value * 16 + (Json.hexadecimalValue? digit).getD 0) 0,
      rest.drop digits.length)
  | '0' :: _ =>
    let digits := text.takeWhile fun digit => '0' ≤ digit && digit ≤ '7'
    (octalValue digits, text.drop digits.length)
  | text =>
    let digits := text.takeWhile Char.isDigit
    (Decimal.value digits, text.drop digits.length)

/-- The whole number in front of a text, which may have a sign, and what comes after it. -/
def readInteger? (text : Octets) : Option (Int × Octets) :=
  let (negative, digits) := match text.dropWhile isSpace with
    | '-' :: digits => (true, digits)
    | '+' :: digits => (false, digits)
    | digits => (false, digits)
  if digits.head?.any Char.isDigit then
    let (value, rest) := readNatural digits
    some (if negative then -(value : Int) else value, rest)
  else none

/-- The number that the value of a variable denotes. An empty value is zero. -/
def valueOf (text : Octets) : Except Fault Int :=
  match readInteger? text with
  | some (value, rest) =>
    if rest.all isSpace then .ok (wrapped value) else .error (.illegalNumber text)
  | none => if text.isEmpty then .ok 0 else .error (.illegalNumber text)

/-- The operators between two operands, those that bind most tightly first. -/
def operators : List (List String) :=
  [["*", "/", "%"], ["+", "-"], ["<<", ">>"], ["<=", ">=", "<", ">"], ["==", "!="], ["&"], ["^"],
    ["|"], ["&&"], ["||"]]

def truth (holds : Bool) : Int :=
  if holds then 1 else 0

def bitwise (operation : UInt64 → UInt64 → UInt64) (left right : Int) : Int :=
  wrapped (operation (UInt64.ofInt left) (UInt64.ofInt right)).toNat

def operate (operator : String) (left right : Int) : Except Fault Int :=
  match operator with
  | "*" => .ok (wrapped (left * right))
  | "/" => if right = 0 then .error .divisionByZero else .ok (wrapped (left.tdiv right))
  | "%" => if right = 0 then .error .divisionByZero else .ok (wrapped (left.tmod right))
  | "+" => .ok (wrapped (left + right))
  | "-" => .ok (wrapped (left - right))
  | "<<" => .ok (wrapped (left * Nat.pow 2 (right % 64).toNat))
  | ">>" => .ok (Int.fdiv left (Nat.pow 2 (right % 64).toNat))
  | "<" => .ok (truth (left < right))
  | ">" => .ok (truth (right < left))
  | "<=" => .ok (truth (left ≤ right))
  | ">=" => .ok (truth (right ≤ left))
  | "==" => .ok (truth (left = right))
  | "!=" => .ok (truth (left ≠ right))
  | "&" => .ok (bitwise (· &&& ·) left right)
  | "^" => .ok (bitwise (· ^^^ ·) left right)
  | "|" => .ok (bitwise (· ||| ·) left right)
  | "&&" => .ok (truth (left ≠ 0 && right ≠ 0))
  | _ => .ok (truth (left ≠ 0 || right ≠ 0))

/-- What is left of an expression is the state. -/
abbrev Evaluator := StateT Octets (Except Fault)

def rest : Evaluator Octets := do
  modify (List.dropWhile isSpace)
  get

def accept (sign : String) : Evaluator Bool := do
  if sign.toList.isPrefixOf (← rest) then
    modify (List.drop sign.length)
    return true
  else return false

/-- The operator of a level that comes next. A longer operator is not taken for a shorter. -/
def next? (level : List String) : Evaluator (Option String) := do
  let text ← rest
  let found := ((operators.flatten).filter fun sign => sign.toList.isPrefixOf text).mergeSort
    fun left right => right.length ≤ left.length
  match found.head? with
  | some operator =>
    if level.contains operator then
      modify (List.drop operator.length)
      return some operator
    else return none
  | none => return none

mutual

def operand (lookup : Octets → Octets) : Nat → Evaluator Int
  | 0 => throw (.expected "primary")
  | fuel + 1 => do
    match ← rest with
    | '(' :: after =>
      set after
      let value ← conditional lookup fuel
      if ← accept ")" then return value else throw (.expected "')'")
    | '+' :: after =>
      set after
      operand lookup fuel
    | '-' :: after =>
      set after
      return wrapped (-(← operand lookup fuel))
    | '!' :: after =>
      set after
      return truth ((← operand lookup fuel) = 0)
    | '~' :: after =>
      set after
      return -(← operand lookup fuel) - 1
    | text =>
      if text.head?.any Char.isDigit then
        let (value, after) := readNatural text
        set after
        return wrapped value
      else if text.head?.any isNameStart then
        let name := text.takeWhile isNameCharacter
        set (text.drop name.length)
        match valueOf (lookup name) with
        | .ok value => return value
        | .error fault => throw fault
      else throw (.expected "primary")

/-- Operands with operators of some levels between them, the loosest level first. -/
def operation (lookup : Octets → Octets) : Nat → List (List String) → Evaluator Int
  | 0, _ => throw (.expected "primary")
  | fuel + 1, [] => operand lookup fuel
  | fuel + 1, level :: levels => do
    operationRest lookup fuel level levels (← operation lookup fuel levels)

def operationRest (lookup : Octets → Octets) :
    Nat → List String → List (List String) → Int → Evaluator Int
  | 0, _, _, left => return left
  | fuel + 1, level, levels, left => do
    match ← next? level with
    | none => return left
    | some operator =>
      match operate operator left (← operation lookup fuel levels) with
      | .ok value => operationRest lookup fuel level levels value
      | .error fault => throw fault

def conditional (lookup : Octets → Octets) : Nat → Evaluator Int
  | 0 => throw (.expected "primary")
  | fuel + 1 => do
    let condition ← operation lookup fuel operators.reverse
    if ← accept "?" then
      let first ← conditional lookup fuel
      if !(← accept ":") then throw (.expected "':'")
      let second ← conditional lookup fuel
      return if condition ≠ 0 then first else second
    else return condition

end

def evaluate (lookup : Octets → Octets) (source : Octets) : Except Fault Int := do
  let (value, left) ← (conditional lookup (20 * source.length + 40)).run source
  if left.all isSpace then return value else throw (.expected "EOF")

end Arithmetic

def signed (value : Int) : Octets :=
  if value < 0 then '-' :: Decimal.numeral value.natAbs else Decimal.numeral value.natAbs

end CodeFormatting.Shell
