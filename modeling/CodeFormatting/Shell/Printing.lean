import CodeFormatting.Shell.Expansion
namespace CodeFormatting.Shell

/-! Texts are printed as they are, with escapes for characters that cannot be seen, or in a
format that tells how each argument is to be laid out. -/

abbrev Builtin := List Octets → Activity Nat

namespace Printing

open Activity

def isOctalDigit (character : Char) : Bool :=
  '0' ≤ character && character ≤ '7'

/-- The character that an escape stands for, of which the backslash has been read. -/
def readEscape? (text : Octets) : Option (Char × Octets) :=
  match text with
  | 'a' :: rest => some ('\x07', rest)
  | 'b' :: rest => some ('\x08', rest)
  | 'e' :: rest => some ('\x1b', rest)
  | 'f' :: rest => some ('\x0c', rest)
  | 'n' :: rest => some ('\n', rest)
  | 'r' :: rest => some ('\r', rest)
  | 't' :: rest => some ('\t', rest)
  | 'v' :: rest => some ('\x0b', rest)
  | '\\' :: rest => some ('\\', rest)
  | text =>
    let digits := (text.take 3).takeWhile isOctalDigit
    if digits.isEmpty then none
    else some (Char.ofNat (Arithmetic.octalValue digits % 256), text.drop digits.length)

/-- A text with its escapes replaced, and whether one of them ends all printing. A zero in
front of octal digits does not count among them. -/
def escaped : Nat → Octets → Octets × Bool
  | 0, _ => ([], false)
  | _ + 1, [] => ([], false)
  | _ + 1, '\\' :: 'c' :: _ => ([], true)
  | fuel + 1, '\\' :: rest =>
    let digits := match rest with
      | '0' :: digit :: more => if isOctalDigit digit then digit :: more else rest
      | rest => rest
    let (character, rest) := (readEscape? digits).getD ('\\', rest)
    let (text, ended) := escaped fuel rest
    (character :: text, ended)
  | fuel + 1, character :: rest =>
    let (text, ended) := escaped fuel rest
    (character :: text, ended)

/-- How an argument is laid out. -/
structure Directive where
  flags : List Char
  width : Nat
  precision : Option Nat

namespace Directive

def has (directive : Directive) (flag : Char) : Bool :=
  directive.flags.contains flag

/-- A text at the width that is asked for, with zeros behind its front or with blanks. -/
def padded (directive : Directive) (zeros : Bool) (front text : Octets) : Octets :=
  let missing := directive.width - front.length - text.length
  if directive.has '-' then front ++ text ++ List.replicate missing ' '
  else if zeros && directive.has '0' then front ++ List.replicate missing '0' ++ text
  else List.replicate missing ' ' ++ front ++ text

def string (directive : Directive) (text : Octets) : Octets :=
  directive.padded false [] (text.take (directive.precision.getD text.length))

def number (directive : Directive) (base : Nat) (value : Int) : Octets :=
  let digits := Nat.toDigits base value.natAbs
  let digits := List.replicate (directive.precision.getD 1 - digits.length) '0' ++ digits
  let front := if value < 0 then ['-'] else if directive.has '+' then ['+']
    else if directive.has ' ' then [' '] else []
  directive.padded directive.precision.isNone front digits

end Directive

/-- What has been printed, the arguments that are left, the status, and whether printing has
come to an end. -/
structure Progress where
  printed : List Octets
  arguments : List Octets
  status : Nat
  ended : Bool

abbrev Printer := StateT Progress Activity

def put (text : Octets) : Printer Unit :=
  modify fun progress => { progress with printed := text :: progress.printed }

def nextArgument : Printer Octets :=
  modifyGet fun progress =>
    (progress.arguments.head?.getD [], { progress with arguments := progress.arguments.drop 1 })

/-- The number that the next argument is. After a quote it is the code of a character. -/
def nextInteger : Printer Int := do
  let complain (argument : Octets) (reason : String) : Printer Unit := do
    warn (argument ++ ": ".toList ++ reason.toList)
    modify fun progress => { progress with status := 1 }
  match ← nextArgument with
  | [] => return 0
  | '"' :: character :: _ | '\'' :: character :: _ => return character.toNat
  | argument =>
    match Arithmetic.readInteger? argument with
    | none =>
      complain argument "expected numeric value"
      return 0
    | some (value, rest) =>
      if !rest.isEmpty then complain argument "not completely converted"
      return value

/-- Ends all printing, with a complaint about the format. -/
def giveUp (reason : Octets) : Printer Octets := do
  warn reason
  modify fun progress => { progress with status := 2, ended := true }
  return []

/-- Carries out a directive, of which the sign has been read. Tells what comes after it. -/
def readDirective (text : Octets) : Printer Octets := do
  let flags := text.takeWhile (['#', '-', '+', ' ', '0'].contains ·)
  let rest := text.drop flags.length
  let width := rest.takeWhile Char.isDigit
  let rest := rest.drop width.length
  let (precision, rest) : Option Nat × Octets := match rest with
    | '.' :: rest =>
      let digits := rest.takeWhile Char.isDigit
      (some (Decimal.value digits), rest.drop digits.length)
    | rest => (none, rest)
  let directive : Directive := ⟨flags, Decimal.value width, precision⟩
  match rest with
  | [] => giveUp "missing format character".toList
  | conversion :: after =>
    match conversion with
    | 's' => put (directive.string (← nextArgument))
    | 'c' => put (directive.padded false [] [(← nextArgument).head?.getD '\x00'])
    | 'd' | 'i' | 'u' => put (directive.number 10 (← nextInteger))
    | 'o' => put (directive.number 8 (← nextInteger))
    | 'x' => put (directive.number 16 (← nextInteger))
    | 'X' => put ((directive.number 16 (← nextInteger)).map Char.toUpper)
    | 'b' =>
      let argument ← nextArgument
      let (text, ended) := escaped (argument.length + 1) argument
      put (directive.string text)
      modify fun progress => { progress with ended }
    | _ =>
      let shown := '%' :: text.take (text.length - after.length)
      let _ ← giveUp (shown ++ ": invalid directive".toList)
    return after

/-- Prints a format once. -/
def printOnce : Nat → Octets → Printer Unit
  | 0, _ => return ()
  | _ + 1, [] => return ()
  | fuel + 1, '\\' :: rest => do
    let (character, rest) := (readEscape? rest).getD ('\\', rest)
    put [character]
    printOnce fuel rest
  | fuel + 1, '%' :: '%' :: rest => do
    put ['%']
    printOnce fuel rest
  | fuel + 1, '%' :: rest => do
    let rest ← readDirective rest
    if !(← get).ended then printOnce fuel rest
  | fuel + 1, character :: rest => do
    put [character]
    printOnce fuel rest

/-- Prints a format as often as it takes to use up the arguments, but once at least. -/
def printAll (format : Octets) : Nat → Printer Unit
  | 0 => return ()
  | fuel + 1 => do
    let before := (← get).arguments.length
    printOnce (format.length + 1) format
    let progress ← get
    if !progress.ended && !progress.arguments.isEmpty && progress.arguments.length < before then
      printAll format fuel

end Printing

open Activity

/-- Prints a text and tells a status, unless it cannot be printed. -/
def printWhole (text : Octets) (status : Nat) : Activity Nat := do
  match ← emit 1 text with
  | .ok () => return status
  | .error _ =>
    warn ((← get).command.getD [] ++ ": I/O error".toList)
    return 1

def echo : Builtin := fun arguments => do
  let (silent, texts) := match arguments with
    | ['-', 'n'] :: texts => (true, texts)
    | texts => (false, texts)
  let text := [' '].intercalate texts
  let (text, ended) := Printing.escaped (text.length + 1) text
  printWhole (if ended || silent then text else text ++ ['\n']) 0

/-- Prints in a format. What has been printed before an error stays. -/
def printFormat : Builtin := fun arguments => do
  match if arguments.head? = some ['-', '-'] then arguments.drop 1 else arguments with
  | [] => fail "usage: printf format [arg ...]".toList
  | format :: rest =>
    let (_, progress) ← (Printing.printAll format (rest.length + 1)).run ⟨[], rest, 0, false⟩
    printWhole progress.printed.reverse.flatten progress.status

/-! Conditions -/

namespace Condition

def holdsForFile (process : Process) (name : String) (path : Octets) : Bool :=
  match name, process.node? path with
  | _, none => false
  | "-f", some (.file _ _) => true
  | "-d", some .directory => true
  | "-x", some (.file _ executable) => executable
  | "-s", some (.file content _) => content.size ≠ 0
  | name, some node => ["-e", "-r", "-w"].contains name || (node matches .directory) && name = "-x"

def unaryNames : List String :=
  ["-d", "-e", "-f", "-n", "-r", "-s", "-w", "-x", "-z"]

def binaryNames : List String :=
  ["=", "!=", "-eq", "-ne", "-ge", "-gt", "-le", "-lt"]

def unary (name : String) (word : Octets) : Activity Bool := do
  match name with
  | "-z" => return word.isEmpty
  | "-n" => return !word.isEmpty
  | name => return holdsForFile (← get) name word

def binary (name : String) (first second : Octets) : Activity Bool := do
  match name with
  | "=" => return first = second
  | "!=" => return first ≠ second
  | name =>
    let left ← integer first
    let right ← integer second
    match name with
    | "-eq" => return left = right
    | "-ne" => return left ≠ right
    | "-ge" => return right ≤ left
    | "-gt" => return right < left
    | "-le" => return left ≤ right
    | _ => return left < right

/-- Whether words hold. What they are depends on how many there are, and where there are many,
on the operators that join them. -/
def holds : Nat → List Octets → Activity Bool
  | 0, _ => return false
  | _ + 1, [] => return false
  | _ + 1, [word] => return !word.isEmpty
  | fuel + 1, words@(first :: rest) => do
    let name := String.ofList first
    match words, (words.map String.ofList)[1]? with
    | [_, _, second], some operator =>
      if binaryNames.contains operator then return ← binary operator first second
    | _, _ => pure ()
    match words.findIdx? (· = "-o".toList), words.findIdx? (· = "-a".toList) with
    | some place, _ =>
      let left ← holds fuel (words.take place)
      let right ← holds fuel (words.drop (place + 1))
      return left || right
    | none, some place =>
      let left ← holds fuel (words.take place)
      let right ← holds fuel (words.drop (place + 1))
      return left && right
    | none, none =>
      if name = "!" then return !(← holds fuel rest)
      else if name = "(" && rest.getLast? = some [')'] then holds fuel rest.dropLast
      else
        match rest with
        | [word] =>
          if unaryNames.contains name then unary name word
          else if binaryNames.contains (String.ofList word) then
            fail (word ++ ": argument expected".toList)
          else fail (first ++ ": unexpected operator".toList)
        | _ => fail (first ++ ": unexpected operator".toList)

end Condition

/-- Answers with success if its arguments hold as a condition. -/
def testCondition (closed : Bool) : Builtin := fun arguments => do
  if closed && arguments.getLast? ≠ some [']'] then fail "missing ]".toList
  let words := if closed then arguments.dropLast else arguments
  return if ← Condition.holds (words.length + 1) words then 0 else 1

end CodeFormatting.Shell
