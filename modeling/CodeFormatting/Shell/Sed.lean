import CodeFormatting.Shell.Search
namespace CodeFormatting.Shell.Sed

/-! Lines are edited as a script says: in the lines that its instructions are meant for, matches
are replaced, letters exchanged, and lines taken away or printed. -/

open Search (Expression Spot Found)

inductive Address
  | line (number : Nat)
  | last
  | search (expression : Expression)

/-- The lines that an instruction is meant for: all, one, or those from one to another. -/
structure Scope where
  first : Option Address
  last : Option Address
  negated : Bool

inductive ReplacementPart
  | text (character : Char)
  | group (number : Nat)

structure Replacement where
  search : Expression
  parts : List ReplacementPart
  occurrence : Nat
  everywhere : Bool
  prints : Bool

/-- What is done with a line. A block holds the instructions that are left behind it when as
many have been read. -/
inductive Edit
  | replace (replacement : Replacement)
  | exchange (table : List (Char × Char))
  | delete
  | print
  | quit
  | number
  | block (count : Nat)

structure Instruction where
  scope : Scope
  edit : Edit

/-! Reading scripts -/

/-- What is left of a script is the state. A complaint tells how much was left. -/
abbrev Reader := StateT Octets (Except (Nat × String))

def fail {Answer : Type} (message : String) : Reader Answer := do
  throw ((← get).length, message)

def next? : Reader (Option Char) :=
  modifyGet fun text => (text.head?, text.drop 1)

def skipBlanks : Reader Unit :=
  modify (List.dropWhile isBlank)

def takeNumber : Reader Nat :=
  modifyGet fun text =>
    let digits := text.takeWhile Char.isDigit
    (Decimal.value digits, text.drop digits.length)

/-- The text up to a sign. In an expression the sign may stand in brackets. -/
def takeUpTo (sign : Char) (isExpression : Bool) (complaint : String) : Nat → Reader Octets
  | 0 => fail complaint
  | fuel + 1 => do
    let goOn (front : Octets) : Reader Octets := do
      return front ++ (← takeUpTo sign isExpression complaint fuel)
    match ← next? with
    | none => fail complaint
    | some '\\' =>
      match ← next? with
      | none => fail complaint
      | some escaped =>
        if escaped = sign || escaped = '\n' then goOn [escaped] else goOn ['\\', escaped]
    | some character =>
      if character = sign then return []
      else if character = '[' && isExpression then
        let rest ← get
        match readBracket? '^' rest with
        | some (_, after) =>
          set after
          goOn ('[' :: rest.take (rest.length - after.length))
        | none => goOn ['[']
      else goOn [character]

def takeText (sign : Char) (isExpression : Bool) (complaint : String) : Reader Octets := do
  takeUpTo sign isExpression complaint ((← get).length + 1)

def readExpression (extended ignoresCase : Bool) (text : Octets) : Reader Expression :=
  match Expression.read ⟨extended, ignoresCase⟩ text with
  | .ok expression => return expression
  | .error message => fail message

def readAddress? (extended : Bool) : Reader (Option Address) := do
  match ← get with
  | '$' :: rest =>
    set rest
    return some .last
  | '/' :: rest =>
    set rest
    let text ← takeText '/' true "unterminated address regex"
    return some (.search (← readExpression extended false text))
  | text =>
    if text.head?.any Char.isDigit then return some (.line (← takeNumber)) else return none

def readScope (extended : Bool) : Reader Scope := do
  let first ← readAddress? extended
  skipBlanks
  let final ← match first, ← get with
    | some _, ',' :: rest => do
      set rest
      skipBlanks
      match ← readAddress? extended with
      | some address => pure (some address)
      | none => fail "unexpected `,'"
    | _, _ => pure none
  skipBlanks
  match ← get with
  | '!' :: rest =>
    set rest
    skipBlanks
    return ⟨first, final, true⟩
  | _ => return ⟨first, final, false⟩

def replacementParts : Octets → List ReplacementPart
  | [] => []
  | '&' :: rest => .group 0 :: replacementParts rest
  | '\\' :: escaped :: rest =>
    let part := if escaped.isDigit then .group (escaped.toNat - 48)
      else .text (if escaped = 'n' then '\n' else if escaped = 't' then '\t' else escaped)
    part :: replacementParts rest
  | character :: rest => .text character :: replacementParts rest

/-- The letters that stand behind a replacement, and the number among them. -/
def readFlags : Nat → List Char → Nat → Reader (List Char × Nat)
  | 0, letters, occurrence => return (letters, occurrence)
  | fuel + 1, letters, occurrence => do
    match ← get with
    | letter :: rest =>
      if ['g', 'p', 'i', 'I'].contains letter then
        set rest
        readFlags fuel (letter :: letters) occurrence
      else if letter.isDigit then readFlags fuel letters (← takeNumber)
      else if ['\n', ';', '\x7d', '#', ' '].contains letter then return (letters, occurrence)
      else
        set rest
        fail "unknown option to `s'"
    | [] => return (letters, occurrence)

def readReplacement (extended : Bool) : Reader Edit := do
  let complaint := "unterminated `s' command"
  match ← next? with
  | none => fail complaint
  | some sign =>
    let expression ← takeText sign true complaint
    let replacement ← takeText sign false complaint
    let (letters, occurrence) ← readFlags ((← get).length + 1) [] 1
    let search ←
      readExpression extended (letters.contains 'i' || letters.contains 'I') expression
    return .replace ⟨search, replacementParts replacement, occurrence, letters.contains 'g',
      letters.contains 'p'⟩

def readExchange : Reader Edit := do
  let complaint := "unterminated `y' command"
  match ← next? with
  | none => fail complaint
  | some sign =>
    let old ← takeText sign false complaint
    let new ← takeText sign false complaint
    if old.length ≠ new.length then
      fail "strings for `y' command are different lengths"
    return .exchange (old.zip new)

def endInstruction : Reader Unit := do
  skipBlanks
  match ← get with
  | [] | '\x7d' :: _ => return ()
  | character :: rest =>
    set rest
    if character ≠ '\n' && character ≠ ';' then fail "extra characters after command"

/-- Reads instructions up to the end of a block or of the script. -/
def readInstructions (extended : Bool) : Nat → Bool → Reader (List Instruction)
  | 0, _ => return []
  | fuel + 1, isInner => do
    modify (List.dropWhile fun character => isSpace character || character = ';')
    let scope ← readScope extended
    let simple (edit : Edit) : Reader (List Instruction) := do
      endInstruction
      return ⟨scope, edit⟩ :: (← readInstructions extended fuel isInner)
    match ← next? with
    | none =>
      if isInner then fail "unmatched `\x7b'"
      else if scope.first.isSome then fail "missing command"
      else return []
    | some 's' => simple (← readReplacement extended)
    | some 'y' => simple (← readExchange)
    | some 'd' => simple .delete
    | some 'p' => simple .print
    | some 'q' => simple .quit
    | some '=' => simple .number
    | some '\x7b' =>
      let body ← readInstructions extended fuel true
      endInstruction
      let rest ← readInstructions extended fuel isInner
      return ⟨scope, .block body.length⟩ :: body ++ rest
    | some '\x7d' => if isInner then return [] else fail "unexpected `\x7d'"
    | some '#' =>
      modify (List.dropWhile (· ≠ '\n'))
      readInstructions extended fuel isInner
    | some letter => fail ("unknown command: `" ++ String.singleton letter ++ "'")

/-- The instructions of a script, or a complaint about a place in it. -/
def readScript (extended : Bool) (script : Octets) : Except Octets (List Instruction) :=
  match (readInstructions extended (script.length + 1) false).run script with
  | .ok (instructions, _) => .ok instructions
  | .error (left, message) =>
    .error ("-e expression #1, char ".toList ++ Decimal.numeral (script.length - left) ++
      ": ".toList ++ octetsOf message)

/-! Editing -/

/-- The present line, what has been printed, and the ranges of lines that have begun. -/
structure Run where
  current : Octets
  number : Nat
  isLast : Bool
  isEnded : Bool
  printed : List Octets
  begun : List Nat

/-- How editing goes on after an instruction. -/
inductive Flow
  | onward
  | finished
  | stopped
  deriving DecidableEq, Repr

def Run.print (run : Run) (text : Octets) (isEnded : Bool) : Run :=
  { run with printed := (if isEnded then text ++ ['\n'] else text) :: run.printed }

def Address.holds (address : Address) (run : Run) : Bool :=
  match address with
  | .line number => run.number = number
  | .last => run.isLast
  | .search expression => (Search.search? expression ⟨0, run.current⟩).isSome

/-- Whether a range that has begun ends here. -/
def Address.ends (address : Address) (run : Run) : Bool :=
  match address with
  | .line number => number ≤ run.number
  | address => address.holds run

/-- Whether an instruction is meant for the present line. Ranges are known by a number. -/
def Scope.isMeant (scope : Scope) (index : Nat) (run : Run) : Bool × Run :=
  let ended : Run := { run with begun := run.begun.filter (· ≠ index) }
  let (meant, run) := match scope.first, scope.last with
    | none, _ => (true, run)
    | some first, none => (first.holds run, run)
    | some first, some final =>
      if run.begun.contains index then (true, if final.ends run then ended else run)
      else if first.holds run then
        let isOver := match final with
          | .line number => decide (number ≤ run.number)
          | _ => false
        (true, if isOver then run else { run with begun := index :: run.begun })
      else (false, run)
  (meant != scope.negated, run)

def Replacement.text (replacement : Replacement) (begin : Spot) (found : Found) : Octets :=
  replacement.parts.flatMap fun part =>
    match part with
    | .text character => [character]
    | .group 0 => Search.between begin found.stop
    | .group number => found.group number

/-- Replaces matches from a place on, of which some have been passed over. An empty match right
behind another one is none. Tells whether anything was replaced. -/
def Replacement.from (replacement : Replacement) :
    Nat → Spot → Nat → Option Nat → Octets × Bool
  | 0, spot, _, _ => (spot.rest, false)
  | fuel + 1, spot, count, lastStop =>
    match Search.search? replacement.search spot with
    | none => (spot.rest, false)
    | some (begin, found) =>
      let front := Search.between spot begin
      let isEmpty := begin.position == found.stop.position
      let isMeant := replacement.occurrence ≤ count + 1 &&
        !(isEmpty && lastStop = some begin.position)
      let piece := if isMeant then replacement.text begin found
        else Search.between begin found.stop
      if isMeant && !replacement.everywhere then (front ++ piece ++ found.stop.rest, true)
      else
        match isEmpty, begin.rest with
        | true, [] => (front ++ piece, isMeant)
        | true, next :: rest =>
          let (more, changed) := replacement.from fuel ⟨begin.position + 1, rest⟩
            (if lastStop = some begin.position then count else count + 1) none
          (front ++ piece ++ next :: more, changed || isMeant)
        | false, _ =>
          let (more, changed) :=
            replacement.from fuel found.stop (count + 1) (some found.stop.position)
          (front ++ piece ++ more, changed || isMeant)

/-- Carries out instructions on the present line. -/
def carryOut (isQuiet : Bool) : Nat → List Instruction → Run → Run × Flow
  | 0, _, run => (run, .onward)
  | _, [], run => (run, .onward)
  | fuel + 1, instruction :: rest, run =>
    let (meant, run) := instruction.scope.isMeant rest.length run
    if !meant then
      match instruction.edit with
      | .block count => carryOut isQuiet fuel (rest.drop count) run
      | _ => carryOut isQuiet fuel rest run
    else
      match instruction.edit with
      | .delete => (run, .finished)
      | .quit => (run, .stopped)
      | .print => carryOut isQuiet fuel rest (run.print run.current run.isEnded)
      | .number => carryOut isQuiet fuel rest (run.print (Decimal.numeral run.number) true)
      | .block _ => carryOut isQuiet fuel rest run
      | .exchange table =>
        let exchanged := run.current.map fun character =>
          (table.lookup character).getD character
        carryOut isQuiet fuel rest { run with current := exchanged }
      | .replace replacement =>
        let (text, changed) :=
          replacement.from (run.current.length + 1) ⟨0, run.current⟩ 0 none
        let run := { run with current := text }
        carryOut isQuiet fuel rest
          (if changed && replacement.prints then run.print text run.isEnded else run)

/-- Edits lines one after the other. -/
def editLines (isQuiet : Bool) (script : List Instruction) : List Octets → Run → Run
  | [], run => run
  | line :: lines, run =>
    let present : Run :=
      { run with
        current := line
        number := run.number + 1
        isLast := lines.isEmpty
        isEnded := run.isEnded || !lines.isEmpty }
    let (after, flow) := carryOut isQuiet (script.length + 1) script present
    let after := if isQuiet || flow = .finished then after
      else after.print after.current after.isEnded
    if flow = .stopped then after
    else editLines isQuiet script lines { after with isEnded := run.isEnded }

/-- What becomes of a text. Its last line may not be ended. -/
def edited (isQuiet : Bool) (script : List Instruction) (text : Octets) : Octets :=
  let pieces := text.splitOn '\n'
  let isEnded := pieces.getLast? = some []
  let lines := if isEnded then pieces.dropLast else pieces
  (editLines isQuiet script lines ⟨[], 0, false, isEnded, [], []⟩).printed.reverse.flatten

end CodeFormatting.Shell.Sed
