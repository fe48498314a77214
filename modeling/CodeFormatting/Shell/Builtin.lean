import CodeFormatting.Shell.Printing
namespace CodeFormatting.Shell

/-! Builtin commands are part of the shell. They change its variables, its options and its
directory, read the input, and decide how it goes on. -/

open Activity

/-! Variables, options and arguments -/

def exportVariables : Builtin := fun arguments => do
  arguments.forM fun argument => do
    let name := argument.takeWhile (· ≠ '=')
    if !isName name then fail (name ++ ": bad variable name".toList)
    if name.length < argument.length then assign name (argument.drop (name.length + 1))
    modify fun process => { process with exported := name :: process.exported }
  return 0

def unsetVariables : Builtin := fun arguments => do
  modify fun process =>
    { process with
      bindings := process.bindings.filter fun (name, _) => !arguments.contains name }
  return 0

/-- The letters of the options that can be set. -/
def optionLetters : List Char :=
  ['a', 'b', 'C', 'e', 'f', 'm', 'n', 'u', 'v', 'x']

/-- Sets options and then the arguments, if there are any. -/
def setOptions : Nat → Builtin
  | fuel + 1, (sign :: letters) :: rest => do
    if sign = '-' && letters = ['-'] then
      modify fun process => { process with arguments := rest }
      return 0
    else if (sign = '-' || sign = '+') && !letters.isEmpty then
      match letters.find? (!optionLetters.contains ·) with
      | some letter =>
        let name := if letter = 'o' then rest.take 1 else []
        fail ([' '].intercalate (("Illegal option ".toList ++ [sign, letter]) :: name))
      | none =>
        modify fun process =>
          let others := process.options.filter (!letters.contains ·)
          { process with options := if sign = '-' then letters ++ others else others }
        setOptions fuel rest
    else
      modify fun process => { process with arguments := (sign :: letters) :: rest }
      return 0
  | _, _ => return 0

def shiftArguments : Builtin := fun arguments => do
  let count ← match arguments with
    | [] => pure 1
    | text :: _ => natural text
  if (← get).arguments.length < count then fail "can't shift that many".toList
  modify fun process => { process with arguments := process.arguments.drop count }
  return 0

/-! The input -/

/-- A line with whether each character can separate fields, what comes after it, and whether it
was ended. A backslash takes the meaning from a character unless it stands for itself. -/
def readLine (verbatim : Bool) : Octets → (List (Char × Bool) × Bool) × Octets
  | [] => (([], false), [])
  | '\n' :: rest => (([], true), rest)
  | '\x00' :: rest => readLine verbatim rest
  | '\\' :: character :: rest =>
    if verbatim then add ('\\', true) (readLine verbatim (character :: rest))
    else if character = '\n' then readLine verbatim rest
    else add (character, false) (readLine verbatim rest)
  | character :: rest => add (character, true) (readLine verbatim rest)
where
  add (item : Char × Bool) (line : (List (Char × Bool) × Bool) × Octets) :
      (List (Char × Bool) × Bool) × Octets :=
    ((item :: line.1.1, line.1.2), line.2)

/-- Gives each variable a field. The last one takes what is left. -/
def assignFields (isSeparator : Char × Bool → Bool) :
    List Octets → List (Char × Bool) → Activity Unit
  | [], _ => return ()
  | [name], items =>
    assign name (((items.reverse.dropWhile isSeparator).reverse).map Prod.fst)
  | name :: names, items => do
    assign name ((items.takeWhile (!isSeparator ·)).map Prod.fst)
    assignFields isSeparator names
      ((items.dropWhile (!isSeparator ·)).dropWhile isSeparator)

def readInput : Builtin := fun arguments => do
  let (verbatim, names) := match arguments with
    | ['-', 'r'] :: names => (true, names)
    | names => (false, names)
  match names.find? (!isName ·) with
  | some name => fail (name ++ ": bad variable name".toList)
  | none => pure ()
  if names.isEmpty then fail "arg count".toList
  match ← takeInput (readLine verbatim) with
  | .error _ => return 1
  | .ok (items, ended) =>
    let separators := (← get).separators
    let isSeparator (item : Char × Bool) : Bool := item.2 && separators.contains item.1
    assignFields isSeparator names (items.dropWhile isSeparator)
    return if ended then 0 else 1

/-! The directory -/

/-- The path of a directory without dots and doubled slashes. -/
def plainPath (path : Octets) : Octets :=
  let kept := (path.splitOn '/').foldl (fun kept piece =>
    if piece = [] || piece = ['.'] then kept
    else if piece = ['.', '.'] then kept.drop 1
    else piece :: kept) []
  '/' :: ['/'].intercalate kept.reverse

def changeDirectory : Builtin := fun arguments => do
  let process ← get
  let target := arguments.head?.getD ((process.value? "HOME".toList).getD ['.'])
  if process.isDirectory target then
    let current := octetsOf process.directory.text
    let path := plainPath (if target.head? = some '/' then target else current ++ '/' :: target)
    set { process with directory := pathOf path }
    assign "PWD".toList path
    return 0
  else fail ("can't cd to ".toList ++ target)

def printDirectory : Builtin := fun _ => do
  print (octetsOf (← get).directory.text ++ ['\n'])
  return 0

/-! Loops and the end -/

/-- Leaves loops or goes on with their next turn. -/
def skipLoops (skip : Nat → Skip) : Builtin := fun arguments => do
  let count ← match arguments with
    | [] => pure 1
    | text :: _ => natural text
  modify fun process =>
    let count := min count process.loops
    if count = 0 then process else { process with skip := skip count }
  return 0

def exitProcess : Builtin := fun arguments => do
  let status ← match arguments with
    | [] => pure (← get).status
    | text :: _ => natural text
  throw (.exited (status % 256))

/-- Goes back from a function or a script. -/
def goBack : Builtin := fun arguments => do
  let status ← match arguments with
    | [] => pure (← get).status
    | text :: _ => natural text
  modify fun process => { process with skip := .back }
  return status

/-- Says what is to be done at the end. Signals are left alone. -/
def setTraps : Builtin := fun arguments => do
  match arguments with
  | action :: signals =>
    if signals.contains "EXIT".toList || signals.contains ['0'] then
      modify fun process =>
        { process with farewell := if action = ['-'] then none else some action }
    return 0
  | [] => return 0

/-- The signals that end a process, as far as they have names. -/
def signalNumbers : List (String × Nat) :=
  [("HUP", 1), ("INT", 2), ("QUIT", 3), ("ILL", 4), ("ABRT", 6), ("FPE", 8), ("KILL", 9),
    ("USR1", 10), ("SEGV", 11), ("USR2", 12), ("PIPE", 13), ("ALRM", 14), ("TERM", 15)]

def signalOf? (text : Octets) : Option Nat :=
  if Decimal.isNumeral text then
    let number := Decimal.value text
    if number < 65 then some number else none
  else signalNumbers.lookup (String.ofList text)

/-- Sends a signal, which only the process itself can get. -/
def killProcess : Builtin := fun arguments => do
  let (name, targets) : Octets × List Octets := match arguments with
    | ['-', 's'] :: name :: targets => (name, targets)
    | ('-' :: name) :: targets => (name, targets)
    | targets => ("TERM".toList, targets)
  match signalOf? name, targets with
  | none, _ => fail ("Illegal option -".toList ++ name.take 1)
  | some signal, target :: _ =>
    let number ← integer target
    if number ≠ 4242 && number ≠ 0 then
      warn "No such process\n".toList
      return 1
    else if signal = 0 then return 0
    else throw (.killed signal)
  | some _, [] =>
    fail ("Usage: kill [-s sigspec | -signum | -sigspec] [pid | job]... or\n" ++
      "kill -l [exitstatus]").toList

/-! The commands with their names -/

def doNothing (status : Nat) : Builtin := fun _ => return status

def builtins : List (String × Builtin) :=
  [(":", doNothing 0), ("true", doNothing 0), ("false", doNothing 1), ("echo", echo),
    ("printf", printFormat), ("test", testCondition false), ("[", testCondition true),
    ("read", readInput), ("export", exportVariables), ("unset", unsetVariables),
    ("set", fun arguments => setOptions (arguments.length + 1) arguments),
    ("shift", shiftArguments), ("cd", changeDirectory), ("pwd", printDirectory),
    ("break", skipLoops .leave), ("continue", skipLoops .next), ("exit", exitProcess),
    ("return", goBack),
    ("trap", setTraps), ("kill", killProcess)]

/-- The commands of which an error ends the shell. -/
def specialNames : List String :=
  [".", ":", "break", "continue", "eval", "exec", "exit", "export", "return", "set", "shift",
    "trap", "unset"]

end CodeFormatting.Shell
