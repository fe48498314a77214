import CodeFormatting.Shell.Builtin
import CodeFormatting.Shell.Grammar
import CodeFormatting.Shell.Sed
namespace CodeFormatting.Shell

/-! Commands are carried out: those of the shell, and programs. A program is a file that can be
started; a file whose first line names an interpreter is run by that one. Commands that stand in
one another, and processes that start others, can only go so deep. -/

open Activity

inductive Ending
  | exited (status : Nat)
  | killed (signal : Nat)
  deriving DecidableEq, Repr

/-- Carries out a command and tells its status. A flag says whether the status is looked at, so
that an error is none for the shell. -/
abbrev Evaluator := Bool → Command → Activity Nat

/-- A process that is started as a program. -/
def Process.fresh (process : Process) : Process :=
  { process with
    name := []
    arguments := []
    bindings := process.environment
    functions := []
    options := []
    status := 0
    substituted := 0
    line := 0
    command := none
    farewell := none
    loops := 0
    skip := .nothing }

namespace Activity

def attempt {Answer : Type} (body : Activity Answer) : Activity (Except Stop Answer) :=
  fun process =>
    let (result, process) := body process
    (.ok result, process)

def resume {Answer : Type} : Except Stop Answer → Activity Answer
  | .ok answer => return answer
  | .error stop => throw stop

/-! Scripts -/

/-- Carries out the lines of a source one after the other. -/
def runSource (evaluate : Evaluator) : Nat → Source → Nat → Activity Nat
  | 0, _, status => return status
  | fuel + 1, source, status => do
    match Reader.readLine.run source with
    | .error error =>
      modify fun process => { process with line := error.line, command := none }
      fail (octetsOf ("Syntax error: " ++ error.message))
    | .ok (none, next) =>
      if Reader.hasEnded next then return status
      else runSource evaluate fuel { next with isPutBack := false } status
    | .ok (some command, next) =>
      let status ← evaluate false command
      if (← get).skip = .nothing then
        runSource evaluate fuel { next with isPutBack := false } status
      else return status

def runScript (evaluate : Evaluator) (script : Octets) : Activity Nat :=
  runSource evaluate (script.length + 2) (.ofText (script.filter (· ≠ '\x00'))) 0

/-! Processes of their own -/

/-- Lets a process do something and then come to its end. -/
def untilEnd (evaluate : Evaluator) (body : Activity Nat) : StateM Process Ending := do
  match ← body.run with
  | .error (.killed signal) => return .killed signal
  | .error (.replaced status) => return .exited (status % 256)
  | .ok status | .error (.exited status) | .error (.failed status) =>
    match (← get).farewell with
    | none => return .exited (status % 256)
    | some action =>
      modify fun process =>
        { process with farewell := none, status, skip := .nothing, loops := 0 }
      return match ← (runScript evaluate action).run with
        | .ok _ => .exited (status % 256)
        | .error (.exited status) | .error (.failed status) | .error (.replaced status) =>
          .exited (status % 256)
        | .error (.killed signal) => .killed signal

/-- What is said of a process that a signal has ended. -/
def signalWords : List (Nat × String) :=
  [(1, "Hangup"), (3, "Quit"), (4, "Illegal instruction"), (6, "Aborted"),
    (8, "Floating point exception"), (9, "Killed"), (10, "User defined signal 1"),
    (11, "Segmentation fault"), (12, "User defined signal 2"), (14, "Alarm clock"),
    (15, "Terminated")]

/-- Lets another process do something. The world is then as that one leaves it. -/
def awaitChild (evaluate : Evaluator) (child : Process) (body : Activity Nat) :
    Activity Ending := do
  let (ending, child) := (untilEnd evaluate body).run child
  modify fun process => { process with world := child.world }
  return ending

/-- Lets a process that goes on from here do something. A signal that it sends to the shell ends
this one too. -/
def inFork (evaluate : Evaluator) (change : Process → Process) (body : Activity Nat) :
    Activity Nat := do
  match ← awaitChild evaluate (change { ← get with farewell := none }) body with
  | .exited status => return status
  | .killed signal => throw (.killed signal)

/-- Lets a program do something that starts like this process. -/
def inProgram (evaluate : Evaluator) (body : Activity Nat) : Activity Nat := do
  match ← awaitChild evaluate (← get).fresh body with
  | .exited status => return status
  | .killed signal =>
    printError (((signalWords.lookup signal).map (· ++ "\n")).getD "").toList
    return 128 + signal

def outputOf (evaluate : Evaluator) : Option Command → Activity Octets
  | none => return []
  | some command => do
    let number ← addStream (.pipe [] [])
    let substituted ← inFork evaluate (·.withDescriptor 1 (some number)) (evaluate false command)
    let process ← get
    set { process with world := process.world.setStream number .nothing, substituted }
    return match process.world.readable number with
      | .ok text => text
      | .error _ => []

/-- Carries out the commands of a pipeline one after the other. Each reads what the one before
it has written. -/
def runPipeline (evaluate : Evaluator) (tested : Bool) : Option Nat → List Command → Activity Nat
  | _, [] => return 0
  | input, command :: rest => do
    let output ← if rest.isEmpty then pure none else some <$> addStream (.pipe [] [])
    let status ← inFork evaluate
      (fun process => connect 1 output (connect 0 input process)) (evaluate tested command)
    if rest.isEmpty then return status else runPipeline evaluate tested output rest
where
  connect (descriptor : Nat) (stream : Option Nat) (process : Process) : Process :=
    if stream.isSome then process.withDescriptor descriptor stream else process

end Activity

/-! Programs -/

/-- The names of the programs that every machine has. -/
def programNames : List String :=
  ["sh", "env", "cat", "sed", "echo", "true", "false"]

def programName? (location : Location) : Option String :=
  match location with
  | [name, "bin"] | [name, "bin", "usr"] => programNames.find? (· == name)
  | _ => none

/-- The interpreter that the first line of a script names, and the argument after it. -/
def interpreter? (content : Octets) : Option (Octets × List Octets) :=
  match content with
  | '#' :: '!' :: rest =>
    let line := (rest.takeWhile (· ≠ '\n')).dropWhile isBlank
    let name := line.takeWhile (!isBlank ·)
    let argument := (line.drop name.length).dropWhile isBlank
    let argument := (argument.reverse.dropWhile isBlank).reverse
    if name.isEmpty then none
    else some (name, if argument.isEmpty then [] else [argument])
  | _ => none

/-- The program that starting a file comes to, with its arguments behind its name. -/
def Process.started (process : Process) :
    Nat → Octets → List Octets → Except IoError (String × List Octets)
  | 0, _, _ => .error (.other "Too many levels of symbolic links")
  | fuel + 1, path, arguments => do
    let location ← process.locate path
    match process.world.files.node location with
    | none => .error .notFound
    | some .directory | some (.file _ false) => .error .permissionDenied
    | some (.file content true) =>
      match programName? location, interpreter? (ofBytes content) with
      | some name, _ => .ok (name, arguments)
      | none, none => .error .notAProgram
      | none, some (interpreter, options) =>
        process.started fuel interpreter
          (interpreter :: options ++ path :: arguments.drop 1)

/-- The program that a command names. A name without a slash is looked for in directories, and
a file that names no interpreter is run by the shell. -/
def Process.program (process : Process) (runsAnything : Bool) (arguments : List Octets) :
    Except IoError (String × List Octets) :=
  let name := arguments.head?.getD []
  let search := (process.value? "PATH".toList).getD "/bin:/usr/bin".toList
  let path := if name.contains '/' then some name
    else ((search.splitOn ':').map (within · name)).find? fun path =>
      process.node? path matches some (.file _ true)
  match path with
  | none => .error .notFound
  | some path =>
    match process.started 5 path arguments with
    | .error .notAProgram =>
      if runsAnything then .ok ("sh", "/bin/sh".toList :: path :: arguments.drop 1)
      else .error .notAProgram
    | result => result
where
  within (directory name : Octets) : Octets :=
    if directory.isEmpty then name else directory ++ '/' :: name

namespace Activity

def contentOf (path : Octets) : Activity (Except IoError Octets) := do
  if path = ['-'] then readAll
  else
    let process ← get
    return (process.world.files.read process.location (pathOf path)).map ofBytes

/-- The contents of files put together, with a status if one of them cannot be read. -/
def contents (name : Octets) (refused : Nat) (words : IoError → Octets → Octets) :
    List Octets → Activity (Octets × Nat)
  | [] => return ([], 0)
  | path :: paths => do
    match ← contentOf path with
    | .ok text =>
      let (texts, status) ← contents name refused words paths
      return (text ++ texts, status)
    | .error error =>
      printError (name ++ ": ".toList ++ words error path ++ ['\n'])
      let (texts, _) ← contents name refused words paths
      return (texts, refused)

def orInput (paths : List Octets) : List Octets :=
  if paths.isEmpty then [['-']] else paths

/-- What is wrong with an argument that looks like an option, for a program that has none. -/
def optionComplaint? (argument : Octets) : Option Octets :=
  match argument with
  | '-' :: '-' :: name => some ("unrecognized option '--".toList ++ name ++ ['\''])
  | '-' :: letter :: _ => some ("invalid option -- '".toList ++ [letter, '\''])
  | _ => none

def concatenate (name : Octets) (arguments : List Octets) : Activity Nat := do
  match arguments.findSome? optionComplaint? with
  | some complaint =>
    printError (name ++ ": ".toList ++ complaint ++ "\nTry '".toList ++ name ++
      " --help' for more information.\n".toList)
    return 1
  | none =>
    let (text, status) ← contents name 1
      (fun error path => path ++ ": ".toList ++ octetsOf error.reason) (orInput arguments)
    print text
    return status

/-- The scripts and the options among arguments, and the paths of files. -/
def sedArguments (options : List Char) (scripts : List Octets) :
    List Octets → List Char × List Octets × List Octets
  | ['-', 'e'] :: script :: rest => sedArguments options (scripts ++ [script]) rest
  | ('-' :: letter :: letters) :: rest =>
    sedArguments (letter :: letters ++ options) scripts rest
  | rest =>
    if scripts.isEmpty then (options, rest.take 1, rest.drop 1) else (options, scripts, rest)

def edit (name : Octets) (arguments : List Octets) : Activity Nat := do
  let (options, scripts, paths) := sedArguments [] [] arguments
  let extended := options.contains 'E' || options.contains 'r'
  match Sed.readScript extended (['\n'].intercalate scripts) with
  | .error complaint =>
    printError (name ++ ": ".toList ++ complaint ++ ['\n'])
    return 1
  | .ok script =>
    let (text, status) ← contents name 2
      (fun error path => "can't read ".toList ++ path ++ ": ".toList ++ octetsOf error.reason)
      (orInput paths)
    print (Sed.edited (options.contains 'n') script text)
    return status

def runShell (evaluate : Evaluator) (name : Octets) (arguments : List Octets) : Activity Nat := do
  modify fun process => { process with name }
  match arguments with
  | ['-', 'c'] :: script :: rest =>
    modify fun process =>
      { process with name := rest.head?.getD name, arguments := rest.drop 1 }
    runScript evaluate script
  | ('-' :: letters) :: path :: rest =>
    modify fun process => { process with options := letters }
    runFile path rest
  | path :: rest => runFile path rest
  | [] =>
    match ← readAll with
    | .ok script => runScript evaluate script
    | .error _ => return 0
where
  runFile (path : Octets) (rest : List Octets) : Activity Nat := do
    match ← contentOf path with
    | .ok content =>
      modify fun process => { process with name := path, arguments := rest }
      runScript evaluate content
    | .error error => fail (refusal false path error)

/-- Runs a program, which may run another one in a changed environment. -/
def runProgram (evaluate : Evaluator) : Nat → String × List Octets → Activity Nat
  | 0, _ => throw (.killed 9)
  | fuel + 1, (program, arguments) => do
    let name := arguments.head?.getD []
    let rest := arguments.drop 1
    match program with
    | "sh" => runShell evaluate name rest
    | "cat" => concatenate name rest
    | "sed" => edit name rest
    | "true" => return 0
    | "false" => return 1
    | "echo" =>
      print ([' '].intercalate rest ++ ['\n'])
      return 0
    | _ =>
      let assignments := rest.takeWhile (·.contains '=')
      assignments.forM fun word => do
        let name := word.takeWhile (· ≠ '=')
        assign name (word.drop (name.length + 1))
        modify fun process => { process with exported := name :: process.exported }
      let command := rest.drop assignments.length
      match (← get).program true command with
      | .ok started => runProgram evaluate fuel started
      | .error error =>
        printError (name ++ ": '".toList ++ command.head?.getD [] ++ "': ".toList ++
          octetsOf error.reason ++ ['\n'])
        return if error = .notFound then 127 else 126

def programDepth : Nat :=
  100

/-- Starts a program, in a process of its own or in the place of this one. -/
def startProgram (evaluate : Evaluator) (replaces : Bool) (arguments : List Octets) :
    Activity Nat := do
  let process ← get
  let name := arguments.head?.getD []
  match process.program true arguments with
  | .ok started =>
    let status ← inProgram evaluate (runProgram evaluate programDepth started)
    if replaces then throw (.replaced status) else return status
  | .error error =>
    let isMissing := [IoError.notFound, .notADirectory].contains error
    warn (name ++ ": ".toList ++
      if isMissing then "not found".toList else octetsOf error.reason)
    let status := if isMissing then 127 else 126
    if replaces then throw (.exited status) else return status

/-! Simple commands -/

/-- Lets a function or a script go on until it ends or goes back. -/
def untilBack (body : Activity Nat) : Activity Nat := do
  let status ← body
  modify fun process => if process.skip = .back then { process with skip := .nothing } else process
  return status

def includeScript (evaluate : Evaluator) : Builtin := fun arguments => do
  match arguments with
  | [] => return 0
  | path :: _ =>
    match ← contentOf path with
    | .ok content => untilBack (runScript evaluate content)
    | .error error => fail (refusal false path error)

def builtin? (evaluate : Evaluator) (name : Octets) : Option Builtin :=
  match String.ofList name with
  | "." => some (includeScript evaluate)
  | "eval" => some fun arguments => runScript evaluate ([' '].intercalate arguments)
  | "exec" => some fun arguments =>
    if arguments.isEmpty then return 0 else startProgram evaluate true arguments
  | name => builtins.lookup name

/-- Carries out a function with arguments of its own. -/
def runFunction (evaluate : Evaluator) (body : Command) (arguments : List Octets) :
    Activity Nat := do
  let outer ← get
  set { outer with arguments, loops := 0 }
  let status ← untilBack (evaluate false body)
  modify fun process => { process with arguments := outer.arguments, loops := outer.loops }
  return status

/-- Carries out a command that has been expanded. -/
def runWords (evaluate : Evaluator) (words : List Octets) : Activity Nat := do
  let name := words.head?.getD []
  let functions := (← get).functions
  let function := if specialNames.contains (String.ofList name) then none
    else functions.lookup name
  match function, builtin? evaluate name with
  | some body, _ => runFunction evaluate body (words.drop 1)
  | none, none => startProgram evaluate false words
  | none, some run =>
    let outer := (← get).command
    modify fun process => { process with command := some name }
    let result ← attempt (run (words.drop 1))
    modify fun process => { process with command := outer }
    match result with
    | .error (.failed status) =>
      if specialNames.contains (String.ofList name) then throw (.failed status) else return status
    | result => resume result

def redirectAll (evaluate : Evaluator) (changes : List Redirection) :
    Activity (Option Nat) := do
  match ← attempt (changes.forM (redirect (outputOf evaluate))) with
  | .ok () => return none
  | .error (.failed status) => return some status
  | .error stop => throw stop

/-- Carries out a command with redirections. They end with it, except those of `exec`. An error
in them ends the shell if the command is a special one. -/
def withRedirections (evaluate : Evaluator) (name : String) (changes : List Redirection)
    (body : Activity Nat) : Activity Nat := do
  let descriptors := (← get).descriptors
  let back : Activity Unit := modify fun process => { process with descriptors }
  match ← redirectAll evaluate changes with
  | some status =>
    back
    if specialNames.contains name then throw (.failed status) else return status
  | none =>
    let result ← attempt body
    if name ≠ "exec" then back
    resume result

/-- Assigns values, for good or only for a program that is started. -/
def assignAll (evaluate : Evaluator) (exports : Bool) (assignments : List Word) :
    Activity Unit :=
  assignments.forM fun word => do
    match word.assignment? with
    | none => return ()
    | some (name, value) =>
      assign name (← expandText (outputOf evaluate) value)
      if exports then modify fun process => { process with exported := name :: process.exported }

/-- Takes back an assignment that held only for one command. -/
def takeBack (before : Process) (word : Word) (process : Process) : Process :=
  match word.assignment? with
  | none => process
  | some (name, _) =>
    let others := process.bindings.filter fun (other, _) => other != name
    { process with
      bindings := others ++ ((before.value? name).map fun value => (name, value)).toList
      exported := if before.exported.contains name then process.exported
        else process.exported.filter (· ≠ name) }

def runSimple (evaluate : Evaluator) (line : Nat) (assignments words : List Word)
    (changes : List Redirection) : Activity Nat := do
  modify fun process => { process with line, substituted := 0 }
  let words := (← words.mapM (expandWord (outputOf evaluate))).flatten
  let name := String.ofList (words.head?.getD [])
  let before ← get
  withRedirections evaluate name changes do
    if words.isEmpty then
      assignAll evaluate false assignments
      return (← get).substituted
    else
      assignAll evaluate true assignments
      let status ← runWords evaluate words
      if !specialNames.contains name then
        modify fun process =>
          assignments.foldl (fun process word => takeBack before word process) process
      return status

/-! Commands -/

/-- Whether a loop goes on after a turn, which can have been left. -/
def goesOn : Activity Bool := do
  let process ← get
  match process.skip with
  | .nothing => return true
  | .back => return false
  | .next count =>
    set { process with skip := if count ≤ 1 then .nothing else .next (count - 1) }
    return count ≤ 1
  | .leave count =>
    set { process with skip := if count ≤ 1 then .nothing else .leave (count - 1) }
    return false

def runLoop (evaluate : Evaluator) (tested wanted : Bool) (condition body : Command) :
    Nat → Nat → Activity Nat
  | 0, status => return status
  | fuel + 1, status => do
    let found ← evaluate true condition
    if (found = 0) ≠ wanted then return status
    let status ← evaluate tested body
    if ← goesOn then runLoop evaluate tested wanted condition body fuel status
    else return status

def runEach (evaluate : Evaluator) (tested : Bool) (name : Octets) (body : Command) :
    Nat → List Octets → Activity Nat
  | status, [] => return status
  | _, value :: values => do
    assign name value
    let status ← evaluate tested body
    if ← goesOn then runEach evaluate tested name body status values else return status

def inLoop (body : Activity Nat) : Activity Nat := do
  modify fun process => { process with loops := process.loops + 1 }
  let status ← body
  modify fun process => { process with loops := process.loops - 1 }
  return status

/-- Carries out the first branch with a pattern that matches. -/
def runBranch (evaluate : Evaluator) (tested : Bool) (subject : Octets) :
    List (List Word × Option Command) → Activity Nat
  | [] => return 0
  | (patterns, body) :: branches => do
    let patterns ← patterns.mapM (expandPattern (outputOf evaluate))
    if patterns.any (patternMatches · subject) then
      match body with
      | some body => evaluate tested body
      | none => return 0
    else runBranch evaluate tested subject branches

/-- How often a loop can be gone through. -/
def turnLimit : Nat :=
  1000000000

/-- Carries out a command, given how those within it are carried out. -/
def runCommand (evaluate : Evaluator) (tested : Bool) (command : Command) : Activity Nat := do
  let after (first : Nat) (goes : Bool) (second : Command) : Activity Nat := do
    if goes && (← get).skip = .nothing then evaluate tested second else return first
  match command with
  | .simple line assignments words changes =>
    let status ← runSimple evaluate line assignments words changes
    modify fun process => { process with status }
    if status ≠ 0 && !tested && (← get).options.contains 'e' then throw (.exited status)
    return status
  | .redirected body changes => withRedirections evaluate "" changes (evaluate tested body)
  | .separate body => inFork evaluate id (evaluate tested body)
  | .pipeline parts => runPipeline evaluate tested none parts
  | .negated body => return if (← evaluate true body) = 0 then 1 else 0
  | .both first second =>
    let status ← evaluate true first
    after status (status = 0) second
  | .either first second =>
    let status ← evaluate true first
    after status (status ≠ 0) second
  | .sequence first second => after (← evaluate tested first) true second
  | .conditional condition body otherwise =>
    let status ← evaluate true condition
    if (← get).skip ≠ .nothing then return status
    if status = 0 then evaluate tested body
    else
      match otherwise with
      | some other => evaluate tested other
      | none => return 0
  | .loop wanted condition body =>
    inLoop (runLoop evaluate tested wanted condition body turnLimit 0)
  | .each name words body =>
    let values ← words.mapM (expandWord (outputOf evaluate))
    inLoop (runEach evaluate tested name body 0 values.flatten)
  | .choice subject branches =>
    runBranch evaluate tested (← expandText (outputOf evaluate) subject) branches
  | .function name body =>
    modify fun process => { process with functions := (name, body) :: process.functions }
    return 0

/-- Carries out a command that is not too deep. The shell knows its status afterwards. -/
def runWithin : Nat → Evaluator
  | 0 => fun _ _ => throw (.killed 11)
  | depth + 1 => fun tested command => do
    let status ← runCommand (runWithin depth) tested command
    modify fun process => { process with status }
    return status

def run : Evaluator :=
  runWithin 20000

end Activity

end CodeFormatting.Shell
