import CodeFormatting.Command.Sources
namespace CodeFormatting.Program

/-! The program: it reads the files that a run looks at, runs on what it has read, and
writes what the run has written. How another program is run is left to who starts this one. -/

/-- What is on disk at a path. Every file counts as one that can be started. -/
def readNode (path : Path) : IO (Option Node) := do
  try
    return some (.file (← IO.FS.readBinFile path.text) true)
  catch
    | .inappropriateType .. => return some .directory
    | _ => return none

/-- The files of a machine with what is on disk at a path. -/
def withNode (machine : Machine) (path : Path) (node : Node) : FileSystem :=
  machine.files.install
    (FileSystem.locationOf (SearchPath.absolute machine.directory path)) node

def readPaths (machine : Machine) : List Path → IO Machine
  | [] => return machine
  | path :: rest => do
    match ← readNode path with
    | some node => readPaths { machine with files := withNode machine path node } rest
    | none => readPaths machine rest

def writePaths (old new : Machine) : List Path → IO Unit
  | [] => return ()
  | path :: rest => do
    match old.files.read old.location path, new.files.read new.location path with
    | .ok before, .ok after =>
      if before != after then IO.FS.writeBinFile path.text after
    | _, .ok after => IO.FS.writeBinFile path.text after
    | _, _ => pure ()
    writePaths old new rest

def readEnvironment : IO Environment := do
  let values ← Command.variableNames.mapM fun name => do
    return (← IO.getEnv name).map fun value => (name, value)
  return .ofList (values.filterMap id)

def readMachine (environment : Environment) (execute : Executor) : IO Machine := do
  let machine : Machine :=
    { files := .empty
      directory := ⟨toString (← IO.currentDir)⟩
      home := (environment.get? "HOME").map Path.mk
      execute
      journal := [] }
  readPaths machine [machine.directory]

/-- The paths that a run looks at, with the machine that has read its configuration. -/
def consult (call : Command.Call) (machine : Machine) : IO (Machine × List Path) := do
  match Command.Arguments.parse call.arguments with
  | .error _ => return (machine, [])
  | .ok arguments =>
    let machine ← readPaths machine [Command.configSource machine.directory arguments]
    match Command.configOf machine arguments with
    | .error _ => return (machine, [])
    | .ok config =>
      let paths := Command.sources call.environment machine config arguments.task
      return (← readPaths machine paths, paths)

partial def readRest (stream : IO.FS.Stream) (octets : ByteArray) : IO ByteArray := do
  let more ← stream.read 65536
  if more.isEmpty then return octets
  readRest stream (octets ++ more)

def readsInput (arguments : List String) : Bool :=
  match Command.Arguments.parse arguments with
  | .ok ⟨_, .ktfmt given⟩ => given.files.isEmpty
  | _ => false

/-- Runs with the arguments of a command line and answers the exit code. -/
def main (execute : Environment → Executor) (arguments : List String) : IO UInt32 := do
  let environment ← readEnvironment
  let input ←
    if readsInput arguments then readRest (← IO.getStdin) .empty else pure .empty
  let call : Command.Call := ⟨environment, arguments, input⟩
  let (machine, paths) ← consult call (← readMachine environment (execute environment))
  let (ending, final) := (Command.run call).run machine
  writePaths machine final paths
  (← IO.getStdout).putStr ending.output
  (← IO.getStderr).putStr ending.errors
  return ending.code.toUInt32

end CodeFormatting.Program
