import CodeFormatting.Machine
import CodeFormatting.Shell.Evaluation
namespace CodeFormatting.Shell

/-! An executor for machines on which scripts stand for programs. It is one of all executors
that a machine can have, and nothing else depends on it. -/

/-- What a pipe holds before its reader has to take something out. -/
def pipeCapacity : Nat :=
  65536

def programPaths : List String :=
  programNames.flatMap fun name => ["/bin/" ++ name, "/usr/bin/" ++ name]

/-- A process that reads what it is given and whose output is kept. -/
def initial (environment : Environment) (files : FileSystem) (names : List Location)
    (directory : Path) (input : Octets) : Process :=
  let streams := #[.pipe input [], .pipe [] [], .pipe [] []]
  let bindings := environment.bindings.map fun (name, value) => (octetsOf name, octetsOf value)
  { world := ⟨files, names, streams⟩
    directory
    descriptors := [(0, 0), (1, 1), (2, 2)]
    name := []
    arguments := []
    bindings
    functions := []
    exported := bindings.map Prod.fst
    options := []
    status := 0
    substituted := 0
    line := 0
    command := none
    farewell := none
    loops := 0
    skip := .nothing }

def World.content (world : World) (number : Nat) : Octets :=
  match world.readable number with
  | .ok text => text
  | .error _ => []

/-- How a run ended. An input of which more is left than a pipe holds was not taken. -/
def completion (ending : Ending) (world : World) : Completion :=
  { written :=
      if ((world.content 0).drop pipeCapacity).isEmpty then .ok () else .error .brokenPipe
    status := match ending with
      | .exited status => .exited status
      | .killed _ => .signalled
    output := toBytes (world.content 1)
    errors := toBytes (world.content 2) }

def around : Location → List Location
  | [] => []
  | name :: location => (name :: location) :: around location

/-- Starts programs in an environment. The paths are those that can be found in directories. -/
def executor (environment : Environment) (paths : List Path) : Executor :=
  let names := (paths.flatMap fun path => around (FileSystem.locationOf path)).eraseDups
  fun files directory launch =>
    if (launch.program.text :: launch.arguments).any (Text.contains '\x00') then
      (files, .error .nulInLaunch)
    else
      let process := initial environment files names directory (octetsOf launch.input)
      match process.program false ((launch.program.text :: launch.arguments).map octetsOf) with
      | .error error => (files, .error error)
      | .ok started =>
        let (ending, process) := (Activity.untilEnd Activity.run
          (Activity.runProgram Activity.run Activity.programDepth started)).run process
        (process.world.files, .ok (completion ending process.world))

end CodeFormatting.Shell
