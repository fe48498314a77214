import CodeFormatting.Environment
import CodeFormatting.FileSystem
import CodeFormatting.Shell.Arithmetic
import CodeFormatting.Shell.Syntax
namespace CodeFormatting.Shell

/-! A process runs commands in a world that it shares with others: the files, and the streams
that descriptors refer to. What one process has read from a stream is gone for the others. Its
variables, its options and what its descriptors refer to are its own. -/

/-- A pipe keeps what has been written to it, the latest first, behind what is ready to be
read. -/
inductive Stream
  | nothing
  | pipe (ready : Octets) (written : List Octets)
  | file (location : Location) (offset : Nat) (mode : OpenMode)

/-- The locations are those where a file may be. -/
structure World where
  files : FileSystem
  names : List Location
  streams : Array Stream

/-- What is passed over until a loop or a function ends. -/
inductive Skip
  | nothing
  | back
  | leave (loops : Nat)
  | next (loops : Nat)
  deriving DecidableEq, Repr

/-- Why a process does not go on. An error has been complained about. A process that has been
replaced by a program ends with it. -/
inductive Stop
  | exited (status : Nat)
  | failed (status : Nat)
  | replaced (status : Nat)
  | killed (signal : Nat)
  deriving DecidableEq, Repr

structure Process where
  world : World
  directory : Path
  descriptors : List (Nat × Nat)
  name : Octets
  arguments : List Octets
  bindings : List (Octets × Octets)
  functions : List (Octets × Command)
  /-- The variables that programs get to know. -/
  exported : List Octets
  options : List Char
  status : Nat
  /-- The status of the last substitution in the present command. -/
  substituted : Nat
  line : Nat
  /-- The builtin command that is being carried out. -/
  command : Option Octets
  /-- What to do at the end. -/
  farewell : Option Octets
  loops : Nat
  skip : Skip

/-- What a process does, up to where it stops. -/
abbrev Activity := ExceptT Stop (StateM Process)

namespace World

def stream (world : World) (number : Nat) : Stream :=
  world.streams.getD number .nothing

def setStream (world : World) (number : Nat) (stream : Stream) : World :=
  { world with streams := world.streams.setIfInBounds number stream }

def addStream (world : World) (stream : Stream) : Nat × World :=
  (world.streams.size, { world with streams := world.streams.push stream })

def put (world : World) (location : Location) (node : Node) : World :=
  { world with
    files := world.files.put location node
    names := if world.names.contains location then world.names else location :: world.names }

/-- The names in a directory in the order of their octets. -/
def entries (world : World) (directory : Location) : List String :=
  let names := world.names.filterMap fun location =>
    match location with
    | name :: around =>
      if around = directory && (world.files.node location).isSome then some name else none
    | [] => none
  names.mergeSort fun left right => !(right < left)

def badDescriptor : IoError :=
  .other "Bad file descriptor"

def readable (world : World) (number : Nat) : Except IoError Octets :=
  match world.stream number with
  | .nothing => .ok []
  | .pipe ready written => .ok (ready ++ written.reverse.flatten)
  | .file location offset .read =>
    match world.files.node location with
    | some (.file content _) => .ok (ofBytes (content.extract offset content.size))
    | some .directory => .error .isADirectory
    | none => .ok []
  | .file _ _ _ => .error badDescriptor

/-- Leaves of what can be read only the last octets, those after the ones that were taken. -/
def consume (world : World) (number count : Nat) (left : Octets) : World :=
  match world.stream number with
  | .nothing => world
  | .pipe _ _ => world.setStream number (.pipe left [])
  | .file location offset mode => world.setStream number (.file location (offset + count) mode)

/-- A content with some octets in place of those from an offset on. -/
def patched (content written : ByteArray) (offset : Nat) : ByteArray :=
  content.extract 0 offset ++ ByteArray.mk (Array.replicate (offset - content.size) 0) ++
    written ++ content.extract (offset + written.size) content.size

def write (world : World) (number : Nat) (text : Octets) : Except IoError World :=
  match world.stream number with
  | .nothing => .ok world
  | .pipe ready written => .ok (world.setStream number (.pipe ready (text :: written)))
  | .file _ _ .read => .error badDescriptor
  | .file location offset mode =>
    match world.files.node location with
    | some (.file content executable) =>
      let start := if mode = .append then content.size else offset
      let bytes := toBytes text
      .ok ((world.put location (.file (patched content bytes start) executable)).setStream number
        (.file location (start + bytes.size) mode))
    | _ => .ok world

end World

namespace Process

def location (process : Process) : Location :=
  FileSystem.locationOf process.directory

def locate (process : Process) (path : Octets) : Except IoError Location :=
  process.world.files.locate process.location (pathOf path)

def node? (process : Process) (path : Octets) : Option Node :=
  match process.locate path with
  | .ok location => process.world.files.node location
  | .error _ => none

def isDirectory (process : Process) (path : Octets) : Bool :=
  process.node? path matches some .directory

def value? (process : Process) (name : Octets) : Option Octets :=
  process.bindings.lookup name

/-- The signs at which values are split. -/
def separators (process : Process) : Octets :=
  (process.value? "IFS".toList).getD [' ', '\t', '\n']

def withDescriptor (process : Process) (descriptor : Nat) (stream : Option Nat) : Process :=
  let others := process.descriptors.filter fun (other, _) => other != descriptor
  { process with
    descriptors := (stream.map fun number => (descriptor, number)).toList ++ others }

/-- Sets a variable, which keeps its place among the others. -/
def withVariable (process : Process) (name value : Octets) : Process :=
  if (process.value? name).isSome then
    { process with
      bindings := process.bindings.map fun (other, old) =>
        (other, if other == name then value else old) }
  else { process with bindings := process.bindings ++ [(name, value)] }

/-- The variables that programs get to know. -/
def environment (process : Process) : List (Octets × Octets) :=
  process.bindings.filter fun (name, _) => process.exported.contains name

end Process

namespace Activity

/-! Streams -/

/-- Writes to a descriptor and tells whether that worked. -/
def emit (descriptor : Nat) (text : Octets) : Activity (Except IoError Unit) := do
  let process ← get
  match process.descriptors.lookup descriptor with
  | none => return .error World.badDescriptor
  | some number =>
    match process.world.write number text with
    | .ok world =>
      set { process with world }
      return .ok ()
    | .error error => return .error error

def print (text : Octets) : Activity Unit := do
  let _ ← emit 1 text

def printError (text : Octets) : Activity Unit := do
  let _ ← emit 2 text

/-- What can be read, up to where a reader stops, which tells how much it took. -/
def takeInput {Answer : Type} (take : Octets → Answer × Octets) :
    Activity (Except IoError Answer) := do
  let process ← get
  match process.descriptors.lookup 0 with
  | none => return .error World.badDescriptor
  | some number =>
    match process.world.readable number with
    | .error error => return .error error
    | .ok text =>
      let (answer, left) := take text
      let world := process.world.consume number (text.length - left.length) left
      set { process with world }
      return .ok answer

def readAll : Activity (Except IoError Octets) :=
  takeInput fun text => (text, [])

def addStream (stream : Stream) : Activity Nat := do
  let process ← get
  let (number, world) := process.world.addStream stream
  set { process with world }
  return number

/-! Complaints -/

/-- Complains on the standard error, with who complains, about which line and command. -/
def warn (text : Octets) : Activity Unit := do
  let process ← get
  let front := process.name ++ ": ".toList ++ Decimal.numeral process.line ++ ": ".toList
  let command := (process.command.map (· ++ ": ".toList)).getD []
  printError (front ++ command ++ text ++ ['\n'])

/-- Complains about an error, which ends what cannot go on after one. -/
def fail {Answer : Type} (text : Octets) : Activity Answer := do
  warn text
  throw (.failed 2)

/-! Variables and numbers -/

def assign (name value : Octets) : Activity Unit :=
  modify (·.withVariable name value)

/-- The whole number that a text denotes in decimal digits, with blanks around it. -/
def integer (text : Octets) : Activity Int := do
  let isSigned := match text.dropWhile isSpace with
    | '-' :: _ | '+' :: _ => true
    | _ => false
  let digits := (text.dropWhile isSpace).drop (if isSigned then 1 else 0)
  let number := digits.takeWhile Char.isDigit
  if number.isEmpty || !(digits.drop number.length).all isSpace then
    fail ("Illegal number: ".toList ++ text)
  else
    let value : Int := Decimal.value number
    return if (text.dropWhile isSpace).head? = some '-' then -value else value

def natural (text : Octets) : Activity Nat := do
  match ← integer text with
  | .ofNat value => return value
  | .negSucc _ => fail ("Illegal number: ".toList ++ text)

end Activity

end CodeFormatting.Shell
