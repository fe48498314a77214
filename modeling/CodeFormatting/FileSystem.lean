import CodeFormatting.IoError
import CodeFormatting.Path
namespace CodeFormatting

/-! A file system gives locations nodes. A location lists the names of a file and of the
directories around it, the innermost first. A path is followed piece by piece from a
directory, so that every piece but the last has to name a directory. Reading a file may be
refused. So may writing it: opening empties it before anything is written, and what is
written may then be taken in part only. -/

abbrev Location := List String

inductive Node
  | file (content : ByteArray) (executable : Bool)
  | directory

/-- Why no more of what is written to a file is taken, and how many octets were. -/
structure Refusal where
  taken : Nat
  error : IoError
  deriving DecidableEq, Repr

structure FileSystem where
  node : Location → Option Node
  refusesRead : Location → Option IoError
  refusesOpen : Location → Option IoError
  refusesWrite : Location → Option Refusal

namespace FileSystem

def empty : FileSystem :=
  { node := fun location => if location = [] then some .directory else none
    refusesRead := fun _ => none
    refusesOpen := fun _ => none
    refusesWrite := fun _ => none }

def put (files : FileSystem) (location : Location) (node : Node) : FileSystem :=
  { files with node := fun other => if other = location then some node else files.node other }

/-- Puts a node in its place, with the directories around it. -/
def install (files : FileSystem) (location : Location) (node : Node) : FileSystem :=
  { files with
    node := fun other =>
      if other = location then some node
      else if other.isSuffixOf location then some .directory
      else files.node other }

def erase (files : FileSystem) (location : Location) : FileSystem :=
  { files with
    node := fun other => if location.isSuffixOf other then none else files.node other }

/-- Follows the pieces of a path from a directory. The last one need not exist. -/
def follow (files : FileSystem) (location : Location) :
    List String → Except IoError Location
  | [] => .ok location
  | piece :: rest =>
    match files.node location with
    | none => .error .notFound
    | some (.file _ _) => .error .notADirectory
    | some .directory =>
      if piece = "" ∨ piece = "." then files.follow location rest
      else if piece = ".." then files.follow location.tail rest
      else if 255 < piece.utf8ByteSize then .error .nameTooLong
      else files.follow (piece :: location) rest

def locate (files : FileSystem) (directory : Location) (path : Path) :
    Except IoError Location :=
  if Text.contains '\x00' path.text then .error .nulInName
  else if path.text.isEmpty then .error .notFound
  else if 4096 ≤ path.text.utf8ByteSize then .error .nameTooLong
  else files.follow (if path.isAbsolute then [] else directory) (Text.pieces '/' path.text)

def nodeAt (files : FileSystem) (directory : Location) (path : Path) :
    Except IoError Node :=
  match files.locate directory path with
  | .ok location =>
    match files.node location with
    | some node => .ok node
    | none => .error .notFound
  | .error error => .error error

def isFile (files : FileSystem) (directory : Location) (path : Path) : Bool :=
  match files.nodeAt directory path with
  | .ok (.file _ _) => true
  | _ => false

def isProgram (files : FileSystem) (directory : Location) (path : Path) : Bool :=
  match files.nodeAt directory path with
  | .ok (.file _ executable) => executable
  | _ => false

def read (files : FileSystem) (directory : Location) (path : Path) :
    Except IoError ByteArray :=
  match files.locate directory path with
  | .error error => .error error
  | .ok location =>
    match files.node location, files.refusesRead location with
    | none, _ => .error .notFound
    | some _, some error => .error error
    | some .directory, none => .error .isADirectory
    | some (.file content _), none => .ok content

def readText (files : FileSystem) (directory : Location) (path : Path) :
    Except IoError String :=
  match files.read directory path with
  | .ok content =>
    match String.fromUTF8? content with
    | some text => .ok text
    | none => .error .invalidText
  | .error error => .error error

/-- Opens a file to write it: a present file is emptied, a missing one made. -/
def openEmpty (files : FileSystem) (directory : Location) (path : Path) :
    Except IoError (Location × FileSystem) :=
  match files.locate directory path with
  | .error error => .error error
  | .ok location =>
    match files.node location, files.refusesOpen location with
    | some .directory, _ => .error .isADirectory
    | _, some error => .error error
    | some (.file _ executable), none =>
      .ok (location, files.put location (.file .empty executable))
    | none, none => .ok (location, files.put location (.file .empty false))

/-- The octets of a file after some have been written over its beginning. -/
def overwritten (content written : ByteArray) : ByteArray :=
  written ++ content.extract written.size content.size

/-- Puts octets over the beginning of a file. One that has gone takes them with it. -/
def patch (files : FileSystem) (location : Location) (octets : ByteArray) : FileSystem :=
  match files.node location with
  | some (.file content executable) =>
    files.put location (.file (overwritten content octets) executable)
  | _ => files

/-- Writes to an open file from its beginning, as far as what is written is taken. -/
def fill (files : FileSystem) (location : Location) (octets : ByteArray) :
    FileSystem × Except IoError Unit :=
  match files.refusesWrite location with
  | some refusal =>
    (files.patch location (octets.extract 0 refusal.taken), .error refusal.error)
  | none => (files.patch location octets, .ok ())

def clear (files : FileSystem) (location : Location) : FileSystem :=
  { files with
    node := fun other =>
      if other ≠ location ∧ location.isSuffixOf other then none else files.node other }

/-- Takes an empty directory away, unless its path ends in one dot or in two. A directory that
has gone needs no removal. -/
def removeEmpty (files : FileSystem) (directory location : Location) (path : Path) :
    FileSystem × Except IoError Unit :=
  match ((Text.pieces '/' path.text).filter (· ≠ "")).reverse with
  | "." :: _ => (files, .error .invalidArgument)
  | ".." :: before =>
    match files.follow (if path.isAbsolute then [] else directory) before.reverse with
    | .ok parent =>
      (files, if (files.node parent).isSome then .error .notEmpty else .ok ())
    | .error _ => (files, .ok ())
  | _ => (files.erase location, .ok ())

def removeDirectory (files : FileSystem) (directory : Location) (path : Path) :
    FileSystem × Except IoError Unit :=
  match files.locate directory path with
  | .error error => (files, .error error)
  | .ok location =>
    match files.node location with
    | none => (files, .error .notFound)
    | some (.file _ _) => (files, .error .notADirectory)
    | some .directory => (files.clear location).removeEmpty directory location path

/-- The location of an absolute path, whatever there is. -/
def locationOf (path : Path) : Location :=
  ((Text.pieces '/' path.text).filter fun piece => piece ≠ "" ∧ piece ≠ ".").reverse

end FileSystem

end CodeFormatting
