import CodeFormatting.Artifact.Error
import CodeFormatting.Environment
import CodeFormatting.Machine
namespace CodeFormatting

/-! A provisioner finds the files of an artifact. A repository on disk keeps the jar of
an artifact at a path that its coordinate alone decides. Looking for it only asks the machine,
so what traces where it is looked for is left out. -/

/-- The files that an artifact resolved to, in the order of the classpath. -/
structure Bundle where
  coordinate : Coordinate
  files : List Path
  deriving DecidableEq, Repr

abbrev Provisioner (World : Type) :=
  Coordinate → StateM World (Except ProvisionError Bundle)

structure Repository where
  root : Path
  deriving DecidableEq, Repr

namespace Repository

def ofHome (home : Path) : Repository :=
  ⟨(home.join ⟨".m2"⟩).join ⟨"repository"⟩⟩

/-- The repository that is set in the environment, else the one in the home directory. -/
def ofEnvironment? (environment : Environment) (home : Option Path) : Option Repository :=
  match environment.getVisible? "M2_REPO" with
  | some root => some ⟨⟨root⟩⟩
  | none => home.map ofHome

def ofEnvironment (environment : Environment) (home : Option Path) :
    Except ProvisionError Repository :=
  match ofEnvironment? environment home with
  | some repository => .ok repository
  | none => .error .noRepository

def jar (repository : Repository) (coordinate : Coordinate) : Path :=
  repository.root.join coordinate.repositoryPath

def provision (repository : Repository) (coordinate : Coordinate) (machine : Machine) :
    Except ProvisionError Bundle :=
  if machine.isFile (repository.jar coordinate) then
    .ok ⟨coordinate, [repository.jar coordinate]⟩
  else .error (.notFound coordinate (repository.jar coordinate))

def provisioner (repository : Repository) : Provisioner Machine := fun coordinate machine =>
  (repository.provision coordinate machine, machine)

end Repository

end CodeFormatting
