import CodeFormatting.Command.Run
namespace CodeFormatting.Command

/-! What a run looks at: the variables that it asks for, the file that its configuration
may come from and, once that is known, every path that its command may look at. -/

def variableNames : List String :=
  ["HOME", "JAVA_HOME", "M2_REPO", "NPM_CONFIG_USERCONFIG", Npm.binVariable,
    Npm.symlinkVariable, "PATH", "RUST_LOG", "STYLIST_LOG", Npm.executableVariable]

def configSource (directory : Path) (arguments : Arguments) : Path :=
  arguments.config.getD (directory.join ⟨Config.fileName⟩)

/-- Where a program may be on the search path. -/
def programSources (environment : Environment) (machine : Machine) (name : String) :
    List Path :=
  match environment.getVisible? "PATH" with
  | none => []
  | some text =>
    (SearchPath.directories machine.home machine.directory text).map (·.join ⟨name⟩)

def jarSources (environment : Environment) (machine : Machine) (config : KtfmtConfig) :
    List Path :=
  match repositoryOf environment machine.home config,
      Ktfmt.Builder.coordinate config.effectiveVersion (some Ktfmt.selfContained) with
  | .ok repository, .ok coordinate => [repository.jar coordinate]
  | _, _ => []

def javaSources (environment : Environment) (machine : Machine) (config : KtfmtConfig) :
    List Path :=
  config.java.toList ++
    ((environment.getVisible? "JAVA_HOME").map Ktfmt.JavaLoader.javaIn).toList ++
    programSources environment machine "java"

def npmSources (environment : Environment) (machine : Machine) (config : NpmConfig) :
    List Path :=
  ((environment.getVisible? Npm.executableVariable).map Path.mk).toList ++
    ([Npm.binVariable, Npm.symlinkVariable].filterMap environment.getVisible?).map Npm.npmIn ++
    programSources environment machine "npm" ++ config.npmrc.toList ++
    locationsOf environment machine config

/-- The paths that a command may look at with a configuration. -/
def sources (environment : Environment) (machine : Machine) (config : Config) :
    Task → List Path
  | .ktfmt arguments =>
    let config := arguments.onto config.ktfmt
    arguments.files ++ jarSources environment machine config ++
      javaSources environment machine config
  | .npm arguments => npmSources environment machine (arguments.onto config.npm)

end CodeFormatting.Command
