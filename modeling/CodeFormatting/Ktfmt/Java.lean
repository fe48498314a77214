import CodeFormatting.Ktfmt.Api
import CodeFormatting.Ktfmt.Version
import CodeFormatting.SearchPath
import CodeFormatting.Text.Quoted
import CodeFormatting.Text.Utf8
namespace CodeFormatting.Ktfmt

/-! A formatter is run as a java program that reads a text and writes the formatted one.
What it wrote counts only if it ended well, was given the whole text and wrote a text. -/

def javaTarget : String :=
  "stylist_ktfmt::java"

def stepTarget : String :=
  "stylist_ktfmt::step"

structure JavaLoader where
  environment : Environment
  java : Option Path
  mainClass : Option String
  deriving DecidableEq, Repr

structure JavaProgram where
  java : Path
  classpath : String
  mainClass : String
  version : Version
  deriving DecidableEq, Repr

namespace JavaLoader

open SearchPath (Search)

def ofEnvironment (environment : Environment) : JavaLoader :=
  { environment, java := none, mainClass := none }

def javaIn (home : String) : Path :=
  (Path.join ⟨home⟩ ⟨"bin"⟩).join ⟨"java"⟩

def onSearchPath (search : Search) (loader : JavaLoader) : Action (Except JavaError Path) := do
  match search.on (← get) loader.environment with
  | some java => return .ok java
  | none =>
    log .debug javaTarget
      ("java not found on PATH: " ++ SearchPath.refusal loader.environment)
    return .error .javaNotFound

def missingJava (home : String) : String :=
  "JAVA_HOME is set to '" ++ home ++ "' but " ++ (javaIn home).text ++ " does not exist"

/-- The java that was given, else the one in the java home directory, else the one that a search
finds. -/
def resolveJavaBy (search : Search) (loader : JavaLoader) : Action (Except JavaError Path) := do
  match loader.java with
  | some java => return .ok java
  | none =>
    match loader.environment.getVisible? "JAVA_HOME" with
    | some home =>
      if (← get).isFile (javaIn home) then
        log .debug javaTarget ("Using java from JAVA_HOME: " ++ (javaIn home).text)
        return .ok (javaIn home)
      log .warn javaTarget (missingJava home)
      loader.onSearchPath search
    | none => loader.onSearchPath search

def resolveJava (loader : JavaLoader) : Action (Except JavaError Path) :=
  loader.resolveJavaBy (SearchPath.first "java")

/-- The files with colons between them; a file with a colon cannot be named. -/
def classpath (files : List Path) : Except JavaError String :=
  if files.any fun file => Text.contains ':' file.text then .error .invalidClasspath
  else .ok (":".intercalate (files.map Path.text))

def loadedText (program : JavaProgram) : String :=
  "Loaded ktfmt " ++ program.version.text ++ " with " ++ program.java.text ++ " (" ++
    program.mainClass ++ ")"

def load (search : Search) (loader : JavaLoader) (bundle : Bundle) :
    Action (Except JavaError JavaProgram) := do
  match Version.parse bundle.coordinate.version with
  | .error error => return .error error
  | .ok version =>
    match ← loader.resolveJavaBy search with
    | .error error => return .error error
    | .ok java =>
      match classpath bundle.files with
      | .error error => return .error error
      | .ok classpath =>
        let program : JavaProgram :=
          { java, classpath, version
            mainClass := loader.mainClass.getD version.mainClass }
        log .debug javaTarget (loadedText program)
        return .ok program

end JavaLoader

namespace JavaProgram

def arguments (program : JavaProgram) (flag : Option String) : List String :=
  ["-cp", program.classpath, program.mainClass] ++ flag.toList ++ ["-"]

def exitCode? : ExitStatus → Option Int
  | .exited code => some code
  | .signalled => none

/-- The text that a program answered, or why there is none: the first of a bad end, an
input that was not taken and an output that is no text. -/
def answer (completion : Completion) : Except JavaError String :=
  if completion.status ≠ .exited 0 then
    .error (.exited (exitCode? completion.status)
      (Text.trim (Text.lossy completion.errors)))
  else
    match completion.written with
    | .error error => .error (.io error)
    | .ok () =>
      match String.fromUTF8? completion.output with
      | some text => .ok text
      | none => .error (.outputNotText (Text.flawText completion.output))

/-- A started program with its arguments, as it is noted. -/
def runningText (launch : Launch) : String :=
  "Running " ++ " ".intercalate ((launch.program.text :: launch.arguments).map Text.quoted)

def run (program : JavaProgram) (flag : Option String) (input : String) :
    Action (Except JavaError String) := do
  let launch : Launch := ⟨program.java, program.arguments flag, input⟩
  log .trace javaTarget (runningText launch)
  match ← start launch with
  | .error error => return .error (.startFailed program.java error)
  | .ok completion => return answer completion

def asEngineError {Answer : Type} : Except JavaError Answer → Except EngineError Answer
  | .ok value => .ok value
  | .error error => .error (.java error)

def cannotExpress (options : Options) : String :=
  "ktfmt command line can't express " ++ options.description ++ "; formatting with " ++
    options.flagPreset.description ++ " instead"

def format (program : JavaProgram) (input : String) : Action (Except EngineError String) := do
  return asEngineError (← program.run none input)

/-- Only a style can be asked for on the command line, so other options are reduced to
the preset of their flag, with a warning. -/
def formatWithOptions (program : JavaProgram) (options : Options) (input : String) :
    Action (Except EngineError String) := do
  if !options.isFlagPreset then log .warn javaTarget (cannotExpress options)
  return asEngineError (← program.run options.flag? input)

def presetOf : Format → Options
  | .dropbox => Options.dropbox
  | .google => Options.google
  | .kotlinlang => Options.kotlinlang

def formatConstant (program : JavaProgram) (format : Format) : Except LookupError Options :=
  if program.version.hasFormatConstant format then .ok (presetOf format)
  else .error (.fieldNotFound format.fieldName)

def companionStyle : Factory → Except LookupError Options
  | .dropbox => .ok Options.dropbox
  | .google => .ok Options.google
  | .kotlinlang => .error (.methodNotFound Factory.kotlinlang.methodName)

/-- What is noted about where the options of a style come from. -/
def accessorText (format : Format) (found : Bool) : String :=
  if found then
    "Using " ++ format.fieldName ++ " for ktfmt style " ++ (Style.ofFormat format).name
  else
    "ktfmt has no " ++ format.fieldName ++
      ", falling back to FormattingOptions.Companion." ++ format.factory.methodName ++ "()"

/-- Where the options of a style come from is noted here, since they are resolved in any world.
No other api notes it. -/
def answerConstant (program : JavaProgram) (format : Format) :
    Action (Except LookupError Options) := do
  log .debug stepTarget (accessorText format (program.version.hasFormatConstant format))
  return program.formatConstant format

def api (program : JavaProgram) : Api Machine where
  format := program.format
  formatWithOptions := program.formatWithOptions
  formatConstant := program.answerConstant
  companionStyle factory := pure (companionStyle factory)

end JavaProgram

def providedText (bundle : Bundle) : String :=
  "Loaded " ++ bundle.coordinate.text ++ " from " ++ toString bundle.files.length ++ " file(s)"

namespace JavaLoader

/-- What was loaded is noted here, since an engine is made in any world. No other loader notes
it. -/
def loaderBy (search : SearchPath.Search) (loader : JavaLoader) : Loader Machine := fun bundle => do
  match ← loader.load search bundle with
  | .error error => return .error (.java error)
  | .ok program =>
    log .debug stepTarget (providedText bundle)
    return .ok program.api

def loader (loader : JavaLoader) : Loader Machine :=
  loader.loaderBy (SearchPath.first "java")

end JavaLoader

end CodeFormatting.Ktfmt
