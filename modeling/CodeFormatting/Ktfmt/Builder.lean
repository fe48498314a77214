import CodeFormatting.Ktfmt.Api
import CodeFormatting.Step.Basic
namespace CodeFormatting.Ktfmt

/-! A builder collects the configuration of a formatter step. Building checks it but
provides and loads nothing: that is left to the initializer of the step. -/

variable {World : Type}

def stepName : String :=
  "ktfmt"

def mavenGroup : String :=
  "com.facebook"

/-- The text of a coordinate up to its version. -/
def mavenCoordinate : String :=
  "com.facebook:ktfmt:"

/-- The classifier of the jar that contains all it depends on. -/
def selfContained : String :=
  "jar-with-dependencies"

def defaultVersion : String :=
  "0.21"

def defaultStyle : Style :=
  .standard

def formatterMethod : String :=
  "format"

structure Builder (World : Type) where
  version? : Option String
  provisioner? : Option (Provisioner World)
  style? : Option Style
  loader? : Option (Loader World)
  classifier? : Option String

structure Configuration (World : Type) where
  coordinate : Coordinate
  style : Style
  provisioner : Provisioner World
  loader : Loader World

namespace Configuration

/-- The coordinate and the style; how they are provided and loaded is no part of it. -/
def toJson (configuration : Configuration World) : Json :=
  .object [("coordinate", configuration.coordinate.toJson),
    ("style", configuration.style.toJson)]

/-- Provides, loads and resolves, each only if all before it succeeded. -/
def makeEngine (configuration : Configuration World) :
    StateM World (Except StepError (Engine World)) := do
  match ← configuration.provisioner configuration.coordinate with
  | .error error => return .error (.provision error)
  | .ok bundle =>
    match ← configuration.loader bundle with
    | .error error => return .error (.load error)
    | .ok api =>
      match ← resolveOptions api configuration.style with
      | .error error => return .error (.load (.lookup error))
      | .ok resolved => return .ok (api.engine resolved)

end Configuration

namespace Builder

def empty : Builder World :=
  { version? := none
    provisioner? := none
    style? := none
    loader? := none
    classifier? := some selfContained }

def version (builder : Builder World) (text : String) : Builder World :=
  { builder with version? := some text }

def provisioner (builder : Builder World) (provisioner : Provisioner World) :
    Builder World :=
  { builder with provisioner? := some provisioner }

def style (builder : Builder World) (style : Style) : Builder World :=
  { builder with style? := some style }

def loader (builder : Builder World) (loader : Loader World) : Builder World :=
  { builder with loader? := some loader }

/-- Asks for a jar with a classifier; none or a blank one asks for the plain jar. -/
def classifier (builder : Builder World) (classifier : Option String) : Builder World :=
  { builder with classifier? := classifier.filter fun text => !Text.isBlankText text }

def visibleVersion? (builder : Builder World) : Option String :=
  builder.version?.filter fun text => !Text.isBlankText text

/-- The coordinate of a version, which has to be one part of it. -/
def coordinate (version : String) (classifier : Option String) :
    Except StepError Coordinate :=
  match Coordinate.parse (mavenCoordinate ++ Text.trim version) with
  | .error error => .error (.provision error)
  | .ok coordinate =>
    match classifier with
    | some classifier => .ok { coordinate with classifier := some (Text.trim classifier) }
    | none => .ok coordinate

/-- The configuration that was collected. The loader is the given one unless another
was set. -/
def configuration (builder : Builder World) (standard : Loader World) :
    Except StepError (Configuration World) :=
  match builder.visibleVersion?, builder.provisioner?, builder.style? with
  | none, _, _ => .error (.missingArgument "version")
  | some _, none, _ => .error (.missingArgument "provisioner")
  | some _, some _, none => .error (.missingArgument "style")
  | some version, some provisioner, some style =>
    match coordinate version builder.classifier? with
    | .error error => .error error
    | .ok coordinate =>
      .ok { coordinate, style, provisioner, loader := builder.loader?.getD standard }

def build (builder : Builder World) (standard : Loader World) :
    Except StepError (Step World) :=
  match builder.configuration standard with
  | .error error => .error error
  | .ok configuration =>
    Step.create stepName (.ok configuration.toJson.compact) configuration.makeEngine

/-- A step of a version and a style, with everything else as it is by default. -/
def standardStep (version : String) (provisioner : Provisioner World) (style : Style)
    (standard : Loader World) : Except StepError (Step World) :=
  (((empty.version version).provisioner provisioner).style style).build standard

end Builder

end CodeFormatting.Ktfmt
