import CodeFormatting.IoError
import CodeFormatting.Ktfmt.Builder
import CodeFormatting.Path
import CodeFormatting.Text.Quoted
namespace CodeFormatting

/-! A configuration says which formatter to use and where npm is. Everything in it is
optional. Relative paths in a file are meant from the directory of the file. -/

structure KtfmtConfig where
  version : Option String := none
  style : Option String := none
  repository : Option Path := none
  java : Option Path := none
  deriving DecidableEq, Repr, Inhabited

structure NpmConfig where
  executable : Option Path := none
  npmrc : Option Path := none
  npmrcLocations : List Path := []
  deriving DecidableEq, Repr, Inhabited

structure Config where
  ktfmt : KtfmtConfig := {}
  npm : NpmConfig := {}
  deriving DecidableEq, Repr, Inhabited

namespace KtfmtConfig

/-- The version that is set, unless it is blank. -/
def effectiveVersion (config : KtfmtConfig) : String :=
  (config.version.filter fun version => !Text.isBlankText version).getD Ktfmt.defaultVersion

def effectiveStyle (config : KtfmtConfig) : Except Ktfmt.InvalidStyle Ktfmt.Style :=
  match config.style with
  | some text => Ktfmt.Style.parse text
  | none => .ok Ktfmt.defaultStyle

end KtfmtConfig

namespace Config

def fileName : String :=
  "stylist.toml"

def rebase (base : Path) (config : Config) : Config :=
  { ktfmt :=
      { config.ktfmt with
        repository := config.ktfmt.repository.map base.join
        java := config.ktfmt.java.map base.join }
    npm :=
      { executable := config.npm.executable.map base.join
        npmrc := config.npm.npmrc.map base.join
        npmrcLocations := config.npm.npmrcLocations.map base.join } }

/-- The fields by name, for a message. -/
def description (config : Config) : String :=
  "Config \x7b ktfmt: KtfmtConfig \x7b version: " ++ Text.quotedOption config.ktfmt.version ++
    ", style: " ++ Text.quotedOption config.ktfmt.style ++
    ", repository: " ++ Text.quotedOption (config.ktfmt.repository.map Path.text) ++
    ", java: " ++ Text.quotedOption (config.ktfmt.java.map Path.text) ++
    " \x7d, npm: NpmConfig \x7b executable: " ++
    Text.quotedOption (config.npm.executable.map Path.text) ++
    ", npmrc: " ++ Text.quotedOption (config.npm.npmrc.map Path.text) ++
    ", npmrc_locations: " ++ Text.quotedList (config.npm.npmrcLocations.map Path.text) ++
    " \x7d \x7d"

end Config

end CodeFormatting
