namespace CodeFormatting.Command

/-! The command line explains itself on one page for the whole program and one for each
of its commands. -/

inductive Page
  | program
  | ktfmt
  | npm
  | help
  deriving DecidableEq, Repr

def programName : String :=
  "stylist"

def programVersion : String :=
  "0.1.0"

def versionText : String :=
  programName ++ " " ++ programVersion ++ "\n"

namespace Page

def lines : Page → List String
  | .program =>
    ["Stylist code formatting package",
      "",
      "Usage: stylist [OPTIONS] <COMMAND>",
      "",
      "Commands:",
      "  ktfmt  Format Kotlin sources with ktfmt. Reads stdin and writes stdout when no " ++
        "files are given",
      "  npm    Show which npm executable and npmrc would be used",
      "  help   Print this message or the help of the given subcommand(s)",
      "",
      "Options:",
      "      --config <CONFIG>  Config file. Defaults to `stylist.toml` in the working " ++
        "directory when present",
      "  -h, --help             Print help",
      "  -V, --version          Print version"]
  | .ktfmt =>
    ["Format Kotlin sources with ktfmt. Reads stdin and writes stdout when no files are given",
      "",
      "Usage: stylist ktfmt [OPTIONS] [FILES]...",
      "",
      "Arguments:",
      "  [FILES]...  ",
      "",
      "Options:",
      "      --config <CONFIG>          Config file. Defaults to `stylist.toml` in the " ++
        "working directory when present",
      "      --ktfmt-version <VERSION>  ktfmt version to provision",
      "      --style <STYLE>            ",
      "      --repository <REPOSITORY>  Local Maven repository root",
      "      --java <JAVA>              ",
      "      --check                    Report files that would change instead of " ++
        "rewriting them",
      "  -h, --help                     Print help"]
  | .npm =>
    ["Show which npm executable and npmrc would be used",
      "",
      "Usage: stylist npm [OPTIONS]",
      "",
      "Options:",
      "      --config <CONFIG>",
      "          Config file. Defaults to `stylist.toml` in the working directory when present",
      "      --executable <EXECUTABLE>",
      "          ",
      "      --npmrc <NPMRC>",
      "          ",
      "      --npmrc-location <NPMRC_LOCATIONS>",
      "          ",
      "  -o, --output <OUTPUT>",
      "          [default: raw] [possible values: json, raw]",
      "  -h, --help",
      "          Print help"]
  | .help =>
    ["Print this message or the help of the given subcommand(s)",
      "",
      "Usage: stylist help [COMMAND]...",
      "",
      "Arguments:",
      "  [COMMAND]...  Print help for the subcommand(s)"]

def text (page : Page) : String :=
  String.join (page.lines.map (· ++ "\n"))

end Page

end CodeFormatting.Command
