import CodeFormatting.Log
import CodeFormatting.Regex
import CodeFormatting.Text.Blank
import CodeFormatting.Text.Pieces
namespace CodeFormatting.Log

/-! A filter decides which records are printed. It is written as directives between
commas: a level, the front of a target, or a target and a level with an equals sign
between them. The directive with the longest target that is the front of a record's
target decides on the record. A pattern after a slash has to fit a part of the text of a
record. -/

/-- Records of a target are let through up to a level, or not at all. -/
structure Directive where
  target : Option String
  limit : Option Level
  deriving DecidableEq, Repr

structure Filter where
  directives : List Directive
  pattern : Option Regex.Pattern
  deriving DecidableEq, Repr

inductive InvalidFilter
  | directive (text : String)
  | slashes (text : String)
  | pattern (error : Regex.Error)
  deriving DecidableEq, Repr

def InvalidFilter.message : InvalidFilter → String
  | .directive text => "invalid logging spec '" ++ text ++ "'"
  | .slashes text => "invalid logging spec '" ++ text ++ "' (too many '/'s)"
  | .pattern error => "invalid regex filter - " ++ error.message

/-- What a level's name allows, in letters of any case. -/
def limit? (text : String) : Option (Option Level) :=
  let name := text.map Char.toUpper
  if name = "OFF" then some none
  else (Level.all.find? fun level => level.name == name).map some

namespace Directive

/-- Everything a target writes. -/
def all (target : String) : Directive :=
  ⟨some target, some .trace⟩

def parse (text : String) : Except InvalidFilter Directive :=
  match Text.pieces '=' text with
  | [word] =>
    match limit? word with
    | some limit => .ok ⟨none, limit⟩
    | none => .ok (all word)
  | [target, level] =>
    if (Text.trim level).isEmpty then .ok (all target)
    else
      match limit? (Text.trim level) with
      | some limit => .ok ⟨some target, limit⟩
      | none => .error (.directive (Text.trim level))
  | _ => .error (.directive text)

/-- How much of a target a directive names. -/
def length (directive : Directive) : Nat :=
  (directive.target.getD "").utf8ByteSize

def concerns (directive : Directive) (record : Record) : Bool :=
  (directive.target.getD "").toList.isPrefixOf record.target.toList

def admits (directive : Directive) (record : Record) : Bool :=
  match directive.limit with
  | some limit => record.level.verbosity ≤ limit.verbosity
  | none => false

end Directive

namespace Filter

/-- Errors of every part of the program. -/
def standard : Filter :=
  ⟨[⟨none, some .error⟩], none⟩

/-- Adds a directive, which replaces an earlier one for the same target. -/
def insert (directives : List Directive) (added : Directive) : List Directive :=
  if directives.any (·.target = added.target) then
    directives.map fun directive =>
      if directive.target = added.target then added else directive
  else directives ++ [added]

/-- The directive with the longest target; of two equally long ones, the later one. -/
def longest? (directives : List Directive) : Option Directive :=
  directives.foldl (fun best directive =>
    match best with
    | some other => if directive.length < other.length then best else some directive
    | none => some directive) none

def admits (filter : Filter) (record : Record) : Bool :=
  let deciding := longest? (filter.directives.filter (·.concerns record))
  deciding.any (·.admits record) && filter.pattern.all (·.occurs record.text)

/-- The directives in a text, and the pieces of it that are not understood. -/
def readDirectives (text : String) : List InvalidFilter × List Directive :=
  let words := ((Text.pieces ',' text).map Text.trim).filter fun word => !word.isEmpty
  let read := words.map Directive.parse
  (read.filterMap fun answer =>
      match answer with
      | .error error => some error
      | .ok _ => none,
    (read.filterMap Except.toOption).foldl insert [])

/-- The pattern that a text describes, or why it describes none. -/
def readPattern (text : String) : List InvalidFilter × Option Regex.Pattern :=
  match Regex.compile text with
  | .ok pattern => ([], some pattern)
  | .error error => ([.pattern error], none)

/-- The filter of directives, which are the usual ones if there are none. -/
def ofDirectives (directives : List Directive) (pattern : Option Regex.Pattern) : Filter :=
  if directives.isEmpty then { standard with pattern } else ⟨directives, pattern⟩

/-- The filter that a text describes, with what is not understood left out. -/
def parse (text : String) : List InvalidFilter × Filter :=
  match Text.pieces '/' text with
  | [] => ([], standard)
  | [directives] =>
    let (errors, directives) := readDirectives directives
    (errors, ofDirectives directives none)
  | [directives, pattern] =>
    let (errors, directives) := readDirectives directives
    let (patternErrors, pattern) := readPattern pattern
    (errors ++ patternErrors, ofDirectives directives pattern)
  | _ => ([.slashes text], standard)

end Filter

end CodeFormatting.Log
