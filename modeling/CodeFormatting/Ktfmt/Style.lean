import CodeFormatting.Json.Basic
import CodeFormatting.Text.Blank
namespace CodeFormatting.Ktfmt

/-! A style names a preset of the formatter. All but the default are read from
the loaded formatter: newer releases publish them as constants, older ones as
factory methods. -/

inductive Style
  | standard
  | dropbox
  | google
  | kotlinlang
  deriving DecidableEq, Repr, Inhabited

/-- A constant that holds the options of a style. -/
inductive Format
  | dropbox
  | google
  | kotlinlang
  deriving DecidableEq, Repr

/-- A factory method that answers the options of a style. -/
inductive Factory
  | dropbox
  | google
  | kotlinlang
  deriving DecidableEq, Repr

def Format.fieldName : Format → String
  | .dropbox => "DROPBOX_FORMAT"
  | .google => "GOOGLE_FORMAT"
  | .kotlinlang => "KOTLINLANG_FORMAT"

def Factory.methodName : Factory → String
  | .dropbox => "dropboxStyle"
  | .google => "googleStyle"
  | .kotlinlang => "kotlinlangStyle"

/-- The factory method for the options that a constant holds. -/
def Format.factory : Format → Factory
  | .dropbox => .dropbox
  | .google => .google
  | .kotlinlang => .kotlinlang

structure InvalidStyle where
  text : String
  deriving DecidableEq, Repr

def InvalidStyle.message (error : InvalidStyle) : String :=
  "The style '" ++ error.text ++ "' is not valid."

namespace Style

def all : List Style :=
  [.standard, .dropbox, .google, .kotlinlang]

def name : Style → String
  | .standard => "DEFAULT"
  | .dropbox => "DROPBOX"
  | .google => "GOOGLE"
  | .kotlinlang => "KOTLINLANG"

def accessors? : Style → Option (Format × Factory)
  | .standard => none
  | .dropbox => some (.dropbox, .dropbox)
  | .google => some (.google, .google)
  | .kotlinlang => some (.kotlinlang, .kotlinlang)

def ofFormat : Format → Style
  | .dropbox => .dropbox
  | .google => .google
  | .kotlinlang => .kotlinlang

/-- Whether two texts differ in the case of ASCII letters at most. -/
def sameLetters (left right : String) : Bool :=
  left.toList.map Char.toLower == right.toList.map Char.toLower

def parse (text : String) : Except InvalidStyle Style :=
  match all.find? fun style => sameLetters style.name (Text.trim text) with
  | some style => .ok style
  | none => .error ⟨text⟩

def toJson (style : Style) : Json :=
  .string style.name

def ofName? (text : String) : Option Style :=
  all.find? fun style => style.name == text

/-- The exact name of a style, alone or as the only member of an object, with the
value null. -/
def ofJson? : Json → Option Style
  | .string text => ofName? text
  | .object [(text, .null)] => ofName? text
  | _ => none

end Style

end CodeFormatting.Ktfmt
