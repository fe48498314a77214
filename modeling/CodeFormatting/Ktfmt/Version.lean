import CodeFormatting.Decimal.Numeral
import CodeFormatting.Ktfmt.Style
import CodeFormatting.Text.Pieces
namespace CodeFormatting.Ktfmt

/-! A release is numbered by two or three numerals, of which a missing third one is
zero; a qualifier after a dash or a plus does not count. The release decides which
constants exist and which class is started. -/

structure Version where
  major : UInt32
  minor : UInt32
  patch : UInt32
  deriving DecidableEq, Repr, Inhabited

namespace Version

/-- The first release with constants. -/
def formatConstants : Version :=
  ⟨0, 19, 0⟩

/-- The first release with a constant for the style of the language's own guide. -/
def kotlinlang : Version :=
  ⟨0, 21, 0⟩

/-- The first release with a package for the command line. -/
def commandLinePackage : Version :=
  ⟨0, 31, 0⟩

def text (version : Version) : String :=
  toString version.major.toNat ++ "." ++ toString version.minor.toNat ++ "." ++
    toString version.patch.toNat

def compare (left right : Version) : Ordering :=
  ((Ord.compare left.major right.major).then (Ord.compare left.minor right.minor)).then
    (Ord.compare left.patch right.patch)

def atLeast (version first : Version) : Bool :=
  (compare version first).isGE

/-- The text before a qualifier. -/
def release (text : String) : String :=
  Text.before (fun character => character = '-' || character = '+') (Text.trim text)

def parse? (text : String) : Option Version :=
  match (Text.pieces '.' (release text)).map (fun piece => Decimal.word? piece.toList) with
  | [some major, some minor] => some ⟨major, minor, 0⟩
  | [some major, some minor, some patch] => some ⟨major, minor, patch⟩
  | _ => none

def hasFormatConstant (version : Version) : Format → Bool
  | .dropbox => version.atLeast formatConstants
  | .google => version.atLeast formatConstants
  | .kotlinlang => version.atLeast kotlinlang

def mainClass (version : Version) : String :=
  if version.atLeast commandLinePackage then "com.facebook.ktfmt.cli.Main"
  else "com.facebook.ktfmt.MainKt"

end Version

end CodeFormatting.Ktfmt
