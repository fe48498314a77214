import CodeFormatting.Json.Basic
namespace CodeFormatting.Ktfmt

/-! The options of a formatter call. The command line can only ask for one of four
presets, so every options value has a flag and the preset that this flag denotes. -/

inductive CodeStyle
  | facebook
  | dropbox
  | google
  deriving DecidableEq, Repr, Inhabited

structure Options where
  style : CodeStyle
  maxWidth : UInt32
  blockIndent : UInt32
  continuationIndent : UInt32
  removeUnusedImports : Bool
  deriving DecidableEq, Repr, Inhabited

def CodeStyle.name : CodeStyle → String
  | .facebook => "Facebook"
  | .dropbox => "Dropbox"
  | .google => "Google"

def CodeStyle.ofName? (text : String) : Option CodeStyle :=
  [CodeStyle.facebook, .dropbox, .google].find? fun style => style.name == text

def CodeStyle.ofJson? : Json → Option CodeStyle
  | .string text => ofName? text
  | .object [(text, .null)] => ofName? text
  | _ => none

namespace Options

def preset (style : CodeStyle) (indent : UInt32) : Options :=
  { style
    maxWidth := 100
    blockIndent := indent
    continuationIndent := indent
    removeUnusedImports := true }

def facebook : Options :=
  preset .facebook 2

def dropbox : Options :=
  preset .dropbox 4

def google : Options :=
  preset .google 2

def kotlinlang : Options :=
  preset .google 4

def flag? (options : Options) : Option String :=
  match options.style with
  | .facebook => none
  | .dropbox => some "--dropbox-style"
  | .google =>
    if options.blockIndent = 2 then some "--google-style" else some "--kotlinlang-style"

def flagPreset (options : Options) : Options :=
  match options.style with
  | .facebook => facebook
  | .dropbox => dropbox
  | .google => if options.blockIndent = 2 then google else kotlinlang

def isFlagPreset (options : Options) : Bool :=
  options = options.flagPreset

def description (options : Options) : String :=
  "FormattingOptions \x7b style: " ++ options.style.name ++
    ", max_width: " ++ toString options.maxWidth.toNat ++
    ", block_indent: " ++ toString options.blockIndent.toNat ++
    ", continuation_indent: " ++ toString options.continuationIndent.toNat ++
    ", remove_unused_imports: " ++ toString options.removeUnusedImports ++ " \x7d"

def wordToJson (word : UInt32) : Json :=
  .integer word.toNat

def wordOfJson? : Json → Option UInt32
  | .integer value =>
    if 0 ≤ value ∧ value < UInt32.size then some (UInt32.ofNat value.toNat) else none
  | _ => none

def toJson (options : Options) : Json :=
  .object [("style", .string options.style.name),
    ("max_width", wordToJson options.maxWidth),
    ("block_indent", wordToJson options.blockIndent),
    ("continuation_indent", wordToJson options.continuationIndent),
    ("remove_unused_imports", .boolean options.removeUnusedImports)]

def ofValues? (style maxWidth blockIndent continuationIndent removeUnusedImports : Json) :
    Option Options := do
  let style ← CodeStyle.ofJson? style
  let maxWidth ← wordOfJson? maxWidth
  let blockIndent ← wordOfJson? blockIndent
  let continuationIndent ← wordOfJson? continuationIndent
  let .boolean removeUnusedImports := removeUnusedImports | none
  return { style, maxWidth, blockIndent, continuationIndent, removeUnusedImports }

/-- An object, whose further members do not count, or an array of all the fields. -/
def ofJson? : Json → Option Options
  | .object members => do
    ofValues? (← Json.member? "style" members) (← Json.member? "max_width" members)
      (← Json.member? "block_indent" members) (← Json.member? "continuation_indent" members)
      (← Json.member? "remove_unused_imports" members)
  | .array [style, maxWidth, blockIndent, continuationIndent, removeUnusedImports] =>
    ofValues? style maxWidth blockIndent continuationIndent removeUnusedImports
  | _ => none

end Options

end CodeFormatting.Ktfmt
