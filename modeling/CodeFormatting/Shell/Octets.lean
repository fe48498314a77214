import CodeFormatting.Path
import CodeFormatting.Text.Utf8
namespace CodeFormatting.Shell

/-! A shell reads and writes octets and gives a few of them a meaning. A text of the shell is
a list of characters, one for each octet. -/

abbrev Octets := List Char

def ofBytes (bytes : ByteArray) : Octets :=
  bytes.toList.map fun octet => Char.ofNat octet.toNat

def toBytes (octets : Octets) : ByteArray :=
  ⟨(octets.map fun character => UInt8.ofNat character.toNat).toArray⟩

def octetsOf (text : String) : Octets :=
  ofBytes text.toUTF8

/-- The path whose octets are given. What is no text in it is replaced. -/
def pathOf (octets : Octets) : Path :=
  ⟨Text.lossy (toBytes octets)⟩

def isNameStart (character : Char) : Bool :=
  character.isAlpha || character = '_'

def isNameCharacter (character : Char) : Bool :=
  character.isAlphanum || character = '_'

/-- Whether a text can be the name of a variable. -/
def isName (text : Octets) : Bool :=
  text.head?.any isNameStart && text.all isNameCharacter

def isBlank (character : Char) : Bool :=
  character = ' ' || character = '\t'

def isSpace (character : Char) : Bool :=
  character = ' ' || (9 ≤ character.toNat && character.toNat ≤ 13)

/-- The name in front of an equals sign and the text after it. -/
def assignment? (text : Octets) : Option (Octets × Octets) :=
  let name := text.takeWhile isNameCharacter
  match text.drop name.length with
  | '=' :: value => if isName name then some (name, value) else none
  | _ => none

/-- The classes of characters that have a name in sets. -/
def namedClass? (name : String) : Option (Char → Bool) :=
  match name with
  | "alnum" => some Char.isAlphanum
  | "alpha" => some Char.isAlpha
  | "blank" => some isBlank
  | "digit" => some Char.isDigit
  | "lower" => some Char.isLower
  | "punct" => some fun character =>
    33 ≤ character.toNat && character.toNat < 127 && !character.isAlphanum
  | "space" => some isSpace
  | "upper" => some Char.isUpper
  | _ => none

/-- The class at the front of a text after a bracket, and what comes after it. -/
def readClass? (text : Octets) : Option ((Char → Bool) × Octets) :=
  match text with
  | ':' :: rest =>
    let name := rest.takeWhile Char.isAlpha
    match rest.drop name.length with
    | ':' :: ']' :: after => (namedClass? (String.ofList name)).map fun accepts => (accepts, after)
    | _ => none
  | _ => none

/-- The characters of a set up to the bracket that closes it, which the first one never does,
and what comes after the set. -/
def readSet? : Nat → Bool → Octets → Option ((Char → Bool) × Octets)
  | 0, _, _ => none
  | fuel + 1, isFirst, text =>
    match text with
    | [] => none
    | ']' :: rest => if isFirst then item fuel ']' rest else some (fun _ => false, rest)
    | '[' :: rest =>
      match readClass? rest with
      | some (accepts, after) => (readSet? fuel false after).map (joined accepts)
      | none => item fuel '[' rest
    | first :: rest => item fuel first rest
where
  joined (accepts : Char → Bool) (others : (Char → Bool) × Octets) : (Char → Bool) × Octets :=
    (fun character => accepts character || others.1 character, others.2)
  item (fuel : Nat) (first : Char) (rest : Octets) : Option ((Char → Bool) × Octets) :=
    match rest with
    | '-' :: last :: after =>
      if last = ']' then (readSet? fuel false rest).map (joined (· = first))
      else (readSet? fuel false after).map
        (joined fun character => first ≤ character && character ≤ last)
    | rest => (readSet? fuel false rest).map (joined (· = first))

/-- A set behind its bracket, which a sign may turn into its complement. -/
def readBracket? (sign : Char) (text : Octets) : Option ((Char → Bool) × Octets) :=
  match text with
  | [] => none
  | first :: rest =>
    if first = sign then
      (readSet? (rest.length + 1) true rest).map fun (accepts, after) =>
        (fun character => !accepts character, after)
    else readSet? (text.length + 1) true text

end CodeFormatting.Shell
