namespace CodeFormatting.Text

/-! Octets that are not UTF-8 fall into characters and flaws. A flaw is the longest
run of octets that could have started a character, at least one octet; it is
incomplete when the octets end before the character does. -/

inductive Utf8Unit
  | character (width : Nat)
  | flaw (width : Nat) (incomplete : Bool)
  deriving DecidableEq, Repr

def isContinuation (octet : UInt8) : Bool :=
  0x80 ≤ octet && octet < 0xC0

/-- How many octets follow a leading one, and the range of the first of them. -/
def utf8Lead? (octet : UInt8) : Option (Nat × UInt8 × UInt8) :=
  if octet < 0x80 then some (0, 0, 0)
  else if octet < 0xC2 then none
  else if octet < 0xE0 then some (1, 0x80, 0xBF)
  else if octet = 0xE0 then some (2, 0xA0, 0xBF)
  else if octet = 0xED then some (2, 0x80, 0x9F)
  else if octet < 0xF0 then some (2, 0x80, 0xBF)
  else if octet = 0xF0 then some (3, 0x90, 0xBF)
  else if octet < 0xF4 then some (3, 0x80, 0xBF)
  else if octet = 0xF4 then some (3, 0x80, 0x8F)
  else none

def utf8Unit (octet : UInt8) (rest : List UInt8) : Utf8Unit :=
  match utf8Lead? octet with
  | none => .flaw 1 false
  | some (0, _, _) => .character 1
  | some (more + 1, low, high) =>
    match rest with
    | [] => .flaw 1 true
    | second :: rest =>
      if second < low || high < second then .flaw 1 false
      else
        let following := (rest.take more).takeWhile isContinuation
        if following.length = more then .character (more + 2)
        else .flaw (following.length + 2) (rest.length = following.length)

/-- The first flaw and the index where it begins. -/
def firstFlaw? (index : Nat) : Nat → List UInt8 → Option (Nat × Nat × Bool)
  | 0, _ => none
  | _ + 1, [] => none
  | fuel + 1, octet :: rest =>
    match utf8Unit octet rest with
    | .character width => firstFlaw? (index + width) fuel (rest.drop (width - 1))
    | .flaw width incomplete => some (index, width, incomplete)

/-- Where and how octets fail to be a text. -/
def flawText (octets : ByteArray) : String :=
  match firstFlaw? 0 octets.size octets.toList with
  | some (index, _, true) => "incomplete utf-8 byte sequence from index " ++ toString index
  | some (index, width, false) =>
    "invalid utf-8 sequence of " ++ toString width ++ " bytes from index " ++ toString index
  | none => ""

def octetsOf (octets : List UInt8) : ByteArray :=
  ⟨octets.toArray⟩

/-- A replacement character stands for every flaw. -/
def lossyCharacters : Nat → List UInt8 → List Char
  | 0, _ => []
  | _ + 1, [] => []
  | fuel + 1, octet :: rest =>
    match utf8Unit octet rest with
    | .character width =>
      ((String.fromUTF8? (octetsOf (octet :: rest.take (width - 1)))).getD "").toList ++
        lossyCharacters fuel (rest.drop (width - 1))
    | .flaw width _ => '\ufffd' :: lossyCharacters fuel (rest.drop (width - 1))

def lossy (octets : ByteArray) : String :=
  match String.fromUTF8? octets with
  | some text => text
  | none => String.ofList (lossyCharacters octets.size octets.toList)

end CodeFormatting.Text
