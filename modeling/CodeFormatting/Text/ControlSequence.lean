import CodeFormatting.Text.Utf8
namespace CodeFormatting.Text

/-! A terminal reads a text octet by octet. An escape begins a control sequence, a command or a
string, each of which ends in its own way. What is left of a text is what is outside of all of
them, without the controls that are no blanks. -/

inductive TerminalState
  | ground
  | character (more : Nat)
  | escape
  | escapeIntermediate
  | sequenceEntry
  | sequenceParameter
  | sequenceIntermediate
  | sequenceIgnored
  | deviceEntry
  | deviceParameter
  | deviceIntermediate
  | deviceIgnored
  | deviceData
  | systemCommand
  | privateMessage
  deriving DecidableEq, Repr

def isBetween (low high octet : UInt8) : Bool :=
  low ≤ octet && octet ≤ high

/-- A control that is a blank. -/
def isBlankControl (octet : UInt8) : Bool :=
  octet = 0x09 || octet = 0x0A || octet = 0x0C || octet = 0x0D

namespace TerminalState

/-- The state that an octet leads to which means the same in every state. -/
def anywhere? (octet : UInt8) : Option TerminalState :=
  if octet = 0x18 || octet = 0x1A then some .ground
  else if octet = 0x1B then some .escape
  else none

def afterEscape (octet : UInt8) : TerminalState :=
  if isBetween 0x20 0x2F octet then .escapeIntermediate
  else if octet = 0x5B then .sequenceEntry
  else if octet = 0x5D then .systemCommand
  else if octet = 0x50 then .deviceEntry
  else if octet = 0x58 || octet = 0x5E || octet = 0x5F then .privateMessage
  else if isBetween 0x30 0x7E octet then .ground
  else .escape

/-- The state within a sequence or a device string, given the states that follow parameters,
intermediate octets and a last octet. -/
def within (parameter mark intermediate last same : TerminalState) (octet : UInt8) :
    TerminalState :=
  if isBetween 0x20 0x2F octet then intermediate
  else if isBetween 0x30 0x3B octet then parameter
  else if isBetween 0x3C 0x3F octet then mark
  else if isBetween 0x40 0x7E octet then last
  else same

/-- The state after an octet that is not shown. -/
def next (state : TerminalState) (octet : UInt8) : TerminalState :=
  match anywhere? octet with
  | some state => state
  | none =>
    match state with
    | .ground => .ground
    | .character _ => .ground
    | .escape => afterEscape octet
    | .escapeIntermediate =>
      if isBetween 0x30 0x7E octet then .ground else .escapeIntermediate
    | .sequenceEntry =>
      within .sequenceParameter .sequenceParameter .sequenceIntermediate .ground .sequenceEntry
        octet
    | .sequenceParameter =>
      within .sequenceParameter .sequenceIgnored .sequenceIntermediate .ground
        .sequenceParameter octet
    | .sequenceIntermediate =>
      within .sequenceIgnored .sequenceIgnored .sequenceIntermediate .ground
        .sequenceIntermediate octet
    | .sequenceIgnored => if isBetween 0x40 0x7E octet then .ground else .sequenceIgnored
    | .deviceEntry =>
      within .deviceParameter .deviceParameter .deviceIntermediate .deviceData .deviceEntry octet
    | .deviceParameter =>
      within .deviceParameter .deviceIgnored .deviceIntermediate .deviceData .deviceParameter
        octet
    | .deviceIntermediate =>
      within .deviceIgnored .deviceIgnored .deviceIntermediate .deviceData .deviceIntermediate
        octet
    | .deviceIgnored => if octet = 0x9C then .ground else .deviceIgnored
    | .deviceData => if octet = 0x9C then .ground else .deviceData
    | .systemCommand => if octet = 0x07 then .ground else .systemCommand
    | .privateMessage => if octet = 0x9C then .ground else .privateMessage

/-- Whether an octet is shown. Blanks count in a sequence as well, but not in a string. -/
def shows (state : TerminalState) (octet : UInt8) : Bool :=
  match state with
  | .ground => isBetween 0x20 0x7E octet || isBetween 0xC2 0xF4 octet || isBlankControl octet
  | .character _ => true
  | .escape => isBlankControl octet
  | .escapeIntermediate => isBlankControl octet
  | .sequenceEntry => isBlankControl octet
  | .sequenceParameter => isBlankControl octet
  | .sequenceIntermediate => isBlankControl octet
  | .sequenceIgnored => isBlankControl octet
  | _ => false

/-- The state after an octet that is shown: what it interrupts is over. -/
def afterShown (state : TerminalState) (octet : UInt8) : TerminalState :=
  match state with
  | .character (more + 2) => .character (more + 1)
  | .character _ => .ground
  | _ =>
    match utf8Lead? octet with
    | some (more + 1, _, _) => .character (more + 1)
    | _ => .ground

end TerminalState

def shownOctets : TerminalState → List UInt8 → List UInt8
  | _, [] => []
  | state, octet :: rest =>
    if state.shows octet then octet :: shownOctets (state.afterShown octet) rest
    else shownOctets (state.next octet) rest

/-- What is left of a text without its control sequences. -/
def withoutControls (text : String) : String :=
  lossy (octetsOf (shownOctets .ground text.toUTF8.toList))

end CodeFormatting.Text
