namespace CodeFormatting.Regex

/-! The expressions that a pattern is written in. Each part knows where in the pattern it
stands. Flags change how the parts after them are meant, up to the end of their group. -/

structure Position where
  offset : Nat
  line : Nat
  column : Nat
  deriving DecidableEq, Repr, Inhabited

def Position.after (position : Position) (character : Char) : Position :=
  if character = '\n' then ⟨position.offset + 1, position.line + 1, 1⟩
  else ⟨position.offset + 1, position.line, position.column + 1⟩

structure Span where
  start : Position
  stop : Position
  deriving DecidableEq, Repr, Inhabited

inductive Flag
  | caseInsensitive
  | multiLine
  | dotMatchesLineEnd
  | swapGreed
  | unicode
  | carriageReturns
  | ignoreBlanks
  deriving DecidableEq, Repr

/-- A flag, or the dash behind which flags are taken back. -/
structure FlagItem where
  span : Span
  flag : Option Flag
  deriving DecidableEq, Repr

inductive AssertionKind
  | lineStart
  | lineEnd
  | textStart
  | textEnd
  | wordBoundary
  | noWordBoundary
  | wordStart
  | wordEnd
  | halfWordStart
  | halfWordEnd
  deriving DecidableEq, Repr

/-- A character as it is written. With two hexadecimal digits it can be meant as an octet. -/
structure Literal where
  span : Span
  character : Char
  isOctet : Bool
  deriving DecidableEq, Repr

inductive ClassName
  | digit
  | space
  | word
  deriving DecidableEq, Repr

structure NamedClass where
  span : Span
  name : ClassName
  negated : Bool
  deriving DecidableEq, Repr

/-- A class by a property of characters. Some names are those of values of a property. -/
structure PropertyClass where
  span : Span
  namesValue : Bool
  deriving DecidableEq, Repr

structure AsciiClass where
  span : Span
  ranges : List (Nat × Nat)
  negated : Bool
  deriving DecidableEq, Repr

inductive SetOperator
  | intersection
  | difference
  | symmetricDifference
  deriving DecidableEq, Repr

inductive SetItem
  | empty (span : Span)
  | literal (written : Literal)
  | range (span : Span) (first last : Literal)
  | ascii (known : AsciiClass)
  | named (known : NamedClass)
  | property (asked : PropertyClass)
  | bracketed (span : Span) (negated : Bool) (item : SetItem)
  | union (span : Span) (items : List SetItem)
  | operation (span : Span) (operator : SetOperator) (left right : SetItem)
  deriving Inhabited

def SetItem.span : SetItem → Span
  | .empty span => span
  | .literal written => written.span
  | .range span _ _ => span
  | .ascii known => known.span
  | .named known => known.span
  | .property asked => asked.span
  | .bracketed span _ _ => span
  | .union span _ => span
  | .operation span _ _ _ => span

inductive Expression
  | empty (span : Span)
  | flags (span : Span) (items : List FlagItem)
  | literal (written : Literal)
  | dot (span : Span)
  | assertion (span : Span) (kind : AssertionKind)
  | named (known : NamedClass)
  | property (asked : PropertyClass)
  | bracketed (span : Span) (negated : Bool) (item : SetItem)
  | repetition (span : Span) (least : Nat) (most : Option Nat) (repeated : Expression)
  | group (span : Span) (captures : Bool) (items : List FlagItem) (inner : Expression)
  | alternation (span : Span) (branches : List Expression)
  | sequence (span : Span) (parts : List Expression)
  deriving Inhabited

def Expression.span : Expression → Span
  | .empty span => span
  | .flags span _ => span
  | .literal written => written.span
  | .dot span => span
  | .assertion span _ => span
  | .named known => known.span
  | .property asked => asked.span
  | .bracketed span _ _ => span
  | .repetition span _ _ _ => span
  | .group span _ _ _ => span
  | .alternation span _ => span
  | .sequence span _ => span

/-- Whether flags set a flag, take it back, or leave it alone. -/
def flagState (flag : Flag) : List FlagItem → Option Bool :=
  state false
where
  state (negated : Bool) : List FlagItem → Option Bool
    | [] => none
    | ⟨_, none⟩ :: rest => state true rest
    | ⟨_, some present⟩ :: rest =>
      if present = flag then some !negated else state negated rest

end CodeFormatting.Regex
