namespace CodeFormatting.Regex

/-! A set of character codes is written as ranges in rising order with gaps between them. -/

structure CodeSet where
  ranges : List (Nat × Nat)
  deriving DecidableEq, Repr

namespace CodeSet

def empty : CodeSet :=
  ⟨[]⟩

/-- Joins sorted ranges that meet. -/
def joined : List (Nat × Nat) → List (Nat × Nat)
  | [] => []
  | range :: rest => join range rest
where
  join (range : Nat × Nat) : List (Nat × Nat) → List (Nat × Nat)
    | [] => [range]
    | next :: rest =>
      if next.1 ≤ range.2 + 1 then join (range.1, max range.2 next.2) rest
      else range :: join next rest

def ofRanges (ranges : List (Nat × Nat)) : CodeSet :=
  ⟨joined (ranges.mergeSort fun left right => left.1 ≤ right.1)⟩

def union (left right : CodeSet) : CodeSet :=
  ofRanges (left.ranges ++ right.ranges)

/-- The codes up to a last one that are not in a set. -/
def complement (last : Nat) (codes : CodeSet) : CodeSet :=
  ⟨gaps 0 codes.ranges⟩
where
  gaps (start : Nat) : List (Nat × Nat) → List (Nat × Nat)
    | [] => if start ≤ last then [(start, last)] else []
    | range :: rest =>
      if start < range.1 then (start, range.1 - 1) :: gaps (range.2 + 1) rest
      else gaps (range.2 + 1) rest

def intersection (last : Nat) (left right : CodeSet) : CodeSet :=
  complement last (union (complement last left) (complement last right))

def difference (last : Nat) (left right : CodeSet) : CodeSet :=
  intersection last left (complement last right)

def symmetricDifference (last : Nat) (left right : CodeSet) : CodeSet :=
  union (difference last left right) (difference last right left)

def isEmpty (codes : CodeSet) : Bool :=
  codes.ranges.isEmpty

def isAscii (codes : CodeSet) : Bool :=
  codes.ranges.all fun range => range.2 < 0x80

def contains (codes : CodeSet) (code : Nat) : Bool :=
  codes.ranges.any fun range => range.1 ≤ code && code ≤ range.2

def withBothCases (codes : CodeSet) : CodeSet :=
  let letters := (List.range 26).filter fun letter =>
    codes.contains (65 + letter) || codes.contains (97 + letter)
  codes.union (ofRanges (letters.flatMap fun letter =>
    [(65 + letter, 65 + letter), (97 + letter, 97 + letter)]))

end CodeSet

end CodeFormatting.Regex
