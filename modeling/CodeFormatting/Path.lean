import CodeFormatting.Text.Pieces
namespace CodeFormatting

/-! A path is a text and is never normalised: joining only ever adds to it. What
the text names is read off its pieces between slashes, of which empty ones and
single dots count for nothing, except that a dot at the very front is kept. -/

structure Path where
  text : String
  deriving DecidableEq, Repr, Inhabited

namespace Path

inductive Component
  | root
  | current
  | parent
  | normal (name : String)
  deriving DecidableEq, Repr

def isAbsolute (path : Path) : Bool :=
  path.text.toList.head? == some '/'

/-- An absolute path replaces the base; any other path is put after it, with one
slash between them unless the base is empty or ends in a slash. -/
def join (base path : Path) : Path :=
  if path.isAbsolute then path
  else if base.text.isEmpty || base.text.toList.getLast? == some '/' then
    ⟨base.text ++ path.text⟩
  else ⟨base.text ++ "/" ++ path.text⟩

def joinAll (base : Path) (pieces : List String) : Path :=
  pieces.foldl (fun path piece => path.join ⟨piece⟩) base

def component? (piece : String) : Option Component :=
  if piece = "" ∨ piece = "." then none
  else if piece = ".." then some .parent
  else some (.normal piece)

/-- The part of a path that its first component takes up when that is the root or
a single dot, and the part after it. -/
def split (path : Path) : Option Component × String × String :=
  match path.text.toList with
  | '/' :: rest => (some .root, "/", String.ofList rest)
  | ['.'] => (some .current, ".", "")
  | '.' :: '/' :: rest => (some .current, ".", String.ofList ('/' :: rest))
  | _ => (none, "", path.text)

def components (path : Path) : List Component :=
  let (first, _, rest) := path.split
  first.toList ++ (Text.pieces '/' rest).filterMap component?

/-- The path without its last component, and without the slashes and single dots
around it. The root and the empty path have no parent. -/
def parent (path : Path) : Option Path :=
  let (first, start, rest) := path.split
  let counts (piece : String) : Bool := (component? piece).isSome
  match (Text.pieces '/' rest).reverse.dropWhile (!counts ·) with
  | _ :: before =>
    some ⟨start ++ "/".intercalate (before.dropWhile (!counts ·)).reverse⟩
  | [] => if first = some .current then some ⟨""⟩ else none

namespace Component

def rank : Component → Nat
  | .root => 0
  | .current => 1
  | .parent => 2
  | .normal _ => 3

def compare : Component → Component → Ordering
  | .normal left, .normal right => Ord.compare left right
  | left, right => Ord.compare left.rank right.rank

end Component

def compareComponents : List Component → List Component → Ordering
  | [], [] => .eq
  | [], _ :: _ => .lt
  | _ :: _, [] => .gt
  | left :: lefts, right :: rights =>
    (left.compare right).then (compareComponents lefts rights)

/-- Paths are ordered by their components, so that two texts of one path are
equal in this order. -/
def compare (left right : Path) : Ordering :=
  compareComponents left.components right.components

@[simp] theorem join_of_isAbsolute (base : Path) {path : Path} (absolute : path.isAbsolute) :
    base.join path = path := by
  simp [join, absolute]

end Path

end CodeFormatting
