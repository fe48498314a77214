import CodeFormatting.Toml.Basic
namespace CodeFormatting.Toml

/-! A document grows entry by entry. A table is implicit until it has a header of its own,
and dotted if it came about by a key with dots. Neither may be defined twice, nor in both
ways, and what is written as a value cannot be extended. -/

inductive Node
  | value (value : Toml)
  | table (implicit dotted : Bool) (entries : List (String × Node))
  | tables (latest : Node) (earlier : List Node)
  deriving Inhabited

namespace Node

def root : Node :=
  .table false false []

def find? (key : String) (entries : List (String × Node)) : Option Node :=
  entries.lookup key

def replace (key : String) (node : Node) (entries : List (String × Node)) :
    List (String × Node) :=
  entries.map fun (name, present) => if name = key then (name, node) else (name, present)

/-- Changes the table at a path. Missing tables on the way are made, and of several tables
at one place the latest is meant. -/
def modify? (dotted : Bool) (action : Node → Option Node) : List String → Node → Option Node
  | [], node => action node
  | key :: path, .table implicit own entries =>
    match find? key entries with
    | none => do
      let child ← modify? dotted action path (.table true dotted [])
      return .table implicit own (entries ++ [(key, child)])
    | some (.value _) => none
    | some (.tables latest earlier) => do
      let latest ← modify? dotted action path latest
      return .table implicit own (replace key (.tables latest earlier) entries)
    | some (.table childImplicit childDotted childEntries) => do
      if dotted && !childImplicit then none
      let child ← modify? dotted action path (.table childImplicit childDotted childEntries)
      return .table implicit own (replace key child entries)
  | _ :: _, _ => none

/-- Adds a value to a table that came about in the way in which the key is written. -/
def addValue? (simple : Bool) (key : String) (value : Toml) : Node → Option Node
  | .table implicit dotted entries =>
    if dotted == simple then none
    else
      match find? key entries with
      | some _ => none
      | none => some (.table implicit dotted (entries ++ [(key, .value value)]))
  | _ => none

/-- Sets the value of a key with the dots in front of its last part. -/
def set? (path : List String) (key : String) (value : Toml) (node : Node) : Option Node :=
  modify? true (addValue? path.isEmpty key value) path node

def openTable? (key : String) : Node → Option Node
  | .table implicit dotted entries =>
    match find? key entries with
    | none => some (.table implicit dotted (entries ++ [(key, .table false false [])]))
    | some (.table true false children) =>
      some (.table implicit dotted (replace key (.table false false children) entries))
    | some _ => none
  | _ => none

/-- Begins the next table of several at one place. -/
def openItem? (key : String) : Node → Option Node
  | .table implicit dotted entries =>
    match find? key entries with
    | none => some (.table implicit dotted (entries ++ [(key, .tables root [])]))
    | some (.tables latest earlier) =>
      some (.table implicit dotted (replace key (.tables root (latest :: earlier)) entries))
    | some _ => none
  | _ => none

mutual

def toToml : Node → Toml
  | .value held => held
  | .table _ _ entries => .table (entriesToToml entries)
  | .tables latest earlier => .array ((toToml latest :: nodesToToml earlier).reverse)

def entriesToToml : List (String × Node) → List (String × Toml)
  | [] => []
  | (key, node) :: rest => (key, toToml node) :: entriesToToml rest

def nodesToToml : List Node → List Toml
  | [] => []
  | node :: rest => toToml node :: nodesToToml rest

end

end Node

end CodeFormatting.Toml
