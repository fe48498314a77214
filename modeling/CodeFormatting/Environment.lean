import CodeFormatting.Text.Blank
import CodeFormatting.Text.Pieces
namespace CodeFormatting

/-! An environment gives names values. It lists its variables in the order of their
names, each name once, and a blank value counts as none where a setting is looked up. -/

structure Environment where
  bindings : List (String × String)
  deriving DecidableEq, Repr, Inhabited

structure MissingVariable where
  name : String
  deriving DecidableEq, Repr

def MissingVariable.message (error : MissingVariable) : String :=
  "Environment variable '" ++ error.name ++ "' not found"

namespace Environment

def empty : Environment :=
  ⟨[]⟩

def inserted (name value : String) : List (String × String) → List (String × String)
  | [] => [(name, value)]
  | (key, present) :: rest =>
    if name < key then (name, value) :: (key, present) :: rest
    else if name = key then (name, value) :: rest
    else (key, present) :: inserted name value rest

def set (environment : Environment) (name value : String) : Environment :=
  ⟨inserted name value environment.bindings⟩

def remove (environment : Environment) (name : String) : Environment :=
  ⟨environment.bindings.filter fun (key, _) => key != name⟩

/-- A later value of a name replaces an earlier one. -/
def ofList (pairs : List (String × String)) : Environment :=
  pairs.foldl (fun environment (name, value) => environment.set name value) empty

def get (environment : Environment) (name : String) : Except MissingVariable String :=
  match environment.bindings.lookup name with
  | some value => .ok value
  | none => .error ⟨name⟩

def get? (environment : Environment) (name : String) : Option String :=
  (environment.get name).toOption

def getOr (environment : Environment) (name fallback : String) : String :=
  (environment.get? name).getD fallback

/-- The value of a name where variables are looked up in entries that are written with an
equals sign. A name with such a sign in it can be the front of an entry. -/
def entryValue? (environment : Environment) (name : String) : Option String :=
  if name.isEmpty then none
  else
    environment.bindings.findSome? fun (key, value) =>
      Text.after? (name ++ "=") (key ++ "=" ++ value)

/-- The environment in which a name has the value that its entries give it. -/
def ofEntries (environment : Environment) (name : String) : Environment :=
  match environment.entryValue? name with
  | some value => environment.set name value
  | none => environment.remove name

/-- The value of a name unless it is blank. -/
def getVisible? (environment : Environment) (name : String) : Option String :=
  (environment.get? name).filter fun value => !Text.isBlankText value

def contains (environment : Environment) (name : String) : Bool :=
  (environment.get? name).isSome

end Environment

end CodeFormatting
