import CodeFormatting.Decimal.Binary64
namespace CodeFormatting

/-! A JSON value. A number without a fraction and an exponent that fits in 64 bits
stays a whole number; every other one is the nearest binary64 number. The members
of an object keep the order in which they were written. -/

inductive Json
  | null
  | boolean (value : Bool)
  | integer (value : Int)
  | fraction (value : Decimal.Binary64)
  | string (text : String)
  | array (items : List Json)
  | object (members : List (String × Json))
  deriving Inhabited

namespace Json

/-- The value of the last member with a name. -/
def member? (name : String) : List (String × Json) → Option Json
  | [] => none
  | (key, value) :: rest => (member? name rest).or (if key = name then some value else none)

def get? (name : String) : Json → Option Json
  | .object members => member? name members
  | _ => none

/-- Adds a member in front of those with a greater name, unless there is one
with that name already. -/
def insertMember (name : String) (value : Json) :
    List (String × Json) → List (String × Json)
  | [] => [(name, value)]
  | (key, present) :: rest =>
    if name < key then (name, value) :: (key, present) :: rest
    else if name = key then (key, present) :: rest
    else (key, present) :: insertMember name value rest

mutual

/-- The same value with the members of every object in the order of their names,
each name once with the last value it was given. -/
def sorted : Json → Json
  | .array items => .array (sortedItems items)
  | .object members => .object (sortedMembers members)
  | value => value

def sortedItems : List Json → List Json
  | [] => []
  | item :: rest => sorted item :: sortedItems rest

def sortedMembers : List (String × Json) → List (String × Json)
  | [] => []
  | (name, value) :: rest => insertMember name (sorted value) (sortedMembers rest)

end

end Json

end CodeFormatting
