import CodeFormatting.Decimal.Binary64
namespace CodeFormatting

/-! A TOML value. What a date or a time says is not kept, and neither is a number whose value
cannot be represented. -/

inductive Toml
  | string (text : String)
  | integer (value : Int)
  | fraction (value : Decimal.Binary64)
  | boolean (value : Bool)
  | unrepresentable
  | moment
  | array (items : List Toml)
  | table (entries : List (String × Toml))
  deriving Inhabited

namespace Toml

mutual

def isRepresented : Toml → Bool
  | .unrepresentable => false
  | .array items => areRepresented items
  | .table entries => entriesAreRepresented entries
  | .string _ => true
  | .integer _ => true
  | .fraction _ => true
  | .boolean _ => true
  | .moment => true

def areRepresented : List Toml → Bool
  | [] => true
  | item :: rest => isRepresented item && areRepresented rest

def entriesAreRepresented : List (String × Toml) → Bool
  | [] => true
  | (_, value) :: rest => isRepresented value && entriesAreRepresented rest

end

end Toml

end CodeFormatting
