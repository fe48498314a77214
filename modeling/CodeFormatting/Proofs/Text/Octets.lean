import Mathlib.Data.List.Lex
import Mathlib.Data.String.Basic
namespace CodeFormatting.Text

/-! The order of texts is that of their octets. -/

def octets (text : String) : List UInt8 :=
  text.toUTF8.data.toList

theorem octets_eq_flatMap (text : String) :
    octets text = text.toList.flatMap String.utf8EncodeChar := by
  simp [octets, ← String.utf8Encode_toList, List.utf8Encode]

/-- Two lists part, and the first has the lesser octet there. -/
inductive PartsBelow : List UInt8 → List UInt8 → Prop
  | here {low high : UInt8} (hlow : low < high) (rest other : List UInt8) :
      PartsBelow (low :: rest) (high :: other)
  | there (octet : UInt8) {rest other : List UInt8} (hparts : PartsBelow rest other) :
      PartsBelow (octet :: rest) (octet :: other)

theorem partsBelow_cons_iff {left right : UInt8} {rest other : List UInt8} :
    PartsBelow (left :: rest) (right :: other) ↔
      left.toNat < right.toNat ∨ left.toNat = right.toNat ∧ PartsBelow rest other := by
  constructor
  · intro hparts
    cases hparts with
    | here hlow => exact .inl (UInt8.lt_iff_toNat_lt.mp hlow)
    | there octet hparts => exact .inr ⟨rfl, hparts⟩
  · rintro (hlow | ⟨hsame, hparts⟩)
    · exact .here (UInt8.lt_iff_toNat_lt.mpr hlow) rest other
    · obtain rfl := UInt8.toNat_inj.mp hsame
      exact .there left hparts

theorem PartsBelow.append_lt_append {left right : List UInt8} (hparts : PartsBelow left right)
    (rest other : List UInt8) : left ++ rest < right ++ other := by
  induction hparts with
  | here hlow => exact .rel hlow
  | there octet hparts induction => exact .cons induction

theorem partsBelow_utf8EncodeChar {left right : Char} (hlt : left < right) :
    PartsBelow (String.utf8EncodeChar left) (String.utf8EncodeChar right) := by
  have hcode : left.val.toNat < right.val.toNat := hlt
  have hbound : right.val.toNat < 0x110000 := by
    have := right.valid
    simp only [UInt32.isValidChar, Nat.isValidChar] at this
    omega
  have hdigits (code : Nat) : code / 64 / 64 = code / 4096 ∧ code / 4096 / 64 = code / 262144 := by
    simp only [Nat.div_div_eq_div_mul, and_self]
  have hleft := hdigits left.val.toNat
  have hright := hdigits right.val.toNat
  unfold String.utf8EncodeChar
  simp only []
  generalize left.val.toNat = lower at *
  generalize right.val.toNat = upper at *
  split_ifs <;>
    simp (disch := omega) only [partsBelow_cons_iff, UInt8.toNat_ofNat', Nat.mod_eq_of_lt] <;> omega

theorem flatMap_lt_flatMap {left right : List Char} (hlt : left < right) :
    left.flatMap String.utf8EncodeChar < right.flatMap String.utf8EncodeChar := by
  induction hlt with
  | @nil character rest =>
      rw [List.flatMap_nil, List.flatMap_cons]
      have hsome : String.utf8EncodeChar character ≠ [] := by
        rw [← List.length_pos_iff, String.length_utf8EncodeChar]
        exact character.utf8Size_pos
      obtain ⟨octet, more, hoctets⟩ := List.exists_cons_of_ne_nil hsome
      rw [hoctets]
      exact .nil
  | rel hlow =>
      simp only [List.flatMap_cons]
      exact (partsBelow_utf8EncodeChar hlow).append_lt_append _ _
  | cons hrest induction =>
      simp only [List.flatMap_cons]
      exact List.append_left_lt induction

theorem octets_lt_octets {left right : String} (hlt : left < right) :
    octets left < octets right := by
  rw [octets_eq_flatMap, octets_eq_flatMap]
  exact flatMap_lt_flatMap (String.lt_iff_toList_lt.mp hlt)

end CodeFormatting.Text
