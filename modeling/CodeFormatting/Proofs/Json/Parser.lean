import Mathlib.Data.List.TakeWhile
import CodeFormatting.Proofs.Json.Printer
namespace CodeFormatting.Json

/-! A value is read back from its compact text, and the reader stops where the text ends. A
number is the one value that does not show where it ends, so no character of a number may follow
it: inside a compact text what follows is a comma or a closing bracket. -/

variable {value item : Json} {items : List Json} {members : List (String × Json)}
  {rest : List Char} {depth : Nat}

/-! Whole numbers. -/

theorem head?_numeral_ne_zero {number : Nat} (hpositive : 0 < number) :
    (Decimal.numeral number).head? ≠ some '0' := by
  induction number using Nat.strongRecOn with
  | ind number induction =>
      rw [Decimal.numeral, Nat.toDigits_eq_if (by decide)]
      split
      · next hdigit =>
          have hdigits : ∀ digit < 10, 0 < digit → Nat.digitChar digit ≠ '0' := by decide
          simpa using hdigits number hdigit hpositive
      · have hfront := induction (number / 10) (by omega) (by omega)
        rwa [List.head?_append, Option.or_of_isSome]
        simp [Nat.toDigits_ne_nil]

/-- A numeral is whole and has no zero in front, so only its magnitude counts. -/
theorem unsigned?_numeral (negative : Bool) (number : Nat) :
    unsigned? negative (Decimal.numeral number) =
      if negative then
        if number = 0 then some (.fraction (.zero true))
        else if number ≤ Nat.pow 2 63 then some (.integer (-(number : Int)))
        else some (.fraction (.ofDecimal true number 0))
      else if number < Nat.pow 2 64 then some (.integer number)
      else some (.fraction (.ofDecimal false number 0)) := by
  have hwhole : (Decimal.numeral number).takeWhile Char.isDigit = Decimal.numeral number :=
    List.takeWhile_eq_self_iff.mpr fun _ => Decimal.isDigit_of_mem_numeral
  have hrest : (Decimal.numeral number).dropWhile Char.isDigit = [] :=
    List.dropWhile_eq_nil_iff.mpr fun _ => Decimal.isDigit_of_mem_numeral
  have hplain : ((Decimal.numeral number).isEmpty || ((Decimal.numeral number).length ≠ 1 &&
      (Decimal.numeral number).head? == some '0')) = false := by
    rcases Nat.eq_zero_or_pos number with rfl | hpositive
    · rfl
    · have hfront := head?_numeral_ne_zero hpositive
      have hvisible : Decimal.numeral number ≠ [] := Nat.toDigits_ne_nil
      simp [hvisible, hfront]
  simp only [unsigned?, hwhole, hrest, hplain, Decimal.value_numeral]
  rfl

/-- The whole numbers that are no binary fractions when they are read: those of 64 bits, with a
sign or without. -/
def FitsWord (value : Int) : Prop :=
  -9223372036854775808 ≤ value ∧ value < 18446744073709551616

theorem isNumberCharacter_of_mem_printedInteger {value : Int} {character : Char}
    (hmem : character ∈ printedInteger value) : isNumberCharacter character = true := by
  have hdigit {number : Nat} (hmem : character ∈ Decimal.numeral number) :
      isNumberCharacter character = true := by
    simp [isNumberCharacter, Decimal.isDigit_of_mem_numeral hmem]
  cases value with
  | ofNat number => exact hdigit hmem
  | negSucc number =>
      rw [printedInteger, List.mem_cons] at hmem
      rcases hmem with rfl | hmem
      · rfl
      · exact hdigit hmem

theorem number?_printedInteger {value : Int} (hfits : FitsWord value) :
    number? (printedInteger value) = some (.integer value) := by
  obtain ⟨hleast, hgreatest⟩ := hfits
  cases value with
  | ofNat number =>
      have hunsigned : number? (Decimal.numeral number) =
          unsigned? false (Decimal.numeral number) := by
        rw [number?]
        intro rest hsign
        have hmem : '-' ∈ Decimal.numeral number := hsign ▸ List.mem_cons_self
        exact absurd (Decimal.isDigit_of_mem_numeral hmem) (by decide)
      have hsmall : number < Nat.pow 2 64 := by
        simp only [Int.ofNat_eq_natCast] at hgreatest
        show number < 18446744073709551616
        omega
      rw [printedInteger, hunsigned, unsigned?_numeral, if_neg Bool.false_ne_true, if_pos hsmall]
      rfl
  | negSucc number =>
      have hsmall : number + 1 ≤ Nat.pow 2 63 := by
        show number + 1 ≤ 9223372036854775808
        omega
      rw [printedInteger, number?, unsigned?_numeral, if_pos rfl, if_neg (Nat.succ_ne_zero number),
        if_pos hsmall]
      rfl

/-! What a compact text begins with, and what may stand behind a number. -/

/-- A value whose text says exactly what it is. -/
inductive Exact : Json → Prop
  | null : Exact .null
  | boolean (value : Bool) : Exact (.boolean value)
  | integer {value : Int} (hfits : FitsWord value) : Exact (.integer value)
  | string (text : String) : Exact (.string text)
  | array {items : List Json} (hitems : ∀ item ∈ items, Exact item) : Exact (.array items)
  | object {members : List (String × Json)} (hmembers : ∀ member ∈ members, Exact member.2) :
      Exact (.object members)

theorem exact_empty : Exact (.object []) :=
  .object nofun

theorem Exact.cons {name : String} {value : Json} {members : List (String × Json)}
    (hvalue : value.Exact) (hmembers : Exact (.object members)) :
    Exact (.object ((name, value) :: members)) := by
  cases hmembers with
  | object hmembers => exact .object (List.forall_mem_cons.mpr ⟨hvalue, hmembers⟩)

/-- No character of a number comes first. -/
def Parted (rest : List Char) : Prop :=
  ∀ character ∈ rest.head?, isNumberCharacter character = false

theorem afterSpace_of_front {first : Char} (hfirst : isSpace first = false) (rest : List Char) :
    afterSpace (first :: rest) = first :: rest := by
  rw [afterSpace, List.dropWhile_cons_of_neg (by simp [hfirst])]

theorem isSpace_of_isNumberCharacter {character : Char}
    (hnumber : isNumberCharacter character = true) : isSpace character = false := by
  rw [Bool.eq_false_iff]
  intro hspace
  simp only [isSpace, Bool.or_eq_true, decide_eq_true_eq] at hspace
  rcases hspace with ((rfl | rfl) | rfl) | rfl <;> cases hnumber

theorem ne_of_isNumberCharacter {character other : Char}
    (hnumber : isNumberCharacter character = true) (hother : isNumberCharacter other = false) :
    character ≠ other := by
  rintro rfl
  rw [hnumber] at hother
  cases hother

theorem exists_printedInteger_eq (value : Int) :
    ∃ first others, printedInteger value = first :: others ∧ isNumberCharacter first = true := by
  cases hprinted : printedInteger value with
  | nil =>
      cases value with
      | ofNat number => exact absurd hprinted Nat.toDigits_ne_nil
      | negSucc number => cases hprinted
  | cons first others =>
      have hmem : first ∈ printedInteger value := hprinted ▸ List.mem_cons_self
      exact ⟨first, others, rfl, isNumberCharacter_of_mem_printedInteger hmem⟩

theorem literal?_printedInteger {value : Int} (hfits : FitsWord value) (hparted : Parted rest) :
    literal? (printedInteger value ++ rest) = some (.integer value, rest) := by
  have hall : ∀ character ∈ printedInteger value, isNumberCharacter character = true :=
    fun _ => isNumberCharacter_of_mem_printedInteger
  have hstops : rest.takeWhile isNumberCharacter = [] ∧
      rest.dropWhile isNumberCharacter = rest := by
    cases rest with
    | nil => exact ⟨rfl, rfl⟩
    | cons character others =>
        have hnone := hparted character rfl
        exact ⟨List.takeWhile_cons_of_neg (by simp [hnone]),
          List.dropWhile_cons_of_neg (by simp [hnone])⟩
  have hnumber : (printedInteger value ++ rest).takeWhile isNumberCharacter =
      printedInteger value := by
    rw [List.takeWhile_append_of_pos hall, hstops.1, List.append_nil]
  have hrest : (printedInteger value ++ rest).dropWhile isNumberCharacter = rest := by
    rw [List.dropWhile_append_of_pos hall, hstops.2]
  obtain ⟨first, others, hprinted, hfirst⟩ := exists_printedInteger_eq value
  have hword (letter : Char) (hletter : isNumberCharacter letter = false) (word : List Char) :
      printedInteger value ++ rest ≠ letter :: word := by
    rw [hprinted]
    intro hsame
    exact ne_of_isNumberCharacter hfirst hletter (List.cons.inj hsame).1
  rw [literal?]
  · rw [hnumber, hrest, number?_printedInteger hfits]
    rfl
  · intro word
    exact hword 'n' rfl _
  · intro word
    exact hword 't' rfl _
  · intro word
    exact hword 'f' rfl _

/-- The texts of values begin with characters of their own: none is a space, and none closes
what is open. -/
theorem Exact.exists_printed_eq (hvalue : Exact value) :
    ∃ first others, printed value = first :: others ∧ isSpace first = false ∧ first ≠ ']' := by
  cases hvalue with
  | null => exact ⟨_, _, rfl, rfl, by decide⟩
  | boolean value => cases value <;> exact ⟨_, _, rfl, rfl, by decide⟩
  | @integer value hfits =>
      obtain ⟨first, others, hprinted, hfirst⟩ := exists_printedInteger_eq value
      exact ⟨first, others, hprinted, isSpace_of_isNumberCharacter hfirst,
        ne_of_isNumberCharacter hfirst rfl⟩
  | string text => exact ⟨_, _, rfl, rfl, by decide⟩
  | @array items => cases items <;> exact ⟨_, _, rfl, rfl, by decide⟩
  | @object members => cases members <;> exact ⟨_, _, rfl, rfl, by decide⟩

/-! Reading back. -/

/-- The reader takes a value off the front of a text if its depth allows for all of it. -/
def ReadBack (value : Json) : Prop :=
  ∀ depth rest, (printed value).length ≤ depth → Parted rest →
    readValue? depth (printed value ++ rest) = some (value, rest)

theorem readName?_printedString (name : String) (rest : List Char) :
    readName? (printedString name ++ ':' :: rest) = some (name, rest) := by
  have hread := readString?_printedString name.toList (':' :: rest)
  simp only [printedString, List.cons_append, List.append_assoc, List.nil_append, readName?,
    @afterSpace_of_front '"' rfl, hread, Option.bind_eq_bind, Option.bind_some,
    @afterSpace_of_front ':' rfl, String.ofList_toList]
  rfl

theorem Exact.exists_depth (hvalue : Exact value) (hdepth : (printed value).length ≤ depth) :
    ∃ below, depth = below + 1 := by
  obtain ⟨first, others, hprinted, -⟩ := hvalue.exists_printed_eq
  rw [hprinted, List.length_cons] at hdepth
  exact Nat.exists_eq_add_one.mpr (by omega)

theorem readItems?_printedItems (hitem : ReadBack item) (hitems : ∀ item ∈ items, ReadBack item)
    (hdepth : (printed item ++ printedItems items).length ≤ depth) :
    readItems? depth (printed item ++ (printedItems items ++ rest)) =
      some (item :: items, rest) := by
  induction items generalizing item depth with
  | nil =>
      rw [printedItems, List.length_append, List.length_singleton] at hdepth
      obtain ⟨depth, rfl⟩ := Nat.exists_eq_add_one.mpr (show 0 < depth by omega)
      have hread := hitem depth (']' :: rest) (by omega) (by rintro _ ⟨⟩; rfl)
      rw [printedItems, List.singleton_append, readItems?, hread]
      rfl
  | cons next items induction =>
      rw [List.forall_mem_cons] at hitems
      simp only [printedItems, List.length_append, List.length_cons] at hdepth
      obtain ⟨depth, rfl⟩ := Nat.exists_eq_add_one.mpr (show 0 < depth by omega)
      have hread := hitem depth (',' :: (printed next ++ (printedItems items ++ rest))) (by omega)
        (by rintro _ ⟨⟩; rfl)
      have hfit : (printed next ++ printedItems items).length ≤ depth := by
        rw [List.length_append]
        omega
      have hrest := induction hitems.1 hitems.2 hfit
      rw [printedItems, List.cons_append, List.append_assoc, readItems?, hread]
      simp only [Option.bind_eq_bind, Option.bind_some,
        @afterSpace_of_front ',' rfl, hrest]
      rfl

theorem readMembers?_printedMembers {name : String} (hvalue : ReadBack value)
    (hmembers : ∀ member ∈ members, ReadBack member.2)
    (hdepth : (printedString name ++ ':' :: (printed value ++ printedMembers members)).length ≤
      depth) :
    readMembers? depth (printedString name ++ ':' ::
        (printed value ++ (printedMembers members ++ rest))) =
      some ((name, value) :: members, rest) := by
  induction members generalizing name value depth with
  | nil =>
      simp only [printedMembers, List.length_append, List.length_cons] at hdepth
      obtain ⟨depth, rfl⟩ := Nat.exists_eq_add_one.mpr (show 0 < depth by omega)
      have hread := hvalue depth ('\x7d' :: rest) (by omega) (by rintro _ ⟨⟩; rfl)
      rw [printedMembers, List.singleton_append, readMembers?, readName?_printedString]
      simp only [Option.bind_eq_bind, Option.bind_some, hread]
      rfl
  | cons next members induction =>
      obtain ⟨following, other⟩ := next
      rw [List.forall_mem_cons] at hmembers
      simp only [printedMembers, List.length_append, List.length_cons] at hdepth
      obtain ⟨depth, rfl⟩ := Nat.exists_eq_add_one.mpr (show 0 < depth by omega)
      have hread := hvalue depth (',' :: (printedString following ++ ':' ::
        (printed other ++ (printedMembers members ++ rest)))) (by omega) (by rintro _ ⟨⟩; rfl)
      have hfit : (printedString following ++ ':' ::
          (printed other ++ printedMembers members)).length ≤ depth := by
        simp only [List.length_append, List.length_cons]
        omega
      have hrest := induction hmembers.1 hmembers.2 hfit
      rw [readMembers?, readName?_printedString]
      simp only [printedMembers, List.cons_append, List.append_assoc, Option.bind_eq_bind,
        Option.bind_some, hread, @afterSpace_of_front ',' rfl, hrest]
      rfl

theorem readBack_array (hexact : ∀ item ∈ items, Exact item)
    (hitems : ∀ item ∈ items, ReadBack item) : ReadBack (.array items) := by
  rintro depth rest hdepth -
  obtain ⟨depth, rfl⟩ := (Exact.array hexact).exists_depth hdepth
  cases items with
  | nil => rfl
  | cons item items =>
      rw [List.forall_mem_cons] at hexact hitems
      rw [printed, List.length_cons, Nat.add_le_add_iff_right] at hdepth
      have hread : readItems? depth (printed item ++ (printedItems items ++ rest)) =
          some (item :: items, rest) := readItems?_printedItems hitems.1 hitems.2 hdepth
      obtain ⟨first, others, hprinted, hspace, hopen⟩ := hexact.1.exists_printed_eq
      have hfront := afterSpace_of_front hspace (others ++ (printedItems items ++ rest))
      rw [← List.cons_append, ← hprinted] at hfront
      simp only [printed, List.cons_append, List.append_assoc, readValue?,
        @afterSpace_of_front '[' rfl, hfront]
      split
      · next hclosed =>
          rw [hprinted] at hclosed
          exact absurd (List.cons.inj hclosed).1 hopen
      · rw [hread]
        rfl

theorem readBack_object (hexact : ∀ member ∈ members, Exact member.2)
    (hmembers : ∀ member ∈ members, ReadBack member.2) : ReadBack (.object members) := by
  rintro depth rest hdepth -
  obtain ⟨depth, rfl⟩ := (Exact.object hexact).exists_depth hdepth
  cases members with
  | nil => rfl
  | cons member members =>
      obtain ⟨name, value⟩ := member
      rw [List.forall_mem_cons] at hmembers
      rw [printed, List.length_cons, Nat.add_le_add_iff_right] at hdepth
      have hread : readMembers? depth (printedString name ++ ':' ::
          (printed value ++ (printedMembers members ++ rest))) =
          some ((name, value) :: members, rest) :=
        readMembers?_printedMembers hmembers.1 hmembers.2 hdepth
      have hfront := @afterSpace_of_front '"' rfl (name.toList.flatMap printedCharacter ++
        '"' :: ':' :: (printed value ++ (printedMembers members ++ rest)))
      simp only [printedString, List.cons_append, List.append_assoc, List.nil_append] at hread
      simp only [printed, printedString, List.cons_append, List.append_assoc, List.nil_append,
        readValue?, @afterSpace_of_front '\x7b' rfl, hfront]
      split
      · next hclosed => cases hclosed
      · rw [hread]
        rfl

theorem Exact.readBack (hvalue : Exact value) : ReadBack value := by
  induction hvalue with
  | null =>
      rintro depth rest hdepth -
      obtain ⟨depth, rfl⟩ := Exact.null.exists_depth hdepth
      rfl
  | boolean value =>
      rintro depth rest hdepth -
      obtain ⟨depth, rfl⟩ := (Exact.boolean value).exists_depth hdepth
      cases value <;> rfl
  | @integer value hfits =>
      intro depth rest hdepth hparted
      obtain ⟨depth, rfl⟩ := (Exact.integer hfits).exists_depth hdepth
      obtain ⟨first, others, hprinted, hfirst⟩ := exists_printedInteger_eq value
      have hread := literal?_printedInteger hfits hparted
      have hfront {letter : Char} := @ne_of_isNumberCharacter first letter hfirst
      have hvisible : isSpace first = false := isSpace_of_isNumberCharacter hfirst
      rw [hprinted] at hread
      simp only [printed, hprinted, List.cons_append, readValue?, afterSpace_of_front hvisible]
      split
      · next hquote => exact absurd (List.cons.inj hquote).1 (hfront rfl)
      · next hbracket => exact absurd (List.cons.inj hbracket).1 (hfront rfl)
      · next hbrace => exact absurd (List.cons.inj hbrace).1 (hfront rfl)
      · exact hread
  | string text =>
      rintro depth rest hdepth -
      obtain ⟨depth, rfl⟩ := (Exact.string text).exists_depth hdepth
      have hread := readString?_printedString text.toList rest
      simp only [printed, printedString, List.cons_append, List.append_assoc, List.nil_append,
        readValue?, @afterSpace_of_front '"' rfl, hread]
      rw [Option.bind_eq_bind, Option.bind_some, String.ofList_toList]
      rfl
  | array hitems induction => exact readBack_array hitems induction
  | object hmembers induction => exact readBack_object hmembers induction

/-- The whole text of a value is read. -/
theorem Exact.parse?_compact (hvalue : Exact value) : parse? (compact value) = some value := by
  have hread := hvalue.readBack ((printed value).length + 1) [] (Nat.le_succ _) nofun
  rw [List.append_nil] at hread
  rw [parse?, compact, String.toList_ofList]
  simp only [hread, Option.bind_eq_bind, Option.bind_some]
  rfl

theorem compact_inj {first second : Json} (hfirst : Exact first) (hsecond : Exact second) :
    compact first = compact second ↔ first = second := by
  refine ⟨fun hsame => ?_, congrArg compact⟩
  have hread := hfirst.parse?_compact
  rw [hsame, hsecond.parse?_compact] at hread
  exact (Option.some.inj hread).symm

end CodeFormatting.Json
