import Mathlib.Data.List.DropRight
import CodeFormatting.Text.Blank
import CodeFormatting.Text.Pieces
namespace CodeFormatting.Text

/-! No piece of a text has a separator in it, and a text without a separator is its only
piece. -/

theorem not_mem_of_mem_splitOn {separator : Char} {characters piece : List Char}
    (hpiece : piece ∈ characters.splitOn separator) : separator ∉ piece := by
  induction characters generalizing piece with
  | nil =>
      rw [List.splitOn_nil, List.mem_singleton] at hpiece
      rw [hpiece]
      exact List.not_mem_nil
  | cons character characters induction =>
      rw [List.splitOn_cons_eq_if_modifyHead] at hpiece
      split at hpiece
      · rcases List.mem_cons.mp hpiece with rfl | hrest
        · exact List.not_mem_nil
        · exact induction hrest
      · next hother =>
          cases hsplit : characters.splitOn separator with
          | nil => exact absurd hsplit (List.splitOn_ne_nil separator characters)
          | cons first rest =>
              rw [hsplit] at hpiece induction
              rw [List.modifyHead_cons] at hpiece
              rcases List.mem_cons.mp hpiece with rfl | hrest
              · rw [List.mem_cons, not_or]
                refine ⟨fun hsame => hother (beq_iff_eq.mpr hsame.symm), ?_⟩
                exact induction List.mem_cons_self
              · exact induction (List.mem_cons_of_mem first hrest)

theorem not_mem_of_mem_pieces {separator : Char} {text piece : String}
    (hpiece : piece ∈ pieces separator text) : separator ∉ piece.toList := by
  obtain ⟨characters, hcharacters, rfl⟩ := List.mem_map.mp hpiece
  rw [String.toList_ofList]
  exact not_mem_of_mem_splitOn hcharacters

theorem mem_intercalate_of_mem {separator text : String} {texts : List String}
    (htext : text ∈ texts) {character : Char} (hcharacter : character ∈ text.toList) :
    character ∈ (separator.intercalate texts).toList := by
  induction texts with
  | nil => cases htext
  | cons first rest induction =>
      cases rest with
      | nil =>
          rw [List.mem_singleton] at htext
          rwa [String.intercalate_singleton, ← htext]
      | cons second rest =>
          rw [String.intercalate_cons_cons, String.toList_append, List.mem_append]
          rcases List.mem_cons.mp htext with rfl | hrest
          · left
            rw [String.toList_append]
            exact List.mem_append_left _ hcharacter
          · right
            exact induction hrest

theorem mem_or_exists_mem_of_mem_intercalate {separator : String} {texts : List String}
    {character : Char} (hcharacter : character ∈ (separator.intercalate texts).toList) :
    character ∈ separator.toList ∨ ∃ text ∈ texts, character ∈ text.toList := by
  induction texts with
  | nil => simp at hcharacter
  | cons first rest induction =>
      cases rest with
      | nil =>
          rw [String.intercalate_singleton] at hcharacter
          exact .inr ⟨first, List.mem_cons_self, hcharacter⟩
      | cons second rest =>
          rw [String.intercalate_cons_cons, String.toList_append, String.toList_append,
            List.mem_append, List.mem_append] at hcharacter
          rcases hcharacter with (hfirst | hseparator) | hrest
          · exact .inr ⟨first, List.mem_cons_self, hfirst⟩
          · exact .inl hseparator
          · refine (induction hrest).imp_right ?_
            rintro ⟨text, htext, hmem⟩
            exact ⟨text, List.mem_cons_of_mem first htext, hmem⟩

theorem mem_of_mem_pieces {separator character : Char} {text piece : String}
    (hpiece : piece ∈ pieces separator text) (hcharacter : character ∈ piece.toList) :
    character ∈ text.toList := by
  rw [← intercalate_pieces separator text]
  exact mem_intercalate_of_mem hpiece hcharacter

theorem pieces_ne_nil (separator : Char) (text : String) : pieces separator text ≠ [] :=
  mt List.map_eq_nil_iff.mp (List.splitOn_ne_nil separator text.toList)

theorem pieces_of_not_mem {separator : Char} {text : String} (hnone : separator ∉ text.toList) :
    pieces separator text = [text] := by
  rw [pieces, List.splitOn_eq_singleton hnone, List.map_singleton, String.ofList_toList]

theorem pieces_append (separator : Char) (front back : String) :
    pieces separator (front ++ String.ofList [separator] ++ back) =
      pieces separator front ++ pieces separator back := by
  simp only [pieces, String.toList_append, String.toList_ofList, List.append_assoc,
    List.singleton_append, List.splitOn_append_cons_self, List.map_append]

theorem pieces_intercalate {separator : Char} {texts : List String}
    (hnone : ∀ text ∈ texts, separator ∉ text.toList) (htexts : texts ≠ []) :
    pieces separator ((String.ofList [separator]).intercalate texts) = texts := by
  rw [pieces, String.toList_intercalate, String.toList_ofList, List.splitOn_intercalate,
    List.map_map]
  · exact List.map_id'' (fun _ => String.ofList_toList) texts
  · intro characters hcharacters
    obtain ⟨text, htext, rfl⟩ := List.mem_map.mp hcharacters
    exact hnone text htext
  · exact mt List.map_eq_nil_iff.mp htexts

theorem pieces_eq_singleton_iff {separator : Char} {text piece : String} :
    pieces separator text = [piece] ↔ text = piece ∧ separator ∉ text.toList := by
  constructor
  · intro hpieces
    have htext := intercalate_pieces separator text
    rw [hpieces, String.intercalate_singleton] at htext
    rw [← htext]
    exact ⟨rfl, not_mem_of_mem_pieces (hpieces ▸ List.mem_cons_self)⟩
  · rintro ⟨rfl, hnone⟩
    exact pieces_of_not_mem hnone

theorem pieces_eq_pair_iff {separator : Char} {text front back : String} :
    pieces separator text = [front, back] ↔
      text = front ++ String.ofList [separator] ++ back ∧ separator ∉ front.toList ∧
        separator ∉ back.toList := by
  constructor
  · intro hpieces
    have htext := intercalate_pieces separator text
    rw [hpieces, String.intercalate_cons_cons, String.intercalate_singleton] at htext
    have hnone : ∀ piece ∈ [front, back], separator ∉ piece.toList := fun piece hpiece =>
      not_mem_of_mem_pieces (hpieces ▸ hpiece)
    exact ⟨htext.symm, hnone front (by simp), hnone back (by simp)⟩
  · rintro ⟨rfl, hfront, hback⟩
    rw [pieces_append, pieces_of_not_mem hfront, pieces_of_not_mem hback]
    rfl

/-- Where a text has two pieces, there is only one place to divide it. -/
theorem eq_of_append_of_pieces {separator : Char} {front back first last : String}
    (hpieces : pieces separator (front ++ String.ofList [separator] ++ back) = [first, last]) :
    front = first ∧ back = last := by
  rw [pieces_append] at hpieces
  obtain ⟨head, heads, hfront⟩ := List.exists_cons_of_ne_nil (pieces_ne_nil separator front)
  obtain ⟨tail, tails, hback⟩ := List.exists_cons_of_ne_nil (pieces_ne_nil separator back)
  rw [hfront, hback, List.cons_append, List.cons.injEq] at hpieces
  obtain ⟨rfl, hrest⟩ := hpieces
  obtain ⟨rfl, rfl, rfl⟩ : heads = [] ∧ tail = last ∧ tails = [] := by
    cases heads with
    | nil => simpa using hrest
    | cons other others => simp at hrest
  exact ⟨(pieces_eq_singleton_iff.mp hfront).1, (pieces_eq_singleton_iff.mp hback).1⟩

/-! Where two texts meet, the last piece of the first and the first piece of the second become
one. -/

theorem intercalate_append_cons (separator : String) (front : List String) (last first : String)
    (back : List String) :
    separator.intercalate (front ++ [last]) ++ separator.intercalate (first :: back) =
      separator.intercalate (front ++ (last ++ first) :: back) := by
  by_cases hfront : front = []
  · rw [hfront, List.nil_append, List.nil_append, String.intercalate_singleton,
      String.intercalate_cons_append]
  · rw [String.intercalate_append_of_ne_nil hfront (List.cons_ne_nil _ _),
      String.intercalate_append_of_ne_nil hfront (List.cons_ne_nil _ _),
      String.intercalate_singleton, String.intercalate_cons_append, String.append_assoc]

theorem pieces_append_of_pieces {separator : Char} {front back last first : String}
    {initial rest : List String} (hfront : pieces separator front = initial ++ [last])
    (hback : pieces separator back = first :: rest) :
    pieces separator (front ++ back) = initial ++ (last ++ first) :: rest := by
  have hnone : ∀ piece ∈ initial ++ (last ++ first) :: rest, separator ∉ piece.toList := by
    have hleft : ∀ piece ∈ initial ++ [last], separator ∉ piece.toList := by
      rw [← hfront]
      exact fun piece => not_mem_of_mem_pieces
    have hright : ∀ piece ∈ first :: rest, separator ∉ piece.toList := by
      rw [← hback]
      exact fun piece => not_mem_of_mem_pieces
    intro piece hpiece
    rw [List.mem_append, List.mem_cons] at hpiece
    rcases hpiece with hinitial | rfl | hrest
    · exact hleft piece (List.mem_append_left _ hinitial)
    · rw [String.toList_append, List.mem_append, not_or]
      exact ⟨hleft last (by simp), hright first List.mem_cons_self⟩
    · exact hright piece (List.mem_cons_of_mem _ hrest)
  rw [← intercalate_pieces separator front, ← intercalate_pieces separator back, hfront, hback,
    intercalate_append_cons]
  exact pieces_intercalate hnone (by simp)

section Joint

variable {separator : Char} {piece joint : String}

theorem exists_pieces_joint (hjoint : separator ∉ joint.toList) (front back : String) :
    ∃ initial last first rest, pieces separator front = initial ++ [last] ∧
      pieces separator back = first :: rest ∧
      pieces separator (front ++ joint ++ back) =
        initial ++ (last ++ joint ++ first) :: rest := by
  obtain ⟨first, rest, hback⟩ := List.exists_cons_of_ne_nil (pieces_ne_nil separator back)
  have hfront := List.dropLast_append_getLast (pieces_ne_nil separator front)
  have hlonger := pieces_append_of_pieces hfront.symm (pieces_of_not_mem hjoint)
  exact ⟨_, _, first, rest, hfront.symm, hback, pieces_append_of_pieces hlonger hback⟩

variable {character : Char} (hjoint : separator ∉ joint.toList)
  (hcharacter : character ∈ joint.toList) (hother : character ∉ piece.toList)

include hjoint hcharacter hother

theorem mem_pieces_joint_iff (front back : String) :
    piece ∈ pieces separator (front ++ joint ++ back) ↔
      piece ∈ (pieces separator front).dropLast ∨ piece ∈ (pieces separator back).tail := by
  obtain ⟨initial, last, first, rest, hfront, hback, hpieces⟩ :=
    exists_pieces_joint hjoint front back
  have hdiffer : piece ≠ last ++ joint ++ first := by
    rintro rfl
    simp [hcharacter] at hother
  simp [hpieces, hfront, hback, hdiffer]

theorem mem_tail_pieces_joint_iff (front back : String) :
    piece ∈ (pieces separator (front ++ joint ++ back)).tail ↔
      piece ∈ (pieces separator front).tail.dropLast ∨ piece ∈ (pieces separator back).tail := by
  obtain ⟨initial, last, first, rest, hfront, hback, hpieces⟩ :=
    exists_pieces_joint hjoint front back
  have hdiffer : piece ≠ last ++ joint ++ first := by
    rintro rfl
    simp [hcharacter] at hother
  rw [hpieces, hfront, hback]
  cases initial <;> simp [hdiffer]

theorem mem_tail_pieces_append_iff (front : String) :
    piece ∈ (pieces separator (front ++ joint)).tail ↔
      piece ∈ (pieces separator front).tail.dropLast := by
  have hempty : pieces separator "" = [""] := pieces_of_not_mem List.not_mem_nil
  have hend := mem_tail_pieces_joint_iff hjoint hcharacter hother front ""
  rw [String.append_empty, hempty, List.tail_cons] at hend
  rw [hend, or_iff_left List.not_mem_nil]

end Joint

/-! A text divides before the first character that ends its front. -/

theorem before_eq_iff {ends : Char → Bool} {text front : String} :
    before ends text = front ↔
      ∃ back, text = front ++ back ∧ (∀ character ∈ front.toList, ends character = false) ∧
        ∀ character ∈ back.toList.head?, ends character = true := by
  constructor
  · rintro rfl
    refine ⟨String.ofList (text.toList.dropWhile fun character => !ends character), ?_, ?_, ?_⟩
    · rw [before, ← String.ofList_append, List.takeWhile_append_dropWhile, String.ofList_toList]
    · intro character hcharacter
      rw [before, String.toList_ofList] at hcharacter
      simpa using List.mem_takeWhile_imp hcharacter
    · intro character hfirst
      rw [String.toList_ofList, Option.mem_def] at hfirst
      have hkept := List.head?_dropWhile_not (fun character => !ends character) text.toList
      rw [hfirst] at hkept
      simpa using hkept
  · rintro ⟨back, rfl, hfront, hback⟩
    have hnone : back.toList.takeWhile (fun character => !ends character) = [] := by
      cases hcharacters : back.toList with
      | nil => rfl
      | cons first rest => simp [hback first (by simp [hcharacters])]
    rw [before, String.toList_append, List.takeWhile_append_of_pos (by simpa using hfront), hnone,
      List.append_nil, String.ofList_toList]

/-! Trimming takes away just the blank characters that were put around a text whose own first
and last character are not blank. -/

theorem trimmedEnd_eq_rdropWhile (characters : List Char) :
    trimmedEnd characters = characters.rdropWhile isBlank := rfl

theorem mem_of_mem_trim {character : Char} {text : String}
    (hcharacter : character ∈ (trim text).toList) : character ∈ text.toList := by
  rw [toList_trim, trimmed, trimmedEnd_eq_rdropWhile] at hcharacter
  have hstart := (List.rdropWhile_prefix isBlank (trimmedStart text.toList)).subset hcharacter
  exact (List.dropWhile_suffix isBlank).subset hstart

structure Tight (text : String) : Prop where
  first : ∀ character ∈ text.toList.head?, isBlank character = false
  last : ∀ character ∈ text.toList.getLast?, isBlank character = false

/-- The text with blank characters put before it and after it. -/
def Padded (text padded : String) : Prop :=
  ∃ front back, isBlankText front ∧ isBlankText back ∧ padded = front ++ text ++ back

theorem padded_self (text : String) : Padded text text :=
  ⟨"", "", rfl, rfl, by rw [String.append_empty, String.empty_append]⟩

theorem isBlank_head?_trimmedStart {characters : List Char} {character : Char}
    (hfirst : (trimmedStart characters).head? = some character) : isBlank character = false := by
  obtain ⟨rest, hstart⟩ := List.head?_eq_some_iff.mp hfirst
  exact isBlank_eq_false_of_trimmedStart hstart

theorem tight_trim (text : String) : Tight (trim text) := by
  constructor
  · intro character hfirst
    rw [toList_trim, trimmed, trimmedEnd_eq_rdropWhile, Option.mem_def] at hfirst
    obtain ⟨rest, hstart⟩ := List.rdropWhile_prefix isBlank (trimmedStart text.toList)
    have hkept : (trimmedStart text.toList).head? = some character := by
      rw [← hstart, List.head?_append, hfirst, Option.some_or]
    exact isBlank_head?_trimmedStart hkept
  · intro character hlast
    rw [toList_trim, trimmed, trimmedEnd, List.getLast?_reverse] at hlast
    exact isBlank_head?_trimmedStart hlast

theorem padded_trim (text : String) : Padded (trim text) text := by
  refine ⟨String.ofList (text.toList.takeWhile isBlank),
    String.ofList ((trimmedStart text.toList).rtakeWhile isBlank), ?_, ?_, ?_⟩
  · simp [isBlankText, List.all_takeWhile]
  · simp [isBlankText, List.rtakeWhile, List.all_takeWhile]
  · rw [← String.toList_inj, String.toList_append, String.toList_append, toList_trim,
      String.toList_ofList, String.toList_ofList, List.append_assoc, trimmed,
      trimmedEnd_eq_rdropWhile, List.rdropWhile_append_rtakeWhile, trimmedStart,
      List.takeWhile_append_dropWhile]

theorem trimmedStart_append_of_blank {front : List Char} (hfront : front.all isBlank)
    (rest : List Char) : trimmedStart (front ++ rest) = trimmedStart rest :=
  List.dropWhile_append_of_pos (List.all_eq_true.mp hfront)

theorem trimmedStart_append_of_first {kept : List Char} (hkept : kept ≠ [])
    (hfirst : ∀ character ∈ kept.head?, isBlank character = false) (rest : List Char) :
    trimmedStart (kept ++ rest) = kept ++ rest := by
  obtain ⟨character, others, rfl⟩ := List.exists_cons_of_ne_nil hkept
  simp [trimmedStart, hfirst character rfl]

theorem trim_of_padded {text padded : String} (htight : Tight text)
    (hpadded : Padded text padded) : trim padded = text := by
  obtain ⟨front, back, hfront, hback, rfl⟩ := hpadded
  rw [← String.toList_inj, toList_trim, String.toList_append, String.toList_append,
    List.append_assoc, trimmed, trimmedStart_append_of_blank hfront]
  by_cases hempty : text.toList = []
  · rw [hempty, List.nil_append, (trimmedStart_eq_nil_iff _).mpr hback]
    rfl
  · have hlast : ∀ character ∈ text.toList.reverse.head?, isBlank character = false := by
      rw [List.head?_reverse]
      exact htight.last
    rw [trimmedStart_append_of_first hempty htight.first, trimmedEnd, List.reverse_append,
      trimmedStart_append_of_blank (by rwa [List.all_reverse])]
    have hkept := trimmedStart_append_of_first (mt List.reverse_eq_nil_iff.mp hempty) hlast []
    rw [List.append_nil] at hkept
    rw [hkept, List.reverse_reverse]

theorem trim_eq_iff {text padded : String} :
    trim padded = text ↔ Tight text ∧ Padded text padded := by
  constructor
  · rintro rfl
    exact ⟨tight_trim padded, padded_trim padded⟩
  · rintro ⟨htight, hpadded⟩
    exact trim_of_padded htight hpadded

theorem trim_eq_self_iff {text : String} : trim text = text ↔ Tight text := by
  rw [trim_eq_iff, and_iff_left (padded_self text)]

theorem trim_trim (text : String) : trim (trim text) = trim text :=
  trim_eq_self_iff.mpr (tight_trim text)

theorem Padded.trans {text middle padded : String} (hfirst : Padded text middle)
    (hsecond : Padded middle padded) : Padded text padded := by
  obtain ⟨front, back, hfront, hback, rfl⟩ := hfirst
  obtain ⟨before, after, hbefore, hafter, rfl⟩ := hsecond
  refine ⟨before ++ front, back ++ after, ?_, ?_, by simp only [String.append_assoc]⟩
  · simpa [isBlankText] using ⟨List.all_eq_true.mp hbefore, List.all_eq_true.mp hfront⟩
  · simpa [isBlankText] using ⟨List.all_eq_true.mp hback, List.all_eq_true.mp hafter⟩

theorem Padded.trim_eq {text padded : String} (hpadded : Padded text padded) :
    trim padded = trim text :=
  trim_of_padded (tight_trim text) ((padded_trim text).trans hpadded)

theorem trim_eq_self {text : String}
    (hvisible : ∀ character ∈ text.toList, isBlank character = false) : trim text = text := by
  rw [trim_eq_self_iff]
  constructor
  · exact fun character hfirst => hvisible character (List.mem_of_mem_head? hfirst)
  · exact fun character hlast => hvisible character (List.mem_of_getLast? hlast)

end CodeFormatting.Text
