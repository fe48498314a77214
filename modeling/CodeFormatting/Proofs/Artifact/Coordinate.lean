import Mathlib.Data.List.Forall2
import Mathlib.Data.Set.Function
import CodeFormatting.Artifact.Error
import CodeFormatting.Proofs.Text
namespace CodeFormatting.Coordinate

/-! A coordinate is read from its parts, and it can be read from its own text just if it is
well-formed: no part of it is empty, begins or ends with a blank or has a colon in it. -/

def parts (coordinate : Coordinate) : List String :=
  [coordinate.group, coordinate.artifact, coordinate.version] ++ coordinate.classifier.toList

structure IsPart (text : String) : Prop where
  visible : text ≠ ""
  tight : Text.Tight text
  undivided : ':' ∉ text.toList

def WellFormed (coordinate : Coordinate) : Prop :=
  ∀ part ∈ coordinate.parts, IsPart part

theorem parts_ne_nil (coordinate : Coordinate) : coordinate.parts ≠ [] := nofun

theorem text_eq_intercalate (coordinate : Coordinate) :
    coordinate.text = ":".intercalate coordinate.parts := by
  rcases coordinate with ⟨group, artifact, version, _ | classifier⟩
  · simp [text, parts, String.intercalate_cons_cons, String.append_assoc]
  · simp [text, parts, String.intercalate_cons_cons, String.append_assoc]

theorem parse?_eq_some_iff {text : String} {coordinate : Coordinate} :
    parse? text = some coordinate ↔
      (Text.pieces ':' text).map Text.trim = coordinate.parts ∧
        ∀ part ∈ coordinate.parts, part ≠ "" := by
  rcases coordinate with ⟨group, artifact, version, classifier⟩
  simp only [parse?]
  generalize (Text.pieces ':' text).map Text.trim = pieces
  constructor
  · intro hparse
    split at hparse
    · cases hparse
    · next hvisible =>
        have hparts : pieces = parts ⟨group, artifact, version, classifier⟩ := by
          split at hparse
          · cases hparse
            rfl
          · cases hparse
            rfl
          · cases hparse
        refine ⟨hparts, fun part hpart hempty => hvisible ?_⟩
        rw [List.any_eq_true]
        exact ⟨part, hparts ▸ hpart, by rw [hempty]; rfl⟩
  · rintro ⟨rfl, hvisible⟩
    rw [if_neg]
    · cases classifier <;> rfl
    · intro hblank
      obtain ⟨part, hpart, hempty⟩ := List.any_eq_true.mp hblank
      exact hvisible part hpart (String.isEmpty_iff.mp hempty)

theorem wellFormed_of_parse? {text : String} {coordinate : Coordinate}
    (hparse : parse? text = some coordinate) : coordinate.WellFormed := by
  obtain ⟨hparts, hvisible⟩ := parse?_eq_some_iff.mp hparse
  intro part hpart
  have hempty := hvisible part hpart
  rw [← hparts] at hpart
  obtain ⟨piece, hpiece, rfl⟩ := List.mem_map.mp hpart
  refine ⟨hempty, Text.tight_trim piece, fun hcolon => ?_⟩
  exact Text.not_mem_of_mem_pieces hpiece (Text.mem_of_mem_trim hcolon)

theorem WellFormed.pieces_text {coordinate : Coordinate} (hformed : coordinate.WellFormed) :
    Text.pieces ':' coordinate.text = coordinate.parts := by
  rw [text_eq_intercalate]
  exact Text.pieces_intercalate (fun part hpart => (hformed part hpart).undivided)
    coordinate.parts_ne_nil

/-! A text is read as a coordinate just if it is the text of that coordinate, up to blanks around
the parts. -/

/-- The text with blank characters put around each piece that the colons make of it. -/
def Spaced (text spaced : String) : Prop :=
  ∃ segments, List.Forall₂ Text.Padded (Text.pieces ':' text) segments ∧
    spaced = ":".intercalate segments

theorem IsPart.undivided_of_padded {part segment : String} (hpart : IsPart part)
    (hpadded : Text.Padded part segment) : ':' ∉ segment.toList := by
  obtain ⟨front, back, hfront, hback, rfl⟩ := hpadded
  have hvisible {blank : String} (hblank : Text.isBlankText blank) : ':' ∉ blank.toList := by
    intro hcolon
    cases List.all_eq_true.mp hblank ':' hcolon
  simp [hpart.undivided, hvisible hfront, hvisible hback]

theorem pieces_of_padded {parts segments : List String} (hparts : ∀ part ∈ parts, IsPart part)
    (hsegments : List.Forall₂ Text.Padded parts segments) :
    segments.map Text.trim = parts ∧ ∀ segment ∈ segments, ':' ∉ segment.toList := by
  induction hsegments with
  | nil => exact ⟨rfl, nofun⟩
  | cons hpadded _ induction =>
      rw [List.forall_mem_cons] at hparts
      obtain ⟨hpart, hrest⟩ := hparts
      obtain ⟨htrimmed, hundivided⟩ := induction hrest
      rw [List.map_cons, Text.trim_of_padded hpart.tight hpadded, htrimmed,
        List.forall_mem_cons]
      exact ⟨rfl, hpart.undivided_of_padded hpadded, hundivided⟩

theorem WellFormed.map_trim_pieces_iff {coordinate : Coordinate}
    (hformed : coordinate.WellFormed) {text : String} :
    (Text.pieces ':' text).map Text.trim = coordinate.parts ↔ Spaced coordinate.text text := by
  rw [Spaced, hformed.pieces_text]
  constructor
  · intro hparts
    refine ⟨Text.pieces ':' text, ?_, (Text.intercalate_pieces ':' text).symm⟩
    rw [← hparts, List.forall₂_map_left_iff, List.forall₂_same]
    intro piece hpiece
    exact Text.padded_trim piece
  · rintro ⟨segments, hsegments, rfl⟩
    obtain ⟨htrimmed, hundivided⟩ := pieces_of_padded hformed hsegments
    have hnonempty : segments ≠ [] := by
      rintro rfl
      exact coordinate.parts_ne_nil htrimmed.symm
    rw [Text.pieces_intercalate hundivided hnonempty, htrimmed]

theorem parse?_eq_some_iff_spaced {text : String} {coordinate : Coordinate} :
    parse? text = some coordinate ↔ coordinate.WellFormed ∧ Spaced coordinate.text text := by
  constructor
  · intro hparse
    have hformed := wellFormed_of_parse? hparse
    exact ⟨hformed, hformed.map_trim_pieces_iff.mp (parse?_eq_some_iff.mp hparse).1⟩
  · rintro ⟨hformed, hspaced⟩
    rw [parse?_eq_some_iff, hformed.map_trim_pieces_iff]
    exact ⟨hspaced, fun part hpart => (hformed part hpart).visible⟩

theorem spaced_self (text : String) : Spaced text text := by
  refine ⟨Text.pieces ':' text, ?_, (Text.intercalate_pieces ':' text).symm⟩
  rw [List.forall₂_same]
  exact fun piece _ => Text.padded_self piece

theorem parse?_text_eq_some_iff {coordinate : Coordinate} :
    parse? coordinate.text = some coordinate ↔ coordinate.WellFormed := by
  rw [parse?_eq_some_iff_spaced, and_iff_left (spaced_self coordinate.text)]

theorem parse_eq_ok_iff {text : String} {coordinate : Coordinate} :
    parse text = .ok coordinate ↔ parse? text = some coordinate := by
  rw [parse]
  cases parse? text <;> simp

theorem parse_eq_error_iff {text : String} {error : ProvisionError} :
    parse text = .error error ↔ parse? text = none ∧ error = .invalidCoordinate text := by
  rw [parse]
  cases parse? text <;> simp [eq_comm]

theorem injOn_text : Set.InjOn text {coordinate | coordinate.WellFormed} := by
  intro coordinate hformed other hother hsame
  have hread := parse?_text_eq_some_iff.mpr hformed
  rw [hsame, parse?_text_eq_some_iff.mpr hother] at hread
  exact (Option.some.inj hread).symm

/-- A text is read as a coordinate just if it is the text of a well-formed one with blanks around
its parts. Every other text is given back in the error, as it is. -/
theorem parse_iff_spaced (text : String) :
    (∀ coordinate, parse text = .ok coordinate ↔
      coordinate.WellFormed ∧ Spaced coordinate.text text) ∧
    (∀ error, parse text = .error error ↔ error = .invalidCoordinate text ∧
      ∀ coordinate : Coordinate, ¬ (coordinate.WellFormed ∧ Spaced coordinate.text text)) ∧
    (∀ coordinate : Coordinate, parse coordinate.text = .ok coordinate ↔
      coordinate.WellFormed) ∧
    Set.InjOn Coordinate.text {coordinate | coordinate.WellFormed} := by
  refine ⟨fun coordinate => ?_, fun error => ?_, fun coordinate => ?_, injOn_text⟩
  · rw [parse_eq_ok_iff, parse?_eq_some_iff_spaced]
  · rw [parse_eq_error_iff, and_comm, Option.eq_none_iff_forall_ne_some]
    simp only [Ne, parse?_eq_some_iff_spaced]
  · rw [parse_eq_ok_iff, parse?_text_eq_some_iff]

example : parse "\u3000a : b:\t1\n" = .ok ⟨"a", "b", "1", none⟩ := by decide

end CodeFormatting.Coordinate
