import CodeFormatting.Machine
namespace CodeFormatting

/-! What reading and writing one file does. A file system stays alike as long as only what
its files hold changes: then every path leads where it led, and each location has its
own node. -/

/-- A node without what is in it. -/
def Node.hollow : Node → Node
  | .file _ executable => .file .empty executable
  | .directory => .directory

theorem Node.eq_directory_of_hollow {node : Node} (hhollow : node.hollow = .directory) :
    node = .directory := by
  cases node with
  | file content executable => cases hhollow
  | directory => rfl

theorem Node.exists_eq_file_of_hollow {node : Node} {content : ByteArray} {executable : Bool}
    (hhollow : node.hollow = (Node.file content executable).hollow) :
    ∃ held, node = .file held executable := by
  cases node with
  | file held other =>
      cases hhollow
      exact ⟨held, rfl⟩
  | directory => cases hhollow

namespace FileSystem

variable {files other later : FileSystem} {directory location : Location} {path : Path}
  {content octets : ByteArray} {executable : Bool}

@[ext] theorem ext (hnode : files.node = other.node) (hread : files.refusesRead = other.refusesRead)
    (hopen : files.refusesOpen = other.refusesOpen)
    (hwrite : files.refusesWrite = other.refusesWrite) : files = other := by
  cases files
  cases other
  cases hnode
  cases hread
  cases hopen
  cases hwrite
  rfl

@[simp] theorem node_put_self (files : FileSystem) (location : Location) (node : Node) :
    (files.put location node).node location = some node :=
  if_pos rfl

theorem node_put_of_ne (files : FileSystem) {location place : Location} (node : Node)
    (hne : place ≠ location) : (files.put location node).node place = files.node place :=
  if_neg hne

@[simp] theorem put_put (files : FileSystem) (location : Location) (node later : Node) :
    (files.put location node).put location later = files.put location later := by
  simp only [put]
  congr 1
  funext place
  split <;> rfl

structure Alike (files other : FileSystem) : Prop where
  node : ∀ location,
    (other.node location).map Node.hollow = (files.node location).map Node.hollow
  refusesRead : other.refusesRead = files.refusesRead
  refusesOpen : other.refusesOpen = files.refusesOpen
  refusesWrite : other.refusesWrite = files.refusesWrite

theorem Alike.refl (files : FileSystem) : files.Alike files :=
  ⟨fun _ => rfl, rfl, rfl, rfl⟩

theorem Alike.symm (halike : files.Alike other) : other.Alike files :=
  ⟨fun location => (halike.node location).symm, halike.refusesRead.symm,
    halike.refusesOpen.symm, halike.refusesWrite.symm⟩

theorem Alike.trans (hfirst : files.Alike other) (hsecond : other.Alike later) :
    files.Alike later :=
  ⟨fun location => (hsecond.node location).trans (hfirst.node location),
    hsecond.refusesRead.trans hfirst.refusesRead, hsecond.refusesOpen.trans hfirst.refusesOpen,
    hsecond.refusesWrite.trans hfirst.refusesWrite⟩

theorem alike_put (hnode : files.node location = some (.file content executable))
    (held : ByteArray) : files.Alike (files.put location (.file held executable)) := by
  refine ⟨fun place => ?_, rfl, rfl, rfl⟩
  by_cases hplace : place = location
  · rw [hplace, node_put_self, hnode]
    rfl
  · rw [node_put_of_ne files _ hplace]

theorem Alike.exists_file (halike : files.Alike other)
    (hnode : files.node location = some (.file content executable)) :
    ∃ held, other.node location = some (.file held executable) := by
  have hsame := halike.node location
  rw [hnode, Option.map_some, Option.map_eq_some_iff] at hsame
  obtain ⟨node, hother, hhollow⟩ := hsame
  obtain ⟨held, rfl⟩ := Node.exists_eq_file_of_hollow hhollow
  exact ⟨held, hother⟩

theorem Alike.follow (halike : files.Alike other) (location : Location) (pieces : List String) :
    other.follow location pieces = files.follow location pieces := by
  induction pieces generalizing location with
  | nil => rfl
  | cons piece rest induction =>
      have hsame := halike.node location
      simp only [FileSystem.follow]
      rcases hnode : files.node location with _ | ⟨content, executable⟩ | _
      · rw [hnode, Option.map_none, Option.map_eq_none_iff] at hsame
        rw [hsame]
      · obtain ⟨held, hother⟩ := halike.exists_file hnode
        rw [hother]
      · rw [hnode, Option.map_some, Option.map_eq_some_iff] at hsame
        obtain ⟨node, hother, hhollow⟩ := hsame
        rw [hother, Node.eq_directory_of_hollow hhollow]
        simp only [induction]

theorem Alike.locate (halike : files.Alike other) (directory : Location) (path : Path) :
    other.locate directory path = files.locate directory path := by
  simp only [FileSystem.locate, halike.follow]

theorem Alike.nodeAt (halike : files.Alike other) (directory : Location) (path : Path) :
    (other.nodeAt directory path).map Node.hollow =
      (files.nodeAt directory path).map Node.hollow := by
  simp only [FileSystem.nodeAt, halike.locate]
  cases files.locate directory path with
  | error error => rfl
  | ok location =>
      have hsame := halike.node location
      cases hother : other.node location <;> cases hnode : files.node location <;>
        simp_all [Except.map]

theorem isFile_eq (files : FileSystem) (directory : Location) (path : Path) :
    files.isFile directory path =
      match (files.nodeAt directory path).map Node.hollow with
      | .ok (.file _ _) => true
      | _ => false := by
  simp only [FileSystem.isFile]
  rcases files.nodeAt directory path with _ | _ | _ <;> rfl

theorem isProgram_eq (files : FileSystem) (directory : Location) (path : Path) :
    files.isProgram directory path =
      match (files.nodeAt directory path).map Node.hollow with
      | .ok (.file _ executable) => executable
      | _ => false := by
  simp only [FileSystem.isProgram]
  rcases files.nodeAt directory path with _ | _ | _ <;> rfl

theorem Alike.isFile (halike : files.Alike other) (directory : Location) (path : Path) :
    other.isFile directory path = files.isFile directory path := by
  rw [isFile_eq, isFile_eq, halike.nodeAt]

theorem Alike.isProgram (halike : files.Alike other) (directory : Location) (path : Path) :
    other.isProgram directory path = files.isProgram directory path := by
  rw [isProgram_eq, isProgram_eq, halike.nodeAt]

/-! Following. Pieces that name nothing lead from a directory to itself, and from anything else
nowhere. -/

theorem follow_of_trivial {location place : Location} {pieces : List String}
    (htrivial : ∀ piece ∈ pieces, piece = "" ∨ piece = ".") (hpieces : pieces ≠ [])
    (hfollow : files.follow location pieces = .ok place) :
    place = location ∧ files.node location = some .directory := by
  induction pieces with
  | nil => contradiction
  | cons piece pieces induction =>
      rw [List.forall_mem_cons] at htrivial
      rw [follow] at hfollow
      split at hfollow
      · cases hfollow
      · cases hfollow
      · next hnode =>
          rw [if_pos htrivial.1] at hfollow
          cases pieces with
          | nil =>
              cases hfollow
              exact ⟨rfl, hnode⟩
          | cons second rest => exact induction htrivial.2 (List.cons_ne_nil _ _) hfollow

/-! Reading. -/

theorem fromUTF8?_eq_some_iff {text : String} :
    String.fromUTF8? content = some text ↔ text.toUTF8 = content := by
  constructor
  · intro hread
    rw [String.fromUTF8?] at hread
    split at hread
    · cases hread
      rfl
    · cases hread
  · rintro rfl
    exact dif_pos text.isValidUTF8

theorem read_eq_ok_iff :
    files.read directory path = .ok content ↔
      ∃ location executable, files.locate directory path = .ok location ∧
        files.node location = some (.file content executable) ∧
        files.refusesRead location = none := by
  constructor
  · intro hread
    simp only [FileSystem.read] at hread
    split at hread
    · cases hread
    · next location hlocate =>
        split at hread
        · cases hread
        · cases hread
        · cases hread
        · next executable hnode hrefuses =>
            cases hread
            exact ⟨location, executable, hlocate, hnode, hrefuses⟩
  · rintro ⟨location, executable, hlocate, hnode, hrefuses⟩
    simp only [FileSystem.read, hlocate, hnode, hrefuses]

theorem readText_eq_ok_iff {text : String} :
    files.readText directory path = .ok text ↔
      ∃ location executable, files.locate directory path = .ok location ∧
        files.node location = some (.file text.toUTF8 executable) ∧
        files.refusesRead location = none := by
  rw [← read_eq_ok_iff, readText]
  cases files.read directory path with
  | error error => simp only [reduceCtorEq]
  | ok content =>
      cases htext : String.fromUTF8? content with
      | none =>
          simp only [htext, reduceCtorEq, Except.ok.injEq, false_iff]
          rintro rfl
          rw [fromUTF8?_eq_some_iff.mpr rfl] at htext
          cases htext
      | some found =>
          simp only [htext, Except.ok.injEq]
          rw [← fromUTF8?_eq_some_iff.mp htext]
          exact String.toByteArray_inj.symm

theorem isFile_iff :
    files.isFile directory path = true ↔
      ∃ location content executable, files.locate directory path = .ok location ∧
        files.node location = some (.file content executable) := by
  rw [FileSystem.isFile, nodeAt]
  cases files.locate directory path with
  | error error => simp
  | ok location =>
      rcases hnode : files.node location with _ | ⟨content, executable⟩ | _
      · simp [hnode]
      · simp only [hnode, true_iff]
        exact ⟨location, content, executable, rfl, hnode⟩
      · simp [hnode]

/-- Why no text can be read at a path where no reading is refused. -/
inductive Unreadable (files : FileSystem) (directory : Location) (path : Path) : IoError → Prop
  | astray {error : IoError} (hlocate : files.locate directory path = .error error) :
      Unreadable files directory path error
  | missing {location : Location} (hlocate : files.locate directory path = .ok location)
      (hnode : files.node location = none) : Unreadable files directory path .notFound
  | directory {location : Location} (hlocate : files.locate directory path = .ok location)
      (hnode : files.node location = some .directory) :
      Unreadable files directory path .isADirectory
  | garbled {location : Location} {content : ByteArray} {executable : Bool}
      (hlocate : files.locate directory path = .ok location)
      (hnode : files.node location = some (.file content executable))
      (hcontent : ∀ text : String, text.toUTF8 ≠ content) :
      Unreadable files directory path .invalidText

theorem readText_of_unreadable {error : IoError}
    (hpermitted : ∀ location, files.refusesRead location = none)
    (hunreadable : files.Unreadable directory path error) :
    files.readText directory path = .error error := by
  cases hunreadable with
  | astray hlocate => simp only [readText, FileSystem.read, hlocate]
  | missing hlocate hnode => simp only [readText, FileSystem.read, hlocate, hnode]
  | directory hlocate hnode =>
      simp only [readText, FileSystem.read, hlocate, hnode, hpermitted]
  | @garbled location content executable hlocate hnode hcontent =>
      have htext : String.fromUTF8? content = none := by
        apply Option.eq_none_iff_forall_ne_some.mpr
        intro text htext
        exact hcontent text (fromUTF8?_eq_some_iff.mp htext)
      simp only [readText, FileSystem.read, hlocate, hnode, hpermitted, htext]

theorem readable_or_unreadable (files : FileSystem) (directory : Location) (path : Path) :
    (∃ (text : String) (location : Location) (executable : Bool),
      files.locate directory path = .ok location ∧
        files.node location = some (.file text.toUTF8 executable)) ∨
      ∃ error, files.Unreadable directory path error := by
  cases hlocate : files.locate directory path with
  | error error => exact .inr ⟨error, .astray hlocate⟩
  | ok location =>
      rcases hnode : files.node location with _ | ⟨content, executable⟩ | _
      · exact .inr ⟨_, .missing hlocate hnode⟩
      · by_cases htext : ∃ text : String, text.toUTF8 = content
        · obtain ⟨text, rfl⟩ := htext
          exact .inl ⟨text, location, executable, rfl, hnode⟩
        · exact .inr ⟨_, .garbled hlocate hnode (not_exists.mp htext)⟩
      · exact .inr ⟨_, .directory hlocate hnode⟩

theorem readText_eq_error_iff {error : IoError}
    (hpermitted : ∀ location, files.refusesRead location = none) :
    files.readText directory path = .error error ↔ files.Unreadable directory path error := by
  constructor
  · intro hread
    rcases files.readable_or_unreadable directory path with
      ⟨text, location, executable, hlocate, hnode⟩ | ⟨cause, hunreadable⟩
    · have htext := readText_eq_ok_iff.mpr
        ⟨location, executable, hlocate, hnode, hpermitted location⟩
      cases hread.symm.trans htext
    · cases hread.symm.trans (readText_of_unreadable hpermitted hunreadable)
      exact hunreadable
  · exact readText_of_unreadable hpermitted

/-- At the path of a file only what the file holds can be in the way. -/
theorem Unreadable.eq_invalidText {error : IoError}
    (hunreadable : files.Unreadable directory path error)
    (hfile : files.isFile directory path = true) : error = .invalidText := by
  obtain ⟨location, content, executable, hlocate, hnode⟩ := isFile_iff.mp hfile
  cases hunreadable with
  | astray hastray => cases hlocate.symm.trans hastray
  | missing hplace hmissing =>
      cases hlocate.symm.trans hplace
      cases hnode.symm.trans hmissing
  | directory hplace hdirectory =>
      cases hlocate.symm.trans hplace
      cases hnode.symm.trans hdirectory
  | garbled => rfl

theorem Alike.read (halike : files.Alike other)
    (hsame : ∀ location, files.locate directory path = .ok location →
      other.node location = files.node location) :
    other.read directory path = files.read directory path := by
  rw [FileSystem.read, FileSystem.read, halike.locate, halike.refusesRead]
  cases hlocate : files.locate directory path with
  | error error => rfl
  | ok location => simp only [hsame location hlocate]

theorem Alike.readText (halike : files.Alike other)
    (hsame : ∀ location, files.locate directory path = .ok location →
      other.node location = files.node location) :
    other.readText directory path = files.readText directory path := by
  rw [FileSystem.readText, FileSystem.readText, halike.read hsame]

/-! Writing. -/

theorem locate_of_openEmpty {opened : FileSystem}
    (hopen : files.openEmpty directory path = .ok (location, opened)) :
    files.locate directory path = .ok location ∧
      ∃ executable, opened = files.put location (.file .empty executable) := by
  unfold openEmpty at hopen
  split at hopen
  · cases hopen
  · split at hopen
    · cases hopen
    · cases hopen
    · next executable _ _ =>
        cases hopen
        exact ⟨‹_›, executable, rfl⟩
    · cases hopen
      exact ⟨‹_›, false, rfl⟩

theorem openEmpty_of_refused {error : IoError}
    (hlocate : files.locate directory path = .ok location)
    (hnode : files.node location = some (.file content executable))
    (hrefused : files.refusesOpen location = some error) :
    files.openEmpty directory path = .error error := by
  simp only [openEmpty, hlocate, hnode, hrefused]

theorem openEmpty_of_allowed (hlocate : files.locate directory path = .ok location)
    (hnode : files.node location = some (.file content executable))
    (hallowed : files.refusesOpen location = none) :
    files.openEmpty directory path =
      .ok (location, files.put location (.file .empty executable)) := by
  simp only [openEmpty, hlocate, hnode, hallowed]

theorem openEmpty_error_inv {error : IoError}
    (hlocate : files.locate directory path = .ok location)
    (hnode : files.node location = some (.file content executable))
    (hopen : files.openEmpty directory path = .error error) :
    files.refusesOpen location = some error := by
  cases hrefuses : files.refusesOpen location with
  | none =>
      rw [openEmpty_of_allowed hlocate hnode hrefuses] at hopen
      cases hopen
  | some refusal =>
      rw [openEmpty_of_refused hlocate hnode hrefuses] at hopen
      cases hopen
      rfl

theorem openEmpty_ok_inv {opened : Location} {emptied : FileSystem}
    (hlocate : files.locate directory path = .ok location)
    (hnode : files.node location = some (.file content executable))
    (hopen : files.openEmpty directory path = .ok (opened, emptied)) :
    files.refusesOpen location = none ∧ opened = location ∧
      emptied = files.put location (.file .empty executable) := by
  cases hrefuses : files.refusesOpen location with
  | none =>
      rw [openEmpty_of_allowed hlocate hnode hrefuses] at hopen
      cases hopen
      exact ⟨rfl, rfl, rfl⟩
  | some refusal =>
      rw [openEmpty_of_refused hlocate hnode hrefuses] at hopen
      cases hopen

theorem patch_of_file (hnode : files.node location = some (.file content executable))
    (octets : ByteArray) :
    files.patch location octets =
      files.put location (.file (overwritten content octets) executable) := by
  simp only [patch, hnode]

theorem fill_of_refused {refusal : Refusal} (hrefuses : files.refusesWrite location = some refusal)
    (octets : ByteArray) :
    files.fill location octets =
      (files.patch location (octets.extract 0 refusal.taken), .error refusal.error) := by
  simp only [fill, hrefuses]

theorem fill_of_accepted (haccepts : files.refusesWrite location = none) (octets : ByteArray) :
    files.fill location octets = (files.patch location octets, .ok ()) := by
  simp only [fill, haccepts]

theorem fill_error_inv {octets : ByteArray} {filled : FileSystem} {error : IoError}
    (hfill : files.fill location octets = (filled, .error error)) :
    ∃ refusal, files.refusesWrite location = some refusal ∧ error = refusal.error ∧
      filled = files.patch location (octets.extract 0 refusal.taken) := by
  cases hrefuses : files.refusesWrite location with
  | none =>
      rw [fill_of_accepted hrefuses] at hfill
      cases hfill
  | some refusal =>
      rw [fill_of_refused hrefuses] at hfill
      cases hfill
      exact ⟨refusal, rfl, rfl, rfl⟩

theorem fill_ok_inv {octets : ByteArray} {filled : FileSystem}
    (hfill : files.fill location octets = (filled, .ok ())) :
    files.refusesWrite location = none ∧ filled = files.patch location octets := by
  cases hrefuses : files.refusesWrite location with
  | none =>
      rw [fill_of_accepted hrefuses] at hfill
      cases hfill
      exact ⟨rfl, rfl⟩
  | some refusal =>
      rw [fill_of_refused hrefuses] at hfill
      cases hfill

@[simp] theorem overwritten_empty (octets : ByteArray) : overwritten .empty octets = octets := by
  have hrest : ByteArray.empty.extract octets.size ByteArray.empty.size = .empty :=
    ByteArray.extract_eq_empty_iff.mpr (Nat.le_trans (Nat.min_le_right _ _) (Nat.zero_le _))
  rw [overwritten, hrest, ByteArray.append_empty]

@[simp] theorem overwritten_self (octets : ByteArray) : overwritten octets octets = octets := by
  rw [overwritten, ByteArray.extract_eq_empty_iff.mpr (Nat.min_le_left _ _),
    ByteArray.append_empty]

end FileSystem
end CodeFormatting
