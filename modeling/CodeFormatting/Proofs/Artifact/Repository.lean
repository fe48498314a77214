import Mathlib.Data.List.Infix
import Mathlib.Data.Set.Function
import CodeFormatting.Artifact.Repository
import CodeFormatting.Proofs.Path
namespace CodeFormatting

/-! Where a repository keeps the jar of a coordinate. Each part of the coordinate becomes a
directory or a part of the name of the jar, and nothing checks what is in it. -/

namespace Coordinate

def directories (coordinate : Coordinate) : List String :=
  Text.pieces '.' coordinate.group ++ [coordinate.artifact, coordinate.version]

/-- What the path of the jar is joined from. -/
def names (coordinate : Coordinate) : List String :=
  coordinate.directories ++ [coordinate.fileName]

/-- One of the directories begins with a slash, and takes the place of all before it. -/
def Rooted (coordinate : Coordinate) : Prop :=
  ∃ directory ∈ coordinate.directories, Path.isAbsolute ⟨directory⟩ = true

/-- Two dots are one of the names that the slashes make of the coordinate. Behind the first slash
and before the last one they may stand in the classifier, too. -/
def Climbs (coordinate : Coordinate) : Prop :=
  ".." ∈ Text.pieces '/' coordinate.artifact ∨ ".." ∈ Text.pieces '/' coordinate.version ∨
    ∃ classifier ∈ coordinate.classifier, ".." ∈ (Text.pieces '/' classifier).tail.dropLast

instance (coordinate : Coordinate) : Decidable coordinate.Rooted :=
  inferInstanceAs (Decidable (∃ directory ∈ coordinate.directories, _))

instance (coordinate : Coordinate) : Decidable coordinate.Climbs :=
  inferInstanceAs (Decidable (_ ∨ _ ∨ ∃ classifier ∈ coordinate.classifier, _))

variable {coordinate other : Coordinate}

theorem repositoryPath_eq (coordinate : Coordinate) :
    coordinate.repositoryPath = Path.joinAll ⟨""⟩ coordinate.names := by
  rw [repositoryPath, names, directories, List.append_assoc]
  rfl

theorem forall_mem_names {property : String → Prop}
    (hdirectories : ∀ directory ∈ coordinate.directories, property directory)
    (hfile : property coordinate.fileName) : ∀ name ∈ coordinate.names, property name := by
  rw [names, List.forall_mem_append, List.forall_mem_singleton]
  exact ⟨hdirectories, hfile⟩

theorem fileName_eq (coordinate : Coordinate) :
    coordinate.fileName = coordinate.artifact ++ "-" ++
      (coordinate.version ++ (coordinate.classifier.elim "" ("-" ++ ·) ++ ".jar")) := by
  rcases coordinate with ⟨group, artifact, version, _ | classifier⟩ <;>
    simp [fileName, String.append_assoc]

theorem isAbsolute_fileName (coordinate : Coordinate) :
    Path.isAbsolute ⟨coordinate.fileName⟩ = Path.isAbsolute ⟨coordinate.artifact⟩ := by
  rw [fileName_eq, Path.isAbsolute, Path.isAbsolute]
  cases hartifact : coordinate.artifact.toList <;> simp [hartifact]

theorem isAbsolute_repositoryPath_iff :
    coordinate.repositoryPath.isAbsolute = true ↔ coordinate.Rooted := by
  have hempty : Path.isAbsolute ⟨""⟩ = false := rfl
  have hartifact : Path.isAbsolute ⟨coordinate.artifact⟩ = true → coordinate.Rooted := by
    intro habsolute
    exact ⟨coordinate.artifact, by simp [directories], habsolute⟩
  rw [repositoryPath_eq, Path.isAbsolute_joinAll, hempty, Bool.false_or, names, List.any_append,
    List.any_cons, List.any_nil, Bool.or_false, isAbsolute_fileName, Bool.or_eq_true,
    List.any_eq_true]
  exact or_iff_left_of_imp hartifact

theorem parent_mem_fileName_iff :
    ".." ∈ Text.pieces '/' coordinate.fileName ↔
      ".." ∈ (Text.pieces '/' coordinate.artifact).dropLast ∨
        ".." ∈ (Text.pieces '/' coordinate.version).tail.dropLast ∨
          ∃ classifier ∈ coordinate.classifier,
            ".." ∈ (Text.pieces '/' classifier).tail.dropLast := by
  have hdash (front back : String) :=
    Text.mem_tail_pieces_joint_iff (by decide : '/' ∉ "-".toList) (List.mem_singleton.mpr rfl)
      (by decide : '-' ∉ "..".toList) front back
  have hjar (front : String) :=
    Text.mem_tail_pieces_append_iff (by decide : '/' ∉ ".jar".toList) (by decide)
      (by decide : 'j' ∉ "..".toList) front
  rw [fileName_eq, Text.mem_pieces_joint_iff (by decide : '/' ∉ "-".toList)
    (List.mem_singleton.mpr rfl) (by decide : '-' ∉ "..".toList)]
  cases coordinate.classifier with
  | none =>
      rw [Option.elim_none, String.empty_append, hjar]
      simp
  | some classifier =>
      rw [Option.elim_some, String.append_assoc, ← String.append_assoc, hdash, hjar]
      simp

theorem isAbsolute_of_not_rooted (hrelative : ¬ coordinate.Rooted) :
    ∀ name ∈ coordinate.names, Path.isAbsolute ⟨name⟩ = false := by
  have hdirectory : ∀ directory ∈ coordinate.directories, Path.isAbsolute ⟨directory⟩ = false := by
    intro directory hdirectory
    apply eq_false_of_ne_true
    intro habsolute
    exact hrelative ⟨directory, hdirectory, habsolute⟩
  refine forall_mem_names hdirectory ?_
  rw [isAbsolute_fileName]
  exact hdirectory coordinate.artifact (by simp [directories])

/-- The pieces of a group have no dot in them. -/
theorem parent_not_mem_of_mem_group {piece : String}
    (hpiece : piece ∈ Text.pieces '.' coordinate.group) : ".." ∉ Text.pieces '/' piece := by
  intro hparent
  have hdot := Text.mem_of_mem_pieces hparent (by decide : '.' ∈ "..".toList)
  exact Text.not_mem_of_mem_pieces hpiece hdot

theorem parent_mem_repositoryPath_iff (hrelative : ¬ coordinate.Rooted) :
    ".." ∈ Text.pieces '/' coordinate.repositoryPath.text ↔ coordinate.Climbs := by
  rw [repositoryPath_eq, Path.parent_mem_joinAll_iff (isAbsolute_of_not_rooted hrelative)]
  constructor
  · rintro ⟨piece, hpiece, hparent⟩
    simp only [names, directories, List.mem_append, List.mem_cons, List.not_mem_nil,
      or_false] at hpiece
    rcases hpiece with (hgroup | rfl | rfl) | rfl
    · exact absurd hparent (parent_not_mem_of_mem_group hgroup)
    · exact .inl hparent
    · exact .inr (.inl hparent)
    · rcases parent_mem_fileName_iff.mp hparent with hartifact | hversion | hclassifier
      · exact .inl (List.mem_of_mem_dropLast hartifact)
      · exact .inr (.inl (List.mem_of_mem_tail (List.mem_of_mem_dropLast hversion)))
      · exact .inr (.inr hclassifier)
  · rintro (hartifact | hversion | hclassifier)
    · exact ⟨coordinate.artifact, by simp [names, directories], hartifact⟩
    · exact ⟨coordinate.version, by simp [names, directories], hversion⟩
    · exact ⟨coordinate.fileName, by simp [names],
        parent_mem_fileName_iff.mpr (.inr (.inr hclassifier))⟩

/-! Where each part of the coordinate is a name, the directories and the jar are read back from
the path, and the coordinate from these. -/

/-- The pieces of the group and the other parts are one name each. -/
structure Layered (coordinate : Coordinate) : Prop where
  directories : ∀ directory ∈ coordinate.directories, Path.IsName directory
  classifier : ∀ classifier ∈ coordinate.classifier, Path.IsName classifier

instance (coordinate : Coordinate) : Decidable coordinate.Layered :=
  decidable_of_iff
    ((∀ directory ∈ coordinate.directories, Path.IsName directory) ∧
      ∀ classifier ∈ coordinate.classifier, Path.IsName classifier)
    ⟨fun ⟨hdirectories, hclassifier⟩ => ⟨hdirectories, hclassifier⟩,
      fun hlayered => ⟨hlayered.directories, hlayered.classifier⟩⟩

theorem Layered.artifact (hlayered : coordinate.Layered) : Path.IsName coordinate.artifact :=
  hlayered.directories coordinate.artifact (by simp [Coordinate.directories])

theorem Layered.version (hlayered : coordinate.Layered) : Path.IsName coordinate.version :=
  hlayered.directories coordinate.version (by simp [Coordinate.directories])

theorem Layered.fileName (hlayered : coordinate.Layered) : Path.IsName coordinate.fileName := by
  have hclassifier : '/' ∉ (coordinate.classifier.elim "" ("-" ++ ·)).toList := by
    cases hpart : coordinate.classifier with
    | none => simp
    | some classifier => simp [(hlayered.classifier classifier hpart).undivided]
  rw [fileName_eq]
  constructor
  · simp
  · simp [hlayered.artifact.undivided, hlayered.version.undivided, hclassifier]

theorem Layered.isName (hlayered : coordinate.Layered) :
    ∀ name ∈ coordinate.names, Path.IsName name :=
  forall_mem_names hlayered.directories hlayered.fileName

theorem Layered.text_repositoryPath (hlayered : coordinate.Layered) :
    coordinate.repositoryPath.text = "/".intercalate coordinate.names := by
  rw [repositoryPath_eq, Path.text_joinAll_empty hlayered.isName]

theorem Layered.pieces_repositoryPath (hlayered : coordinate.Layered) :
    Text.pieces '/' coordinate.repositoryPath.text = coordinate.names := by
  rw [hlayered.text_repositoryPath]
  exact Text.pieces_intercalate (fun name hname => (hlayered.isName name hname).undivided)
    (by simp [names])

theorem classifier_eq_of_fileName_eq (hartifact : coordinate.artifact = other.artifact)
    (hversion : coordinate.version = other.version)
    (hfile : coordinate.fileName = other.fileName) :
    coordinate.classifier = other.classifier := by
  rw [fileName_eq, fileName_eq, hartifact, hversion, String.append_right_inj,
    String.append_right_inj, String.append_left_inj] at hfile
  cases hleft : coordinate.classifier <;> cases hright : other.classifier <;>
    simp [hleft, hright, ← String.toList_inj] at hfile ⊢
  exact hfile

theorem names_injective : Function.Injective names := by
  intro coordinate other hnames
  obtain ⟨hdirectories, hfile⟩ := List.append_inj' hnames rfl
  obtain ⟨hgroup, hparts⟩ := List.append_inj' hdirectories rfl
  simp only [List.cons.injEq, and_true] at hparts hfile
  have hclassifier := classifier_eq_of_fileName_eq hparts.1 hparts.2 hfile
  have hgroup : coordinate.group = other.group := by
    rw [← Text.intercalate_pieces '.' coordinate.group, hgroup, Text.intercalate_pieces]
  rcases coordinate
  rcases other
  simp_all

theorem injOn_text_repositoryPath :
    Set.InjOn (fun coordinate : Coordinate => coordinate.repositoryPath.text)
      {coordinate | coordinate.Layered} := by
  intro coordinate hlayered other hother htext
  have hcoordinate := Layered.pieces_repositoryPath hlayered
  apply names_injective
  rw [← hcoordinate, ← Layered.pieces_repositoryPath hother]
  exact congrArg (Text.pieces '/') htext

end Coordinate

namespace Repository

/-- The paths that an answer of a repository names. -/
def namedPaths : Except ProvisionError Bundle → List Path
  | .ok bundle => bundle.files
  | .error (.notFound _ path) => [path]
  | .error _ => []

variable {repository : Repository} {coordinate : Coordinate} {machine : Machine}

theorem namedPaths_provision (repository : Repository) (coordinate : Coordinate)
    (machine : Machine) :
    namedPaths (repository.provision coordinate machine) = [repository.jar coordinate] := by
  unfold provision
  split <;> rfl

theorem jar_of_rooted (hrooted : coordinate.Rooted) (repository : Repository) :
    repository.jar coordinate = coordinate.repositoryPath :=
  Path.join_of_isAbsolute _ (Coordinate.isAbsolute_repositoryPath_iff.mpr hrooted)

theorem within_jar_iff (hrelative : ¬ coordinate.Rooted) (repository : Repository) :
    Path.Within repository.root (repository.jar coordinate) ↔ ¬ coordinate.Climbs := by
  rw [← Coordinate.parent_mem_repositoryPath_iff hrelative]
  refine Path.within_join_iff repository.root (eq_false_of_ne_true ?_)
  rwa [Coordinate.isAbsolute_repositoryPath_iff]

theorem not_within_of_rooted (hrooted : coordinate.Rooted)
    (hrelative : repository.root.isAbsolute = false) :
    ¬ Path.Within repository.root (repository.jar coordinate) := by
  rw [jar_of_rooted hrooted]
  exact Path.not_within_of_isAbsolute
    (Coordinate.isAbsolute_repositoryPath_iff.mpr hrooted) hrelative

/-- A repository looks for the jar of a coordinate at one path, which it names whatever it
finds there. The path is below the root of every repository just if no directory of the
coordinate begins with a slash and no two dots lead up. -/
theorem confined_iff (coordinate : Coordinate) :
    (∀ (repository : Repository) (machine : Machine),
      namedPaths (repository.provision coordinate machine) = [repository.jar coordinate] ∧
      ∀ other : Machine, other.isFile (repository.jar coordinate) =
          machine.isFile (repository.jar coordinate) →
        repository.provision coordinate other = repository.provision coordinate machine) ∧
    (¬ coordinate.Rooted → ∀ repository : Repository,
      Path.Within repository.root (repository.jar coordinate) ↔ ¬ coordinate.Climbs) ∧
    (coordinate.Rooted → ∀ repository : Repository,
      repository.jar coordinate = coordinate.repositoryPath) ∧
    ((∀ repository : Repository, Path.Within repository.root (repository.jar coordinate)) ↔
      ¬ coordinate.Rooted ∧ ¬ coordinate.Climbs) := by
  refine ⟨fun repository machine => ⟨namedPaths_provision repository coordinate machine, ?_⟩,
    within_jar_iff, jar_of_rooted, ?_⟩
  · intro other hsame
    rw [provision, provision, hsame]
  · constructor
    · intro hwithin
      have hrelative : ¬ coordinate.Rooted := by
        intro hrooted
        exact not_within_of_rooted hrooted rfl (hwithin ⟨⟨"repository"⟩⟩)
      exact ⟨hrelative, (within_jar_iff hrelative ⟨⟨""⟩⟩).mp (hwithin _)⟩
    · rintro ⟨hrelative, hlevel⟩ repository
      exact (within_jar_iff hrelative repository).mpr hlevel

/-- Slashes and dots that lead nowhere else, and two dots that lead out of every repository. -/
theorem confined_iff_of_dotted :
    (∀ repository : Repository, Path.Within repository.root
      (repository.jar ⟨"a/b.c", "x..", "1/.2", some "../s"⟩)) ∧
    ∀ repository : Repository, ¬ Path.Within repository.root
      (repository.jar ⟨"a", "b", "../../1", none⟩) := by
  refine ⟨(confined_iff _).2.2.2.mpr ⟨by decide, by decide⟩, ?_⟩
  intro repository hwithin
  have hlevel := ((confined_iff _).2.1 (by decide) repository).mp hwithin
  exact hlevel (by decide)

namespace Outside

def shelf : Repository :=
  ⟨⟨"/repository"⟩⟩

def host : Machine where
  files := FileSystem.empty.install ["outside-1.jar"] (.file .empty false)
  directory := ⟨"/"⟩
  home := none
  execute files _ _ := (files, .error .notFound)
  journal := []

end Outside

/-- A jar that is nowhere in the repository is provided where the artifact begins with a slash. -/
theorem not_confined_of_rooted_artifact :
    ¬ ∀ (text : String) (coordinate : Coordinate) (repository : Repository) (machine : Machine)
        (bundle : Bundle), Coordinate.parse text = .ok coordinate →
        repository.provision coordinate machine = .ok bundle →
        ∀ path ∈ bundle.files, Path.Within repository.root path := by
  intro hclaim
  obtain ⟨rest, hcomponents, -⟩ := hclaim "g:/outside:1" ⟨"g", "/outside", "1", none⟩
    Outside.shelf Outside.host ⟨_, [⟨"/outside-1.jar"⟩]⟩ (by decide) rfl
    ⟨"/outside-1.jar"⟩ List.mem_cons_self
  have hroot : Outside.shelf.root.components = [.root, .normal "repository"] := by decide
  have hjar : Path.components ⟨"/outside-1.jar"⟩ = [.root, .normal "outside-1.jar"] := by decide
  rw [hroot, hjar] at hcomponents
  simp at hcomponents

theorem isOk_provision_iff :
    (∃ bundle, repository.provision coordinate machine = .ok bundle) ↔
      machine.isFile (repository.jar coordinate) = true := by
  unfold provision
  split <;> simp_all

theorem notFound_of_provision {missing : Coordinate} {path : Path}
    (hmissing : repository.provision coordinate machine = .error (.notFound missing path)) :
    missing = coordinate ∧ path = repository.jar coordinate := by
  unfold provision at hmissing
  split at hmissing
  · cases hmissing
  · cases hmissing
    exact ⟨rfl, rfl⟩

/-- Below the root the jar is behind the pieces of the group, the artifact and the version, and
no other coordinate has its place. It is provided if it is a file there. Else the answer names
the path at which a file is all that is missing. -/
theorem layout_exact (hlayered : coordinate.Layered) :
    coordinate.repositoryPath.text =
        "/".intercalate (Text.pieces '.' coordinate.group ++
          [coordinate.artifact, coordinate.version, coordinate.artifact ++ "-" ++
            (coordinate.version ++ (coordinate.classifier.elim "" ("-" ++ ·) ++ ".jar"))]) ∧
    (∀ other : Coordinate, other.Layered →
      other.repositoryPath.text = coordinate.repositoryPath.text → other = coordinate) ∧
    ∀ (repository : Repository) (machine : Machine),
      (machine.isFile (repository.root.join coordinate.repositoryPath) = true →
        repository.provision coordinate machine =
          .ok ⟨coordinate, [repository.root.join coordinate.repositoryPath]⟩) ∧
      (machine.isFile (repository.root.join coordinate.repositoryPath) = false →
        repository.provision coordinate machine =
          .error (.notFound coordinate (repository.root.join coordinate.repositoryPath))) ∧
      ∀ (missing : Coordinate) (path : Path),
        repository.provision coordinate machine = .error (.notFound missing path) →
        ∀ other : Machine,
          (∃ bundle, repository.provision coordinate other = .ok bundle) ↔
            other.isFile path = true := by
  refine ⟨?_, ?_, ?_⟩
  · rw [hlayered.text_repositoryPath, Coordinate.names, Coordinate.directories,
      List.append_assoc, Coordinate.fileName_eq]
    rfl
  · intro other hother htext
    exact Coordinate.injOn_text_repositoryPath hother hlayered htext
  · intro repository machine
    refine ⟨fun hfile => if_pos hfile, fun hnone => if_neg (ne_true_of_eq_false hnone), ?_⟩
    intro missing path hmissing other
    obtain ⟨-, rfl⟩ := notFound_of_provision hmissing
    exact isOk_provision_iff

/-- The same name of the jar is made of other parts, and yet no path is the same. -/
theorem layout_exact_of_dashed :
    (⟨"com.facebook", "ktfmt-0", "21.sources", none⟩ : Coordinate).Layered ∧
    (⟨"com.facebook", "ktfmt", "0-21.sources", none⟩ : Coordinate).Layered ∧
    Coordinate.fileName ⟨"com.facebook", "ktfmt-0", "21.sources", none⟩ =
      Coordinate.fileName ⟨"com.facebook", "ktfmt", "0-21.sources", none⟩ ∧
    Coordinate.repositoryPath ⟨"com.facebook", "ktfmt", "0-21.sources", none⟩ ≠
      Coordinate.repositoryPath ⟨"com.facebook", "ktfmt-0", "21.sources", none⟩ := by
  refine ⟨by decide, by decide, by decide, ?_⟩
  intro hpath
  have hsame := (layout_exact (by decide)).2.1 ⟨"com.facebook", "ktfmt", "0-21.sources", none⟩
    (by decide) (congrArg Path.text hpath)
  exact absurd hsame (by decide)

end Repository

end CodeFormatting
