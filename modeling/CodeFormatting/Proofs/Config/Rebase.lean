import Mathlib.Data.List.Forall2
import CodeFormatting.Proofs.Config.Load
import CodeFormatting.Proofs.FileSystem
import CodeFormatting.Proofs.Path
namespace CodeFormatting

/-! Loading a configuration puts the paths in it after the directory of its file, and does nothing
else to it. Any file that can be read has such a directory. -/

/-- Where a path leads that is meant from a directory. -/
inductive Path.Moved (base : Path) : Path → Path → Prop
  | kept {path : Path} (habsolute : path.isAbsolute = true) : Moved base path path
  | joined {path : Path} (hrelative : path.isAbsolute = false) : Moved base path (base.join path)

theorem Path.moved_join (base path : Path) : Moved base path (base.join path) := by
  cases habsolute : path.isAbsolute with
  | true =>
      rw [join_of_isAbsolute base habsolute]
      exact .kept habsolute
  | false => exact .joined habsolute

theorem FileSystem.exists_parent_of_readText {files : FileSystem} {directory : Location}
    {path : Path} {text : String} (hread : files.readText directory path = .ok text) :
    ∃ base, path.parent = some base := by
  obtain ⟨location, executable, hlocate, hfile, -⟩ := readText_eq_ok_iff.mp hread
  cases hparent : path.parent with
  | some base => exact ⟨base, rfl⟩
  | none =>
      -- such a path leads to a directory, which has no text
      have htrivial := Path.named_eq_nil_iff.mp (Path.named_of_parent hparent)
      simp only [locate] at hlocate
      split at hlocate
      · cases hlocate
      · split at hlocate
        · cases hlocate
        · split at hlocate
          · cases hlocate
          · obtain ⟨rfl, hdirectory⟩ :=
              follow_of_trivial htrivial (Text.pieces_ne_nil '/' path.text) hlocate
            rw [hfile] at hdirectory
            cases hdirectory

namespace Config

variable {machine : Machine} {path base directory : Path} {text : String}
  {config document : Config} {error : ConfigError}

/-- The same configuration as another but for its paths, which are meant from a directory. -/
structure Rebased (base : Path) (document config : Config) : Prop where
  version : config.ktfmt.version = document.ktfmt.version
  style : config.ktfmt.style = document.ktfmt.style
  repository : Option.Rel base.Moved document.ktfmt.repository config.ktfmt.repository
  java : Option.Rel base.Moved document.ktfmt.java config.ktfmt.java
  executable : Option.Rel base.Moved document.npm.executable config.npm.executable
  npmrc : Option.Rel base.Moved document.npm.npmrc config.npm.npmrc
  npmrcLocations :
    List.Forall₂ base.Moved document.npm.npmrcLocations config.npm.npmrcLocations

theorem moved_map (base : Path) (path? : Option Path) :
    Option.Rel base.Moved path? (path?.map base.join) := by
  cases path? with
  | none => exact .none
  | some path => exact .some (Path.moved_join base path)

theorem rebased_rebase (base : Path) (config : Config) :
    Rebased base config (config.rebase base) where
  version := rfl
  style := rfl
  repository := moved_map base _
  java := moved_map base _
  executable := moved_map base _
  npmrc := moved_map base _
  npmrcLocations := by
    refine List.forall₂_map_right_iff.mpr (List.forall₂_same.mpr ?_)
    exact fun path _ => Path.moved_join base path

/-- All the paths in a configuration. -/
def paths (config : Config) : List Path :=
  config.ktfmt.repository.toList ++ config.ktfmt.java.toList ++ config.npm.executable.toList ++
    config.npm.npmrc.toList ++ config.npm.npmrcLocations

theorem paths_rebase (base : Path) (config : Config) :
    (config.rebase base).paths = config.paths.map base.join := by
  simp only [paths, rebase, Option.toList_map, List.map_append]

theorem rebase_of_isAbsolute (base : Path)
    (habsolute : ∀ path ∈ config.paths, path.isAbsolute = true) : config.rebase base = config := by
  rcases config with ⟨⟨version, style, repository, java⟩, ⟨executable, npmrc, locations⟩⟩
  simp only [paths, List.forall_mem_append, Option.mem_toList] at habsolute
  obtain ⟨⟨⟨⟨hrepository, hjava⟩, hexecutable⟩, hnpmrc⟩, hlocations⟩ := habsolute
  have hkept {path? : Option Path} (habsolute : ∀ path ∈ path?, path.isAbsolute = true) :
      path?.map base.join = path? := by
    rw [Option.map_congr fun path hpath => Path.join_of_isAbsolute base (habsolute path hpath)]
    exact Option.map_id'
  have hkeptAll : locations.map base.join = locations := by
    rw [List.map_congr_left fun path hpath => Path.join_of_isAbsolute base (hlocations path hpath)]
    exact List.map_id' locations
  simp only [rebase, hkept hrepository, hkept hjava, hkept hexecutable, hkept hnpmrc, hkeptAll]

theorem load_of_readText (hread : machine.readText path = .ok text)
    (hparse : parse text = .ok document) :
    ∃ base, path.parent = some base ∧ load machine path = .ok (document.rebase base) := by
  obtain ⟨base, hparent⟩ := FileSystem.exists_parent_of_readText hread
  refine ⟨base, hparent, ?_⟩
  simp only [load, hread, hparse, hparent]

theorem exists_rebase_of_load (hload : load machine path = .ok config) :
    ∃ base, ∃ document : Config, path.parent = some base ∧ config = document.rebase base := by
  obtain ⟨text, document, hread, hparse, -⟩ := exists_parse_of_load hload
  obtain ⟨base, hparent, hother⟩ := load_of_readText hread hparse
  rw [hload] at hother
  cases hother
  exact ⟨base, document, hparent, rfl⟩

/-- What is found in an absolute directory is meant from there or from wherever it says. -/
theorem isAbsolute_of_discover (habsolute : directory.isAbsolute = true)
    (hdiscover : discover machine directory = .ok config) :
    ∀ path ∈ config.paths, path.isAbsolute = true := by
  simp only [discover] at hdiscover
  split at hdiscover
  · obtain ⟨base, document, hparent, rfl⟩ := exists_rebase_of_load hdiscover
    have hbase : base.isAbsolute = true := by
      refine Path.isAbsolute_of_parent ?_ hparent
      rw [Path.isAbsolute_join, habsolute, Bool.true_or]
    rw [paths_rebase]
    intro path hpath
    obtain ⟨written, -, rfl⟩ := List.mem_map.mp hpath
    rw [Path.isAbsolute_join, hbase, Bool.true_or]
  · cases hdiscover
    exact fun path hpath => absurd hpath List.not_mem_nil

/-- A file that cannot be read as a text is reported with its path, and a text that is refused as
it is by itself. Otherwise the configuration of the text is obtained, with its paths meant from the
directory of the file. A directory has the configuration in its file, or the default one, and what
an absolute directory has is not changed by any further directory. -/
theorem rebased_of_load (machine : Machine) (path directory : Path) :
    (∀ cause, machine.readText path = .error cause →
      load machine path = .error (.read path cause)) ∧
    (∀ text error, machine.readText path = .ok text → parse text = .error error →
      load machine path = .error error) ∧
    (∀ text document, machine.readText path = .ok text → parse text = .ok document →
      ∃ base config, path.parent = some base ∧ load machine path = .ok config ∧
        Rebased base document config) ∧
    (machine.isFile (directory.join ⟨"stylist.toml"⟩) = true →
      discover machine directory = load machine (directory.join ⟨"stylist.toml"⟩)) ∧
    (machine.isFile (directory.join ⟨"stylist.toml"⟩) = false →
      discover machine directory = .ok {}) ∧
    ∀ config, directory.isAbsolute = true → discover machine directory = .ok config →
      (∀ held ∈ config.paths, held.isAbsolute = true) ∧
        ∀ base, config.rebase base = config := by
  refine ⟨?_, ?_, ?_, ?_, ?_, ?_⟩
  · intro cause hread
    simp only [load, hread]
  · intro text error hread hparse
    simp only [load, hread, hparse]
  · intro text document hread hparse
    obtain ⟨base, hparent, hload⟩ := load_of_readText hread hparse
    exact ⟨base, document.rebase base, hparent, hload, rebased_rebase base document⟩
  · intro hfile
    simp only [discover, fileName, hfile, if_true]
  · intro hfile
    simp [discover, fileName, hfile]
  · intro config habsolute hdiscover
    have hpaths := isAbsolute_of_discover habsolute hdiscover
    exact ⟨hpaths, fun base => rebase_of_isAbsolute base hpaths⟩

/-- A machine with a single file. -/
def documented (text : String) : Machine where
  files := FileSystem.empty.install ["stylist.toml", "work"] (.file text.toUTF8 false)
  directory := ⟨"/"⟩
  home := none
  execute := fun files _ _ => (files, .error .notFound)
  journal := []

theorem rebased_of_load_of_relative :
    ∃ base config, Path.parent ⟨"/work/stylist.toml"⟩ = some base ∧
      discover (documented "npm.npmrc = 'ci'\n") ⟨"/work"⟩ = .ok config ∧
      Rebased base { npm := { npmrc := some ⟨"ci"⟩ } } config ∧
      ∀ other, config.rebase other = config := by
  have hread : (documented "npm.npmrc = 'ci'\n").readText ⟨"/work/stylist.toml"⟩ =
      .ok "npm.npmrc = 'ci'\n" :=
    FileSystem.readText_eq_ok_iff.mpr ⟨["stylist.toml", "work"], false, by decide, rfl, rfl⟩
  have hparse : parse "npm.npmrc = 'ci'\n" = .ok { npm := { npmrc := some ⟨"ci"⟩ } } := by
    decide +kernel
  obtain ⟨-, -, hload, hdiscover, -, hpaths⟩ :=
    rebased_of_load (documented "npm.npmrc = 'ci'\n") ⟨"/work/stylist.toml"⟩ ⟨"/work"⟩
  obtain ⟨base, config, hparent, hload, hrebased⟩ := hload _ _ hread hparse
  have hfound := (hdiscover (by decide)).trans hload
  exact ⟨base, config, hparent, hfound, hrebased, (hpaths config (by decide) hfound).2⟩

end Config

end CodeFormatting
