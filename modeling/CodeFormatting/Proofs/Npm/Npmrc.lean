import CodeFormatting.Npm.Resolver
import CodeFormatting.Proofs.FileSystem
namespace CodeFormatting.Npm

/-! The configuration file is looked for, and it is read. Both are about the same file as long
as the files stay as they are. -/

def FirstFile (machine : Machine) (locations : List Path) (path : Path) : Prop :=
  ∃ before after, locations = before ++ path :: after ∧ machine.isFile path = true ∧
    ∀ earlier ∈ before, machine.isFile earlier = false

/-- The octets of the file at a path are those of the text. -/
def Holds (machine : Machine) (path : Path) (text : String) : Prop :=
  ∃ location executable, machine.locate path = .ok location ∧
    machine.files.node location = some (.file text.toUTF8 executable)

section

variable {machine later : Machine} {resolver : Resolver} {locations : List Path} {path : Path}
  {text : String} {error : NpmError} {cause : IoError}

theorem findNpmrc?_eq_some_iff :
    findNpmrc? machine locations = some path ↔ FirstFile machine locations path := by
  rw [findNpmrc?, List.find?_eq_some_iff_append]
  constructor
  · intro hfound
    obtain ⟨hfile, before, after, hlocations, hearlier⟩ := hfound
    exact ⟨before, after, hlocations, hfile, by simpa using hearlier⟩
  · intro hfirst
    obtain ⟨before, after, hlocations, hfile, hearlier⟩ := hfirst
    exact ⟨hfile, before, after, hlocations, by simpa using hearlier⟩

theorem FirstFile.isFile (hfirst : FirstFile machine locations path) :
    machine.isFile path = true := by
  obtain ⟨_, _, _, hfile, _⟩ := hfirst
  exact hfile

theorem npmrcFile?_eq_some_iff :
    resolver.npmrcFile? machine = some path ↔
      resolver.npmrc = some path ∨
        resolver.npmrc = none ∧ FirstFile machine resolver.locations path := by
  rw [Resolver.npmrcFile?]
  cases resolver.npmrc with
  | some npmrc => simp
  | none => simp [findNpmrc?_eq_some_iff]

theorem npmrcFile?_eq_none_iff :
    resolver.npmrcFile? machine = none ↔
      resolver.npmrc = none ∧
        ∀ location ∈ resolver.locations, machine.isFile location = false := by
  rw [Resolver.npmrcFile?]
  cases resolver.npmrc with
  | some npmrc => simp
  | none => simp [findNpmrc?]

theorem npmrcContent_congr (hfiles : later.files = machine.files)
    (hdirectory : later.directory = machine.directory) (resolver : Resolver) :
    resolver.npmrcContent later = resolver.npmrcContent machine := by
  have hlocation : later.location = machine.location := by
    rw [Machine.location, hdirectory, Machine.location]
  have hfile : later.isFile = machine.isFile := by
    funext path
    rw [Machine.isFile, hfiles, hlocation, Machine.isFile]
  simp only [Resolver.npmrcContent, Resolver.npmrcFile?, findNpmrc?, hfile, Machine.readText,
    hfiles, hlocation]

/-! What is read is what the file holds. If no text can be read the answer names the file and
says why. -/

theorem npmrcContent_eq_ok_none_iff :
    resolver.npmrcContent machine = .ok none ↔ resolver.npmrcFile? machine = none := by
  rw [Resolver.npmrcContent]
  cases resolver.npmrcFile? machine with
  | none => simp
  | some path => cases hread : machine.readText path <;> simp [hread]

theorem npmrcContent_eq_ok_some_iff_readText :
    resolver.npmrcContent machine = .ok (some text) ↔
      ∃ path, resolver.npmrcFile? machine = some path ∧ machine.readText path = .ok text := by
  rw [Resolver.npmrcContent]
  cases resolver.npmrcFile? machine with
  | none => simp
  | some path => cases hread : machine.readText path <;> simp [hread]

theorem npmrcContent_eq_error_iff_readText :
    resolver.npmrcContent machine = .error error ↔
      ∃ path cause, resolver.npmrcFile? machine = some path ∧
        machine.readText path = .error cause ∧ error = .readNpmrc path cause := by
  rw [Resolver.npmrcContent]
  cases resolver.npmrcFile? machine with
  | none => simp
  | some path => cases hread : machine.readText path <;> simp [hread, eq_comm]

section Permitted

variable (hpermitted : ∀ location, machine.files.refusesRead location = none)

include hpermitted

theorem readText_eq_ok_iff_holds : machine.readText path = .ok text ↔ Holds machine path text := by
  rw [Machine.readText, FileSystem.readText_eq_ok_iff, Holds]
  simp only [hpermitted, and_true, Machine.locate]

theorem npmrcContent_eq_ok_some_iff :
    resolver.npmrcContent machine = .ok (some text) ↔
      ∃ path, resolver.npmrcFile? machine = some path ∧ Holds machine path text := by
  simp only [npmrcContent_eq_ok_some_iff_readText, readText_eq_ok_iff_holds hpermitted]

theorem npmrcContent_eq_error_iff :
    resolver.npmrcContent machine = .error error ↔
      ∃ path cause, resolver.npmrcFile? machine = some path ∧
        machine.files.Unreadable machine.location path cause ∧
          error = .readNpmrc path cause := by
  simp only [npmrcContent_eq_error_iff_readText, Machine.readText,
    FileSystem.readText_eq_error_iff hpermitted]

/-- A file that was looked for is there, so all that can be wrong with it is what it holds. -/
theorem eq_invalidText_of_searched (hnpmrc : resolver.npmrc = none)
    (hcontent : resolver.npmrcContent machine = .error (.readNpmrc path cause)) :
    cause = .invalidText ∧ machine.isFile path = true := by
  obtain ⟨path, cause, hfile, hunreadable, hsame⟩ :=
    (npmrcContent_eq_error_iff hpermitted).mp hcontent
  cases hsame
  rcases npmrcFile?_eq_some_iff.mp hfile with hset | ⟨-, hfirst⟩
  · cases hnpmrc.symm.trans hset
  · exact ⟨hunreadable.eq_invalidText hfirst.isFile, hfirst.isFile⟩

end Permitted

end

/-! Two calls between which the files do not change, on a machine where every file can be
read. -/

theorem npmrc_agreement {machine later : Machine} (hfiles : later.files = machine.files)
    (hdirectory : later.directory = machine.directory)
    (hpermitted : ∀ location, machine.files.refusesRead location = none) (resolver : Resolver) :
    (∀ path, resolver.npmrcFile? machine = some path ↔
      resolver.npmrc = some path ∨
        resolver.npmrc = none ∧ FirstFile machine resolver.locations path) ∧
    (resolver.npmrcFile? machine = none ↔
      resolver.npmrc = none ∧
        ∀ location ∈ resolver.locations, machine.isFile location = false) ∧
    (resolver.npmrcContent later = .ok none ↔ resolver.npmrcFile? machine = none) ∧
    (∀ text, resolver.npmrcContent later = .ok (some text) ↔
      ∃ path, resolver.npmrcFile? machine = some path ∧ Holds machine path text) ∧
    (∀ error, resolver.npmrcContent later = .error error ↔
      ∃ path cause, resolver.npmrcFile? machine = some path ∧
        machine.files.Unreadable machine.location path cause ∧
          error = .readNpmrc path cause) ∧
    (resolver.npmrc = none → ∀ path cause,
      resolver.npmrcContent later = .error (.readNpmrc path cause) →
        cause = .invalidText ∧ machine.isFile path = true) := by
  rw [npmrcContent_congr hfiles hdirectory]
  refine ⟨?_, npmrcFile?_eq_none_iff, npmrcContent_eq_ok_none_iff, ?_, ?_, ?_⟩
  · intro path
    exact npmrcFile?_eq_some_iff
  · intro text
    exact npmrcContent_eq_ok_some_iff hpermitted
  · intro error
    exact npmrcContent_eq_error_iff hpermitted
  · intro hnpmrc path cause
    exact eq_invalidText_of_searched hpermitted hnpmrc

/-! The first of the usual locations is a directory and the second one is no text. -/

namespace Configured

def environment : Environment :=
  .ofList [("HOME", "/home"), ("NPM_CONFIG_USERCONFIG", "/user")]

def resolver : Resolver :=
  ⟨environment, none, none, defaultLocations environment none ⟨"/project"⟩⟩

def host : Machine where
  files := ((FileSystem.empty.install [".npmrc", "project"] .directory).install ["user"]
    (.file ⟨#[0xff]⟩ false)).install [".npmrc", "home"] (.file .empty false)
  directory := ⟨"/"⟩
  home := none
  execute files _ _ := (files, .error .notFound)
  journal := []

theorem firstFile : FirstFile host resolver.locations ⟨"/user"⟩ := by
  refine ⟨[⟨"/project/.npmrc"⟩], [⟨"/home/.npmrc"⟩], by decide, rfl, ?_⟩
  rw [List.forall_mem_singleton]
  rfl

theorem toUTF8_ne (text : String) : text.toUTF8 ≠ ⟨#[0xff]⟩ := by
  intro htext
  have hgarbled : String.fromUTF8? ⟨#[0xff]⟩ = none := by decide
  cases hgarbled.symm.trans (FileSystem.fromUTF8?_eq_some_iff.mpr htext)

end Configured

theorem npmrc_agreement_of_garbled :
    Configured.resolver.npmrcFile? Configured.host = some ⟨"/user"⟩ ∧
      Configured.resolver.npmrcContent Configured.host =
        .error (.readNpmrc ⟨"/user"⟩ .invalidText) := by
  obtain ⟨hfound, -, -, -, herror, -⟩ :=
    @npmrc_agreement Configured.host Configured.host rfl rfl (fun _ => rfl) Configured.resolver
  have hfile := (hfound ⟨"/user"⟩).mpr (.inr ⟨rfl, Configured.firstFile⟩)
  have hlocate : Configured.host.locate ⟨"/user"⟩ = .ok ["user"] := rfl
  refine ⟨hfile, (herror _).mpr ⟨⟨"/user"⟩, .invalidText, hfile, ?_, rfl⟩⟩
  exact .garbled hlocate rfl Configured.toUTF8_ne

end CodeFormatting.Npm
