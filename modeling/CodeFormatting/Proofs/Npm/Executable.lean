import CodeFormatting.Npm.Resolver
import CodeFormatting.Proofs.Environment
import CodeFormatting.Proofs.Warnings
namespace CodeFormatting.Npm

open SearchPath (Search)

/-! The places where npm is looked for, in their order. A place offers at most one program; how
the last place looks for its program is left open. -/

inductive Place
  | named
  | directory (name : String)
  | searchPath
  deriving DecidableEq, Repr

inductive Offers (search : Search) (environment : Environment) (machine : Machine) :
    Place → Path → Prop
  | named {text : String} (hset : environment.Shows executableVariable text)
      (hfile : machine.isFile ⟨text⟩ = true) :
      Offers search environment machine .named ⟨text⟩
  | directory {name directory : String} (hset : environment.Shows name directory)
      (hfile : machine.isFile (npmIn directory) = true) :
      Offers search environment machine (.directory name) (npmIn directory)
  | searchPath {npm : Path}
      (hfound : search (environment.getVisible? "PATH") machine.home machine.directory
        machine.files = some npm) :
      Offers search environment machine .searchPath npm

def FirstOffer (search : Search) (environment : Environment) (machine : Machine)
    (places : List Place) (npm : Path) : Prop :=
  ∃ before place after, places = before ++ place :: after ∧
    Offers search environment machine place npm ∧
      ∀ earlier ∈ before, ∀ other, ¬ Offers search environment machine earlier other

namespace Place

def all : List Place :=
  [.named, .directory binVariable, .directory symlinkVariable, .searchPath]

def find (search : Search) (environment : Environment) : Place → Action (Option Path)
  | .named => namedExecutable environment
  | .directory name => inDirectory environment name
  | .searchPath => onSearchPath search environment

/-- The warnings of a place: only a program that is named has to be there. -/
def warnings (environment : Environment) (machine : Machine) : Place → List Log.Record
  | .named =>
    ((environment.getVisible? executableVariable).filter fun text =>
      !machine.isFile ⟨text⟩).toList.map fun text =>
        ⟨.warn, executableTarget, missingExecutable text⟩
  | .directory _ => []
  | .searchPath => []

end Place

theorem findExecutableBy_eq (search : Search) (environment : Environment) :
    findExecutableBy search environment =
      firstFound (Place.all.map (Place.find search environment)) := rfl

section

variable {search : Search} {environment : Environment} {machine : Machine}
  {place : Place} {places rest : List Place} {npm other : Path} {text : String}

/-! Which place is the first that offers something. -/

theorem offers_written_iff {records : List Log.Record} :
    Offers search environment (machine.written records) place npm ↔
      Offers search environment machine place npm := by
  constructor <;> intro hoffers <;> cases hoffers <;> constructor <;> assumption

theorem firstOffer_written_iff {records : List Log.Record} :
    FirstOffer search environment (machine.written records) places npm ↔
      FirstOffer search environment machine places npm := by
  simp only [FirstOffer, offers_written_iff]

theorem not_firstOffer_nil : ¬ FirstOffer search environment machine [] npm := by
  simp [FirstOffer]

theorem firstOffer_cons_iff :
    FirstOffer search environment machine (place :: rest) npm ↔
      Offers search environment machine place npm ∨
        (∀ other, ¬ Offers search environment machine place other) ∧
          FirstOffer search environment machine rest npm := by
  constructor
  · intro hfirst
    obtain ⟨before, chosen, after, hplaces, hoffers, hearlier⟩ := hfirst
    cases before with
    | nil =>
        obtain ⟨rfl, -⟩ := List.cons.inj hplaces
        exact .inl hoffers
    | cons head before =>
        obtain ⟨rfl, hrest⟩ := List.cons.inj hplaces
        obtain ⟨hhead, hbefore⟩ := List.forall_mem_cons.mp hearlier
        exact .inr ⟨hhead, before, chosen, after, hrest, hoffers, hbefore⟩
  · intro hcases
    rcases hcases with hoffers | ⟨hhead, before, chosen, after, rfl, hoffers, hbefore⟩
    · exact ⟨[], place, rest, rfl, hoffers, nofun⟩
    · refine ⟨place :: before, chosen, after, rfl, hoffers, ?_⟩
      exact List.forall_mem_cons.mpr ⟨hhead, hbefore⟩

theorem exists_firstOffer_iff :
    (∃ npm, FirstOffer search environment machine places npm) ↔
      ∃ place ∈ places, ∃ npm, Offers search environment machine place npm := by
  induction places with
  | nil => simp [not_firstOffer_nil]
  | cons place rest induction =>
      simp only [firstOffer_cons_iff, exists_or, exists_and_left, induction,
        List.exists_mem_cons_iff]
      by_cases hplace : ∃ npm, Offers search environment machine place npm
      · simp [hplace]
      · simp [not_exists.mp hplace]

theorem offers_named_iff :
    Offers search environment machine .named npm ↔
      ∃ text, environment.getVisible? executableVariable = some text ∧
        machine.isFile ⟨text⟩ = true ∧ ⟨text⟩ = npm := by
  simp only [Environment.getVisible?_eq_some_iff]
  constructor
  · intro hoffers
    cases hoffers with
    | named hset hfile => exact ⟨_, hset, hfile, rfl⟩
  · intro hnamed
    obtain ⟨text, hset, hfile, rfl⟩ := hnamed
    exact .named hset hfile

theorem offers_directory_iff {name : String} :
    Offers search environment machine (.directory name) npm ↔
      ∃ directory, environment.getVisible? name = some directory ∧
        machine.isFile (npmIn directory) = true ∧ npmIn directory = npm := by
  simp only [Environment.getVisible?_eq_some_iff]
  constructor
  · intro hoffers
    cases hoffers with
    | directory hset hfile => exact ⟨_, hset, hfile, rfl⟩
  · intro hdirectory
    obtain ⟨directory, hset, hfile, rfl⟩ := hdirectory
    exact .directory hset hfile

theorem offers_searchPath_iff :
    Offers search environment machine .searchPath npm ↔
      search.on machine environment = some npm := by
  constructor
  · intro hoffers
    cases hoffers with
    | searchPath hfound => exact hfound
  · exact .searchPath

/-! One place is searched after the other. -/

theorem exists_writes_find (search : Search) (environment : Environment) (place : Place)
    (machine : Machine) :
    ∃ found records, Writes (place.find search environment) machine found records ∧
      (∀ npm, found = some npm ↔ Offers search environment machine place npm) ∧
        Log.warnings records = place.warnings environment machine := by
  cases place with
  | named =>
      simp only [offers_named_iff, Place.find, namedExecutable, Place.warnings]
      cases environment.getVisible? executableVariable with
      | none => exact ⟨none, [], writes_pure .., by simp, rfl⟩
      | some text =>
          cases hfile : machine.isFile ⟨text⟩ with
          | true =>
              simp only [writes_get_iff, hfile, if_true]
              exact ⟨_, _, writes_log_pure .., by simp [hfile], by simp [hfile, Log.warnings]⟩
          | false =>
              simp only [writes_get_iff, hfile, Bool.false_eq_true, if_false]
              exact ⟨_, _, writes_log_pure .., by simp [hfile],
                by simp [Option.filter, hfile, Log.warnings]⟩
  | directory name =>
      simp only [offers_directory_iff, Place.find, inDirectory, Place.warnings]
      cases environment.getVisible? name with
      | none => exact ⟨none, [], writes_pure .., by simp, rfl⟩
      | some directory =>
          cases hfile : machine.isFile (npmIn directory) with
          | true =>
              simp only [writes_get_iff, hfile, if_true]
              exact ⟨_, _, writes_log_pure .., by simp [hfile], by simp [Log.warnings]⟩
          | false =>
              simp only [writes_get_iff, hfile, Bool.false_eq_true, if_false]
              exact ⟨_, _, writes_log_pure .., by simp [hfile], by simp [Log.warnings]⟩
  | searchPath =>
      simp only [offers_searchPath_iff, Place.find, onSearchPath, Place.warnings]
      cases hfound : search.on machine environment with
      | none =>
          simp only [writes_get_iff, hfound]
          exact ⟨_, _, writes_log_pure .., by simp, by simp [Log.warnings]⟩
      | some npm =>
          simp only [writes_get_iff, hfound]
          exact ⟨_, _, writes_log_pure .., by simp, by simp [Log.warnings]⟩

/-- Places are searched from the front, and at least one unless there is none. -/
theorem exists_writes_firstFound (search : Search) (environment : Environment)
    (places : List Place) (machine : Machine) :
    ∃ found records,
      Writes (firstFound (places.map (Place.find search environment))) machine found records ∧
        (∀ npm, found = some npm ↔ FirstOffer search environment machine places npm) ∧
          ∃ searched unsearched, places = searched ++ unsearched ∧ (searched = [] → places = []) ∧
            Log.warnings records = searched.flatMap (Place.warnings environment machine) := by
  induction places generalizing machine with
  | nil =>
      refine ⟨none, [], writes_pure .., ?_, [], [], rfl, id, rfl⟩
      simp [not_firstOffer_nil]
  | cons place rest induction =>
      obtain ⟨found, first, hplace, hoffers, hfirst⟩ :=
        exists_writes_find search environment place machine
      cases found with
      | some npm =>
          refine ⟨some npm, first ++ [], hplace.bind (writes_pure ..), ?_, [place], rest, rfl,
            nofun, by simp [hfirst]⟩
          have hnpm : Offers search environment machine place npm := (hoffers npm).mp rfl
          intro other
          rw [hoffers, firstOffer_cons_iff]
          constructor
          · exact .inl
          · intro hcases
            rcases hcases with hother | ⟨hnone, -⟩
            · exact hother
            · exact absurd hnpm (hnone npm)
      | none =>
          obtain ⟨found, second, hrest, hfound, searched, unsearched, hplaces, -, hsecond⟩ :=
            induction (machine.written first)
          refine ⟨found, first ++ second, hplace.bind hrest, ?_, place :: searched, unsearched,
            by rw [hplaces, List.cons_append], nofun, ?_⟩
          · have hnone (other : Path) : ¬ Offers search environment machine place other :=
              fun hother => nomatch (hoffers other).mpr hother
            intro npm
            rw [hfound, firstOffer_written_iff, firstOffer_cons_iff]
            simp [hnone]
          · rw [Log.warnings_append, hfirst, hsecond, List.flatMap_cons]
            rfl

/-- Only the first place gives a warning, and it is always searched. -/
theorem exists_writes_findExecutableBy (search : Search) (environment : Environment)
    (machine : Machine) :
    ∃ found records, Writes (findExecutableBy search environment) machine found records ∧
      (∀ npm, found = some npm ↔ FirstOffer search environment machine Place.all npm) ∧
        Log.warnings records = Place.named.warnings environment machine := by
  obtain ⟨found, records, hwrites, hfound, searched, unsearched, hplaces, hsome, hwarnings⟩ :=
    exists_writes_firstFound search environment Place.all machine
  rw [← findExecutableBy_eq] at hwrites
  refine ⟨found, records, hwrites, hfound, ?_⟩
  cases searched with
  | nil => exact nomatch hsome rfl
  | cons place searched =>
      rw [List.cons_append] at hplaces
      obtain ⟨rfl, hrest⟩ := List.cons.inj hplaces
      rw [hwarnings, List.flatMap_cons, List.append_right_eq_self, List.flatMap_eq_nil_iff]
      intro later hlater
      have hmem : later ∈ searched ++ unsearched := List.mem_append_left _ hlater
      rw [← hrest] at hmem
      simp only [List.mem_cons, List.not_mem_nil, or_false] at hmem
      rcases hmem with rfl | rfl | rfl <;> rfl

theorem warnings_named_of_dangling (hset : environment.Shows executableVariable text)
    (habsent : machine.isFile ⟨text⟩ = false) :
    Place.named.warnings environment machine =
      [⟨.warn, executableTarget, missingExecutable text⟩] := by
  simp [Place.warnings, Environment.getVisible?_eq_some_iff.mpr hset, habsent]

theorem warnings_named_of_present
    (hpresent : ∀ text, environment.Shows executableVariable text → machine.isFile ⟨text⟩ = true) :
    Place.named.warnings environment machine = [] := by
  rw [Place.warnings]
  cases hset : environment.getVisible? executableVariable with
  | none => rfl
  | some text => simp [hpresent text (Environment.getVisible?_eq_some_iff.mp hset)]

/-- All that is looked up in an environment is looked up unless it is blank. -/
theorem findExecutableBy_congr {other : Environment}
    (hsame : ∀ name, environment.getVisible? name = other.getVisible? name) :
    findExecutableBy search environment = findExecutableBy search other := by
  simp only [findExecutableBy, namedExecutable, inDirectory, onSearchPath, Search.on,
    SearchPath.refusal, hsame]

end

/-! An executable that is set is the answer, whatever there is on the machine. Another one is
looked for, and it is the first that a place offers. -/

theorem executable_resolution (search : Search) (resolver : Resolver) (machine : Machine) :
    (∀ npm, resolver.executable = some npm →
      resolver.resolveExecutableBy search machine =
        (.ok npm, machine.written
          [⟨.debug, resolverTarget, "Using explicit npm executable " ++ npm.text⟩])) ∧
    (resolver.executable = none →
      ∃ answer records,
        resolver.resolveExecutableBy search machine = (answer, machine.written records) ∧
        (∀ npm, answer = .ok npm ↔
          FirstOffer search resolver.environment machine Place.all npm) ∧
        (∀ error, answer = .error error ↔ error = .executableNotFound ∧
          ∀ place ∈ Place.all, ∀ npm, ¬ Offers search resolver.environment machine place npm) ∧
        (∀ text, resolver.environment.Shows executableVariable text →
          machine.isFile ⟨text⟩ = false →
            Log.warnings records = [⟨.warn, executableTarget, missingExecutable text⟩]) ∧
        ((∀ text, resolver.environment.Shows executableVariable text →
          machine.isFile ⟨text⟩ = true) → Log.warnings records = [])) ∧
    ∀ name blank, Text.isBlankText blank = true →
      ({ resolver with environment := resolver.environment.set name blank }
          : Resolver).resolveExecutableBy search machine =
        ({ resolver with environment := resolver.environment.remove name }
          : Resolver).resolveExecutableBy search machine := by
  refine ⟨?_, ?_, ?_⟩
  · intro npm hnpm
    simp only [Resolver.resolveExecutableBy, hnpm]
    exact writes_log_pure ..
  · intro hnone
    obtain ⟨found, records, hwrites, hfound, hwarnings⟩ :=
      exists_writes_findExecutableBy search resolver.environment machine
    refine ⟨found.elim (.error .executableNotFound) .ok, records ++ [], ?_, ?_, ?_, ?_, ?_⟩
    · simp only [Resolver.resolveExecutableBy, hnone]
      refine hwrites.bind ?_
      cases found <;> exact writes_pure ..
    · intro npm
      rw [← hfound]
      cases found <;> simp
    · intro error
      have hnone : found = none ↔
          ∀ place ∈ Place.all, ∀ npm,
            ¬ Offers search resolver.environment machine place npm := by
        simp only [Option.eq_none_iff_forall_ne_some, ne_eq, hfound]
        simpa using not_congr exists_firstOffer_iff
      rw [← hnone]
      cases found <;> simp [eq_comm]
    · intro text hset habsent
      rw [List.append_nil, hwarnings, warnings_named_of_dangling hset habsent]
    · intro hpresent
      rw [List.append_nil, hwarnings, warnings_named_of_present hpresent]
  · intro name blank hblank
    simp only [Resolver.resolveExecutableBy]
    rw [findExecutableBy_congr (Environment.getVisible?_set_of_blank hblank _ name)]

/-! The named program is gone, the first directory is blank, and the second one has npm. -/

namespace Managed

def environment : Environment :=
  .ofList [(executableVariable, "/gone"), (binVariable, " "), (symlinkVariable, "/nvm")]

def resolver : Resolver :=
  ⟨environment, none, none, []⟩

def host : Machine where
  files := FileSystem.empty.install ["npm", "nvm"] (.file .empty true)
  directory := ⟨"/"⟩
  home := none
  execute files _ _ := (files, .error .notFound)
  journal := []

theorem not_offers_named (search : Search) (npm : Path) :
    ¬ Offers search environment host .named npm := by
  have hset : environment.getVisible? executableVariable = some "/gone" := by decide
  have habsent : host.isFile ⟨"/gone"⟩ = false := rfl
  simp [offers_named_iff, hset, habsent]

theorem not_offers_binaries (search : Search) (npm : Path) :
    ¬ Offers search environment host (.directory binVariable) npm := by
  have hblank : environment.getVisible? binVariable = none := by decide
  simp [offers_directory_iff, hblank]

end Managed

theorem executable_resolution_of_dangling :
    ∃ records, Managed.resolver.resolveExecutableBy (fun _ _ _ _ => none) Managed.host =
        (.ok ⟨"/nvm/npm"⟩, Managed.host.written records) ∧
      Log.warnings records = [⟨.warn, executableTarget, missingExecutable "/gone"⟩] := by
  obtain ⟨-, hsearched, -⟩ :=
    executable_resolution (fun _ _ _ _ => none) Managed.resolver Managed.host
  obtain ⟨answer, records, hrun, hfound, -, hdangling, -⟩ := hsearched rfl
  have hoffers : Offers (fun _ _ _ _ => none) Managed.environment Managed.host
      (.directory symlinkVariable) (npmIn "/nvm") := .directory ⟨by decide, by decide⟩ rfl
  have hanswer : answer = .ok ⟨"/nvm/npm"⟩ := by
    apply (hfound _).mpr
    refine ⟨[.named, .directory binVariable], _, [.searchPath], rfl, hoffers, ?_⟩
    simp only [List.forall_mem_cons]
    exact ⟨Managed.not_offers_named _, Managed.not_offers_binaries _, nofun⟩
  rw [hanswer] at hrun
  exact ⟨records, hrun, hdangling "/gone" ⟨by decide, by decide⟩ rfl⟩

end CodeFormatting.Npm
