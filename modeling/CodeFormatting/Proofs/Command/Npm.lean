import CodeFormatting.Proofs.Command.Input
import CodeFormatting.Proofs.Npm.Executable
import CodeFormatting.Proofs.Npm.Npmrc
namespace CodeFormatting.Command

open Npm (FirstFile FirstOffer Holds NpmError Place Resolver)
open SearchPath (Search)

/-! What npm and its configuration file are looked for with. Arguments come before the
configuration, and only where neither says anything the usual locations are searched. -/

inductive Preferred (given configured : Option Path) : Option Path → Prop
  | argument {path : Path} (hgiven : given = some path) : Preferred given configured (some path)
  | configuration (hnone : given = none) : Preferred given configured configured

/-- The location that a variable names. -/
inductive Named (environment : Environment) (name : String) : List Path → Prop
  | shown {text : String} (hset : environment.Shows name text) : Named environment name [⟨text⟩]
  | hidden (hunset : ∀ text, ¬ environment.Shows name text) : Named environment name []

/-- The location in the home directory, which a variable names before the machine does. -/
inductive AtHome (environment : Environment) (machine : Machine) : List Path → Prop
  | shown {text : String} (hset : environment.Shows "HOME" text) :
      AtHome environment machine [Path.join ⟨text⟩ ⟨".npmrc"⟩]
  | known {home : Path} (hunset : ∀ text, ¬ environment.Shows "HOME" text)
      (hhome : machine.home = some home) : AtHome environment machine [home.join ⟨".npmrc"⟩]
  | homeless (hunset : ∀ text, ¬ environment.Shows "HOME" text) (hhome : machine.home = none) :
      AtHome environment machine []

inductive Searched (given configured : List Path) (environment : Environment)
    (machine : Machine) : List Path → Prop
  | arguments (hgiven : given ≠ []) : Searched given configured environment machine given
  | configuration (hnone : given = []) (hconfigured : configured ≠ []) :
      Searched given configured environment machine configured
  | usual {user home : List Path} (hnone : given = []) (hunset : configured = [])
      (huser : Named environment "NPM_CONFIG_USERCONFIG" user)
      (hhome : AtHome environment machine home) :
      Searched given configured environment machine
        (machine.directory.join ⟨".npmrc"⟩ :: (user ++ home))

structure Applies (environment : Environment) (machine : Machine) (given : NpmArguments)
    (config : NpmConfig) (resolver : Resolver) : Prop where
  executable : Preferred given.executable config.executable resolver.executable
  npmrc : Preferred given.npmrc config.npmrc resolver.npmrc
  locations : Searched given.locations config.npmrcLocations environment machine
    resolver.locations
  environment : resolver.environment = environment

/-! What is found with it. -/

inductive Picked (search : Search) (resolver : Resolver) (machine : Machine) : Path → Prop
  | set {npm : Path} (hset : resolver.executable = some npm) : Picked search resolver machine npm
  | found {npm : Path} (hnone : resolver.executable = none)
      (hfirst : FirstOffer search resolver.environment machine Place.all npm) :
      Picked search resolver machine npm

inductive Selected (resolver : Resolver) (machine : Machine) : Path → Prop
  | set {npmrc : Path} (hset : resolver.npmrc = some npmrc) : Selected resolver machine npmrc
  | found {npmrc : Path} (hnone : resolver.npmrc = none)
      (hfirst : FirstFile machine resolver.locations npmrc) : Selected resolver machine npmrc

/-- Without npm there is no answer, whatever the configuration file is like. -/
inductive Comes (search : Search) (resolver : Resolver) (machine : Machine) :
    Except NpmError NpmAnswer → Prop
  | missing (hnone : ∀ npm, ¬ Picked search resolver machine npm) :
      Comes search resolver machine (.error .executableNotFound)
  | unread {npm npmrc : Path} {cause : IoError} (hnpm : Picked search resolver machine npm)
      (hnpmrc : Selected resolver machine npmrc) (hread : machine.readText npmrc = .error cause) :
      Comes search resolver machine (.error (.readNpmrc npmrc cause))
  | configured {npm npmrc : Path} {text : String} (hnpm : Picked search resolver machine npm)
      (hnpmrc : Selected resolver machine npmrc) (hread : machine.readText npmrc = .ok text)
      (hholds : Holds machine npmrc text) :
      Comes search resolver machine (.ok ⟨npm, some npmrc, some text⟩)
  | bare {npm : Path} (hnpm : Picked search resolver machine npm)
      (hnone : ∀ npmrc, ¬ Selected resolver machine npmrc) :
      Comes search resolver machine (.ok ⟨npm, none, none⟩)

/-! How it is shown. -/

/-- The two fields of a configuration file are both there or both null, and its length is that
of its octets. -/
inductive Prints : Layout → NpmAnswer → String → Prop
  | json {npm npmrc : Path} {text : String} :
      Prints .json ⟨npm, some npmrc, some text⟩ (Json.compact (.object
        [("executable", .string npm.text), ("npmrc", .string npmrc.text),
          ("npmrc_length", .integer text.toUTF8.size)]) ++ "\n")
  | jsonBare {npm : Path} :
      Prints .json ⟨npm, none, none⟩ (Json.compact (.object
        [("executable", .string npm.text), ("npmrc", .null), ("npmrc_length", .null)]) ++ "\n")
  | raw {npm npmrc : Path} {text : String} :
      Prints .raw ⟨npm, some npmrc, some text⟩
        ("npm: " ++ npm.text ++ "\nnpmrc: " ++ npmrc.text ++ "\n")
  | rawBare {npm : Path} :
      Prints .raw ⟨npm, none, none⟩ ("npm: " ++ npm.text ++ "\nnpmrc: none\n")

inductive Returns (layout : Layout) :
    Except NpmError NpmAnswer → Except Failure Result → Prop
  | failed {error : NpmError} : Returns layout (.error error) (.error (.npm error))
  | shown {answer : NpmAnswer} {output : String} (hprints : Prints layout answer output) :
      Returns layout (.ok answer) (.ok ⟨output, true⟩)

inductive Tells (layout : Layout) : Except NpmError NpmAnswer → Ending → Prop
  | failed {error : NpmError} {ending : Ending} {noted : String}
      (hcode : ending.code = failureCode) (houtput : ending.output = "")
      (herrors : ending.errors =
        noted ++ ("Error: " ++ error.message ++ Failure.causesText error.causes ++ "\n")) :
      Tells layout (.error error) ending
  | shown {answer : NpmAnswer} {ending : Ending} (hcode : ending.code = successCode)
      (hprints : Prints layout answer ending.output) : Tells layout (.ok answer) ending

section

variable {environment : Environment} {machine next : Machine} {given : NpmArguments}
  {config : NpmConfig} {resolver : Resolver} {search : Search} {layout : Layout}
  {answer other : Except NpmError NpmAnswer} {result : Except Failure Result}
  {records : List Log.Record} {paths locations : List Path} {npm npmrc : Path} {name : String}

/-! There is one way to look for npm. -/

theorem preferred_iff {given configured chosen : Option Path} :
    Preferred given configured chosen ↔ chosen = given.or configured := by
  constructor
  · intro hpreferred
    cases hpreferred with
    | argument hgiven => rw [hgiven, Option.some_or]
    | configuration hnone => rw [hnone, Option.none_or]
  · rintro rfl
    cases given with
    | none => exact .configuration rfl
    | some path => exact .argument rfl

theorem named_iff :
    Named environment name paths ↔
      paths = ((environment.getVisible? name).map Path.mk).toList := by
  constructor
  · intro hnamed
    cases hnamed with
    | shown hset => simp [Environment.getVisible?_eq_some_iff.mpr hset]
    | hidden hunset => simp [Environment.getVisible?_eq_none_iff.mpr hunset]
  · rintro rfl
    cases hset : environment.getVisible? name with
    | none => exact .hidden (Environment.getVisible?_eq_none_iff.mp hset)
    | some text => exact .shown (Environment.getVisible?_eq_some_iff.mp hset)

theorem atHome_iff :
    AtHome environment machine paths ↔
      paths = ((((environment.getVisible? "HOME").map Path.mk).or machine.home).map
        (·.join ⟨".npmrc"⟩)).toList := by
  constructor
  · intro hhome
    cases hhome with
    | shown hset => simp [Environment.getVisible?_eq_some_iff.mpr hset]
    | known hunset hhome => simp [Environment.getVisible?_eq_none_iff.mpr hunset, hhome]
    | homeless hunset hhome => simp [Environment.getVisible?_eq_none_iff.mpr hunset, hhome]
  · rintro rfl
    cases hset : environment.getVisible? "HOME" with
    | some text => exact .shown (Environment.getVisible?_eq_some_iff.mp hset)
    | none =>
        have hunset := Environment.getVisible?_eq_none_iff.mp hset
        cases hhome : machine.home with
        | some home => exact .known hunset hhome
        | none => exact .homeless hunset hhome

theorem usual_eq {user home : List Path}
    (huser : Named environment "NPM_CONFIG_USERCONFIG" user)
    (hhome : AtHome environment machine home) :
    machine.directory.join ⟨".npmrc"⟩ :: (user ++ home) =
      Npm.defaultLocations environment machine.home machine.directory := by
  rw [named_iff.mp huser, atHome_iff.mp hhome, Npm.defaultLocations]
  cases environment.getVisible? "HOME" <;> simp

theorem locationsOf_of_given (hgiven : given.locations ≠ []) :
    locationsOf environment machine (given.onto config) = given.locations := by
  simp [locationsOf, NpmArguments.onto, hgiven]

theorem locationsOf_of_configured (hnone : given.locations = [])
    (hconfigured : config.npmrcLocations ≠ []) :
    locationsOf environment machine (given.onto config) = config.npmrcLocations := by
  simp [locationsOf, NpmArguments.onto, hnone, hconfigured]

theorem locationsOf_of_unset (hnone : given.locations = [])
    (hunset : config.npmrcLocations = []) :
    locationsOf environment machine (given.onto config) =
      Npm.defaultLocations environment machine.home machine.directory := by
  simp [locationsOf, NpmArguments.onto, hnone, hunset]

theorem searched_iff :
    Searched given.locations config.npmrcLocations environment machine locations ↔
      locations = locationsOf environment machine (given.onto config) := by
  constructor
  · intro hsearched
    cases hsearched with
    | arguments hgiven => rw [locationsOf_of_given hgiven]
    | configuration hnone hconfigured => rw [locationsOf_of_configured hnone hconfigured]
    | usual hnone hunset huser hhome =>
        rw [locationsOf_of_unset hnone hunset, usual_eq huser hhome]
  · rintro rfl
    by_cases hgiven : given.locations = []
    · by_cases hconfigured : config.npmrcLocations = []
      · have huser : Named environment "NPM_CONFIG_USERCONFIG" _ := named_iff.mpr rfl
        have hhome : AtHome environment machine _ := atHome_iff.mpr rfl
        rw [locationsOf_of_unset hgiven hconfigured, ← usual_eq huser hhome]
        exact .usual hgiven hconfigured huser hhome
      · rw [locationsOf_of_configured hgiven hconfigured]
        exact .configuration hgiven hconfigured
    · rw [locationsOf_of_given hgiven]
      exact .arguments hgiven

theorem applies_iff :
    Applies environment machine given config resolver ↔
      resolver = resolverOf environment machine (given.onto config) := by
  constructor
  · intro happlies
    obtain ⟨hexecutable, hnpmrc, hlocations, henvironment⟩ := happlies
    rw [preferred_iff] at hexecutable hnpmrc
    rw [searched_iff] at hlocations
    cases resolver
    simp only at hexecutable hnpmrc hlocations henvironment
    rw [hexecutable, hnpmrc, hlocations, henvironment]
    rfl
  · rintro rfl
    exact ⟨preferred_iff.mpr rfl, preferred_iff.mpr rfl, searched_iff.mpr rfl, rfl⟩

/-! The executable is looked for first. -/

theorem picked_iff_of_set {chosen : Path} (hset : resolver.executable = some chosen) :
    Picked search resolver machine npm ↔ chosen = npm := by
  constructor
  · intro hpicked
    cases hpicked with
    | set hother => exact Option.some.inj (hset.symm.trans hother)
    | found hnone => exact nomatch hset.symm.trans hnone
  · rintro rfl
    exact .set hset

theorem picked_iff_of_unset (hnone : resolver.executable = none) :
    Picked search resolver machine npm ↔
      FirstOffer search resolver.environment machine Place.all npm := by
  constructor
  · intro hpicked
    cases hpicked with
    | set hset => exact nomatch hset.symm.trans hnone
    | found _ hfirst => exact hfirst
  · exact .found hnone

theorem exists_writes_executable (search : Search) (resolver : Resolver) (machine : Machine) :
    ∃ found records, Writes (resolver.resolveExecutableBy search) machine found records ∧
      (∀ npm, found = .ok npm ↔ Picked search resolver machine npm) ∧
        ∀ error, found = .error error → error = .executableNotFound := by
  unfold Resolver.resolveExecutableBy
  cases hset : resolver.executable with
  | some npm =>
      refine ⟨.ok npm, _, writes_log_pure .., fun other => ?_, nofun⟩
      rw [picked_iff_of_set hset, Except.ok.injEq]
  | none =>
      obtain ⟨found, records, hwrites, hfound, -⟩ :=
        Npm.exists_writes_findExecutableBy search resolver.environment machine
      simp only [picked_iff_of_unset hset, ← hfound]
      cases found with
      | none =>
          refine ⟨.error .executableNotFound, _, hwrites.bind (writes_pure ..), by simp, ?_⟩
          intro error herror
          exact (Except.error.inj herror).symm
      | some npm => exact ⟨.ok npm, _, hwrites.bind (writes_pure ..), by simp, nofun⟩

theorem Picked.eq {other : Path} (hpicked : Picked search resolver machine npm)
    (hother : Picked search resolver machine other) : npm = other := by
  obtain ⟨found, records, -, hfound, -⟩ := exists_writes_executable search resolver machine
  rw [← hfound] at hpicked hother
  exact Except.ok.inj (hpicked.symm.trans hother)

theorem picked_written_iff :
    Picked search resolver (machine.written records) npm ↔
      Picked search resolver machine npm := by
  cases hset : resolver.executable with
  | some chosen => rw [picked_iff_of_set hset, picked_iff_of_set hset]
  | none => rw [picked_iff_of_unset hset, picked_iff_of_unset hset, Npm.firstOffer_written_iff]

/-! What comes of an executable is decided by the configuration file. -/

theorem selected_iff :
    Selected resolver machine npmrc ↔ resolver.npmrcFile? machine = some npmrc := by
  rw [Npm.npmrcFile?_eq_some_iff]
  constructor
  · intro hselected
    cases hselected with
    | set hset => exact .inl hset
    | found hnone hfirst => exact .inr ⟨hnone, hfirst⟩
  · intro hcases
    rcases hcases with hset | ⟨hnone, hfirst⟩
    · exact .set hset
    · exact .found hnone hfirst

def answerWith (resolver : Resolver) (machine : Machine) (npm : Path) :
    Except NpmError NpmAnswer :=
  match resolver.npmrcContent machine with
  | .error error => .error error
  | .ok content => .ok ⟨npm, resolver.npmrcFile? machine, content⟩

theorem holds_of_readText {text : String} (hread : machine.readText npmrc = .ok text) :
    Holds machine npmrc text := by
  obtain ⟨location, executable, hlocate, hnode, -⟩ := FileSystem.readText_eq_ok_iff.mp hread
  exact ⟨location, executable, hlocate, hnode⟩

theorem comes_answerWith (hnpm : Picked search resolver machine npm) :
    Comes search resolver machine (answerWith resolver machine npm) := by
  unfold answerWith
  cases hcontent : resolver.npmrcContent machine with
  | error error =>
      obtain ⟨npmrc, cause, hfile, hread, rfl⟩ :=
        Npm.npmrcContent_eq_error_iff_readText.mp hcontent
      exact .unread hnpm (selected_iff.mpr hfile) hread
  | ok content =>
      cases content with
      | none =>
          have hfile := Npm.npmrcContent_eq_ok_none_iff.mp hcontent
          rw [hfile]
          refine .bare hnpm fun npmrc hselected => ?_
          exact nomatch hfile.symm.trans (selected_iff.mp hselected)
      | some text =>
          obtain ⟨npmrc, hfile, hread⟩ := Npm.npmrcContent_eq_ok_some_iff_readText.mp hcontent
          rw [hfile]
          exact .configured hnpm (selected_iff.mpr hfile) hread (holds_of_readText hread)

theorem Comes.eq_answerWith (hcomes : Comes search resolver machine answer)
    (hnpm : Picked search resolver machine npm) : answer = answerWith resolver machine npm := by
  rw [answerWith]
  cases hcomes with
  | missing hnone => exact absurd hnpm (hnone _)
  | unread hother hnpmrc hread =>
      rw [Npm.npmrcContent_eq_error_iff_readText.mpr ⟨_, _, selected_iff.mp hnpmrc, hread, rfl⟩]
  | configured hother hnpmrc hread =>
      have hfile := selected_iff.mp hnpmrc
      rw [Npm.npmrcContent_eq_ok_some_iff_readText.mpr ⟨_, hfile, hread⟩, hfile, hnpm.eq hother]
  | bare hother hnone =>
      have hfile : resolver.npmrcFile? machine = none := by
        rw [Option.eq_none_iff_forall_ne_some]
        exact fun npmrc hsome => hnone npmrc (selected_iff.mpr hsome)
      rw [Npm.npmrcContent_eq_ok_none_iff.mpr hfile, hfile, hnpm.eq hother]

theorem Comes.eq_of_missing (hcomes : Comes search resolver machine answer)
    (hmissing : ¬ ∃ npm, Picked search resolver machine npm) :
    answer = .error .executableNotFound := by
  cases hcomes with
  | missing => rfl
  | unread hnpm => exact absurd ⟨_, hnpm⟩ hmissing
  | configured hnpm => exact absurd ⟨_, hnpm⟩ hmissing
  | bare hnpm => exact absurd ⟨_, hnpm⟩ hmissing

theorem Comes.eq (hcomes : Comes search resolver machine answer)
    (hother : Comes search resolver machine other) : answer = other := by
  by_cases hpicked : ∃ npm, Picked search resolver machine npm
  · obtain ⟨npm, hnpm⟩ := hpicked
    rw [hcomes.eq_answerWith hnpm, hother.eq_answerWith hnpm]
  · rw [hcomes.eq_of_missing hpicked, hother.eq_of_missing hpicked]

theorem answerWith_written (resolver : Resolver) (machine : Machine)
    (records : List Log.Record) (npm : Path) :
    answerWith resolver (machine.written records) npm = answerWith resolver machine npm := rfl

theorem Comes.of_written (hcomes : Comes search resolver (machine.written records) answer) :
    Comes search resolver machine answer := by
  by_cases hpicked : ∃ npm, Picked search resolver machine npm
  · obtain ⟨npm, hnpm⟩ := hpicked
    rw [hcomes.eq_answerWith (picked_written_iff.mpr hnpm), answerWith_written]
    exact comes_answerWith hnpm
  · have hmissing : ¬ ∃ npm, Picked search resolver (machine.written records) npm := by
      simpa only [picked_written_iff] using hpicked
    rw [hcomes.eq_of_missing hmissing]
    exact .missing (not_exists.mp hpicked)

/-! Between the two only records are written. -/

theorem exists_writes_noteNpmrc (resolver : Resolver) (machine : Machine) :
    ∃ records, Writes resolver.noteNpmrc machine () records := by
  simp only [Resolver.noteNpmrc, writes_get_iff]
  split
  · exact ⟨_, writes_pure ..⟩
  · exact ⟨_, writes_log ..⟩
  · exact ⟨_, writes_log ..⟩

theorem exists_writes_noteReading (resolver : Resolver) (machine : Machine) :
    ∃ records, Writes resolver.noteReading machine () records := by
  simp only [Resolver.noteReading, writes_get_iff]
  split
  · exact ⟨_, writes_log ..⟩
  · exact ⟨_, writes_pure ..⟩

theorem writes_answerWith (resolver : Resolver) (npm : Path) (machine : Machine) :
    Writes (do
      let machine ← get
      match resolver.npmrcContent machine with
      | .error error => return .error error
      | .ok content => return .ok ⟨npm, resolver.npmrcFile? machine, content⟩)
      machine (answerWith resolver machine npm) [] := by
  rw [writes_get_iff, answerWith]
  cases resolver.npmrcContent machine with
  | error error => exact writes_pure ..
  | ok content => exact writes_pure ..

theorem exists_writes_resolveBy (search : Search) (resolver : Resolver) (machine : Machine) :
    ∃ answer records, Writes (resolveBy search resolver) machine answer records ∧
      Comes search resolver machine answer := by
  obtain ⟨found, first, hexecutable, hfound, herror⟩ :=
    exists_writes_executable search resolver machine
  cases found with
  | error error =>
      refine ⟨.error error, _, hexecutable.bind (writes_pure ..), ?_⟩
      rw [herror error rfl]
      exact .missing fun npm hnpm => nomatch (hfound npm).mpr hnpm
  | ok npm =>
      obtain ⟨second, hname⟩ := exists_writes_noteNpmrc resolver (machine.written first)
      obtain ⟨third, htext⟩ :=
        exists_writes_noteNpmrc resolver ((machine.written first).written second)
      obtain ⟨last, hreading⟩ := exists_writes_noteReading resolver
        (((machine.written first).written second).written third)
      have hshown := writes_answerWith resolver npm
        ((((machine.written first).written second).written third).written last)
      exact ⟨answerWith resolver machine npm, _,
        hexecutable.bind (hname.bind (htext.bind (hreading.bind hshown))),
        comes_answerWith ((hfound npm).mp rfl)⟩

/-! An answer is printed, or its error is. -/

theorem text_of_bare (npm : Path) :
    NpmAnswer.text ⟨npm, none, none⟩ .raw = "npm: " ++ npm.text ++ "\nnpmrc: none\n" := by
  simp only [NpmAnswer.text, NpmAnswer.npmrcText, String.append_assoc]
  rfl

theorem prints_text {answer : NpmAnswer} (hcomes : Comes search resolver machine (.ok answer))
    (layout : Layout) : Prints layout answer (answer.text layout) := by
  cases hcomes with
  | configured =>
      cases layout with
      | json => exact .json
      | raw => exact .raw
  | bare =>
      cases layout with
      | json => exact .jsonBare
      | raw =>
          rw [text_of_bare]
          exact .rawBare

theorem exists_writes_npmBy (search : Search) (environment : Environment) (machine : Machine)
    (given : NpmArguments) (config : NpmConfig) :
    ∃ answer, Comes search (resolverOf environment machine (given.onto config)) machine answer ∧
      ∀ layout, ∃ result records,
        Writes (npmBy search environment { given with layout } config) machine result records ∧
          Returns (layout.getD .raw) answer result := by
  obtain ⟨answer, records, hwrites, hcomes⟩ := exists_writes_resolveBy search
    (resolverOf environment machine (given.onto config)) machine
  refine ⟨answer, hcomes, fun layout => ?_⟩
  unfold npmBy
  cases answer with
  | error error => exact ⟨_, _, writes_get_iff.mpr (hwrites.bind (writes_pure ..)), .failed⟩
  | ok answer =>
      exact ⟨_, _, writes_get_iff.mpr (hwrites.bind (writes_pure ..)),
        .shown (prints_text hcomes _)⟩

theorem tells_of_perform {call : Call} {arguments : Arguments}
    (hparse : Arguments.parse call.arguments = .ok arguments)
    (hperform : perform call arguments machine = (result, next))
    (hreturns : Returns layout answer result) : Tells layout answer (run call machine).1 := by
  obtain ⟨hcode, houtput, -⟩ := run_of_perform hparse hperform
  cases hreturns with
  | failed =>
      obtain ⟨noted, herrors⟩ := errors_of_perform hparse hperform
      exact .failed hcode houtput herrors
  | shown hprints =>
      refine .shown hcode ?_
      rw [houtput]
      exact hprints

theorem perform_of_npm {call : Call} {source : Option Path} {document : Config}
    (hconfig : configOf machine ⟨source, .npm given⟩ = .ok document) :
    perform call ⟨source, .npm given⟩ machine =
      Command.npm call.environment given document.npm (configured document machine) := by
  simp only [perform, bind, StateT.bind, get, getThe, MonadStateOf.get, StateT.get, pure, hconfig]
  rfl

end

theorem configured_eq (config : Config) (machine : Machine) :
    configured config machine =
      machine.written [⟨.trace, commandTarget, "config=" ++ config.description⟩] := rfl

/-- A run shows what there is with these settings, in whichever layout is asked for, and leaves
nothing behind but records. How the search path is searched is left open. -/
theorem resolution_run {machine : Machine} {source : Option Path} {given : NpmArguments}
    {config : Config} (hconfig : configOf machine ⟨source, .npm given⟩ = .ok config)
    (environment : Environment) :
    ∃ resolver,
      (∀ other, Applies environment machine given config.npm other ↔ other = resolver) ∧
      ∀ search, ∃ answer,
        (∀ other, Comes search resolver machine other ↔ other = answer) ∧
        (∀ layout, ∃ result records,
          npmBy search environment { given with layout } config.npm machine =
            (result, machine.written records) ∧ Returns (layout.getD .raw) answer result) ∧
        (search = SearchPath.first "npm" → ∀ call layout, call.environment = environment →
          Arguments.parse call.arguments = .ok ⟨source, .npm { given with layout }⟩ →
            Tells (layout.getD .raw) answer (run call machine).1 ∧
              ∃ records, (run call machine).2 = machine.written records) := by
  refine ⟨_, fun other => applies_iff, fun search => ?_⟩
  obtain ⟨answer, hcomes, hwrites⟩ :=
    exists_writes_npmBy search environment machine given config.npm
  refine ⟨answer, fun other => ⟨fun hother => hother.eq hcomes, ?_⟩, hwrites, ?_⟩
  · rintro rfl
    exact hcomes
  · rintro rfl call layout rfl hparse
    obtain ⟨later, hlater, hshows⟩ :=
      exists_writes_npmBy (SearchPath.first "npm") call.environment (configured config machine)
        given config.npm
    obtain ⟨result, records, hshown, hreturns⟩ := hshows layout
    rw [configured_eq] at hlater hshown
    have hsame : later = answer := hlater.of_written.eq hcomes
    have hconfigured : configOf machine ⟨source, .npm { given with layout }⟩ = .ok config := hconfig
    have hperform := (perform_of_npm hconfigured).trans hshown
    rw [hsame] at hreturns
    refine ⟨tells_of_perform hparse hperform hreturns, ?_⟩
    obtain ⟨-, -, hnext⟩ := run_of_perform hparse hperform
    exact ⟨_, hnext.trans (machine.written_append _ _)⟩

/-! The configuration file of the project has one letter in it, which takes two octets. -/

namespace Accented

def arguments : NpmArguments where
  executable := some ⟨"/npm"⟩
  layout := some .json

def showing : Call :=
  ⟨.empty, ["npm", "--executable", "/npm", "--output", "json"], .empty⟩

def host : Machine where
  files := FileSystem.empty.install [".npmrc"] (.file "é".toUTF8 false)
  directory := ⟨"/"⟩
  home := none
  execute files _ _ := (files, .error .notFound)
  journal := []

def resolver : Resolver :=
  ⟨.empty, some ⟨"/npm"⟩, none, [⟨"/.npmrc"⟩]⟩

theorem applies : Applies .empty host arguments {} resolver := by
  have hhidden (name text : String) : ¬ Environment.empty.Shows name text := by
    rintro ⟨hset, -⟩
    contradiction
  exact ⟨.argument rfl, .configuration rfl,
    .usual rfl rfl (.hidden (hhidden _)) (.homeless (hhidden _) rfl), rfl⟩

theorem comes (search : Search) :
    Comes search resolver host (.ok ⟨⟨"/npm"⟩, some ⟨"/.npmrc"⟩, some "é"⟩) := by
  have hread : host.readText ⟨"/.npmrc"⟩ = .ok "é" :=
    FileSystem.readText_eq_ok_iff.mpr ⟨[".npmrc"], false, rfl, rfl, rfl⟩
  have hfirst : FirstFile host [⟨"/.npmrc"⟩] ⟨"/.npmrc"⟩ := ⟨[], [], rfl, rfl, nofun⟩
  exact .configured (.set rfl) (.found rfl hfirst) hread (holds_of_readText hread)

end Accented

theorem resolution_run_of_accented :
    configOf Accented.host ⟨none, .npm Accented.arguments⟩ = .ok {} ∧
      (run Accented.showing Accented.host).1.code = successCode ∧
      (run Accented.showing Accented.host).1.output = Json.compact (.object
        [("executable", .string "/npm"), ("npmrc", .string "/.npmrc"),
          ("npmrc_length", .integer 2)]) ++ "\n" := by
  have hconfig : configOf Accented.host ⟨none, .npm Accented.arguments⟩ = .ok {} := rfl
  obtain ⟨resolver, happlies, hanswers⟩ := resolution_run hconfig .empty
  obtain ⟨answer, hcomes, -, hrun⟩ := hanswers (SearchPath.first "npm")
  obtain rfl := (happlies _).mp Accented.applies
  obtain rfl := (hcomes _).mp (Accented.comes _)
  obtain ⟨htells, -⟩ := hrun rfl Accented.showing (some .json) rfl rfl
  refine ⟨hconfig, ?_⟩
  cases htells with
  | shown hcode hprints =>
      generalize (run Accented.showing Accented.host).1 = ending at hcode hprints
      obtain ⟨code, output, errors⟩ := ending
      cases hprints
      exact ⟨hcode, rfl⟩

end CodeFormatting.Command
