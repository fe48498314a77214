import CodeFormatting.Ktfmt.Java
import CodeFormatting.Proofs.Ktfmt.Protocol
namespace CodeFormatting

/-! An action that looks at the machine and writes records, and does nothing else. -/

variable {machine middle next : Machine} {Answer Result : Type} {answer : Answer} {result : Result}

/-- The machine is the same but for the records that have been written. -/
def Recorded (machine next : Machine) : Prop :=
  ∃ records : List Log.Record,
    next = { machine with journal := machine.journal ++ records.map .logged }

def Answers (action : Action Answer) (machine : Machine) (answer : Answer) : Prop :=
  ∃ next, action machine = (answer, next) ∧ Recorded machine next

theorem Recorded.refl (machine : Machine) : Recorded machine machine :=
  ⟨[], by rw [List.map_nil, List.append_nil]⟩

theorem Recorded.trans (hfirst : Recorded machine middle) (hsecond : Recorded middle next) :
    Recorded machine next := by
  obtain ⟨earlier, rfl⟩ := hfirst
  obtain ⟨later, rfl⟩ := hsecond
  exact ⟨earlier ++ later, by rw [List.map_append, ← List.append_assoc]⟩

theorem recorded_record (machine : Machine) (entry : Log.Record) :
    Recorded machine (machine.record (.logged entry)) :=
  ⟨[entry], rfl⟩

theorem Recorded.files_eq (hrecorded : Recorded machine next) : next.files = machine.files := by
  obtain ⟨records, rfl⟩ := hrecorded
  rfl

theorem Recorded.directory_eq (hrecorded : Recorded machine next) :
    next.directory = machine.directory := by
  obtain ⟨records, rfl⟩ := hrecorded
  rfl

theorem Recorded.launches_eq (hrecorded : Recorded machine next) :
    next.launches = machine.launches := by
  obtain ⟨records, rfl⟩ := hrecorded
  simp [Machine.launches, List.filterMap_append, List.filterMap_map]

theorem Answers.fst_eq {action : Action Answer} (hanswers : Answers action machine answer) :
    (action machine).1 = answer := by
  obtain ⟨next, haction, -⟩ := hanswers
  rw [haction]

theorem Answers.recorded {action : Action Answer} (hanswers : Answers action machine answer) :
    Recorded machine (action machine).2 := by
  obtain ⟨next, haction, hrecorded⟩ := hanswers
  rwa [haction]

theorem answers_pure (machine : Machine) (answer : Answer) :
    Answers (pure answer) machine answer :=
  ⟨machine, rfl, .refl machine⟩

theorem answers_log (level : Log.Level) (target text : String) (machine : Machine) :
    Answers (log level target text) machine () :=
  ⟨_, rfl, recorded_record machine _⟩

theorem answers_get {rest : Machine → Action Answer}
    (hrest : Answers (rest machine) machine answer) : Answers (get >>= rest) machine answer :=
  hrest

theorem Answers.bind {action : Action Answer} {rest : Answer → Action Result}
    (haction : Answers action machine answer)
    (hrest : ∀ next, Recorded machine next → Answers (rest answer) next result) :
    Answers (action >>= rest) machine result := by
  obtain ⟨middle, hfirst, hmiddle⟩ := haction
  obtain ⟨next, hsecond, hnext⟩ := hrest middle hmiddle
  refine ⟨next, ?_, hmiddle.trans hnext⟩
  simp only [Bind.bind, StateT.bind, hfirst]
  exact hsecond

namespace Step

variable {World : Type} {step : Step World}

theorem prepare_fst (hfresh : step.outcome = none) (world : World) :
    (step.prepare world).1.1 =
      match (step.initializer world).1 with
      | .error cause => .error (.initialization cause)
      | .ok _ => .ok () := by
  simp only [prepare, resolve, hfresh, bind, StateT.bind]
  rcases step.initializer world with ⟨error | engine, next⟩ <;> rfl

theorem prepare_eq_ok_iff (hfresh : step.outcome = none) {world : World} :
    (step.prepare world).1.1 = .ok () ↔ ∃ engine, (step.initializer world).1 = .ok engine := by
  rw [prepare_fst hfresh]
  cases (step.initializer world).1 <;> simp

theorem prepare_eq_error_iff (hfresh : step.outcome = none) {world : World} {error : FormatError} :
    (step.prepare world).1.1 = .error error ↔
      ∃ cause, error = .initialization cause ∧ (step.initializer world).1 = .error cause := by
  rw [prepare_fst hfresh]
  cases (step.initializer world).1 <;> simp [eq_comm]

end Step

namespace Ktfmt

/-! What a formatter is initialized from: a jar in a repository, a version that can be read, a
java to start and options for the style. How java is looked for is left open. -/

open SearchPath (Search)

/-- The java that was given, else the one in the java home directory, else the one that the
search finds. -/
def JavaLoader.java? (search : Search) (loader : JavaLoader) (machine : Machine) : Option Path :=
  let home := (loader.environment.getVisible? "JAVA_HOME").map javaIn
  (loader.java.or (home.filter machine.isFile)).or (search.on machine loader.environment)

/-- The program that a jar is run with. -/
def JavaLoader.program (loader : JavaLoader) (java jar : Path) (version : Version) :
    JavaProgram where
  java := java
  classpath := jar.text
  mainClass := loader.mainClass.getD version.mainClass
  version := version

section

variable {search : Search} {repository : Repository} {loader : JavaLoader}
  {coordinate : Coordinate} {style : Style} {version : Version} {java : Path} {cause : StepError}

structure Ready (search : Search) (repository : Repository) (loader : JavaLoader)
    (coordinate : Coordinate) (style : Style) (machine : Machine) (version : Version) : Prop where
  present : machine.isFile (repository.jar coordinate) = true
  versioned : Version.parse? coordinate.version = some version
  java : ∃ java, loader.java? search machine = some java
  undivided : ':' ∉ (repository.jar coordinate).text.toList
  supported : style = .kotlinlang → version.atLeast .kotlinlang = true

/-- Why a formatter cannot be initialized: the first condition that is not met. -/
inductive Obstacle (search : Search) (repository : Repository) (loader : JavaLoader)
    (coordinate : Coordinate) (style : Style) (machine : Machine) : StepError → Prop
  | absent (habsent : machine.isFile (repository.jar coordinate) = false) :
      Obstacle search repository loader coordinate style machine
        (.provision (.notFound coordinate (repository.jar coordinate)))
  | unversioned (hpresent : machine.isFile (repository.jar coordinate) = true)
      (hunversioned : Version.parse? coordinate.version = none) :
      Obstacle search repository loader coordinate style machine
        (.load (.java (.invalidVersion coordinate.version)))
  | javaless {version : Version} (hpresent : machine.isFile (repository.jar coordinate) = true)
      (hversion : Version.parse? coordinate.version = some version)
      (hjavaless : loader.java? search machine = none) :
      Obstacle search repository loader coordinate style machine (.load (.java .javaNotFound))
  | divided {version : Version} {java : Path}
      (hpresent : machine.isFile (repository.jar coordinate) = true)
      (hversion : Version.parse? coordinate.version = some version)
      (hjava : loader.java? search machine = some java)
      (hdivided : ':' ∈ (repository.jar coordinate).text.toList) :
      Obstacle search repository loader coordinate style machine (.load (.java .invalidClasspath))
  | unsupported {version : Version} {java : Path}
      (hpresent : machine.isFile (repository.jar coordinate) = true)
      (hversion : Version.parse? coordinate.version = some version)
      (hjava : loader.java? search machine = some java)
      (hundivided : ':' ∉ (repository.jar coordinate).text.toList)
      (hstyle : style = .kotlinlang) (hearlier : version.atLeast .kotlinlang = false) :
      Obstacle search repository loader coordinate style machine
        (.load (.lookup (.methodNotFound "kotlinlangStyle")))

/-- If not all conditions are met, one of them is the first that is not. -/
theorem ready_or_obstacle (search : Search) (repository : Repository) (loader : JavaLoader)
    (coordinate : Coordinate) (style : Style) (machine : Machine) :
    (∃ version, Ready search repository loader coordinate style machine version) ∨
      ∃ cause, Obstacle search repository loader coordinate style machine cause := by
  cases hpresent : machine.isFile (repository.jar coordinate) with
  | false => exact .inr ⟨_, .absent hpresent⟩
  | true =>
      cases hversion : Version.parse? coordinate.version with
      | none => exact .inr ⟨_, .unversioned hpresent hversion⟩
      | some version =>
          cases hjava : loader.java? search machine with
          | none => exact .inr ⟨_, .javaless hpresent hversion hjava⟩
          | some java =>
              by_cases hdivided : ':' ∈ (repository.jar coordinate).text.toList
              · exact .inr ⟨_, .divided hpresent hversion hjava hdivided⟩
              by_cases hsupported : style = .kotlinlang → version.atLeast .kotlinlang = true
              · exact .inl ⟨version, hpresent, hversion, ⟨java, hjava⟩, hdivided, hsupported⟩
              · obtain ⟨hstyle, hearlier⟩ := Classical.not_imp.mp hsupported
                exact .inr ⟨_, .unsupported hpresent hversion hjava hdivided hstyle
                  (eq_false_of_ne_true hearlier)⟩

/-! The parts of the initializer. -/

theorem java?_eq_of_recorded (hrecorded : Recorded machine next) (search : Search)
    (loader : JavaLoader) :
    loader.java? search next = loader.java? search machine := by
  obtain ⟨records, rfl⟩ := hrecorded
  rfl

theorem answers_onSearchPath (search : Search) (loader : JavaLoader) (machine : Machine) :
    Answers (loader.onSearchPath search) machine
      ((search.on machine loader.environment).elim (.error .javaNotFound) .ok) := by
  refine answers_get ?_
  cases search.on machine loader.environment with
  | some java => exact answers_pure _ _
  | none => exact (answers_log ..).bind fun _ _ => answers_pure _ _

theorem answers_resolveJavaBy (search : Search) (loader : JavaLoader) (machine : Machine) :
    Answers (loader.resolveJavaBy search) machine
      ((loader.java? search machine).elim (.error .javaNotFound) .ok) := by
  unfold JavaLoader.resolveJavaBy JavaLoader.java?
  cases loader.java with
  | some java => exact answers_pure _ _
  | none =>
      cases loader.environment.getVisible? "JAVA_HOME" with
      | none => exact answers_onSearchPath search loader machine
      | some home =>
          refine answers_get ?_
          cases hpresent : machine.isFile (JavaLoader.javaIn home) with
          | true =>
              simp only [Option.map_some, Option.filter_some, hpresent]
              exact (answers_log ..).bind fun _ _ => answers_pure _ _
          | false =>
              simp only [Option.map_some, Option.filter_some, hpresent]
              refine (answers_log ..).bind fun next hrecorded => ?_
              obtain ⟨records, rfl⟩ := hrecorded
              exact answers_onSearchPath search loader _

theorem classpath_eq (jar : Path) :
    JavaLoader.classpath [jar] =
      if ':' ∈ jar.text.toList then .error .invalidClasspath else .ok jar.text := by
  simp [JavaLoader.classpath, Text.contains]

section Loading

variable {jar : Path} (hversion : Version.parse? coordinate.version = some version)

theorem answers_loaderBy_of_unversioned (search : Search) (loader : JavaLoader)
    (machine : Machine) (jar : Path)
    (hunversioned : Version.parse? coordinate.version = none) :
    Answers (loader.loaderBy search ⟨coordinate, [jar]⟩) machine
      (.error (.java (.invalidVersion coordinate.version))) := by
  have hload : Answers (loader.load search ⟨coordinate, [jar]⟩) machine
      (.error (.invalidVersion coordinate.version)) := by
    simp only [JavaLoader.load, Version.parse, hunversioned]
    exact answers_pure _ _
  exact hload.bind fun _ _ => answers_pure _ _

include hversion

theorem answers_loaderBy_of_javaless (jar : Path) (hjavaless : loader.java? search machine = none) :
    Answers (loader.loaderBy search ⟨coordinate, [jar]⟩) machine
      (.error (.java .javaNotFound)) := by
  have hload : Answers (loader.load search ⟨coordinate, [jar]⟩) machine
      (.error .javaNotFound) := by
    have hjava := answers_resolveJavaBy search loader machine
    rw [hjavaless] at hjava
    simp only [JavaLoader.load, Version.parse, hversion]
    exact hjava.bind fun _ _ => answers_pure _ _
  exact hload.bind fun _ _ => answers_pure _ _

theorem answers_loaderBy_of_divided (hjava : loader.java? search machine = some java)
    (hdivided : ':' ∈ jar.text.toList) :
    Answers (loader.loaderBy search ⟨coordinate, [jar]⟩) machine
      (.error (.java .invalidClasspath)) := by
  have hload : Answers (loader.load search ⟨coordinate, [jar]⟩) machine
      (.error .invalidClasspath) := by
    have hfound := answers_resolveJavaBy search loader machine
    rw [hjava] at hfound
    simp only [JavaLoader.load, Version.parse, hversion, classpath_eq, if_pos hdivided]
    exact hfound.bind fun _ _ => answers_pure _ _
  exact hload.bind fun _ _ => answers_pure _ _

theorem answers_loaderBy_of_undivided (hjava : loader.java? search machine = some java)
    (hundivided : ':' ∉ jar.text.toList) :
    Answers (loader.loaderBy search ⟨coordinate, [jar]⟩) machine
      (.ok (loader.program java jar version).api) := by
  have hload : Answers (loader.load search ⟨coordinate, [jar]⟩) machine
      (.ok (loader.program java jar version)) := by
    have hfound := answers_resolveJavaBy search loader machine
    rw [hjava] at hfound
    simp only [JavaLoader.load, Version.parse, hversion, classpath_eq, if_neg hundivided]
    exact hfound.bind fun _ _ => (answers_log ..).bind fun _ _ => answers_pure _ _
  exact hload.bind fun _ _ => (answers_log ..).bind fun _ _ => answers_pure _ _

end Loading

theorem answers_answerConstant (program : JavaProgram) (format : Format) (machine : Machine) :
    Answers (program.answerConstant format) machine (program.formatConstant format) :=
  (answers_log ..).bind fun _ _ => answers_pure _ _

theorem companionStyle_of_ne {format : Format} (hformat : format ≠ .kotlinlang) :
    ∃ options, JavaProgram.companionStyle format.factory = .ok options := by
  cases format with
  | dropbox => exact ⟨_, rfl⟩
  | google => exact ⟨_, rfl⟩
  | kotlinlang => exact absurd rfl hformat

/-- There are options for every style, but those of one came later. -/
theorem answers_resolveOptions_of_supported (program : JavaProgram)
    (hsupported : style = .kotlinlang → program.version.atLeast .kotlinlang = true) :
    ∃ resolved, ∀ machine, Answers (resolveOptions program.api style) machine (.ok resolved) := by
  rcases style.eq_standard_or_ofFormat with rfl | ⟨format, rfl⟩
  · exact ⟨none, fun machine => answers_pure _ _⟩
  rw [resolveOptions, Style.accessors?_ofFormat]
  have hconstant := answers_answerConstant program format
  cases hpresent : program.version.hasFormatConstant format with
  | true =>
      simp only [JavaProgram.formatConstant, hpresent, if_true] at hconstant
      exact ⟨_, fun machine => (hconstant machine).bind fun _ _ => answers_pure _ _⟩
  | false =>
      have hformat : format ≠ .kotlinlang := by
        rintro rfl
        cases hpresent.symm.trans (hsupported rfl)
      obtain ⟨options, hoptions⟩ := companionStyle_of_ne hformat
      have hfactory (next : Machine) :
          Answers (program.api.companionStyle format.factory) next (.ok options) := by
        rw [← hoptions]
        exact answers_pure _ _
      simp only [JavaProgram.formatConstant, hpresent, Bool.false_eq_true, if_false] at hconstant
      exact ⟨_, fun machine => (hconstant machine).bind fun next _ =>
        (hfactory next).bind fun _ _ => answers_pure _ _⟩

theorem answers_resolveOptions_of_unsupported (program : JavaProgram)
    (hearlier : program.version.atLeast .kotlinlang = false) (machine : Machine) :
    Answers (resolveOptions program.api .kotlinlang) machine
      (.error (.methodNotFound "kotlinlangStyle")) := by
  have hconstant := answers_answerConstant program .kotlinlang machine
  simp only [JavaProgram.formatConstant, Version.hasFormatConstant, hearlier] at hconstant
  exact hconstant.bind fun _ _ => answers_pure _ _

/-! The initializer. -/

theorem answers_provisioner (repository : Repository) (coordinate : Coordinate)
    (machine : Machine) :
    Answers (repository.provisioner coordinate) machine
      (repository.provision coordinate machine) :=
  ⟨machine, rfl, .refl machine⟩

theorem answers_makeEngine_of_absent (loader : Loader Machine) (style : Style)
    (habsent : machine.isFile (repository.jar coordinate) = false) :
    Answers (Configuration.makeEngine ⟨coordinate, style, repository.provisioner, loader⟩) machine
      (.error (.provision (.notFound coordinate (repository.jar coordinate)))) := by
  have hprovisioner := answers_provisioner repository coordinate machine
  simp only [Repository.provision, habsent] at hprovisioner
  exact hprovisioner.bind fun _ _ => answers_pure _ _

section Present

variable (hpresent : machine.isFile (repository.jar coordinate) = true)

include hpresent

theorem answers_makeEngine_of_refused {standard : Loader Machine} {error : EngineError}
    (style : Style) (hload : ∀ next, Recorded machine next →
      Answers (standard ⟨coordinate, [repository.jar coordinate]⟩) next (.error error)) :
    Answers (Configuration.makeEngine ⟨coordinate, style, repository.provisioner, standard⟩)
      machine (.error (.load error)) := by
  have hprovisioner := answers_provisioner repository coordinate machine
  simp only [Repository.provision, hpresent, if_true] at hprovisioner
  exact hprovisioner.bind fun next hnext => (hload next hnext).bind fun _ _ => answers_pure _ _

theorem answers_makeEngine_of_loaded {standard : Loader Machine} {api : Api Machine}
    {answer : Except LookupError (Option ResolvedOptions)}
    (hload : ∀ next, Recorded machine next →
      Answers (standard ⟨coordinate, [repository.jar coordinate]⟩) next (.ok api))
    (hresolve : ∀ next, Answers (resolveOptions api style) next answer) :
    Answers (Configuration.makeEngine ⟨coordinate, style, repository.provisioner, standard⟩)
      machine ((answer.mapError fun error => .load (.lookup error)).map api.engine) := by
  have hprovisioner := answers_provisioner repository coordinate machine
  simp only [Repository.provision, hpresent, if_true] at hprovisioner
  refine hprovisioner.bind fun next hnext => (hload next hnext).bind fun last _ => ?_
  refine (hresolve last).bind fun _ _ => ?_
  cases answer <;> exact answers_pure _ _

end Present

theorem Ready.answers
    (hready : Ready search repository loader coordinate style machine version) :
    ∃ engine, Answers (Configuration.makeEngine
      ⟨coordinate, style, repository.provisioner, loader.loaderBy search⟩) machine
        (.ok engine) := by
  obtain ⟨hpresent, hversion, ⟨java, hjava⟩, hundivided, hsupported⟩ := hready
  obtain ⟨resolved, hresolve⟩ := answers_resolveOptions_of_supported
    (loader.program java (repository.jar coordinate) version) hsupported
  refine ⟨_, answers_makeEngine_of_loaded hpresent (fun next hnext => ?_) hresolve⟩
  exact answers_loaderBy_of_undivided hversion
    ((java?_eq_of_recorded hnext search loader).trans hjava) hundivided

theorem Obstacle.answers
    (hobstacle : Obstacle search repository loader coordinate style machine cause) :
    Answers (Configuration.makeEngine
      ⟨coordinate, style, repository.provisioner, loader.loaderBy search⟩) machine
        (.error cause) := by
  have hsame {next : Machine} (hnext : Recorded machine next) :=
    java?_eq_of_recorded hnext search loader
  cases hobstacle with
  | absent habsent => exact answers_makeEngine_of_absent _ style habsent
  | unversioned hpresent hunversioned =>
      refine answers_makeEngine_of_refused hpresent style fun next _ => ?_
      exact answers_loaderBy_of_unversioned search loader next _ hunversioned
  | javaless hpresent hversion hjavaless =>
      refine answers_makeEngine_of_refused hpresent style fun next hnext => ?_
      exact answers_loaderBy_of_javaless hversion _ ((hsame hnext).trans hjavaless)
  | divided hpresent hversion hjava hdivided =>
      refine answers_makeEngine_of_refused hpresent style fun next hnext => ?_
      exact answers_loaderBy_of_divided hversion ((hsame hnext).trans hjava) hdivided
  | @unsupported _ java hpresent hversion hjava hundivided hstyle hearlier =>
      subst hstyle
      have hload (next : Machine) (hnext : Recorded machine next) :=
        answers_loaderBy_of_undivided hversion ((hsame hnext).trans hjava) hundivided
      have hresolve := answers_resolveOptions_of_unsupported
        (loader.program java (repository.jar coordinate) _) hearlier
      exact answers_makeEngine_of_loaded hpresent hload hresolve

/-- Initializing a step writes records and does nothing else. -/
theorem recorded_makeEngine (search : Search) (repository : Repository) (loader : JavaLoader)
    (coordinate : Coordinate) (style : Style) (machine : Machine) :
    Recorded machine (Configuration.makeEngine
      ⟨coordinate, style, repository.provisioner, loader.loaderBy search⟩ machine).2 := by
  rcases ready_or_obstacle search repository loader coordinate style machine with
    ⟨version, hready⟩ | ⟨cause, hobstacle⟩
  · obtain ⟨engine, hanswers⟩ := hready.answers
    exact hanswers.recorded
  · exact hobstacle.answers.recorded

/-- Records make no difference to what is not met. -/
theorem Obstacle.of_recorded
    (hobstacle : Obstacle search repository loader coordinate style machine cause)
    (hrecorded : Recorded machine next) :
    Obstacle search repository loader coordinate style next cause := by
  obtain ⟨records, rfl⟩ := hrecorded
  cases hobstacle with
  | absent habsent => exact .absent habsent
  | unversioned hpresent hunversioned => exact .unversioned hpresent hunversioned
  | javaless hpresent hversion hjavaless => exact .javaless hpresent hversion hjavaless
  | divided hpresent hversion hjava hdivided => exact .divided hpresent hversion hjava hdivided
  | unsupported hpresent hversion hjava hundivided hstyle hearlier =>
      exact .unsupported hpresent hversion hjava hundivided hstyle hearlier

theorem makeEngine_eq_ok_iff :
    (∃ engine, (Configuration.makeEngine
        ⟨coordinate, style, repository.provisioner, loader.loaderBy search⟩ machine).1 =
          .ok engine) ↔
      ∃ version, Ready search repository loader coordinate style machine version := by
  constructor
  · rintro ⟨engine, hmade⟩
    refine (ready_or_obstacle search repository loader coordinate style machine).resolve_right ?_
    rintro ⟨cause, hobstacle⟩
    cases hmade.symm.trans hobstacle.answers.fst_eq
  · rintro ⟨version, hready⟩
    obtain ⟨engine, hanswers⟩ := hready.answers
    exact ⟨engine, hanswers.fst_eq⟩

theorem makeEngine_eq_error_iff :
    (Configuration.makeEngine
        ⟨coordinate, style, repository.provisioner, loader.loaderBy search⟩ machine).1 =
          .error cause ↔
      Obstacle search repository loader coordinate style machine cause := by
  refine ⟨fun hmade => ?_, fun hobstacle => hobstacle.answers.fst_eq⟩
  rcases ready_or_obstacle search repository loader coordinate style machine with
    ⟨version, hready⟩ | ⟨found, hobstacle⟩
  · obtain ⟨engine, hanswers⟩ := hready.answers
    cases hmade.symm.trans hanswers.fst_eq
  · cases hmade.symm.trans hobstacle.answers.fst_eq
    exact hobstacle

/-- A step that was built with a repository on disk and a loader of java programs can be
initialized just if the jar is there, its version can be read, there is a java, no colon
divides the path of the jar and the version knows the style. If not, the first of these that
does not hold is the cause. That is so whatever the search for java finds. -/
theorem initialization_outcome (search : Search) {builder : Builder Machine}
    {standard : Loader Machine} {step : Step Machine} {repository : Repository}
    {loader : JavaLoader}
    (hbuilt : builder.build standard = .ok step)
    (hprovisioner : builder.provisioner? = some repository.provisioner)
    (hloader : builder.loader?.getD standard = loader.loaderBy search) :
    ∃ version style coordinate, builder.visibleVersion? = some version ∧
      builder.style? = some style ∧
      Builder.coordinate version builder.classifier? = .ok coordinate ∧
      ∀ machine,
        ((step.prepare machine).1.1 = .ok () ↔
          ∃ version, Ready search repository loader coordinate style machine version) ∧
        ∀ error, (step.prepare machine).1.1 = .error error ↔
          ∃ cause, error = .initialization cause ∧
            Obstacle search repository loader coordinate style machine cause := by
  cases hconfigured : builder.configuration standard with
  | error error =>
      rw [Builder.build, hconfigured] at hbuilt
      cases hbuilt
  | ok configuration =>
      rw [build_of_configuration hconfigured] at hbuilt
      obtain rfl := Except.ok.inj hbuilt
      obtain ⟨version, hversion, hgiven, hstyle, hcoordinate, hstandard⟩ :=
        Builder.configuration_eq_ok_iff.mp hconfigured
      rcases configuration with ⟨coordinate, style, provisioner, made⟩
      obtain rfl : repository.provisioner = provisioner :=
        Option.some.inj (hprovisioner.symm.trans hgiven)
      obtain rfl : made = loader.loaderBy search := hstandard.trans hloader
      refine ⟨version, style, coordinate, hversion, hstyle, hcoordinate, fun machine => ?_⟩
      rw [Step.prepare_eq_ok_iff rfl]
      refine ⟨makeEngine_eq_ok_iff, fun error => ?_⟩
      rw [Step.prepare_eq_error_iff rfl]
      exact exists_congr fun cause => and_congr_right fun _ => makeEngine_eq_error_iff

end

/-! A release that came before the options of its style. -/

namespace Early

def repository : Repository :=
  ⟨⟨"/repository"⟩⟩

def loader : JavaLoader :=
  { JavaLoader.ofEnvironment .empty with java := some ⟨"/java"⟩ }

def builder : Builder Machine :=
  ((Builder.empty.version "0.20").provisioner repository.provisioner).style .kotlinlang

def coordinate : Coordinate :=
  ⟨"com.facebook", "ktfmt", "0.20", some "jar-with-dependencies"⟩

def stocked : Machine where
  files := FileSystem.empty.install ["ktfmt-0.20-jar-with-dependencies.jar", "0.20", "ktfmt",
    "facebook", "com", "repository"] (.file .empty false)
  directory := ⟨"/"⟩
  home := none
  execute files _ _ := (files, .error .notFound)
  journal := []

end Early

theorem initialization_outcome_of_early :
    ∃ step, Early.builder.build Early.loader.loader = .ok step ∧
      (step.prepare Early.stocked).1.1 =
        .error (.initialization (.load (.lookup (.methodNotFound "kotlinlangStyle")))) := by
  obtain ⟨step, hbuilt⟩ : ∃ step, Early.builder.build Early.loader.loader = .ok step := ⟨_, rfl⟩
  obtain ⟨version, style, coordinate, hversion, hstyle, hcoordinate, hprepare⟩ :=
    initialization_outcome (SearchPath.first "java") hbuilt rfl rfl
  obtain rfl : "0.20" = version := Option.some.inj hversion
  obtain rfl : Style.kotlinlang = style := Option.some.inj hstyle
  obtain rfl : Early.coordinate = coordinate := Except.ok.inj hcoordinate
  refine ⟨step, hbuilt, ((hprepare Early.stocked).2 _).mpr ⟨_, rfl, ?_⟩⟩
  have hversion : Version.parse? Early.coordinate.version = some ⟨0, 20, 0⟩ := rfl
  have hjava : Early.loader.java? (SearchPath.first "java") Early.stocked = some ⟨"/java"⟩ := rfl
  exact .unsupported rfl hversion hjava (by decide) rfl rfl

end Ktfmt
end CodeFormatting
