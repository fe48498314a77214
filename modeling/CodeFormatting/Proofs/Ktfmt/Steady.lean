import CodeFormatting.Command.Ktfmt
import CodeFormatting.Proofs.Files.Steady
import CodeFormatting.Proofs.Ktfmt.Protocol
namespace CodeFormatting

/-! A step that runs java is steady if java answers by nothing but its launch and leaves the
files alone. Before it is run the step asks only which files there are, and not what
they hold. -/

/-- The machine is as it was at first, but for what its files hold and what was noted. Programs
answer by their launch. -/
structure Undisturbed (origin : Machine) (reply : Launch → Except IoError Completion)
    (machine : Machine) : Prop where
  directory : machine.directory = origin.directory
  home : machine.home = origin.home
  files : origin.files.Alike machine.files
  execute : ∀ files directory launch,
    machine.execute files directory launch = (files, reply launch)

/-- An action with one and the same good answer on every undisturbed machine, which it leaves
undisturbed. -/
def Constant {Answer : Type} (origin : Machine) (reply : Launch → Except IoError Completion)
    (action : Action Answer) (Good : Answer → Prop) : Prop :=
  ∃ answer, Good answer ∧ ∀ machine, Undisturbed origin reply machine →
    ∃ next, action machine = (answer, next) ∧ Files.Quiet machine next ∧
      Undisturbed origin reply next

variable {origin machine : Machine} {reply : Launch → Except IoError Completion}
  {Answer Result : Type} {Good : Answer → Prop} {Fine : Result → Prop}

theorem Undisturbed.location_eq (hmachine : Undisturbed origin reply machine) :
    machine.location = origin.location :=
  congrArg FileSystem.locationOf hmachine.directory

theorem Undisturbed.record (hmachine : Undisturbed origin reply machine) (event : Event) :
    Undisturbed origin reply (machine.record event) :=
  ⟨hmachine.directory, hmachine.home, hmachine.files, hmachine.execute⟩

theorem Undisturbed.isFile (hmachine : Undisturbed origin reply machine) (path : Path) :
    machine.isFile path = origin.isFile path := by
  rw [Machine.isFile, hmachine.location_eq, hmachine.files.isFile, Machine.isFile]

theorem Undisturbed.first (hmachine : Undisturbed origin reply machine)
    (environment : Environment) (name : String) :
    (SearchPath.first name).on machine environment =
      (SearchPath.first name).on origin environment := by
  have hprograms (location : Location) :
      machine.files.isProgram location = origin.files.isProgram location := by
    funext path
    rw [hmachine.files.isProgram]
  simp only [SearchPath.Search.on, hmachine.home, hmachine.directory]
  cases environment.getVisible? "PATH" with
  | none => rfl
  | some text => simp only [SearchPath.first, hprograms]

theorem constant_pure {answer : Answer} (hgood : Good answer) :
    Constant origin reply (pure answer) Good :=
  ⟨answer, hgood, fun machine hmachine => ⟨machine, rfl, ⟨rfl, rfl⟩, hmachine⟩⟩

theorem constant_log (level : Log.Level) (target text : String) :
    Constant origin reply (log level target text) fun _ => True :=
  ⟨(), trivial, fun machine hmachine => ⟨_, rfl, Files.quiet_record machine _,
    hmachine.record _⟩⟩

theorem constant_start (launch : Launch) :
    Constant origin reply (start launch) fun _ => True := by
  refine ⟨reply launch, trivial, fun machine hmachine => ?_⟩
  cases hreply : reply launch with
  | error error =>
      refine ⟨machine, ?_, ⟨rfl, rfl⟩, hmachine⟩
      simp only [start, hmachine.execute, hreply]
  | ok completion =>
      refine ⟨machine.record (.started launch), ?_, Files.quiet_record machine _,
        hmachine.record _⟩
      simp only [start, hmachine.execute, hreply]

theorem Constant.bind {action : Action Answer} {rest : Answer → Action Result}
    (haction : Constant origin reply action Good)
    (hrest : ∀ answer, Good answer → Constant origin reply (rest answer) Fine) :
    Constant origin reply (action >>= rest) Fine := by
  obtain ⟨answer, hgood, hanswer⟩ := haction
  obtain ⟨result, hfine, hresult⟩ := hrest answer hgood
  refine ⟨result, hfine, fun machine hmachine => ?_⟩
  obtain ⟨middle, hfirst, hquiet, hmiddle⟩ := hanswer machine hmachine
  obtain ⟨next, hsecond, hlater, hnext⟩ := hresult middle hmiddle
  refine ⟨next, ?_, ⟨hlater.files.trans hquiet.files,
    hlater.directory.trans hquiet.directory⟩, hnext⟩
  simp only [Bind.bind, StateT.bind, hfirst]
  exact hsecond

/-- What an action reads off the machine may decide how it goes on, if the machine at first
says the same. -/
theorem constant_get {rest : Machine → Action Answer}
    (hsame : ∀ machine, Undisturbed origin reply machine → rest machine = rest origin)
    (hrest : Constant origin reply (rest origin) Good) :
    Constant origin reply (get >>= rest) Good := by
  obtain ⟨answer, hgood, hanswer⟩ := hrest
  refine ⟨answer, hgood, fun machine hmachine => ?_⟩
  obtain ⟨next, hnext⟩ := hanswer machine hmachine
  rw [← hsame machine hmachine] at hnext
  exact ⟨next, hnext⟩

namespace Ktfmt

theorem constant_onSearchPath (loader : JavaLoader) :
    Constant origin reply (loader.onSearchPath (SearchPath.first "java")) fun _ => True := by
  refine constant_get (fun machine hmachine => by rw [hmachine.first]) ?_
  cases (SearchPath.first "java").on origin loader.environment with
  | some java => exact constant_pure trivial
  | none => exact (constant_log ..).bind fun _ _ => constant_pure trivial

theorem constant_resolveJava (loader : JavaLoader) :
    Constant origin reply loader.resolveJava fun _ => True := by
  unfold JavaLoader.resolveJava JavaLoader.resolveJavaBy
  cases loader.java with
  | some java => exact constant_pure trivial
  | none =>
      cases loader.environment.getVisible? "JAVA_HOME" with
      | none => exact constant_onSearchPath loader
      | some home =>
          refine constant_get (fun machine hmachine => by rw [hmachine.isFile]) ?_
          cases origin.isFile (JavaLoader.javaIn home)
          · exact (constant_log ..).bind fun _ _ => constant_onSearchPath loader
          · exact (constant_log ..).bind fun _ _ => constant_pure trivial

theorem constant_load (loader : JavaLoader) (bundle : Bundle) :
    Constant origin reply (loader.load (SearchPath.first "java") bundle) fun _ => True := by
  unfold JavaLoader.load Version.parse
  cases Version.parse? bundle.coordinate.version with
  | none => exact constant_pure trivial
  | some version =>
      refine (constant_resolveJava loader).bind fun found _ => ?_
      cases found with
      | error error => exact constant_pure trivial
      | ok java =>
          cases JavaLoader.classpath bundle.files with
          | error error => exact constant_pure trivial
          | ok classpath => exact (constant_log ..).bind fun _ _ => constant_pure trivial

theorem constant_loader (loader : JavaLoader) (bundle : Bundle) :
    Constant origin reply (loader.loader bundle)
      fun answer => ∀ api, answer = .ok api → ∃ program : JavaProgram, api = program.api := by
  refine (constant_load loader bundle).bind fun answer _ => ?_
  cases answer with
  | error error => exact constant_pure nofun
  | ok program =>
      refine (constant_log ..).bind fun _ _ => constant_pure ?_
      rintro api ⟨⟩
      exact ⟨program, rfl⟩

theorem constant_provisioner (repository : Repository) (coordinate : Coordinate) :
    Constant origin reply (repository.provisioner coordinate) fun _ => True := by
  refine ⟨repository.provision coordinate origin, trivial, fun machine hmachine => ?_⟩
  refine ⟨machine, ?_, ⟨rfl, rfl⟩, hmachine⟩
  simp only [Repository.provisioner, Repository.provision, hmachine.isFile]

theorem constant_answerConstant (program : JavaProgram) (format : Format) :
    Constant origin reply (program.answerConstant format) fun _ => True :=
  (constant_log ..).bind fun _ _ => constant_pure trivial

theorem constant_resolveOptions (program : JavaProgram) (style : Style) :
    Constant origin reply (resolveOptions program.api style) fun _ => True := by
  unfold resolveOptions
  cases style.accessors? with
  | none => exact constant_pure trivial
  | some accessors =>
      refine (constant_answerConstant program accessors.1).bind fun answer _ => ?_
      cases answer with
      | ok options => exact constant_pure trivial
      | error error =>
          cases error with
          | fieldNotFound name =>
              have hfactory : Constant origin reply (program.api.companionStyle accessors.2)
                  fun _ => True := constant_pure trivial
              refine hfactory.bind fun answer _ => ?_
              cases answer <;> exact constant_pure trivial
          | _ => exact constant_pure trivial

theorem constant_run (program : JavaProgram) (flag : Option String) (input : String) :
    Constant origin reply (program.run flag input) fun _ => True := by
  refine (constant_log ..).bind fun _ _ => (constant_start _).bind fun answer _ => ?_
  cases answer <;> exact constant_pure trivial

theorem constant_format (program : JavaProgram) (input : String) :
    Constant origin reply (program.format input) fun _ => True :=
  (constant_run program none input).bind fun _ _ => constant_pure trivial

theorem constant_formatWithOptions (program : JavaProgram) (options : Options)
    (input : String) :
    Constant origin reply (program.formatWithOptions options input) fun _ => True := by
  unfold JavaProgram.formatWithOptions
  split
  · exact (constant_log ..).bind fun _ _ =>
      (constant_run program _ input).bind fun _ _ => constant_pure trivial
  · exact (constant_run program _ input).bind fun _ _ => constant_pure trivial

theorem constant_makeEngine (repository : Repository) (loader : JavaLoader)
    (coordinate : Coordinate) (style : Style) :
    Constant origin reply
      (Configuration.makeEngine ⟨coordinate, style, repository.provisioner, loader.loader⟩)
      fun outcome => ∀ engine, outcome = .ok engine →
        ∃ (program : JavaProgram) (resolved : Option ResolvedOptions),
          engine = program.api.engine resolved := by
  refine (constant_provisioner repository coordinate).bind fun answer _ => ?_
  cases answer with
  | error error => exact constant_pure nofun
  | ok bundle =>
      refine (constant_loader loader bundle).bind fun answer hloaded => ?_
      cases answer with
      | error error => exact constant_pure nofun
      | ok api =>
          obtain ⟨program, rfl⟩ := hloaded api rfl
          refine (constant_resolveOptions program style).bind fun answer _ => ?_
          cases answer with
          | error error => exact constant_pure nofun
          | ok resolved =>
              refine constant_pure ?_
              rintro engine ⟨⟩
              exact ⟨program, resolved, rfl⟩

theorem constant_applied {outcome : Except StepError (Engine Machine)}
    (hengine : ∀ engine, outcome = .ok engine →
      ∃ (program : JavaProgram) (resolved : Option ResolvedOptions),
        engine = program.api.engine resolved) (input : String) :
    Constant origin reply (Step.applied outcome input) fun _ => True := by
  cases outcome with
  | error error => exact constant_pure trivial
  | ok engine =>
      obtain ⟨program, resolved, rfl⟩ := hengine engine rfl
      have hformat : Constant origin reply (program.api.engine resolved input) fun _ => True := by
        cases resolved with
        | none => exact constant_format program input
        | some resolved => exact constant_formatWithOptions program resolved.options input
      refine hformat.bind fun answer _ => ?_
      cases answer <;> exact constant_pure trivial

theorem exists_configuration_of_standardStep {version : String} {repository : Repository}
    {loader : JavaLoader} {style : Style} {step : Step Machine}
    (hstep : Builder.standardStep version repository.provisioner style loader.loader =
      .ok step) :
    ∃ coordinate, step =
      Configuration.step ⟨coordinate, style, repository.provisioner, loader.loader⟩ := by
  unfold Builder.standardStep at hstep
  cases hconfigured : ((((Builder.empty : Builder Machine).version version).provisioner
    repository.provisioner).style style).configuration loader.loader with
  | error error =>
      rw [Builder.build, hconfigured] at hstep
      cases hstep
  | ok configuration =>
      rw [build_of_configuration hconfigured] at hstep
      obtain ⟨-, -, hprovisioner, hstyle, -, hloader⟩ :=
        Builder.configuration_eq_ok_iff.mp hconfigured
      rcases configuration with ⟨coordinate, named, provisioner, standard⟩
      obtain rfl : repository.provisioner = provisioner := Option.some.inj hprovisioner
      obtain rfl : style = named := Option.some.inj hstyle
      obtain rfl : standard = loader.loader := hloader
      exact ⟨coordinate, (Except.ok.inj hstep).symm⟩

/-- What a command makes its step from. -/
theorem exists_configuration_of_stepOf {environment : Environment} {home : Option Path}
    {config : KtfmtConfig} {step : Step Machine}
    (hstep : Command.stepOf environment home config = .ok step) :
    ∃ (repository : Repository) (loader : JavaLoader) (coordinate : Coordinate) (style : Style),
      step = Configuration.step
        ⟨coordinate, style, repository.provisioner, loader.loader⟩ := by
  unfold Command.stepOf at hstep
  cases hrepository : Command.repositoryOf environment home config with
  | error error =>
      rw [hrepository] at hstep
      cases hstep
  | ok repository =>
      cases hstyle : config.effectiveStyle with
      | error error =>
          simp only [hrepository, hstyle] at hstep
          cases hstep
      | ok style =>
          simp only [hrepository, hstyle] at hstep
          split at hstep
          · cases hstep
          · next built hbuilt =>
              cases hstep
              obtain ⟨coordinate, hcoordinate⟩ := exists_configuration_of_standardStep hbuilt
              exact ⟨repository, _, coordinate, style, hcoordinate⟩

end Ktfmt

/-- A step is steady while the machine is undisturbed if its initializer is constant there,
and so are the engines that it comes to. -/
def Undisturbed.steady (horigin : Undisturbed origin reply origin) (step : Step Machine)
    (paths : List Path) (hfresh : step.outcome = none)
    {Good : Except StepError (Engine Machine) → Prop}
    (hinitializer : Constant origin reply step.initializer Good)
    (happlied : ∀ outcome, Good outcome → ∀ input,
      Constant origin reply (Step.applied outcome input) fun _ => True) :
    Files.Steady step paths where
  Moment := Undisturbed origin reply
  outcome := (step.initializer origin).1
  answer input := (Step.applied (step.initializer origin).1 input origin).1
  settled earlier hsettled := by
    rw [hfresh] at hsettled
    cases hsettled
  initializer _ machine hmachine := by
    obtain ⟨outcome, -, houtcome⟩ := hinitializer
    obtain ⟨first, hfirst, -⟩ := houtcome origin horigin
    rw [hfirst]
    exact houtcome machine hmachine
  applied input machine hmachine := by
    obtain ⟨outcome, hgood, houtcome⟩ := hinitializer
    obtain ⟨first, hfirst, -⟩ := houtcome origin horigin
    obtain ⟨answer, -, hanswer⟩ := happlied outcome hgood input
    obtain ⟨last, hlast, -⟩ := hanswer origin horigin
    rw [hfirst, hlast]
    exact hanswer machine hmachine
  record event machine hmachine := hmachine.record event
  rewrite path _ machine location content executable held hmachine _ hnode :=
    ⟨hmachine.directory, hmachine.home,
      hmachine.files.trans (FileSystem.alike_put hnode held), hmachine.execute⟩

/-- The step of a command is steady as long as java answers by its launch alone. -/
theorem exists_steady_of_stepOf {environment : Environment} {home : Option Path}
    {config : KtfmtConfig} {step : Step Machine} (horigin : Undisturbed origin reply origin)
    (hstep : Command.stepOf environment home config = .ok step) (paths : List Path) :
    ∃ steady : Files.Steady step paths, steady.Moment origin := by
  obtain ⟨repository, loader, coordinate, style, hconfigured⟩ :=
    Ktfmt.exists_configuration_of_stepOf hstep
  refine ⟨horigin.steady step paths ?_ ?_ fun _ => Ktfmt.constant_applied, horigin⟩
  · rw [hconfigured]
    rfl
  · rw [hconfigured]
    exact Ktfmt.constant_makeEngine repository loader coordinate style

end CodeFormatting
