import CodeFormatting.Proofs.Journal
import CodeFormatting.Proofs.Ktfmt.Initialization
import CodeFormatting.Proofs.Ktfmt.Numbering
import CodeFormatting.Proofs.Ktfmt.Release
namespace CodeFormatting.Ktfmt

open SearchPath (Search)

/-! A style has one preset and one flag, whichever release is asked for it. -/

namespace Style

def preset? : Style → Option Options
  | .standard => none
  | .dropbox => some .dropbox
  | .google => some .google
  | .kotlinlang => some .kotlinlang

def flag? : Style → Option String
  | .standard => none
  | .dropbox => some "--dropbox-style"
  | .google => some "--google-style"
  | .kotlinlang => some "--kotlinlang-style"

theorem preset?_ofFormat (format : Format) :
    (ofFormat format).preset? = some (JavaProgram.presetOf format) := by
  cases format <;> rfl

theorem flag?_ofFormat (format : Format) :
    (ofFormat format).flag? = (JavaProgram.presetOf format).flag? := by
  cases format <;> rfl

theorem ofFormat_injective : Function.Injective ofFormat := by
  rintro (_ | _ | _) (_ | _ | _) hsame <;> first | rfl | cases hsame

end Style

theorem isFlagPreset_presetOf (format : Format) :
    (JavaProgram.presetOf format).isFlagPreset = true := by
  cases format <;> decide

/-- What the options of a style come to in a release, and where they are from. -/
inductive Resolution (version : Version) :
    Style → Except LookupError (Option ResolvedOptions) → Prop
  | standard : Resolution version .standard (.ok none)
  | constant {format : Format} (hsince : format.since ≤ version) :
      Resolution version (.ofFormat format)
        (.ok (some ⟨JavaProgram.presetOf format, .formatConstant⟩))
  | companion {format : Format} (hbefore : version < format.since)
      (hformat : format ≠ .kotlinlang) :
      Resolution version (.ofFormat format)
        (.ok (some ⟨JavaProgram.presetOf format, .companionFactory⟩))
  | missing (hbefore : version < ⟨0, 21, 0⟩) :
      Resolution version .kotlinlang (.error (.methodNotFound "kotlinlangStyle"))

namespace Resolution

variable {version later : Version} {style : Style} {format : Format}
  {answer : Except LookupError (Option ResolvedOptions)} {resolved : Option ResolvedOptions}

theorem eq_ok_none_iff (hresolution : Resolution version style answer) :
    answer = .ok none ↔ style = .standard := by
  cases hresolution with
  | standard => exact iff_of_true rfl rfl
  | @constant format => cases format <;> exact iff_of_false nofun nofun
  | @companion format => cases format <;> exact iff_of_false nofun nofun
  | missing => exact iff_of_false nofun nofun

theorem exists_eq_ok_iff (hresolution : Resolution version style answer) :
    (∃ resolved, answer = .ok resolved) ↔ (style = .kotlinlang → ⟨0, 21, 0⟩ ≤ version) := by
  cases hresolution with
  | standard => exact iff_of_true ⟨_, rfl⟩ nofun
  | @constant format hsince =>
      refine iff_of_true ⟨_, rfl⟩ fun hstyle => ?_
      obtain rfl : format = .kotlinlang := Style.ofFormat_injective hstyle
      exact hsince
  | companion hbefore hformat =>
      exact iff_of_true ⟨_, rfl⟩ fun hstyle => absurd (Style.ofFormat_injective hstyle) hformat
  | missing hbefore => exact iff_of_false nofun fun hsince => hbefore.not_ge (hsince rfl)

theorem options_eq (hresolution : Resolution version style (.ok resolved)) :
    resolved.map ResolvedOptions.options = style.preset? := by
  cases hresolution with
  | standard => rfl
  | constant => exact (Style.preset?_ofFormat _).symm
  | companion => exact (Style.preset?_ofFormat _).symm

theorem source_eq {found : ResolvedOptions}
    (hresolution : Resolution version style (.ok (some found)))
    (hstyle : style = .ofFormat format) :
    found.source = if format.since ≤ version then .formatConstant else .companionFactory := by
  cases hresolution with
  | constant hsince =>
      obtain rfl := Style.ofFormat_injective hstyle
      exact (if_pos hsince).symm
  | companion hbefore =>
      obtain rfl := Style.ofFormat_injective hstyle
      exact (if_neg hbefore.not_ge).symm

/-- The options of a style do not change from one release to a later one. -/
theorem mono {found : Option ResolvedOptions} (hresolution : Resolution version style (.ok found))
    (hlater : Resolution later style answer) (hle : version ≤ later) :
    ∃ resolved, answer = .ok resolved ∧
      resolved.map ResolvedOptions.options = found.map ResolvedOptions.options := by
  have hsupported := hresolution.exists_eq_ok_iff.mp ⟨found, rfl⟩
  obtain ⟨resolved, rfl⟩ := hlater.exists_eq_ok_iff.mpr fun hstyle => (hsupported hstyle).trans hle
  exact ⟨resolved, rfl, hlater.options_eq.trans hresolution.options_eq.symm⟩

theorem engine_eq {program : JavaProgram}
    (hresolution : Resolution program.version style (.ok resolved)) (input : String) :
    program.api.engine resolved input = do
      return JavaProgram.asEngineError (← program.run style.flag? input) := by
  have hoptions (format : Format) :
      program.formatWithOptions (JavaProgram.presetOf format) input = do
        return JavaProgram.asEngineError
          (← program.run (JavaProgram.presetOf format).flag? input) := by
    rw [JavaProgram.formatWithOptions, isFlagPreset_presetOf]
    rfl
  cases hresolution with
  | standard => rfl
  | constant =>
      rw [Style.flag?_ofFormat]
      exact hoptions _
  | companion =>
      rw [Style.flag?_ofFormat]
      exact hoptions _

end Resolution

/-! What is written to the journal. -/

/-- How a program is started on a text in a style. -/
def JavaProgram.launch (program : JavaProgram) (style : Style) (input : String) : Launch where
  program := program.java
  arguments := ["-cp", program.classpath, program.mainClass] ++ style.flag?.toList ++ ["-"]
  input := input

/-- What a step of a style adds to the journal: records, but never the warning that its options
cannot be expressed, and starts of one program, each with the flag of the style. -/
inductive Fitting (program? : Option JavaProgram) (style : Style) (calls : List Step.Call) :
    Event → Prop
  | logged {record : Log.Record}
      (hexpressed : ∀ options, record ≠ ⟨.warn, javaTarget, JavaProgram.cannotExpress options⟩) :
      Fitting program? style calls (.logged record)
  | started {program : JavaProgram} {input : String} (hprogram : program? = some program)
      (hasked : .format input ∈ calls) :
      Fitting program? style calls (.started (program.launch style input))

/-- A program that was loaded from a bundle. -/
structure JavaLoader.Loads (loader : JavaLoader) (bundle : Bundle) (program : JavaProgram) :
    Prop where
  version : Version.parse? bundle.coordinate.version = some program.version
  classpath : program.classpath = ":".intercalate (bundle.files.map Path.text)
  mainClass : program.mainClass = loader.mainClass.getD
    (if ⟨0, 31, 0⟩ ≤ program.version then "com.facebook.ktfmt.cli.Main"
      else "com.facebook.ktfmt.MainKt")

section

variable {program? : Option JavaProgram} {style : Style} {calls : List Step.Call}

theorem Fitting.of_none {event : Event} (hfitting : Fitting none style [] event) :
    Fitting program? style calls event := by
  cases hfitting with
  | logged hexpressed => exact .logged hexpressed
  | started hprogram => cases hprogram

theorem launch_of_journaled {machine next : Machine} {launch : Launch}
    (hjournaled : Journaled (Fitting program? style calls) machine next)
    (hlaunch : launch ∈ next.launches) :
    launch ∈ machine.launches ∨ ∃ program input, program? = some program ∧
      .format input ∈ calls ∧ launch = program.launch style input := by
  obtain ⟨events, hevents, hfitting⟩ := hjournaled
  rw [Machine.launches, hevents, List.filterMap_append, List.mem_append] at hlaunch
  refine hlaunch.imp id fun hadded => ?_
  obtain ⟨event, hevent, hstarted⟩ := List.mem_filterMap.mp hadded
  cases hfitting event hevent with
  | logged => cases hstarted
  | started hprogram hasked =>
      obtain rfl := Option.some.inj hstarted
      exact ⟨_, _, hprogram, hasked, rfl⟩

/-- The two warnings of this target begin with different letters. -/
theorem missingJava_ne_cannotExpress (home : String) (options : Options) :
    JavaLoader.missingJava home ≠ JavaProgram.cannotExpress options := by
  intro hsame
  have hfirst : "JAVA_HOME is set to '".toList.head? = some 'J' := by decide
  have hother : "ktfmt command line can't express ".toList.head? = some 'k' := by decide
  unfold JavaLoader.missingJava JavaProgram.cannotExpress at hsame
  have hfront := congrArg (fun text => text.toList.head?) hsame
  simp only [String.append_assoc, String.toList_append, List.head?_append] at hfront
  rw [hfirst, hother, Option.some_or, Option.some_or] at hfront
  exact absurd (Option.some.inj hfront) (by decide)

/-- What is written to the journal before a program is started. -/
structure Noting (Fits : Event → Prop) : Prop where
  note : ∀ {level : Log.Level} (target text : String), level = .debug ∨ level = .trace →
    Fits (.logged ⟨level, target, text⟩)
  missing : ∀ home, Fits (.logged ⟨.warn, javaTarget, JavaLoader.missingJava home⟩)

theorem noting_fitting : Noting (Fitting program? style calls) where
  note target text hlevel := by
    apply Fitting.logged
    intro options hsame
    obtain rfl := congrArg Log.Record.level hsame
    simp at hlevel
  missing home := by
    apply Fitting.logged
    intro options hsame
    exact missingJava_ne_cannotExpress home options (congrArg Log.Record.text hsame)

section

variable {Fits : Event → Prop} (hnoting : Noting Fits)

include hnoting

theorem Noting.journals {level : Log.Level} {target text : String}
    (hlevel : level = .debug ∨ level = .trace) :
    Journals Fits (fun _ => True) (log level target text) :=
  journals_log (hnoting.note target text hlevel)

theorem journals_onSearchPath (search : Search) (loader : JavaLoader) :
    Journals Fits (fun _ => True) (loader.onSearchPath search) := by
  refine journals_get fun machine => ?_
  cases search.on machine loader.environment with
  | some java => exact journals_pure trivial
  | none => exact (hnoting.journals (by decide)).bind fun _ _ => journals_pure trivial

theorem journals_resolveJavaBy (search : Search) (loader : JavaLoader) :
    Journals Fits (fun _ => True) (loader.resolveJavaBy search) := by
  unfold JavaLoader.resolveJavaBy
  cases loader.java with
  | some java => exact journals_pure trivial
  | none =>
      cases loader.environment.getVisible? "JAVA_HOME" with
      | none => exact journals_onSearchPath hnoting search loader
      | some home =>
          refine journals_get fun machine => ?_
          split
          · exact (hnoting.journals (by decide)).bind fun _ _ => journals_pure trivial
          · exact (journals_log (hnoting.missing home)).bind fun _ _ =>
              journals_onSearchPath hnoting search loader

theorem journals_load (search : Search) (loader : JavaLoader) (bundle : Bundle) :
    Journals Fits
      (fun answer => ∀ program, answer = .ok program → loader.Loads bundle program)
      (loader.load search bundle) := by
  unfold JavaLoader.load Version.parse
  cases hversion : Version.parse? bundle.coordinate.version with
  | none => exact journals_pure nofun
  | some version =>
      refine (journals_resolveJavaBy hnoting search loader).bind fun found _ => ?_
      cases found with
      | error error => exact journals_pure nofun
      | ok java =>
          cases hclasspath : JavaLoader.classpath bundle.files with
          | error error => exact journals_pure nofun
          | ok classpath =>
              refine (hnoting.journals (by decide)).bind fun _ _ => journals_pure ?_
              rintro program ⟨⟩
              refine ⟨hversion, ?_, congrArg loader.mainClass.getD version.mainClass_eq⟩
              unfold JavaLoader.classpath at hclasspath
              split at hclasspath
              · cases hclasspath
              · exact (Except.ok.inj hclasspath).symm

theorem journals_loaderBy (search : Search) (loader : JavaLoader) (bundle : Bundle) :
    Journals Fits
      (fun answer => ∀ api, answer = .ok api →
        ∃ program, loader.Loads bundle program ∧ api = program.api)
      (loader.loaderBy search bundle) := by
  refine (journals_load hnoting search loader bundle).bind fun answer hloads => ?_
  cases answer with
  | error error => exact journals_pure nofun
  | ok program =>
      refine (hnoting.journals (by decide)).bind fun _ _ => journals_pure ?_
      rintro api ⟨⟩
      exact ⟨program, hloads program rfl, rfl⟩

theorem journals_resolveOptions (program : JavaProgram) (asked : Style) :
    Journals Fits (Resolution program.version asked)
      (resolveOptions program.api asked) := by
  rcases asked.eq_standard_or_ofFormat with rfl | ⟨format, rfl⟩
  · exact journals_pure .standard
  rw [resolveOptions, Style.accessors?_ofFormat]
  have hconstant : Journals Fits
      (fun answer => answer = program.formatConstant format) (program.api.formatConstant format) :=
    (hnoting.journals (by decide)).bind fun _ _ => journals_pure rfl
  refine hconstant.bind ?_
  rintro _ rfl
  rw [JavaProgram.formatConstant]
  by_cases hsince : format.since ≤ program.version
  · rw [if_pos (Version.hasFormatConstant_iff.mpr hsince)]
    exact journals_pure (.constant hsince)
  rw [if_neg (mt Version.hasFormatConstant_iff.mp hsince)]
  have hcompanion : Journals Fits
      (fun answer => answer = JavaProgram.companionStyle format.factory)
      (program.api.companionStyle format.factory) := journals_pure rfl
  refine hcompanion.bind ?_
  rintro _ rfl
  cases format with
  | dropbox =>
      exact journals_pure (@Resolution.companion _ .dropbox (not_le.mp hsince) (by decide))
  | google =>
      exact journals_pure (@Resolution.companion _ .google (not_le.mp hsince) (by decide))
  | kotlinlang => exact journals_pure (.missing (not_le.mp hsince))

theorem journals_run (program : JavaProgram) {flag : Option String} {input : String}
    (hstarted : Fits (.started ⟨program.java, program.arguments flag, input⟩)) :
    Journals Fits (fun _ => True) (program.run flag input) := by
  refine (hnoting.journals (by decide)).bind fun _ _ => (journals_start hstarted).bind ?_
  intro answer _
  cases answer <;> exact journals_pure trivial

end

end

theorem resolution_resolveOptions (program : JavaProgram) (style : Style) (machine : Machine) :
    Resolution program.version style (resolveOptions program.api style machine).1 :=
  (journals_resolveOptions (@noting_fitting none style []) program style machine).1

/-! A run of calls on a step. -/

/-- A program that was loaded from a bundle that was provided. -/
def Configuration.Runs (configuration : Configuration Machine) (loader : JavaLoader)
    (program : JavaProgram) : Prop :=
  ∃ bundle machine, (configuration.provisioner configuration.coordinate machine).1 = .ok bundle ∧
    loader.Loads bundle program

/-- What the initialization of a step came to: it failed, or a program was loaded. -/
inductive Established (configuration : Configuration Machine) (loader : JavaLoader) :
    Option JavaProgram → Outcome Machine → Prop
  | failed {error : StepError} : Established configuration loader none (.error error)
  | loaded {program : JavaProgram} {resolved : Option ResolvedOptions}
      (hruns : configuration.Runs loader program)
      (hresolution : Resolution program.version configuration.style (.ok resolved)) :
      Established configuration loader (some program) (.ok (program.api.engine resolved))

section

variable {configuration : Configuration Machine} {loader : JavaLoader}
  {program? : Option JavaProgram} {outcome : Outcome Machine} {calls : List Step.Call}

theorem Established.runs (hestablished : Established configuration loader program? outcome)
    {program : JavaProgram} (hprogram : program? = some program) :
    configuration.Runs loader program := by
  cases hestablished with
  | failed => cases hprogram
  | loaded hruns =>
      obtain rfl := Option.some.inj hprogram
      exact hruns

theorem journals_makeEngine {search : Search} {Fits : Event → Prop} (hnoting : Noting Fits)
    (hloader : configuration.loader = loader.loaderBy search)
    (hquiet : Journals Fits (fun _ => True)
      (configuration.provisioner configuration.coordinate)) :
    Journals Fits (fun outcome => ∃ program?, Established configuration loader program? outcome)
      configuration.makeEngine := by
  refine hquiet.answered.bind ?_
  rintro (error | bundle) ⟨machine, hprovided⟩
  · exact journals_pure ⟨none, .failed⟩
  rw [hloader]
  refine (journals_loaderBy hnoting search loader bundle).bind ?_
  rintro (error | api) hloads
  · exact journals_pure ⟨none, .failed⟩
  obtain ⟨program, hprogram, rfl⟩ := hloads api rfl
  refine (journals_resolveOptions hnoting program configuration.style).bind ?_
  rintro (error | resolved) hresolution
  · exact journals_pure ⟨none, .failed⟩
  · exact journals_pure ⟨_, .loaded ⟨bundle, machine, hprovided, hprogram⟩ hresolution⟩

theorem journals_engine {Fits : Event → Prop} (hnoting : Noting Fits) {style : Style}
    {program : JavaProgram} {resolved : Option ResolvedOptions} {input : String}
    (hresolution : Resolution program.version style (.ok resolved))
    (hstarted : Fits (.started (program.launch style input))) :
    Journals Fits (fun _ => True) (program.api.engine resolved input) := by
  rw [hresolution.engine_eq]
  exact (journals_run hnoting program hstarted).bind fun _ _ => journals_pure trivial

theorem journals_reply (hestablished : Established configuration loader program? outcome)
    {call : Step.Call} (hcall : call ∈ calls) (step : Step Machine) :
    Journals (Fitting program? configuration.style calls) (fun _ => True)
      (step.reply outcome call) := by
  cases call with
  | format input =>
      cases hestablished with
      | failed => exact journals_pure trivial
      | loaded hruns hresolution =>
          rw [Step.reply_format_ok]
          exact (journals_engine noting_fitting hresolution (.started rfl hcall)).bind
            fun _ _ => journals_pure trivial
  | prepare => exact journals_pure trivial
  | isInitialized => exact journals_pure trivial
  | name => exact journals_pure trivial
  | key => exact journals_pure trivial

theorem journals_run_of_outcome {step : Step Machine}
    (hestablished : Established configuration loader program? outcome)
    (hsettled : step.outcome = some outcome) {rest : List Step.Call} (hrest : rest ⊆ calls) :
    Journals (Fitting program? configuration.style calls) (fun _ => True)
      (Visit.run Step.perform step rest) := by
  induction rest with
  | nil => exact journals_pure trivial
  | cons call rest induction =>
      rw [List.cons_subset] at hrest
      have hperform : Journals (Fitting program? configuration.style calls)
          (fun done => done.2 = step) (step.perform call) := by
        rw [Step.perform_of_outcome hsettled]
        exact (journals_reply hestablished hrest.1 step).bind fun _ _ => journals_pure rfl
      refine hperform.bind ?_
      rintro ⟨answer, _⟩ rfl
      exact (induction hrest.2).bind fun _ _ => journals_pure trivial

theorem run_cons_of_initializes {World : Type} {step : Step World} (hfresh : step.outcome = none)
    {call : Step.Call} (hcall : call.initializes = true) (rest : List Step.Call) :
    Visit.run Step.perform step (call :: rest) = do
      let outcome ← step.initializer
      let answer ← (step.settled outcome).reply outcome call
      let (later, final) ← Visit.run Step.perform (step.settled outcome) rest
      return (answer :: later, final) := by
  rw [Visit.run, Step.perform_of_initializes hfresh hcall]
  rfl

/-- All that a run of a step starts is one program, which it loaded itself. -/
theorem journaled_run {search : Search}
    (hloader : configuration.loader = loader.loaderBy search)
    (hquiet : Journals (Fitting none configuration.style []) (fun _ => True)
      (configuration.provisioner configuration.coordinate))
    {rest : List Step.Call} (hrest : rest ⊆ calls) (machine : Machine) :
    ∃ program?, (∀ program, program? = some program → configuration.Runs loader program) ∧
      Journaled (Fitting program? configuration.style calls) machine
        (Visit.run Step.perform configuration.step rest machine).2 := by
  induction rest with
  | nil => exact ⟨none, nofun, .of_eq rfl⟩
  | cons call rest induction =>
      rw [List.cons_subset] at hrest
      cases hcall : call.initializes with
      | false =>
          obtain ⟨program?, hruns, hjournaled⟩ := induction hrest.2
          refine ⟨program?, hruns, ?_⟩
          cases call with
          | format input => contradiction
          | prepare => contradiction
          | isInitialized => exact hjournaled
          | name => exact hjournaled
          | key => exact hjournaled
      | true =>
          obtain ⟨⟨program?, hestablished⟩, hfirst⟩ :=
            journals_makeEngine noting_fitting hloader hquiet machine
          refine ⟨program?, fun program => hestablished.runs, ?_⟩
          rw [run_cons_of_initializes rfl hcall]
          refine (hfirst.mono fun _ => Fitting.of_none).bind ?_
          refine (journals_reply hestablished hrest.1 _).bind fun answer _ => ?_
          refine (journals_run_of_outcome hestablished rfl hrest.2).bind fun _ _ => ?_
          exact journals_pure trivial

end

/-! One command line for each style. -/

/-- A program that is loaded whatever version, files and main class are asked for. -/
theorem load_of_java {search : Search} {loader : JavaLoader} {machine : Machine} {java : Path}
    {version : Version} {bundle : Bundle} (hjava : loader.java? search machine = some java)
    (hversion : bundle.coordinate.version = version.text)
    (hundivided : ∀ file ∈ bundle.files, ':' ∉ file.text.toList) :
    ∃ program, (loader.load search bundle machine).1 = .ok program ∧
      program.java = java ∧ program.version = version := by
  have hclasspath : JavaLoader.classpath bundle.files =
      .ok (":".intercalate (bundle.files.map Path.text)) := by
    rw [JavaLoader.classpath, if_neg]
    simpa [Text.contains] using hundivided
  have hfound := answers_resolveJavaBy search loader machine
  rw [hjava] at hfound
  have hloaded : Answers (loader.load search bundle) machine
      (.ok ⟨java, ":".intercalate (bundle.files.map Path.text),
        loader.mainClass.getD version.mainClass, version⟩) := by
    simp only [JavaLoader.load, Version.parse, hversion, Version.parse?_text, hclasspath]
    exact hfound.bind fun _ _ => (answers_log ..).bind fun _ _ => answers_pure _ _
  exact ⟨_, hloaded.fst_eq, rfl, rfl⟩

/-- What a loaded program makes of a style. -/
structure Expresses (program : JavaProgram) (style : Style) : Prop where
  standard : ∀ machine, (resolveOptions program.api style machine).1 = .ok none ↔
    style = .standard
  resolves : ∀ machine,
    (∃ resolved, (resolveOptions program.api style machine).1 = .ok resolved) ↔
      (style = .kotlinlang → ⟨0, 21, 0⟩ ≤ program.version)
  options : ∀ machine resolved, (resolveOptions program.api style machine).1 = .ok resolved →
    resolved.map ResolvedOptions.options = style.preset?
  constants : ∀ format, program.version.hasFormatConstant format = true ↔
    format.since ≤ program.version
  source : ∀ machine found format,
    (resolveOptions program.api style machine).1 = .ok (some found) →
    style = .ofFormat format →
    found.source = if program.version.hasFormatConstant format then .formatConstant
      else .companionFactory
  commandLine : ∀ machine resolved input,
    (resolveOptions program.api style machine).1 = .ok resolved →
    program.api.engine resolved input = do
      log .trace javaTarget (JavaProgram.runningText (program.launch style input))
      match ← start (program.launch style input) with
      | .error error => return .error (.java (.startFailed program.java error))
      | .ok completion => return JavaProgram.asEngineError (JavaProgram.answer completion)

theorem expresses (program : JavaProgram) (style : Style) : Expresses program style := by
  have hresolution := resolution_resolveOptions program style
  refine ⟨fun machine => (hresolution machine).eq_ok_none_iff,
    fun machine => (hresolution machine).exists_eq_ok_iff, ?_,
    fun format => Version.hasFormatConstant_iff, ?_, ?_⟩
  · intro machine resolved hresolved
    have hoptions := hresolution machine
    rw [hresolved] at hoptions
    exact hoptions.options_eq
  · intro machine found format hfound hstyle
    have hsource := hresolution machine
    rw [hfound] at hsource
    rw [hsource.source_eq hstyle]
    exact if_congr Version.hasFormatConstant_iff.symm rfl rfl
  · intro machine resolved input hresolved
    have hengine := hresolution machine
    rw [hresolved] at hengine
    have hrun : program.run style.flag? input = do
        log .trace javaTarget (JavaProgram.runningText (program.launch style input))
        match ← start (program.launch style input) with
        | .error error => return .error (.startFailed program.java error)
        | .ok completion => return JavaProgram.answer completion := rfl
    rw [hengine.engine_eq, hrun, bind_assoc]
    refine congrArg _ (funext fun _ => ?_)
    rw [bind_assoc]
    refine congrArg _ (funext fun answer => ?_)
    cases answer <;> rfl

/-- How formatters of every release are run in a style. -/
structure CommandLines (search : Search) (loader : JavaLoader) (style : Style) : Prop where
  /-- Every release can be loaded, with any files that a class path can name. -/
  loadable : ∀ (version : Version) (java : Path) (machine : Machine) (bundle : Bundle),
    loader.java? search machine = some java → bundle.coordinate.version = version.text →
    (∀ file ∈ bundle.files, ':' ∉ file.text.toList) →
    ∃ program, (loader.load search bundle machine).1 = .ok program ∧
      program.java = java ∧ program.version = version
  loads : ∀ (bundle : Bundle) (machine : Machine) (program : JavaProgram),
    (loader.load search bundle machine).1 = .ok program → loader.Loads bundle program
  expresses : ∀ program : JavaProgram, Expresses program style
  mono : ∀ (earlier later : JavaProgram) (machine other : Machine)
      (found : Option ResolvedOptions), earlier.version ≤ later.version →
    (resolveOptions earlier.api style machine).1 = .ok found →
    ∃ resolved, (resolveOptions later.api style other).1 = .ok resolved ∧
      resolved.map ResolvedOptions.options = found.map ResolvedOptions.options
  /-- Over every run of a step whose provisioner neither starts a program nor writes the
  warning. -/
  runs : ∀ (builder : Builder Machine) (standard : Loader Machine)
      (configuration : Configuration Machine),
    builder.configuration standard = .ok configuration → configuration.style = style →
    configuration.loader = loader.loaderBy search →
    Journals (Fitting none style []) (fun _ => True)
      (configuration.provisioner configuration.coordinate) →
    ∃ step, builder.build standard = .ok step ∧ ∀ calls machine, ∃ program?,
      (∀ program, program? = some program → configuration.Runs loader program) ∧
        Journaled (Fitting program? style calls) machine
          (Visit.run Step.perform step calls machine).2

theorem commandLines_run (search : Search) (loader : JavaLoader) (style : Style) :
    CommandLines search loader style where
  loadable _ _ _ _ hjava hversion hundivided := load_of_java hjava hversion hundivided
  loads bundle machine :=
    (journals_load (@noting_fitting none style []) search loader bundle machine).1
  expresses program := expresses program style
  mono earlier later machine other found hle hfound := by
    have hearlier := resolution_resolveOptions earlier style machine
    rw [hfound] at hearlier
    exact hearlier.mono (resolution_resolveOptions later style other) hle
  runs builder standard configuration hconfigured hstyle hloader hquiet := by
    subst hstyle
    exact ⟨_, build_of_configuration hconfigured, fun calls machine =>
      journaled_run hloader hquiet (List.Subset.refl calls) machine⟩

/-! A release that has no constants and is started by its old main class. -/

namespace Classic

def loader : JavaLoader :=
  { JavaLoader.ofEnvironment .empty with java := some ⟨"/java"⟩ }

def coordinate : Coordinate :=
  ⟨"com.facebook", "ktfmt", "0.18", some "jar-with-dependencies"⟩

def provisioner : Provisioner Machine := fun coordinate =>
  pure (.ok ⟨coordinate, [⟨"/ktfmt.jar"⟩]⟩)

def builder : Builder Machine :=
  ((Builder.empty.version "0.18").provisioner provisioner).style .google

end Classic

theorem commandLines_run_of_classic :
    ∃ step, Classic.builder.build Classic.loader.loader = .ok step ∧
      ∀ calls machine launch, machine.launches = [] →
        launch ∈ (Visit.run Step.perform step calls machine).2.launches →
        launch.arguments =
          ["-cp", "/ktfmt.jar", "com.facebook.ktfmt.MainKt", "--google-style", "-"] := by
  have hlines := commandLines_run (SearchPath.first "java") Classic.loader .google
  have hconfigured : Classic.builder.configuration Classic.loader.loader =
      .ok ⟨Classic.coordinate, .google, Classic.provisioner, Classic.loader.loader⟩ := rfl
  obtain ⟨step, hbuilt, hjournaled⟩ :=
    hlines.runs _ _ _ hconfigured rfl rfl (journals_pure trivial)
  refine ⟨step, hbuilt, fun calls machine launch hfresh hlaunch => ?_⟩
  obtain ⟨program?, hruns, hevents⟩ := hjournaled calls machine
  rcases launch_of_journaled hevents hlaunch with hold | ⟨program, input, hprogram, -, rfl⟩
  · rw [hfresh] at hold
    cases hold
  obtain ⟨bundle, _, hprovided, hloads⟩ := hruns program hprogram
  obtain rfl : ⟨Classic.coordinate, [⟨"/ktfmt.jar"⟩]⟩ = bundle := Except.ok.inj hprovided
  have hversion : (⟨0, 18, 0⟩ : Version) = program.version := Option.some.inj hloads.version
  have hearly : ¬ (⟨0, 31, 0⟩ : Version) ≤ ⟨0, 18, 0⟩ := by decide
  have hclass : program.mainClass = "com.facebook.ktfmt.MainKt" := by
    rw [hloads.mainClass, ← hversion, if_neg hearly]
    rfl
  have hclasspath : program.classpath = "/ktfmt.jar" := hloads.classpath
  rw [JavaProgram.launch, hclass, hclasspath]
  rfl

end CodeFormatting.Ktfmt
