import CodeFormatting.Proofs.Ktfmt.Completion
import CodeFormatting.Proofs.Warnings
namespace CodeFormatting.Ktfmt

/-! What can be asked for on the command line. A flag stands for one of the presets, and whatever
the options are, their flag is that of one of them. -/

namespace Options

/-- The presets by their style, width and indents, the last one with the wider indents. -/
def published : List Options :=
  [⟨.facebook, 100, 2, 2, true⟩, ⟨.dropbox, 100, 4, 4, true⟩, ⟨.google, 100, 2, 2, true⟩,
    ⟨.google, 100, 4, 4, true⟩]

/-- What a formatter is set to by a flag, or without one. -/
inductive Denotes : Option String → Options → Prop
  | facebook : Denotes none .facebook
  | dropbox : Denotes (some "--dropbox-style") .dropbox
  | google : Denotes (some "--google-style") .google
  | kotlinlang : Denotes (some "--kotlinlang-style") .kotlinlang

/-- A field in which two options are not the same. -/
inductive Differ (options other : Options) : Prop
  | style (hstyle : options.style ≠ other.style) : Differ options other
  | maxWidth (hwidth : options.maxWidth ≠ other.maxWidth) : Differ options other
  | blockIndent (hindent : options.blockIndent ≠ other.blockIndent) : Differ options other
  | continuationIndent (hindent : options.continuationIndent ≠ other.continuationIndent) :
      Differ options other
  | removeUnusedImports (himports : options.removeUnusedImports ≠ other.removeUnusedImports) :
      Differ options other

variable {options other preset : Options} {flag wanted : Option String}

theorem differ_iff : Differ options other ↔ options ≠ other := by
  constructor
  · rintro hdiffer rfl
    cases hdiffer <;> contradiction
  · intro hne
    by_contra hsame
    apply hne
    have hfield {Field : Type} {field : Options → Field}
        (hdiffer : field options ≠ field other → Differ options other) :
        field options = field other :=
      not_not.mp (mt hdiffer hsame)
    have hstyle := hfield .style
    have hwidth := hfield .maxWidth
    have hblock := hfield .blockIndent
    have hcontinuation := hfield .continuationIndent
    have himports := hfield .removeUnusedImports
    cases options
    cases other
    simp_all

theorem denotes_flagPreset (options : Options) : Denotes options.flag? options.flagPreset := by
  unfold flag? flagPreset
  cases options.style with
  | facebook => exact .facebook
  | dropbox => exact .dropbox
  | google =>
      by_cases hindent : options.blockIndent = 2
      · simpa only [hindent, if_true] using Denotes.google
      · simpa only [hindent, if_false] using Denotes.kotlinlang

theorem Denotes.flag?_eq (hdenotes : Denotes flag preset) : preset.flag? = flag := by
  cases hdenotes <;> rfl

/-- No two presets are denoted by one flag. -/
theorem Denotes.eq_of_eq (hdenotes : Denotes flag preset) (hother : Denotes wanted other)
    (hflag : flag = wanted) : preset = other := by
  cases hdenotes <;> cases hother <;> first | rfl | simp at hflag

theorem Denotes.mem_published (hdenotes : Denotes flag preset) : preset ∈ published := by
  cases hdenotes <;> decide

theorem flagPreset_of_mem_published (hmem : preset ∈ published) : preset.flagPreset = preset := by
  simp only [published, List.mem_cons, List.not_mem_nil, or_false] at hmem
  rcases hmem with rfl | rfl | rfl | rfl <;> rfl

theorem flag?_eq_iff : options.flag? = other.flag? ↔ options.flagPreset = other.flagPreset := by
  have hdenotes := options.denotes_flagPreset
  have hother := other.denotes_flagPreset
  constructor
  · intro hflag
    exact hdenotes.eq_of_eq hother hflag
  · intro hpreset
    rw [← hdenotes.flag?_eq, hpreset, hother.flag?_eq]

theorem style_flagPreset (options : Options) : options.flagPreset.style = options.style := by
  unfold flagPreset
  split
  · next hstyle => exact hstyle.symm
  · next hstyle => exact hstyle.symm
  · next hstyle =>
      rw [hstyle]
      split <;> rfl

theorem isFlagPreset_iff_mem : options.isFlagPreset = true ↔ options ∈ published := by
  rw [isFlagPreset, decide_eq_true_eq]
  constructor
  · intro hpreset
    rw [hpreset]
    exact options.denotes_flagPreset.mem_published
  · intro hmem
    exact (flagPreset_of_mem_published hmem).symm

theorem isFlagPreset_eq_false_iff :
    options.isFlagPreset = false ↔ Differ options options.flagPreset := by
  rw [differ_iff, isFlagPreset, decide_eq_false_iff_not]

end Options

/-! What formatting in some options leaves in the journal. -/

variable {program : JavaProgram} {options preset : Options} {flag : Option String}
  {input : String} {machine next : Machine} {launch : Launch} {completion : Completion}
  {event : Event}

def launchOf (program : JavaProgram) (flag : Option String) (input : String) : Launch :=
  ⟨program.java, program.arguments flag, input⟩

/-- The options are not quite those of the preset that they are formatted in. -/
def inexact (options preset : Options) : Log.Record :=
  ⟨.warn, javaTarget, "ktfmt command line can't express " ++ options.description ++
    "; formatting with " ++ preset.description ++ " instead"⟩

/-- Formatting in some options with the flag of a preset warns just if a field of theirs is not
that of the preset. -/
structure Announces (program : JavaProgram) (options preset : Options) (flag : Option String)
    (input : String) (machine next : Machine) : Prop where
  warned : Options.Differ options preset →
    Log.warnings next.records = Log.warnings machine.records ++ [inexact options preset]
  silent : ¬ Options.Differ options preset →
    Log.warnings next.records = Log.warnings machine.records
  started : ∀ completion, Ends machine (launchOf program flag input) completion →
    next.launches = machine.launches ++ [launchOf program flag input]
  refused : (∀ completion, ¬ Ends machine (launchOf program flag input) completion) →
    next.launches = machine.launches

theorem ends_record_iff :
    Ends (machine.record event) launch completion ↔ Ends machine launch completion :=
  Iff.rfl

theorem start_of_refused (hrefused : ∀ completion, ¬ Ends machine launch completion) :
    (start launch machine).2 = { machine with files := (start launch machine).2.files } := by
  rcases hexecute : machine.execute machine.files machine.directory launch with
    ⟨files, error | completion⟩
  · rw [start_of_error hexecute]
  · exact absurd (congrArg Prod.snd hexecute) (hrefused completion)

theorem start_of_ends (hends : Ends machine launch completion) :
    (start launch machine).2 =
      Machine.record { machine with files := (start launch machine).2.files }
        (.started launch) := by
  rcases hexecute : machine.execute machine.files machine.directory launch with
    ⟨files, error | completion⟩
  · rw [Ends, hexecute] at hends
    contradiction
  · rw [start_of_ok hexecute]
    rfl

theorem records_start (launch : Launch) (machine : Machine) :
    (start launch machine).2.records = machine.records := by
  by_cases hends : ∃ completion, Ends machine launch completion
  · obtain ⟨completion, hends⟩ := hends
    rw [start_of_ends hends]
    simp [Machine.records, Machine.record]
  · rw [start_of_refused (not_exists.mp hends)]
    rfl

theorem launches_start (hends : Ends machine launch completion) :
    (start launch machine).2.launches = machine.launches ++ [launch] := by
  rw [start_of_ends hends]
  simp [Machine.launches, Machine.record]

theorem launches_start_of_refused (hrefused : ∀ completion, ¬ Ends machine launch completion) :
    (start launch machine).2.launches = machine.launches := by
  rw [start_of_refused hrefused]
  rfl

/-- Before the program is started, its launch is noted in a record that is no warning. -/
theorem run_snd (program : JavaProgram) (flag : Option String) (input : String)
    (machine : Machine) :
    (program.run flag input machine).2 =
      (start (launchOf program flag input) (machine.record (.logged ⟨.trace, javaTarget,
        JavaProgram.runningText (launchOf program flag input)⟩))).2 := by
  simp only [JavaProgram.run, bind, StateT.bind, log, modify, modifyGet, MonadStateOf.modifyGet,
    StateT.modifyGet, pure, launchOf]
  generalize start _ _ = answered
  rcases answered with ⟨error | completion, next⟩ <;> rfl

theorem warnings_run (program : JavaProgram) (flag : Option String) (input : String)
    (machine : Machine) :
    Log.warnings (program.run flag input machine).2.records = Log.warnings machine.records := by
  rw [run_snd, records_start, Machine.records_record_logged, Log.warnings_append]
  exact List.append_nil _

theorem launches_run
    (hends : Ends machine (launchOf program flag input) completion) :
    (program.run flag input machine).2.launches =
      machine.launches ++ [launchOf program flag input] := by
  rw [run_snd, launches_start (ends_record_iff.mpr hends), Machine.launches_record_logged]

theorem launches_run_of_refused
    (hrefused : ∀ completion, ¬ Ends machine (launchOf program flag input) completion) :
    (program.run flag input machine).2.launches = machine.launches := by
  rw [run_snd, launches_start_of_refused fun completion hends =>
    hrefused completion (ends_record_iff.mp hends), Machine.launches_record_logged]

theorem formatWithOptions_snd_of_differ (hdiffer : Options.Differ options options.flagPreset) :
    (program.formatWithOptions options input machine).2 =
      (program.run options.flag? input
        (machine.record (.logged (inexact options options.flagPreset)))).2 := by
  rw [JavaProgram.formatWithOptions, Options.isFlagPreset_eq_false_iff.mpr hdiffer]
  rfl

theorem formatWithOptions_snd_of_same (hsame : ¬ Options.Differ options options.flagPreset) :
    (program.formatWithOptions options input machine).2 =
      (program.run options.flag? input machine).2 := by
  rw [← Options.isFlagPreset_eq_false_iff, Bool.not_eq_false] at hsame
  rw [JavaProgram.formatWithOptions, hsame]
  rfl

theorem announces_formatWithOptions (program : JavaProgram) (options : Options) (input : String)
    (machine : Machine) :
    Announces program options options.flagPreset options.flag? input machine
      (program.formatWithOptions options input machine).2 := by
  by_cases hdiffer : Options.Differ options options.flagPreset
  · rw [formatWithOptions_snd_of_differ hdiffer]
    refine ⟨fun _ => ?_, absurd hdiffer, fun completion hends => ?_, fun hrefused => ?_⟩
    · rw [warnings_run, Machine.records_record_logged, Log.warnings_append]
      rfl
    · rw [launches_run (ends_record_iff.mpr hends), Machine.launches_record_logged]
    · rw [launches_run_of_refused fun completion hends =>
        hrefused completion (ends_record_iff.mp hends), Machine.launches_record_logged]
  · rw [formatWithOptions_snd_of_same hdiffer]
    refine ⟨fun hwarned => absurd hwarned hdiffer, fun _ => warnings_run .., ?_, ?_⟩
    · exact fun completion hends => launches_run hends
    · exact launches_run_of_refused

/-- The flag and the preset of options say the same of them, and formatting warns just if
something of the options is not what the flag that it passes stands for. -/
theorem flag_agrees_with_preset (options other : Options) :
    (options.flag? = other.flag? ↔ options.flagPreset = other.flagPreset) ∧
      options.flagPreset.flagPreset = options.flagPreset ∧
      options.flagPreset.style = options.style ∧
      options.flagPreset.flag? = options.flag? ∧
      (options.isFlagPreset = true ↔ options ∈ Options.published) ∧
      ∀ program input machine, ∃ preset, Options.Denotes options.flag? preset ∧
        Announces program options preset options.flag? input machine
          (program.formatWithOptions options input machine).2 := by
  have hdenotes := options.denotes_flagPreset
  refine ⟨Options.flag?_eq_iff, Options.flagPreset_of_mem_published hdenotes.mem_published,
    options.style_flagPreset, hdenotes.flag?_eq, Options.isFlagPreset_iff_mem, ?_⟩
  intro program input machine
  exact ⟨_, hdenotes, announces_formatWithOptions program options input machine⟩

end CodeFormatting.Ktfmt
