import CodeFormatting.Proofs.Json.Records
import CodeFormatting.Proofs.Ktfmt.Protocol
import CodeFormatting.Proofs.Step.Sharing
namespace CodeFormatting

/-! The key of a formatter step is the text of its coordinate and its style, from which both can
be told. -/

theorem Coordinate.toJson_injective : Function.Injective Coordinate.toJson := by
  intro first second hsame
  have hread := congrArg Coordinate.ofJson? hsame
  rw [Coordinate.ofJson?_toJson, Coordinate.ofJson?_toJson] at hread
  exact Option.some.inj hread

namespace Ktfmt

variable {World : Type}

theorem Style.ofJson?_toJson (style : Style) : Style.ofJson? style.toJson = some style := by
  cases style <;> rfl

theorem Style.toJson_injective : Function.Injective Style.toJson := by
  intro first second hsame
  have hread := congrArg Style.ofJson? hsame
  rw [Style.ofJson?_toJson, Style.ofJson?_toJson] at hread
  exact Option.some.inj hread

namespace Configuration

theorem exact_toJson (configuration : Configuration World) :
    configuration.toJson.Exact :=
  .cons configuration.coordinate.exact_toJson (.cons (.string _) Json.exact_empty)

/-- The same formatter in the same style, however each is provided and loaded. -/
structure Agrees (first second : Configuration World) : Prop where
  group : first.coordinate.group = second.coordinate.group
  artifact : first.coordinate.artifact = second.coordinate.artifact
  version : first.coordinate.version = second.coordinate.version
  classifier : first.coordinate.classifier = second.coordinate.classifier
  style : first.style = second.style

theorem agrees_iff {first second : Configuration World} :
    first.Agrees second ↔ first.coordinate = second.coordinate ∧ first.style = second.style := by
  refine ⟨fun hagrees => ⟨?_, hagrees.style⟩, fun hsame => ?_⟩
  · calc first.coordinate
      _ = ⟨first.coordinate.group, first.coordinate.artifact, first.coordinate.version,
            first.coordinate.classifier⟩ := rfl
      _ = second.coordinate := by
          rw [hagrees.group, hagrees.artifact, hagrees.version, hagrees.classifier]
  · obtain ⟨hcoordinate, hstyle⟩ := hsame
    constructor <;> first | exact hstyle | rw [hcoordinate]

theorem identity_step_eq_iff {first second : Configuration World} :
    first.step.identity = second.step.identity ↔ first.Agrees second := by
  have hkey : first.step.identity = second.step.identity ↔
      first.toJson.compact = second.toJson.compact := by
    simp only [Step.identity, Configuration.step, Prod.mk.injEq, true_and]
  rw [hkey, Json.compact_inj first.exact_toJson second.exact_toJson, agrees_iff]
  simp only [Configuration.toJson, Json.object.injEq, List.cons.injEq, Prod.mk.injEq, true_and,
    and_true, Coordinate.toJson_injective.eq_iff, Style.toJson_injective.eq_iff]

end Configuration

theorem configuration_of_build {builder : Builder World} {standard : Loader World}
    {step : Step World} (hbuilt : builder.build standard = .ok step) :
    ∃ configuration, builder.configuration standard = .ok configuration ∧
      step = configuration.step := by
  cases hconfigured : builder.configuration standard with
  | error error => simp [Builder.build, hconfigured] at hbuilt
  | ok configuration =>
      rw [build_of_configuration hconfigured] at hbuilt
      exact ⟨configuration, rfl, (Except.ok.inj hbuilt).symm⟩

/-- Two steps are equal, and share an object of a cache, just if they are configured alike. It
does not matter how each is provided and loaded. -/
theorem identity_of_configuration {builder other : Builder World}
    {standard fallback : Loader World} {step twin : Step World}
    (hbuilt : builder.build standard = .ok step) (hother : other.build fallback = .ok twin) :
    ∃ first second, builder.configuration standard = .ok first ∧
      other.configuration fallback = .ok second ∧
      (step.identity = twin.identity ↔ first.Agrees second) ∧
      ∀ (calls : List (StepStore.Call World)) (world : World) (earlier later : Nat),
        earlier < later → calls[earlier]? = some (.getOrInsert step) →
        calls[later]? = some (.getOrInsert twin) → ¬ StepStore.Cleared calls earlier later →
        (StepStore.handle? (StepStore.visits calls world) earlier =
          StepStore.handle? (StepStore.visits calls world) later ↔ first.Agrees second) := by
  obtain ⟨first, hfirst, rfl⟩ := configuration_of_build hbuilt
  obtain ⟨second, hsecond, rfl⟩ := configuration_of_build hother
  refine ⟨first, second, hfirst, hsecond, Configuration.identity_step_eq_iff, ?_⟩
  intro calls world earlier later hlt hearlier hlater hcleared
  rw [StepStore.handle?_eq_iff world hlt hearlier hlater hcleared]
  exact Configuration.identity_step_eq_iff

/-! Two classifiers of which one is the escaped text of the other. -/

namespace Quoted

def configuration (classifier : String) : Configuration Unit where
  coordinate := ⟨"com.facebook", "ktfmt", "0.21", some classifier⟩
  style := .google
  provisioner coordinate := pure (.ok ⟨coordinate, []⟩)
  loader _ := pure (.error (.rejected ""))

def builder (classifier : String) : Builder Unit where
  version? := some "0.21"
  provisioner? := some (configuration classifier).provisioner
  style? := some .google
  loader? := some (configuration classifier).loader
  classifier? := some classifier

end Quoted

theorem identity_of_quoted :
    ∃ step twin, (Quoted.builder "\"").build (Quoted.configuration "\"").loader = .ok step ∧
      (Quoted.builder "\\\"").build (Quoted.configuration "\\\"").loader = .ok twin ∧
      step.identity ≠ twin.identity ∧
      (let visits := StepStore.visits [.getOrInsert step, .getOrInsert twin] ()
      StepStore.handle? visits 0 ≠ StepStore.handle? visits 1) := by
  obtain ⟨step, hbuilt⟩ : ∃ step,
      (Quoted.builder "\"").build (Quoted.configuration "\"").loader = .ok step := ⟨_, rfl⟩
  obtain ⟨twin, hother⟩ : ∃ twin,
      (Quoted.builder "\\\"").build (Quoted.configuration "\\\"").loader = .ok twin := ⟨_, rfl⟩
  obtain ⟨first, second, hfirst, hsecond, hidentity, hshared⟩ :=
    identity_of_configuration hbuilt hother
  obtain rfl : Quoted.configuration "\"" = first := Except.ok.inj hfirst
  obtain rfl : Quoted.configuration "\\\"" = second := Except.ok.inj hsecond
  have hdiffer : ¬ (Quoted.configuration "\"").Agrees (Quoted.configuration "\\\"") :=
    fun hagrees => absurd hagrees.classifier (by decide)
  have hcleared : ¬ StepStore.Cleared [.getOrInsert step, .getOrInsert twin] 0 1 := by
    rintro ⟨index, hfirst, hlast, -⟩
    omega
  refine ⟨step, twin, hbuilt, hother, mt hidentity.mp hdiffer, ?_⟩
  exact mt (hshared [.getOrInsert step, .getOrInsert twin] () 0 1 Nat.zero_lt_one rfl rfl
    hcleared).mp hdiffer

end Ktfmt
end CodeFormatting
