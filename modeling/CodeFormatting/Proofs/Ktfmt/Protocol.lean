import CodeFormatting.Ktfmt.Builder
import CodeFormatting.Proofs.Step.Mirror
namespace CodeFormatting.Ktfmt

/-! What a step asks of the capabilities that it was built with. Each request is noted with
its answer. -/

variable {World : Type}

inductive Request (World : Type)
  | provision (coordinate : Coordinate) (answer : Except ProvisionError Bundle)
  | load (bundle : Bundle) (answer : Except EngineError (Api World))
  | formatConstant (api : Api World) (constant : Format) (answer : Except LookupError Options)
  | companionStyle (api : Api World) (factory : Factory) (answer : Except LookupError Options)
  | format (api : Api World) (input : String) (answer : Except EngineError String)
  | formatWithOptions (api : Api World) (options : Options) (input : String)
      (answer : Except EngineError String)

abbrev Asked (World : Type) := Observed (Request World) World

def Provisioner.observed (provisioner : Provisioner World) : Provisioner (Asked World) :=
  fun coordinate => Observed.noted (.provision coordinate) (provisioner coordinate)

def Api.observed (api : Api World) : Api (Asked World) where
  format input := Observed.noted (.format api input) (api.format input)
  formatWithOptions options input :=
    Observed.noted (.formatWithOptions api options input) (api.formatWithOptions options input)
  formatConstant constant :=
    Observed.noted (.formatConstant api constant) (api.formatConstant constant)
  companionStyle factory :=
    Observed.noted (.companionStyle api factory) (api.companionStyle factory)

def Loader.observed (loader : Loader World) : Loader (Asked World) := fun bundle => do
  let answer ← Observed.noted (.load bundle) (loader bundle)
  return answer.map Api.observed

def Configuration.observed (configuration : Configuration World) :
    Configuration (Asked World) where
  coordinate := configuration.coordinate
  style := configuration.style
  provisioner := Provisioner.observed configuration.provisioner
  loader := Loader.observed configuration.loader

def Builder.observed (builder : Builder World) : Builder (Asked World) where
  version? := builder.version?
  provisioner? := builder.provisioner?.map Provisioner.observed
  style? := builder.style?
  loader? := builder.loader?.map Loader.observed
  classifier? := builder.classifier?

/-- A formatter that was loaded, with the options of the style unless it is the default. -/
abbrev Loaded (World : Type) := Api World × Option Options

def Loaded.engine : Loaded World → Engine (Asked World)
  | (api, none) => api.observed.format
  | (api, some options) => api.observed.formatWithOptions options

/-- The requests for the options of a style. The factory method is asked only where there is
no constant. -/
inductive Lookup (api : Api World) :
    Style → List (Request World) → Except LookupError (Option Options) → Prop
  | standard : Lookup api .standard [] (.ok none)
  | constant {constant : Format} {options : Options} :
      Lookup api (.ofFormat constant) [.formatConstant api constant (.ok options)]
        (.ok (some options))
  | unreadable {constant : Format} {error : LookupError}
      (hpresent : ∀ name, error ≠ .fieldNotFound name) :
      Lookup api (.ofFormat constant) [.formatConstant api constant (.error error)]
        (.error error)
  | companion {constant : Format} {name : String} {options : Options} :
      Lookup api (.ofFormat constant)
        [.formatConstant api constant (.error (.fieldNotFound name)),
          .companionStyle api constant.factory (.ok options)] (.ok (some options))
  | noCompanion {constant : Format} {name : String} {error : LookupError} :
      Lookup api (.ofFormat constant)
        [.formatConstant api constant (.error (.fieldNotFound name)),
          .companionStyle api constant.factory (.error error)] (.error error)

/-- The requests of an initialization, each made only if all before it succeeded, and what
it comes to. -/
inductive Opening (coordinate : Coordinate) (style : Style) :
    List (Request World) → Except StepError (Loaded World) → Prop
  | notProvided {error : ProvisionError} :
      Opening coordinate style [.provision coordinate (.error error)] (.error (.provision error))
  | notLoaded {bundle : Bundle} {error : EngineError} :
      Opening coordinate style [.provision coordinate (.ok bundle), .load bundle (.error error)]
        (.error (.load error))
  | notFound {bundle : Bundle} {api : Api World} {lookups : List (Request World)}
      {error : LookupError} (hlookup : Lookup api style lookups (.error error)) :
      Opening coordinate style
        (.provision coordinate (.ok bundle) :: .load bundle (.ok api) :: lookups)
        (.error (.load (.lookup error)))
  | loaded {bundle : Bundle} {api : Api World} {lookups : List (Request World)}
      {options : Option Options} (hlookup : Lookup api style lookups (.ok options)) :
      Opening coordinate style
        (.provision coordinate (.ok bundle) :: .load bundle (.ok api) :: lookups)
        (.ok (api, options))

/-- The requests of a call on a step whose initialization has come to something. -/
inductive Served : Except StepError (Loaded World) → Step.Call → List (Request World) →
    Step.Answer → Prop
  | standard {api : Api World} {input : String} {answer : Except EngineError String} :
      Served (.ok (api, none)) (.format input) [.format api input answer]
        (.formatted (answer.mapError .delegate))
  | styled {api : Api World} {options : Options} {input : String}
      {answer : Except EngineError String} :
      Served (.ok (api, some options)) (.format input)
        [.formatWithOptions api options input answer] (.formatted (answer.mapError .delegate))
  | prepared {loaded : Loaded World} : Served (.ok loaded) .prepare [] (.prepared (.ok ()))
  | notFormatted {error : StepError} {input : String} :
      Served (.error error) (.format input) [] (.formatted (.error (.initialization error)))
  | notPrepared {error : StepError} :
      Served (.error error) .prepare [] (.prepared (.error (.initialization error)))
  | looked {outcome : Except StepError (Loaded World)} {call : Step.Call} {answer : Step.Answer}
      (hcall : call.initializes = false) : Served outcome call [] answer

/-! The initializer makes the requests of an opening. -/

theorem Style.accessors?_ofFormat (constant : Format) :
    (Style.ofFormat constant).accessors? = some (constant, constant.factory) := by
  cases constant <;> rfl

theorem Style.eq_standard_or_ofFormat (style : Style) :
    style = .standard ∨ ∃ constant, style = .ofFormat constant := by
  cases style with
  | standard => exact .inl rfl
  | dropbox => exact .inr ⟨.dropbox, rfl⟩
  | google => exact .inr ⟨.google, rfl⟩
  | kotlinlang => exact .inr ⟨.kotlinlang, rfl⟩

theorem exists_lookup (api : Api World) (style : Style) (observed : Asked World) :
    ∃ lookups answer after,
      Lookup api style lookups (answer.map (Option.map ResolvedOptions.options)) ∧
      resolveOptions api.observed style observed =
        (answer, ⟨after, observed.notes ++ lookups⟩) := by
  rcases style.eq_standard_or_ofFormat with rfl | ⟨constant, rfl⟩
  · exact ⟨[], .ok none, observed.world, .standard, by rw [List.append_nil]; rfl⟩
  rw [resolveOptions, Style.accessors?_ofFormat]
  change ∃ lookups answer after, _ ∧
    (Observed.noted _ (api.formatConstant constant) >>= _) observed = _
  rcases hconstant : api.formatConstant constant observed.world with ⟨error | options, asked⟩
  · cases error with
    | fieldNotFound name =>
        rcases hcompanion : api.companionStyle constant.factory asked with
          ⟨error | options, after⟩
        · refine ⟨_, .error error, after, @Lookup.noCompanion _ _ _ name _, ?_⟩
          rw [Observed.noted_bind hconstant]
          change (Observed.noted _ (api.companionStyle constant.factory) >>= _) _ = _
          rw [Observed.noted_bind hcompanion, List.append_assoc]
          rfl
        · refine ⟨_, .ok (some ⟨options, .companionFactory⟩), after,
            @Lookup.companion _ _ _ name _, ?_⟩
          rw [Observed.noted_bind hconstant]
          change (Observed.noted _ (api.companionStyle constant.factory) >>= _) _ = _
          rw [Observed.noted_bind hcompanion, List.append_assoc]
          rfl
    | methodNotFound name =>
        refine ⟨_, .error (.methodNotFound name), asked, .unreadable nofun, ?_⟩
        rw [Observed.noted_bind hconstant]
        rfl
    | inaccessible name reason =>
        refine ⟨_, .error (.inaccessible name reason), asked, .unreadable nofun, ?_⟩
        rw [Observed.noted_bind hconstant]
        rfl
  · refine ⟨_, .ok (some ⟨options, .formatConstant⟩), asked, .constant, ?_⟩
    rw [Observed.noted_bind hconstant]
    rfl

section

variable {coordinate : Coordinate} {style : Style} {provisioner : Provisioner World}
  {loader : Loader World} {world provided : World}

theorem makeEngine_of_not_provided {error : ProvisionError}
    (hprovision : provisioner coordinate world = (.error error, provided)) :
    (Configuration.observed ⟨coordinate, style, provisioner, loader⟩).makeEngine ⟨world, []⟩ =
      (.error (.provision error), ⟨provided, [.provision coordinate (.error error)]⟩) :=
  (Observed.noted_bind hprovision _).trans rfl

variable {bundle : Bundle} {loaded : World}

/-- The bundle that was provided is the one that is loaded. -/
theorem load_observed {answer : Except EngineError (Api World)}
    (hload : loader bundle provided = (answer, loaded)) (notes : List (Request World)) :
    Loader.observed loader bundle ⟨provided, notes⟩ =
      (answer.map Api.observed, ⟨loaded, notes ++ [.load bundle answer]⟩) :=
  (Observed.noted_bind hload _).trans rfl

theorem makeEngine_of_not_loaded {error : EngineError}
    (hprovision : provisioner coordinate world = (.ok bundle, provided))
    (hload : loader bundle provided = (.error error, loaded)) :
    (Configuration.observed ⟨coordinate, style, provisioner, loader⟩).makeEngine ⟨world, []⟩ =
      (.error (.load error),
        ⟨loaded, [.provision coordinate (.ok bundle), .load bundle (.error error)]⟩) := by
  refine (Observed.noted_bind hprovision _).trans ?_
  simp only [Configuration.observed, bind, StateT.bind, load_observed hload]
  rfl

theorem makeEngine_of_loaded {api : Api World}
    {answer : Except LookupError (Option ResolvedOptions)} {final : Asked World}
    (hprovision : provisioner coordinate world = (.ok bundle, provided))
    (hload : loader bundle provided = (.ok api, loaded))
    (hresolve : resolveOptions api.observed style
      ⟨loaded, [.provision coordinate (.ok bundle), .load bundle (.ok api)]⟩ = (answer, final)) :
    (Configuration.observed ⟨coordinate, style, provisioner, loader⟩).makeEngine ⟨world, []⟩ =
      ((answer.mapError fun error => .load (.lookup error)).map api.observed.engine, final) := by
  refine (Observed.noted_bind hprovision _).trans ?_
  simp only [Configuration.observed, bind, StateT.bind, load_observed hload, Except.map,
    List.nil_append, List.cons_append, hresolve]
  cases answer <;> rfl

end

theorem exists_opening (configuration : Configuration World) (world : World) :
    ∃ opening outcome after,
      configuration.observed.makeEngine ⟨world, []⟩ =
        (outcome.map Loaded.engine, ⟨after, opening⟩) ∧
      Opening configuration.coordinate configuration.style opening outcome := by
  rcases configuration with ⟨coordinate, style, provisioner, loader⟩
  rcases hprovision : provisioner coordinate world with ⟨error | bundle, provided⟩
  · exact ⟨_, .error (.provision error), provided, makeEngine_of_not_provided hprovision,
      .notProvided⟩
  rcases hload : loader bundle provided with ⟨error | api, loaded⟩
  · exact ⟨_, .error (.load error), loaded, makeEngine_of_not_loaded hprovision hload, .notLoaded⟩
  obtain ⟨lookups, answer, after, hlookup, hresolve⟩ := exists_lookup api style
    ⟨loaded, [.provision coordinate (.ok bundle), .load bundle (.ok api)]⟩
  have hmade := makeEngine_of_loaded hprovision hload hresolve
  cases answer with
  | error error =>
      exact ⟨_, .error (.load (.lookup error)), after, hmade, .notFound hlookup⟩
  | ok resolved =>
      refine ⟨.provision coordinate (.ok bundle) :: .load bundle (.ok api) :: lookups,
        .ok (api, resolved.map ResolvedOptions.options), after, ?_, .loaded hlookup⟩
      rw [hmade]
      cases resolved <;> rfl

/-! A call on the step that was built is served by what its initialization came to. -/

theorem Outcome.adds (outcome : Except StepError (Loaded World)) :
    Step.OutcomeAdds (outcome.map Loaded.engine) := by
  rcases outcome with error | ⟨api, _ | options⟩
  · trivial
  · exact fun input => Observed.adds_noted _ _
  · exact fun input => Observed.adds_noted _ _

theorem served_of_reply {step : Step (Asked World)} {outcome : Except StepError (Loaded World)}
    {call : Step.Call} {now : World} {answer : Step.Answer} {own : List (Request World)}
    (hreply : (Observed.collected (step.reply (outcome.map Loaded.engine) call) now).1 =
      (answer, own)) :
    Served outcome call own answer := by
  cases call with
  | format input =>
      rcases outcome with error | ⟨api, _ | options⟩
      · cases hreply
        exact .notFormatted
      · rw [Except.map, Step.reply_format_ok] at hreply
        cases hreply
        exact .standard
      · rw [Except.map, Step.reply_format_ok] at hreply
        cases hreply
        exact .styled
  | prepare =>
      rcases outcome with error | loaded
      · cases hreply
        exact .notPrepared
      · cases hreply
        exact .prepared
  | isInitialized | name | key =>
      cases hreply
      exact .looked rfl

theorem Served.own_eq_nil {outcome : Except StepError (Loaded World)} {call : Step.Call}
    {own : List (Request World)} {answer : Step.Answer} (hserved : Served outcome call own answer)
    (hcall : call.initializes = false) : own = [] := by
  cases hserved with
  | standard => contradiction
  | styled => contradiction
  | prepared => rfl
  | notFormatted => rfl
  | notPrepared => rfl
  | looked => rfl

theorem Builder.configuration_eq_ok_iff {builder : Builder World} {standard : Loader World}
    {configuration : Configuration World} :
    builder.configuration standard = .ok configuration ↔
      ∃ version, builder.visibleVersion? = some version ∧
        builder.provisioner? = some configuration.provisioner ∧
        builder.style? = some configuration.style ∧
        Builder.coordinate version builder.classifier? = .ok configuration.coordinate ∧
        configuration.loader = builder.loader?.getD standard := by
  rcases configuration with ⟨coordinate, style, provisioner, loader⟩
  unfold Builder.configuration
  cases hversion : builder.visibleVersion? with
  | none => simp
  | some version =>
      cases hprovisioner : builder.provisioner? with
      | none => simp
      | some given =>
          cases hstyle : builder.style? with
          | none => simp
          | some named =>
              cases hcoordinate : Builder.coordinate version builder.classifier? with
              | error error => simp [hcoordinate]
              | ok parsed =>
                  simp only [hcoordinate, Except.ok.injEq, Configuration.mk.injEq,
                    Option.some.injEq]
                  constructor
                  · rintro ⟨rfl, rfl, rfl, rfl⟩
                    exact ⟨version, rfl, rfl, rfl, hcoordinate, rfl⟩
                  · rintro ⟨other, rfl, rfl, rfl, hother, rfl⟩
                    rw [hcoordinate] at hother
                    cases hother
                    exact ⟨rfl, rfl, rfl, rfl⟩

theorem configuration_observed {builder : Builder World} {standard : Loader World}
    {configuration : Configuration World}
    (hconfigured : builder.configuration standard = .ok configuration) :
    builder.observed.configuration (Loader.observed standard) = .ok configuration.observed := by
  obtain ⟨version, hversion, hprovisioner, hstyle, hcoordinate, hloader⟩ :=
    Builder.configuration_eq_ok_iff.mp hconfigured
  refine Builder.configuration_eq_ok_iff.mpr ⟨version, hversion, ?_, hstyle, hcoordinate, ?_⟩
  · exact congrArg (Option.map Provisioner.observed) hprovisioner
  · rw [Configuration.observed, hloader, Builder.observed]
    cases builder.loader? <;> rfl

/-- The step of a configuration before its first use. -/
def Configuration.step (configuration : Configuration World) : Step World where
  name := stepName
  key := configuration.toJson.compact
  initializer := configuration.makeEngine
  outcome := none

theorem build_of_configuration {builder : Builder World} {standard : Loader World}
    {configuration : Configuration World}
    (hconfigured : builder.configuration standard = .ok configuration) :
    builder.build standard = .ok configuration.step := by
  rw [Builder.build, hconfigured]
  exact Step.create_eq_ok_iff.mpr ⟨rfl, _, rfl, rfl⟩

/-! Observing the capabilities changes no answer. -/

theorem mirrors_load (loader : Loader World) (bundle : Bundle) :
    Observed.Mirrors (fun bare noted => noted = bare.map Api.observed) (loader bundle)
      (Loader.observed loader bundle) :=
  fun _ => ⟨rfl, rfl⟩

theorem mirrors_resolveOptions (api : Api World) (style : Style) :
    Observed.Mirrors Eq (resolveOptions api style) (resolveOptions api.observed style) := by
  simp only [resolveOptions]
  cases style.accessors? with
  | none => exact Observed.mirrors_pure rfl
  | some accessors =>
      refine (Observed.mirrors_noted _ (api.formatConstant accessors.1)).bind ?_
      rintro (error | options) _ rfl
      · cases error with
        | fieldNotFound name =>
            refine (Observed.mirrors_noted _ (api.companionStyle accessors.2)).bind ?_
            rintro (error | options) _ rfl <;> exact Observed.mirrors_pure rfl
        | methodNotFound name => exact Observed.mirrors_pure rfl
        | inaccessible name reason => exact Observed.mirrors_pure rfl
      · exact Observed.mirrors_pure rfl

theorem mirrors_makeEngine (configuration : Configuration World) :
    Observed.Mirrors Outcome.Mirrors configuration.makeEngine
      configuration.observed.makeEngine := by
  refine (Observed.mirrors_noted _ (configuration.provisioner configuration.coordinate)).bind ?_
  rintro (error | bundle) _ rfl
  · exact Observed.mirrors_pure (.error _)
  refine (mirrors_load configuration.loader bundle).bind ?_
  rintro (error | api) _ rfl
  · exact Observed.mirrors_pure (.error _)
  refine (mirrors_resolveOptions api configuration.style).bind ?_
  rintro (error | resolved) _ rfl
  · exact Observed.mirrors_pure (.error _)
  · refine Observed.mirrors_pure (.ok fun input => ?_)
    cases resolved with
    | none => exact Observed.mirrors_noted _ _
    | some resolved => exact Observed.mirrors_noted _ _

theorem mirrors_step (configuration : Configuration World) :
    configuration.step.Mirrors configuration.observed.step :=
  ⟨rfl, rfl, mirrors_makeEngine configuration, .none⟩

/-- What a run asks for. The first call that needs the outcome makes the requests of an
opening, no call before it makes any, and one after it only what its own answer takes. -/
structure Protocol (coordinate : Coordinate) (style : Style) (calls : List Step.Call)
    (visits : List (Visit (Step (Asked World)) Step.Call Step.Answer (Request World))) :
    Prop where
  called : visits.map Visit.call = calls
  requests : ∃ opening outcome, Opening coordinate style opening outcome ∧
    ∀ index visit, visits[index]? = some visit →
      (index < calls.findIdx Step.Call.initializes → visit.notes = []) ∧
      ∃ own, Served outcome visit.call own visit.answer ∧
        visit.notes =
          (if index = calls.findIdx Step.Call.initializes then opening else []) ++ own

/-- Over every run of a step that was built with any capabilities. -/
theorem protocol_run {builder : Builder World} {standard : Loader World}
    {configuration : Configuration World}
    (hconfigured : builder.configuration standard = .ok configuration)
    (calls : List Step.Call) (world : World) :
    ∃ step observed, builder.build standard = .ok step ∧
      builder.observed.build (Loader.observed standard) = .ok observed ∧
      Protocol configuration.coordinate configuration.style calls
        (observed.visits calls world) ∧
      (observed.visits calls world).map Visit.answer =
        (Visit.run Step.perform step calls world).1.1 := by
  obtain ⟨opening, outcome, after, hmade, hopening⟩ := exists_opening configuration world
  have hcollected : Observed.collected configuration.observed.makeEngine world =
      ((outcome.map Loaded.engine, opening), after) := by
    rw [Observed.collected, hmade]
  have hanswers := (mirrors_step configuration).visits calls world
  refine ⟨_, _, build_of_configuration hconfigured,
    build_of_configuration (configuration_observed hconfigured),
    ⟨Visit.calls_history _ _ _ _, opening, outcome, hopening, ?_⟩, hanswers.1⟩
  intro index visit hvisit
  obtain ⟨-, -, now, own, hreply, hnotes⟩ :=
    Step.follows_of_getElem? rfl hcollected (Outcome.adds outcome) hvisit
  have hserved := served_of_reply hreply
  refine ⟨fun hearly => ?_, own, hserved, hnotes⟩
  have hcall := Visit.getElem?_calls_history hvisit
  obtain ⟨hlt, hsame⟩ := List.getElem?_eq_some_iff.mp hcall
  have hlooks := List.not_of_lt_findIdx hearly
  rw [hsame] at hlooks
  rw [hnotes, if_neg (Nat.ne_of_lt hearly), hserved.own_eq_nil hlooks]
  rfl

/-! A release that has no constant for any style. The world counts what is asked. -/

namespace Older

def api : Api Nat where
  format input asked := (.ok input, asked + 1)
  formatWithOptions _ input asked := (.ok input, asked + 1)
  formatConstant constant asked := (.error (.fieldNotFound constant.fieldName), asked + 1)
  companionStyle _ asked := (.ok .google, asked + 1)

def configuration : Configuration Nat where
  coordinate := ⟨"com.facebook", "ktfmt", "0.18", none⟩
  style := .google
  provisioner coordinate asked := (.ok ⟨coordinate, []⟩, asked + 1)
  loader _ asked := (.ok api, asked + 1)

def builder : Builder Nat where
  version? := some "0.18"
  provisioner? := some configuration.provisioner
  style? := some .google
  loader? := none
  classifier? := none

end Older

theorem protocol_run_of_older :
    Older.builder.configuration Older.configuration.loader = .ok Older.configuration ∧
      ∃ observed,
        Older.builder.observed.build (Loader.observed Older.configuration.loader) = .ok observed ∧
        Protocol ⟨"com.facebook", "ktfmt", "0.18", none⟩ .google [.prepare, .format "a"]
          (observed.visits [.prepare, .format "a"] 0) := by
  have hversion : Older.builder.visibleVersion? = some "0.18" := rfl
  have hcoordinate : Builder.coordinate "0.18" none =
    .ok ⟨"com.facebook", "ktfmt", "0.18", none⟩ := rfl
  have hconfigured : Older.builder.configuration Older.configuration.loader =
      .ok Older.configuration :=
    Builder.configuration_eq_ok_iff.mpr ⟨"0.18", hversion, rfl, rfl, hcoordinate, rfl⟩
  obtain ⟨step, observed, -, hbuilt, hprotocol, -⟩ :=
    protocol_run hconfigured [.prepare, .format "a"] 0
  exact ⟨hconfigured, observed, hbuilt, hprotocol⟩

end CodeFormatting.Ktfmt
