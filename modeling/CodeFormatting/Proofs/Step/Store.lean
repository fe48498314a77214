import Mathlib.Data.List.Dedup
import Mathlib.Data.List.Induction
import CodeFormatting.Proofs.Step.Memoisation
import CodeFormatting.Step.Cache
namespace CodeFormatting.StepStore

/-! The calls of a cache and of the steps behind the handles that it gives out. A step that
is handed in is observed under the place of its call in the run, so that the notes tell the
steps of equal identity apart. -/

variable {World : Type}

inductive Call (World : Type)
  | getOrInsert (step : Step World)
  | clear
  | size
  | isEmpty
  | use (reference : Reference) (call : Step.Call)

inductive Answer
  | handle (reference : Reference)
  | cleared
  | count (value : Nat)
  | flag (value : Bool)
  | used (answer : Option Step.Answer)

def Answer.handle? : Answer → Option Reference
  | handle reference => some reference
  | _ => none

def perform (store : StepStore World) : Call World → StateM World (Answer × StepStore World)
  | .getOrInsert step =>
    let (reference, store) := store.getOrInsert step
    return (.handle reference, store)
  | .clear => return (.cleared, store.clear)
  | .size => return (.count store.size, store)
  | .isEmpty => return (.flag store.isEmpty, store)
  | .use reference call => do
    let (answer, store) ← store.use reference (·.perform call)
    return (.used answer, store)

def Call.observed (origin : Nat) : Call World → Call (Watched Nat World)
  | getOrInsert step => getOrInsert (step.observed origin)
  | clear => clear
  | size => size
  | isEmpty => isEmpty
  | use reference call => use reference call

abbrev WatchedVisit (World : Type) :=
  Visit (StepStore (Watched Nat World)) (Call (Watched Nat World)) Answer (Happening Nat World)

/-- The visits of a run that starts with a new cache. -/
def visits (calls : List (Call World)) (world : World) : List (WatchedVisit World) :=
  (Visit.history perform .empty (calls.mapIdx Call.observed) world).1.1

/-- The handle that the cache gave out at a place of the run. -/
def handle? (visits : List (WatchedVisit World)) (index : Nat) : Option Reference :=
  visits[index]?.bind (·.answer.handle?)

/-- Whether the cache was cleared between two places of a run. -/
def Cleared (calls : List (Call World)) (first last : Nat) : Prop :=
  ∃ index, first < index ∧ index < last ∧ calls[index]? = some .clear

/-- The identities handed in since the cache was last cleared. -/
def identities (calls : List (Call World)) : List Step.Identity :=
  calls.foldl (fun identities call =>
    match call with
    | .getOrInsert step => identities ++ [step.identity]
    | .clear => []
    | _ => identities) []

/-- What the initializer of the step with an origin answered, each time that it ran. -/
def initializationsOf (origin : Nat) (visits : List (WatchedVisit World)) :
    List (Outcome World) :=
  (visits.flatMap Visit.notes).filterMap fun note =>
    if note.origin = origin then note.outcome? else none

/-! The steps of the store. Each is the one handed in at the place of its origin, and only
such a step leaves notes. Its initializer has run at most once, and not at all where the
step has no outcome. -/

/-- The step handed in at a place of the run became the object of a reference. -/
def Created (visits : List (WatchedVisit World)) (origin : Nat) (reference : Reference) : Prop :=
  ∃ visit, visits[origin]? = some visit ∧ visit.answer = .handle reference ∧
    visit.before.steps.length = reference

structure Account (visits : List (WatchedVisit World)) (reference : Reference) (origin : Nat)
    (step : Step World) : Prop where
  created : Created visits origin reference
  runs : initializationsOf origin visits = [] ∨
    ∃ outcome, step.outcome = some outcome ∧ initializationsOf origin visits = [outcome]

structure Accounted (visits : List (WatchedVisit World))
    (store : StepStore (Watched Nat World)) : Prop where
  steps : ∀ reference object, store.get? reference = some object →
    ∃ origin step, object = Step.observed origin step ∧ Account visits reference origin step
  noted : ∀ visit ∈ visits, ∀ note ∈ visit.notes, ∃ reference, Created visits note.origin reference
  once : ∀ origin, (initializationsOf origin visits).length ≤ 1

/-! What one call does to the store. -/

inductive Effect (visits : List (WatchedVisit World)) (store : StepStore (Watched Nat World)) :
    Call World → Answer → List (Happening Nat World) → StepStore (Watched Nat World) → Prop
  | found {step : Step World} {reference : Reference}
      (hcached : store.cached? step.identity = some reference) :
      Effect visits store (.getOrInsert step) (.handle reference) [] store
  | added {step : Step World} (habsent : store.cached? step.identity = none) :
      Effect visits store (.getOrInsert step) (.handle store.steps.length) []
        ⟨store.steps ++ [step.observed visits.length],
          (step.identity, store.steps.length) :: store.cached⟩
  | cleared : Effect visits store .clear .cleared [] store.clear
  | counted : Effect visits store .size (.count store.size) [] store
  | tested : Effect visits store .isEmpty (.flag store.isEmpty) [] store
  | missing {reference : Reference} {call : Step.Call}
      (hmissing : store.get? reference = none) :
      Effect visits store (.use reference call) (.used none) [] store
  | unchanged {reference : Reference} {call : Step.Call} {origin : Nat} {step : Step World}
      {answer : Step.Answer} {own : List (Happening Nat World)}
      (hobject : store.get? reference = some (step.observed origin))
      (haccount : Account visits reference origin step)
      (hown : ∀ note ∈ own, note.origin = origin ∧ note.outcome? = none) :
      Effect visits store (.use reference call) (.used (some answer)) own store
  | settled {reference : Reference} {call : Step.Call} {origin : Nat} {step : Step World}
      {outcome : Outcome World} {answer : Step.Answer} {own : List (Happening Nat World)}
      (hobject : store.get? reference = some (step.observed origin))
      (haccount : Account visits reference origin step) (hfresh : step.outcome = none)
      (hown : ∀ note ∈ own, note.origin = origin ∧ note.outcome? = none) :
      Effect visits store (.use reference call) (.used (some answer))
        (.initialized origin outcome :: own)
        (store.replace reference ((step.settled outcome).observed origin))

theorem getOrInsert_of_cached {store : StepStore World} {step : Step World}
    {reference : Reference} (hcached : store.cached? step.identity = some reference) :
    store.getOrInsert step = (reference, store) := by
  simp only [getOrInsert, hcached]

theorem getOrInsert_of_absent {store : StepStore World} {step : Step World}
    (habsent : store.cached? step.identity = none) :
    store.getOrInsert step = (store.steps.length,
      ⟨store.steps ++ [step], (step.identity, store.steps.length) :: store.cached⟩) := by
  simp only [getOrInsert, habsent, add]

theorem replace_of_get? {store : StepStore World} {reference : Reference} {step : Step World}
    (hobject : store.get? reference = some step) : store.replace reference step = store := by
  obtain ⟨hindex, rfl⟩ := List.getElem?_eq_some_iff.mp hobject
  simp [replace]

theorem collected_use {store : StepStore (Watched Nat World)} {reference : Reference}
    {object : Step (Watched Nat World)} (hobject : store.get? reference = some object)
    (call : Step.Call) (world : World) :
    Observed.collected (store.perform (.use reference call)) world =
      (let (((answer, after), notes), next) := Observed.collected (object.perform call) world
      (((.used (some answer), store.replace reference after), notes), next)) := by
  simp only [perform, use, hobject]
  rfl

theorem Accounted.effect {visits : List (WatchedVisit World)}
    {store after : StepStore (Watched Nat World)} (haccounted : Accounted visits store)
    {call : Call World} {answer : Answer} {notes : List (Happening Nat World)}
    {world next : World}
    (hcall : Observed.collected (store.perform (call.observed visits.length)) world =
      (((answer, after), notes), next)) :
    Effect visits store call answer notes after := by
  cases call with
  | getOrInsert step =>
      cases hcached : store.cached? step.identity with
      | some reference =>
          have hfound : store.getOrInsert (step.observed visits.length) = _ :=
            getOrInsert_of_cached hcached
          simp only [Call.observed, perform, hfound] at hcall
          cases hcall
          exact .found hcached
      | none =>
          have hadded : store.getOrInsert (step.observed visits.length) = _ :=
            getOrInsert_of_absent hcached
          simp only [Call.observed, perform, hadded] at hcall
          cases hcall
          exact .added hcached
  | clear => cases hcall; exact .cleared
  | size => cases hcall; exact .counted
  | isEmpty => cases hcall; exact .tested
  | use reference call =>
      rcases hobject : store.get? reference with _ | object
      · simp only [Call.observed, perform, use, hobject] at hcall
        cases hcall
        exact .missing hobject
      · obtain ⟨origin, step, rfl, haccount⟩ := haccounted.steps reference object hobject
        obtain ⟨opening, own, hperform, hown, hcase⟩ :=
          Step.collected_perform_observed origin step call world
        rw [Call.observed, collected_use hobject, hperform] at hcall
        cases hcall
        rcases hcase with ⟨rfl, hstep⟩ | ⟨hfresh, outcome, rfl, hstep⟩
        · rw [hstep, replace_of_get? hobject]
          exact .unchanged hobject haccount hown
        · rw [hstep]
          exact .settled hobject haccount hfresh hown

/-! The entries of the cache: one for each identity handed in since it was last cleared, and
each for a step of that identity. -/

structure Keyed (calls : List (Call World)) (store : StepStore (Watched Nat World)) : Prop where
  named : ∀ identity reference, store.cached? identity = some reference →
    ∃ object, store.get? reference = some object ∧ object.identity = identity
  nodup : (store.cached.map Prod.fst).Nodup
  mem_iff : ∀ identity, identity ∈ store.cached.map Prod.fst ↔ identity ∈ identities calls

theorem identities_concat (calls : List (Call World)) (call : Call World) :
    identities (calls ++ [call]) =
      match call with
      | .getOrInsert step => identities calls ++ [step.identity]
      | .clear => []
      | _ => identities calls := by
  simp only [identities, List.foldl_append, List.foldl_cons, List.foldl_nil]

theorem cached?_eq_none_iff {store : StepStore World} {identity : Step.Identity} :
    store.cached? identity = none ↔ identity ∉ store.cached.map Prod.fst := by
  simp only [cached?, List.lookup_eq_none_iff, List.mem_map, not_exists, not_and]
  constructor
  · rintro habsent entry hentry rfl
    simpa using habsent entry hentry
  · intro habsent entry hentry
    simpa using fun heq => habsent entry hentry heq.symm

theorem mem_keys_of_cached? {store : StepStore World} {identity : Step.Identity}
    {reference : Reference} (hcached : store.cached? identity = some reference) :
    identity ∈ store.cached.map Prod.fst := by
  by_contra habsent
  rw [cached?_eq_none_iff.mpr habsent] at hcached
  cases hcached

theorem keyed_empty : Keyed ([] : List (Call World)) .empty where
  named := by
    intro identity reference hcached
    cases hcached
  nodup := List.nodup_nil
  mem_iff := fun _ => Iff.rfl

theorem Keyed.reference_lt {calls : List (Call World)} {store : StepStore (Watched Nat World)}
    (hkeyed : Keyed calls store) {identity : Step.Identity} {reference : Reference}
    (hcached : store.cached? identity = some reference) : reference < store.steps.length := by
  obtain ⟨object, hobject, -⟩ := hkeyed.named identity reference hcached
  exact (List.getElem?_eq_some_iff.mp hobject).1

theorem Keyed.add {calls : List (Call World)} {store : StepStore (Watched Nat World)}
    (hkeyed : Keyed calls store) {step : Step World}
    (habsent : store.cached? step.identity = none) (origin : Nat) :
    Keyed (calls ++ [.getOrInsert step])
      ⟨store.steps ++ [step.observed origin],
        (step.identity, store.steps.length) :: store.cached⟩ where
  named := by
    intro identity reference hcached
    rw [cached?, List.lookup_cons] at hcached
    by_cases heq : identity = step.identity
    · simp only [heq, beq_self_eq_true] at hcached
      cases hcached
      exact ⟨_, List.getElem?_concat_length, heq.symm⟩
    · simp only [beq_false_of_ne heq] at hcached
      obtain ⟨object, hobject, hidentity⟩ := hkeyed.named identity reference hcached
      have hlt := hkeyed.reference_lt hcached
      refine ⟨object, ?_, hidentity⟩
      rw [get?, List.getElem?_append_left hlt]
      exact hobject
  nodup := List.nodup_cons.mpr ⟨cached?_eq_none_iff.mp habsent, hkeyed.nodup⟩
  mem_iff := by
    intro identity
    rw [identities_concat, List.map_cons, List.mem_cons, hkeyed.mem_iff, List.mem_append,
      List.mem_singleton, or_comm]

/-- An object may become another one of its identity. -/
theorem Keyed.replace {calls : List (Call World)} {store : StepStore (Watched Nat World)}
    (hkeyed : Keyed calls store) {reference : Reference}
    {object after : Step (Watched Nat World)} (hobject : store.get? reference = some object)
    (hidentity : after.identity = object.identity) :
    Keyed calls (store.replace reference after) where
  named := by
    intro identity cached hcached
    obtain ⟨other, hother, hnamed⟩ := hkeyed.named identity cached hcached
    have hlt := hkeyed.reference_lt hcached
    by_cases heq : reference = cached
    · subst heq
      rw [hobject] at hother
      cases hother
      exact ⟨after, List.getElem?_set_self hlt, hidentity.trans hnamed⟩
    · exact ⟨other, by rw [get?, StepStore.replace, List.getElem?_set_ne heq]; exact hother,
        hnamed⟩
  nodup := hkeyed.nodup
  mem_iff := hkeyed.mem_iff

theorem Keyed.extend {calls : List (Call World)} {store after : StepStore (Watched Nat World)}
    {visits : List (WatchedVisit World)} {call : Call World} {answer : Answer}
    {notes : List (Happening Nat World)} (hkeyed : Keyed calls store)
    (heffect : Effect visits store call answer notes after) :
    Keyed (calls ++ [call]) after := by
  cases heffect with
  | @found step reference hcached =>
      refine ⟨hkeyed.named, hkeyed.nodup, fun identity => ?_⟩
      have hmem := (hkeyed.mem_iff step.identity).mp (mem_keys_of_cached? hcached)
      rw [identities_concat, hkeyed.mem_iff, List.mem_append, List.mem_singleton]
      exact ⟨.inl, fun hor => hor.elim id fun heq => heq ▸ hmem⟩
  | added habsent => exact hkeyed.add habsent visits.length
  | cleared =>
      refine ⟨?_, List.nodup_nil, fun identity => ?_⟩
      · intro identity reference hcached
        cases hcached
      · rw [identities_concat]
        exact Iff.rfl
  | counted | tested | missing | unchanged =>
      exact ⟨hkeyed.named, hkeyed.nodup, fun identity => by
        rw [identities_concat, hkeyed.mem_iff]⟩
  | @settled reference call origin step outcome answer own hobject =>
      have hidentity : ((step.settled outcome).observed origin).identity =
          (step.observed origin).identity := rfl
      have hreplaced := hkeyed.replace hobject hidentity
      exact ⟨hreplaced.named, hreplaced.nodup, fun identity => by
        rw [identities_concat]; exact hkeyed.mem_iff identity⟩

/-! The handles given out so far. One given out since the last clear is in the cache; one
given out before stands for an object of its own and will not come back. -/

structure Handed (calls : List (Call World)) (visits : List (WatchedVisit World))
    (store : StepStore (Watched Nat World)) : Prop where
  length : visits.length = calls.length
  bounded : ∀ index reference, handle? visits index = some reference →
    reference < store.steps.length
  current : ∀ index step reference, calls[index]? = some (.getOrInsert step) →
    handle? visits index = some reference → ¬ Cleared calls index calls.length →
    store.cached? step.identity = some reference
  forgotten : ∀ index reference, handle? visits index = some reference →
    Cleared calls index calls.length → ∀ identity, store.cached? identity ≠ some reference

theorem handle?_of_lt {visits : List (WatchedVisit World)} {index : Nat}
    (hindex : index < visits.length) (visit : WatchedVisit World) :
    handle? (visits ++ [visit]) index = handle? visits index := by
  rw [handle?, handle?, List.getElem?_append_left hindex]

@[simp] theorem handle?_length (visits : List (WatchedVisit World))
    (visit : WatchedVisit World) :
    handle? (visits ++ [visit]) visits.length = visit.answer.handle? := by
  simp [handle?]

theorem lt_length_of_handle? {visits : List (WatchedVisit World)} {index : Nat}
    {reference : Reference} (hhandle : handle? visits index = some reference) :
    index < visits.length := by
  obtain ⟨visit, hvisit, -⟩ := Option.bind_eq_some_iff.mp hhandle
  exact (List.getElem?_eq_some_iff.mp hvisit).1

theorem cleared_concat_iff {calls : List (Call World)} {call : Call World} {index : Nat} :
    Cleared (calls ++ [call]) index (calls ++ [call]).length ↔
      Cleared calls index calls.length ∨ index < calls.length ∧ call = .clear := by
  simp only [Cleared, List.length_append, List.length_singleton]
  constructor
  · rintro ⟨place, hfirst, hlast, hclear⟩
    rcases Nat.lt_succ_iff_lt_or_eq.mp hlast with hlt | rfl
    · rw [List.getElem?_append_left hlt] at hclear
      exact .inl ⟨place, hfirst, hlt, hclear⟩
    · rw [List.getElem?_concat_length] at hclear
      exact .inr ⟨hfirst, Option.some.inj hclear⟩
  · rintro (⟨place, hfirst, hlt, hclear⟩ | ⟨hfirst, rfl⟩)
    · exact ⟨place, hfirst, by omega, by rwa [List.getElem?_append_left hlt]⟩
    · exact ⟨calls.length, hfirst, by omega, List.getElem?_concat_length⟩

theorem handed_empty : Handed ([] : List (Call World)) [] .empty where
  length := rfl
  bounded := by
    intro index reference hhandle
    cases hhandle
  current := by
    intro index step reference hcall
    cases hcall
  forgotten := by
    intro index reference hhandle
    cases hhandle

theorem Effect.length_le {visits : List (WatchedVisit World)}
    {store after : StepStore (Watched Nat World)} {call : Call World} {answer : Answer}
    {notes : List (Happening Nat World)}
    (heffect : Effect visits store call answer notes after) :
    store.steps.length ≤ after.steps.length := by
  cases heffect with
  | added => simp
  | settled => simp [replace]
  | cleared => exact Nat.le_refl _
  | found | counted | tested | missing | unchanged => exact Nat.le_refl _

/-- A handle that is given out is in the cache afterwards, and was there before if the step
is not new. -/
theorem Effect.cached?_of_handle {visits : List (WatchedVisit World)}
    {store after : StepStore (Watched Nat World)} {call : Call World} {answer : Answer}
    {notes : List (Happening Nat World)}
    {reference : Reference} (heffect : Effect visits store call answer notes after)
    (hanswer : answer.handle? = some reference) :
    ∃ step, call = .getOrInsert step ∧ after.cached? step.identity = some reference ∧
      (store.cached? step.identity = some reference ∨
        store.cached? step.identity = none ∧ reference = store.steps.length) := by
  cases heffect with
  | @found step reference hcached =>
      cases hanswer
      exact ⟨step, rfl, hcached, .inl hcached⟩
  | @added step habsent =>
      cases hanswer
      exact ⟨step, rfl, List.lookup_cons_self, .inr ⟨habsent, rfl⟩⟩
  | cleared => cases hanswer
  | counted | tested | missing | unchanged => cases hanswer
  | settled => cases hanswer

/-- Without a clear the entries of the cache stay, and a new one is for a new step. -/
theorem Effect.cached?_of_cached? {visits : List (WatchedVisit World)}
    {store after : StepStore (Watched Nat World)} {call : Call World} {answer : Answer}
    {notes : List (Happening Nat World)}
    (heffect : Effect visits store call answer notes after) :
    (call = .clear ∧ after.cached = []) ∨
      (call ≠ .clear ∧
        (∀ identity reference, store.cached? identity = some reference →
          after.cached? identity = some reference) ∧
        ∀ identity reference, after.cached? identity = some reference →
          store.cached? identity = some reference ∨ reference = store.steps.length) := by
  cases heffect with
  | cleared => exact .inl ⟨rfl, rfl⟩
  | @added step habsent =>
      refine .inr ⟨by simp, ?_, ?_⟩
      · intro identity reference hcached
        have hne : identity ≠ step.identity := by
          rintro rfl
          rw [habsent] at hcached
          cases hcached
        rw [cached?, List.lookup_cons, beq_false_of_ne hne]
        exact hcached
      · intro identity reference hcached
        rw [cached?, List.lookup_cons] at hcached
        split at hcached
        · exact .inr (Option.some.inj hcached).symm
        · exact .inl hcached
  | found | counted | tested | missing | unchanged | settled =>
      exact .inr ⟨by simp, fun _ _ => id, fun _ _ => .inl⟩

theorem Handed.extend {calls : List (Call World)} {visits : List (WatchedVisit World)}
    {store after : StepStore (Watched Nat World)} {call : Call World}
    {visit : WatchedVisit World} (hkeyed : Keyed calls store)
    (hhanded : Handed calls visits store)
    (heffect : Effect visits store call visit.answer visit.notes after) :
    Handed (calls ++ [call]) (visits ++ [visit]) after := by
  have hplace : ∀ {index reference}, handle? (visits ++ [visit]) index = some reference →
      index < calls.length ∧ handle? visits index = some reference ∨
        index = calls.length ∧ visit.answer.handle? = some reference := by
    intro index reference hhandle
    have hlt := lt_length_of_handle? hhandle
    rw [List.length_append, List.length_singleton] at hlt
    rcases Nat.lt_succ_iff_lt_or_eq.mp hlt with hold | rfl
    · rw [handle?_of_lt hold] at hhandle
      exact .inl ⟨hhanded.length ▸ hold, hhandle⟩
    · rw [handle?_length] at hhandle
      exact .inr ⟨hhanded.length, hhandle⟩
  refine ⟨?_, ?_, ?_, ?_⟩
  · rw [List.length_append, List.length_append, hhanded.length]
    rfl
  · intro index reference hhandle
    rcases hplace hhandle with ⟨-, hold⟩ | ⟨-, hnew⟩
    · exact Nat.lt_of_lt_of_le (hhanded.bounded index reference hold) heffect.length_le
    · obtain ⟨step, -, hcached, -⟩ := heffect.cached?_of_handle hnew
      exact (hkeyed.extend heffect).reference_lt hcached
  · intro index step reference hcall hhandle hnotCleared
    rw [cleared_concat_iff, not_or, not_and] at hnotCleared
    rcases hplace hhandle with ⟨hlt, hold⟩ | ⟨rfl, hnew⟩
    · rw [List.getElem?_append_left hlt] at hcall
      have hcached := hhanded.current index step reference hcall hold hnotCleared.1
      rcases heffect.cached?_of_cached? with ⟨hclear, -⟩ | ⟨-, hkept, -⟩
      · exact absurd hclear (hnotCleared.2 hlt)
      · exact hkept _ _ hcached
    · rw [List.getElem?_concat_length] at hcall
      obtain ⟨inserted, rfl, hcached, -⟩ := heffect.cached?_of_handle hnew
      cases hcall
      exact hcached
  · intro index reference hhandle hcleared identity hcached
    rw [cleared_concat_iff] at hcleared
    rcases hplace hhandle with ⟨hlt, hold⟩ | ⟨rfl, -⟩
    · rcases heffect.cached?_of_cached? with ⟨-, hempty⟩ | ⟨hnotClear, -, hnew⟩
      · rw [cached?, hempty] at hcached
        cases hcached
      · have hbefore := hcleared.resolve_right fun hclear => hnotClear hclear.2
        rcases hnew identity reference hcached with hcachedOld | rfl
        · exact hhanded.forgotten index reference hold hbefore identity hcachedOld
        · exact Nat.lt_irrefl _ (hhanded.bounded index _ hold)
    · rcases hcleared with ⟨place, hfirst, hlast, -⟩ | ⟨hlt, -⟩
      · omega
      · exact Nat.lt_irrefl _ hlt

/-! The account of the steps stays true. -/

theorem Created.concat {visits : List (WatchedVisit World)} {origin : Nat}
    {reference : Reference} (hcreated : Created visits origin reference)
    (visit : WatchedVisit World) : Created (visits ++ [visit]) origin reference := by
  obtain ⟨earlier, hearlier, hanswer⟩ := hcreated
  have hlt := (List.getElem?_eq_some_iff.mp hearlier).1
  exact ⟨earlier, by rw [List.getElem?_append_left hlt, hearlier], hanswer⟩

theorem Created.lt_length {visits : List (WatchedVisit World)} {origin : Nat}
    {reference : Reference} (hcreated : Created visits origin reference) :
    origin < visits.length := by
  obtain ⟨earlier, hearlier, -⟩ := hcreated
  exact (List.getElem?_eq_some_iff.mp hearlier).1

theorem Created.unique {visits : List (WatchedVisit World)} {origin : Nat}
    {first second : Reference} (hfirst : Created visits origin first)
    (hsecond : Created visits origin second) : first = second := by
  obtain ⟨visit, hvisit, hanswer, -⟩ := hfirst
  obtain ⟨other, hother, hotherAnswer, -⟩ := hsecond
  rw [hvisit] at hother
  cases hother
  rw [hanswer] at hotherAnswer
  cases hotherAnswer
  rfl

theorem initializationsOf_concat (origin : Nat) (visits : List (WatchedVisit World))
    (visit : WatchedVisit World) :
    initializationsOf origin (visits ++ [visit]) = initializationsOf origin visits ++
      visit.notes.filterMap fun note => if note.origin = origin then note.outcome? else none := by
  simp [initializationsOf]

theorem initializationsOf_concat_of_quiet {origin : Nat} {visits : List (WatchedVisit World)}
    {visit : WatchedVisit World} (hquiet : ∀ note ∈ visit.notes, note.outcome? = none) :
    initializationsOf origin (visits ++ [visit]) = initializationsOf origin visits := by
  have hnone : (visit.notes.filterMap fun note =>
      if note.origin = origin then note.outcome? else none) = [] := by
    rw [List.filterMap_eq_nil_iff]
    intro note hnote
    rw [hquiet note hnote, ite_self]
  rw [initializationsOf_concat, hnone, List.append_nil]

theorem initializationsOf_eq_nil {visits : List (WatchedVisit World)} {origin : Nat}
    (hnone : ∀ visit ∈ visits, ∀ note ∈ visit.notes, note.origin ≠ origin) :
    initializationsOf origin visits = [] := by
  rw [initializationsOf, List.filterMap_eq_nil_iff]
  intro note hnote
  obtain ⟨visit, hvisit, hmem⟩ := List.mem_flatMap.mp hnote
  rw [if_neg (hnone visit hvisit note hmem)]

theorem accounted_empty : Accounted ([] : List (WatchedVisit World)) .empty where
  steps := by
    intro reference object hobject
    cases hobject
  noted := by
    intro visit hvisit
    cases hvisit
  once := fun _ => Nat.zero_le 1

/-- Where a call lets the steps be and its notes hold no initialization, the account stays. -/
theorem Accounted.extend_of_quiet {visits : List (WatchedVisit World)}
    {store after : StepStore (Watched Nat World)} {visit : WatchedVisit World}
    (haccounted : Accounted visits store) (hsteps : after.steps = store.steps)
    (hquiet : ∀ note ∈ visit.notes, note.outcome? = none)
    (hnoted : ∀ note ∈ visit.notes, ∃ reference, Created visits note.origin reference) :
    Accounted (visits ++ [visit]) after where
  steps := by
    intro reference object hobject
    rw [get?, hsteps] at hobject
    obtain ⟨origin, step, hstep, hcreated, hruns⟩ := haccounted.steps reference object hobject
    refine ⟨origin, step, hstep, hcreated.concat visit, ?_⟩
    rw [initializationsOf_concat_of_quiet hquiet]
    exact hruns
  noted := by
    intro other hother note hnote
    rcases List.mem_append.mp hother with hold | hnew
    · obtain ⟨reference, hcreated⟩ := haccounted.noted other hold note hnote
      exact ⟨reference, hcreated.concat visit⟩
    · rw [List.mem_singleton] at hnew
      subst hnew
      obtain ⟨reference, hcreated⟩ := hnoted note hnote
      exact ⟨reference, hcreated.concat other⟩
  once := by
    intro origin
    rw [initializationsOf_concat_of_quiet hquiet]
    exact haccounted.once origin

theorem Accounted.extend_of_added {visits : List (WatchedVisit World)}
    {store : StepStore (Watched Nat World)} {visit : WatchedVisit World} {step : Step World}
    (haccounted : Accounted visits store) (hbefore : visit.before = store)
    (hanswer : visit.answer = .handle store.steps.length) (hnotes : visit.notes = [])
    (cached : List (Step.Identity × Reference)) :
    Accounted (visits ++ [visit])
      ⟨store.steps ++ [step.observed visits.length], cached⟩ where
  steps := by
    have hquiet : ∀ note ∈ visit.notes, note.outcome? = none := by simp [hnotes]
    intro reference object hobject
    rcases Nat.lt_or_ge reference store.steps.length with hlt | hge
    · rw [get?, List.getElem?_append_left hlt] at hobject
      obtain ⟨origin, other, hother, hcreated, hruns⟩ := haccounted.steps _ _ hobject
      refine ⟨origin, other, hother, hcreated.concat visit, ?_⟩
      rw [initializationsOf_concat_of_quiet hquiet]
      exact hruns
    · have hbound := (List.getElem?_eq_some_iff.mp hobject).1
      simp only [List.length_append, List.length_singleton] at hbound
      have hreference : reference = store.steps.length :=
        Nat.le_antisymm (Nat.lt_succ_iff.mp hbound) hge
      subst hreference
      rw [get?, List.getElem?_concat_length] at hobject
      refine ⟨visits.length, step, (Option.some.inj hobject).symm, ?_, .inl ?_⟩
      · exact ⟨visit, List.getElem?_concat_length, hanswer, by rw [hbefore]⟩
      · rw [initializationsOf_concat_of_quiet hquiet]
        refine initializationsOf_eq_nil fun other hother note hnote heq => ?_
        obtain ⟨reference, hcreated⟩ := haccounted.noted other hother note hnote
        exact Nat.lt_irrefl _ (heq ▸ hcreated.lt_length)
  noted := by
    intro other hother note hnote
    rcases List.mem_append.mp hother with hold | hnew
    · obtain ⟨reference, hcreated⟩ := haccounted.noted other hold note hnote
      exact ⟨reference, hcreated.concat visit⟩
    · rw [List.mem_singleton.mp hnew, hnotes] at hnote
      cases hnote
  once := by
    intro origin
    rw [initializationsOf_concat_of_quiet (by simp [hnotes])]
    exact haccounted.once origin

theorem initializationsOf_concat_of_settled {visits : List (WatchedVisit World)}
    {visit : WatchedVisit World} {reference : Reference} {origin : Nat} {step : Step World}
    {outcome : Outcome World} {own : List (Happening Nat World)}
    (haccount : Account visits reference origin step) (hfresh : step.outcome = none)
    (hnotes : visit.notes = .initialized origin outcome :: own)
    (hown : ∀ note ∈ own, note.origin = origin ∧ note.outcome? = none) (other : Nat) :
    initializationsOf other (visits ++ [visit]) =
      if origin = other then [outcome] else initializationsOf other visits := by
  have hnothing : (own.filterMap fun note =>
      if note.origin = other then note.outcome? else none) = [] := by
    rw [List.filterMap_eq_nil_iff]
    intro note hnote
    rw [(hown note hnote).2, ite_self]
  rw [initializationsOf_concat, hnotes, List.filterMap_cons, hnothing]
  by_cases hother : origin = other
  · subst hother
    have hbefore : initializationsOf origin visits = [] := by
      rcases haccount.runs with hnone | ⟨earlier, hearlier, -⟩
      · exact hnone
      · rw [hfresh] at hearlier
        cases hearlier
    simp [hbefore, Happening.origin, Happening.outcome?]
  · simp [hother, Happening.origin]

theorem Accounted.extend_of_settled {visits : List (WatchedVisit World)}
    {store : StepStore (Watched Nat World)} {visit : WatchedVisit World}
    {reference : Reference} {origin : Nat} {step : Step World} {outcome : Outcome World}
    {own : List (Happening Nat World)} (haccounted : Accounted visits store)
    (haccount : Account visits reference origin step) (hfresh : step.outcome = none)
    (hnotes : visit.notes = .initialized origin outcome :: own)
    (hown : ∀ note ∈ own, note.origin = origin ∧ note.outcome? = none) :
    Accounted (visits ++ [visit])
      (store.replace reference ((step.settled outcome).observed origin)) where
  steps := by
    intro other object hobject
    rw [get?, replace, List.getElem?_set] at hobject
    split at hobject
    · next heq =>
        subst heq
        split at hobject
        · refine ⟨origin, step.settled outcome, (Option.some.inj hobject).symm,
            haccount.created.concat visit, .inr ⟨outcome, rfl, ?_⟩⟩
          rw [initializationsOf_concat_of_settled haccount hfresh hnotes hown, if_pos rfl]
        · cases hobject
    · next hne =>
        obtain ⟨source, resident, hresident, hcreated, hruns⟩ := haccounted.steps _ _ hobject
        have hsource : origin ≠ source := by
          rintro rfl
          exact hne (haccount.created.unique hcreated)
        refine ⟨source, resident, hresident, hcreated.concat visit, ?_⟩
        rw [initializationsOf_concat_of_settled haccount hfresh hnotes hown, if_neg hsource]
        exact hruns
  noted := by
    intro other hother note hnote
    rcases List.mem_append.mp hother with hold | hnew
    · obtain ⟨created, hcreated⟩ := haccounted.noted other hold note hnote
      exact ⟨created, hcreated.concat visit⟩
    · rw [List.mem_singleton.mp hnew, hnotes] at hnote
      refine ⟨reference, ?_⟩
      rcases List.mem_cons.mp hnote with rfl | hnote
      · exact haccount.created.concat visit
      · rw [(hown note hnote).1]
        exact haccount.created.concat visit
  once := by
    intro other
    rw [initializationsOf_concat_of_settled haccount hfresh hnotes hown]
    split
    · exact Nat.le_refl 1
    · exact haccounted.once other

theorem Accounted.extend {visits : List (WatchedVisit World)}
    {store after : StepStore (Watched Nat World)} {call : Call World} {answer : Answer}
    {notes : List (Happening Nat World)} (haccounted : Accounted visits store)
    (heffect : Effect visits store call answer notes after) :
    Accounted (visits ++ [⟨call.observed visits.length, store, answer, notes, after⟩])
      after := by
  cases heffect with
  | added => exact haccounted.extend_of_added rfl rfl rfl _
  | settled hobject haccount hfresh hown =>
      exact haccounted.extend_of_settled haccount hfresh rfl hown
  | unchanged hobject haccount hown =>
      refine haccounted.extend_of_quiet rfl (fun note hnote => (hown note hnote).2) ?_
      intro note hnote
      rw [(hown note hnote).1]
      exact ⟨_, haccount.created⟩
  | found | cleared | counted | tested | missing =>
      exact haccounted.extend_of_quiet rfl nofun nofun

/-! Whole runs. -/

structure Sound (calls : List (Call World)) (visits : List (WatchedVisit World))
    (store : StepStore (Watched Nat World)) : Prop where
  keyed : Keyed calls store
  handed : Handed calls visits store
  accounted : Accounted visits store

theorem visits_concat (calls : List (Call World)) (call : Call World) (world : World) :
    ∃ store answer notes after,
      visits (calls ++ [call]) world = visits calls world ++
        [⟨call.observed calls.length, store, answer, notes, after⟩] ∧
      (Visit.history perform .empty (calls.mapIdx Call.observed) world).1.2 = store ∧
      (Visit.history perform .empty ((calls ++ [call]).mapIdx Call.observed) world).1.2 =
        after ∧
      ∃ now next, Observed.collected (store.perform (call.observed calls.length)) now =
        (((answer, after), notes), next) := by
  rcases hpast : Visit.history perform .empty (calls.mapIdx Call.observed) world with
    ⟨⟨earlier, store⟩, now⟩
  rcases hcall : Observed.collected (store.perform (call.observed calls.length)) now with
    ⟨⟨⟨answer, after⟩, notes⟩, next⟩
  have hrun : Visit.history perform .empty ((calls ++ [call]).mapIdx Call.observed) world =
      ((earlier ++ [⟨call.observed calls.length, store, answer, notes, after⟩], after),
        next) := by
    rw [List.mapIdx_concat, Visit.history_concat, hpast]
    simp only [hcall]
  refine ⟨store, answer, notes, after, ?_, rfl, by rw [hrun], now, next, hcall⟩
  rw [visits, visits, hrun, hpast]

theorem sound_run (calls : List (Call World)) (world : World) :
    Sound calls (visits calls world)
      (Visit.history perform .empty (calls.mapIdx Call.observed) world).1.2 := by
  induction calls using List.reverseRecOn with
  | nil => exact ⟨keyed_empty, handed_empty, accounted_empty⟩
  | append_singleton past call induction =>
      obtain ⟨store, answer, notes, after, hvisits, hbefore, hafter, now, next, hcall⟩ :=
        visits_concat past call world
      rw [hbefore] at induction
      rw [hvisits, hafter]
      rw [← induction.handed.length] at hcall ⊢
      have heffect := induction.accounted.effect hcall
      exact ⟨induction.keyed.extend heffect, induction.handed.extend induction.keyed heffect,
        induction.accounted.extend heffect⟩

/-- Every visit of a run takes place in a sound state and has one of the effects of a
call. -/
structure Placed (calls : List (Call World)) (visits : List (WatchedVisit World)) (index : Nat)
    (visit : WatchedVisit World) (call : Call World) : Prop where
  called : calls[index]? = some call
  observed : visit.call = call.observed index
  sound : Sound (calls.take index) (visits.take index) visit.before
  effect : Effect (visits.take index) visit.before call visit.answer visit.notes visit.after

theorem exists_placed {calls : List (Call World)} {world : World} {index : Nat}
    {visit : WatchedVisit World} (hvisit : (visits calls world)[index]? = some visit) :
    ∃ call, Placed calls (visits calls world) index visit call := by
  induction calls using List.reverseRecOn with
  | nil => cases hvisit
  | append_singleton past call induction =>
      obtain ⟨store, answer, notes, after, hvisits, hbefore, hafter, now, next, hcall⟩ :=
        visits_concat past call world
      have hsound := sound_run past world
      have hlength := hsound.handed.length
      rw [hbefore] at hsound
      rw [hvisits] at hvisit ⊢
      rcases Nat.lt_or_ge index past.length with hlt | hge
      · rw [List.getElem?_append_left (hlength ▸ hlt)] at hvisit
        obtain ⟨earlier, hcalled, hobserved, hsoundEarlier, heffect⟩ := induction hvisit
        refine ⟨earlier, ?_, hobserved, ?_, ?_⟩
        · rw [List.getElem?_append_left hlt, hcalled]
        · rw [List.take_append_of_le_length (Nat.le_of_lt hlt),
            List.take_append_of_le_length (hlength ▸ Nat.le_of_lt hlt)]
          exact hsoundEarlier
        · rw [List.take_append_of_le_length (hlength ▸ Nat.le_of_lt hlt)]
          exact heffect
      · have hbound := (List.getElem?_eq_some_iff.mp hvisit).1
        rw [List.length_append, List.length_singleton] at hbound
        have hindex : index = past.length := by omega
        subst hindex
        rw [← hlength, List.getElem?_concat_length] at hvisit
        cases hvisit
        refine ⟨call, List.getElem?_concat_length, by rw [← hlength], ?_, ?_⟩
        · rw [List.take_left, ← hlength, List.take_left]
          exact hsound
        · rw [← hlength, List.take_left]
          rw [← hlength] at hcall
          exact hsound.accounted.effect hcall

end CodeFormatting.StepStore
