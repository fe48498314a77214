import CodeFormatting.Proofs.Step.Store
namespace CodeFormatting.StepStore

/-! What a cache promises over every run: which steps share an object, what is counted, and
that an object, once it has an outcome, keeps it whatever becomes of the cache. -/

variable {World : Type}

structure Shared (calls : List (Call World)) (visits : List (WatchedVisit World)) : Prop where
  visited : visits.map Visit.call = calls.mapIdx Call.observed
  given : ∀ index step, calls[index]? = some (.getOrInsert step) →
    ∃ reference, handle? visits index = some reference
  /-- The object of a handle has the identity of the step that was handed in, at all times. -/
  named : ∀ (first last : Nat) (step : Step World) (reference : Reference)
      (visit : WatchedVisit World), calls[first]? = some (.getOrInsert step) →
    handle? visits first = some reference → first ≤ last → visits[last]? = some visit →
    ∃ object, visit.after.get? reference = some object ∧ object.identity = step.identity
  /-- Two steps handed in between the same clears share an object exactly if they have the
  same identity. -/
  shared : ∀ first last earlier later, first < last →
    calls[first]? = some (.getOrInsert earlier) → calls[last]? = some (.getOrInsert later) →
    ¬ Cleared calls first last →
    (handle? visits first = handle? visits last ↔ earlier.identity = later.identity)
  /-- The first step of its identity since the last clear becomes an object itself. -/
  own : ∀ index step, calls[index]? = some (.getOrInsert step) →
    (∀ first earlier, first < index → calls[first]? = some (.getOrInsert earlier) →
      earlier.identity = step.identity → Cleared calls first index) →
    ∃ visit reference, visits[index]? = some visit ∧ visit.answer = .handle reference ∧
      visit.before.get? reference = none ∧
      visit.after.get? reference = some (step.observed index)
  /-- After a clear no earlier object is handed out again. -/
  apart : ∀ first last earlier later, first < last →
    calls[first]? = some (.getOrInsert earlier) → calls[last]? = some (.getOrInsert later) →
    Cleared calls first last → handle? visits first ≠ handle? visits last
  size : ∀ index : Nat, calls[index]? = some .size →
    visits[index]?.map Visit.answer =
      some (.count (identities (calls.take index)).dedup.length)
  isEmpty : ∀ index : Nat, calls[index]? = some .isEmpty →
    visits[index]?.map Visit.answer =
      some (.flag (decide ((identities (calls.take index)).dedup.length = 0)))
  /-- A handle can be used from the time on that it was given out. -/
  alive : ∀ first index reference call, first < index →
    handle? visits first = some reference → calls[index]? = some (.use reference call) →
    ∃ answer, visits[index]?.map Visit.answer = some (.used (some answer))
  /-- An object changes by the calls on its own handle only. -/
  frame : ∀ visit ∈ visits, ∀ reference object, (∀ call, visit.call ≠ .use reference call) →
    visit.before.get? reference = some object → visit.after.get? reference = some object
  /-- An object that has an outcome stays as it is for the rest of the run. -/
  kept : ∀ (first last : Nat) (earlier later : WatchedVisit World) (reference : Reference)
      (object : Step (Watched Nat World)), first ≤ last →
    visits[first]? = some earlier → visits[last]? = some later →
    earlier.after.get? reference = some object → object.isInitialized →
    later.after.get? reference = some object
  /-- An object that has an outcome answers by it. -/
  replies : ∀ visit ∈ visits, ∀ reference call object outcome,
    visit.call = .use reference call → visit.before.get? reference = some object →
    object.outcome = some outcome →
    ∃ now answer, visit.answer = .used (some answer) ∧
      (Observed.collected (object.reply outcome call) now).1 = (answer, visit.notes)
  once : ∀ origin, (initializationsOf origin visits).length ≤ 1
  /-- A step that is dropped for a cached one never does anything. -/
  dropped : ∀ first last earlier later, first < last →
    calls[first]? = some (.getOrInsert earlier) → calls[last]? = some (.getOrInsert later) →
    ¬ Cleared calls first last → earlier.identity = later.identity →
    ∀ visit ∈ visits, ∀ note ∈ visit.notes, note.origin ≠ last

theorem length_visits (calls : List (Call World)) (world : World) :
    (visits calls world).length = calls.length :=
  (sound_run calls world).handed.length

theorem exists_visit {calls : List (Call World)} {index : Nat} {call : Call World}
    (hcall : calls[index]? = some call) (world : World) :
    ∃ visit, (visits calls world)[index]? = some visit ∧
      Placed calls (visits calls world) index visit call := by
  have hlt := (List.getElem?_eq_some_iff.mp hcall).1
  rw [← length_visits calls world] at hlt
  obtain ⟨other, hplaced⟩ := exists_placed (List.getElem?_eq_getElem hlt)
  have hsame := hplaced.called
  rw [hcall] at hsame
  cases hsame
  exact ⟨_, List.getElem?_eq_getElem hlt, hplaced⟩

theorem handle?_take {visits : List (WatchedVisit World)} {first last : Nat}
    (hlt : first < last) : handle? (visits.take last) first = handle? visits first := by
  rw [handle?, handle?, List.getElem?_take_of_lt hlt]

theorem cleared_take_iff {calls : List (Call World)} {first last : Nat}
    (hlast : last ≤ calls.length) :
    Cleared (calls.take last) first (calls.take last).length ↔ Cleared calls first last := by
  rw [List.length_take_of_le hlast]
  constructor
  · rintro ⟨index, hfirst, hindex, hclear⟩
    rw [List.getElem?_take_of_lt hindex] at hclear
    exact ⟨index, hfirst, hindex, hclear⟩
  · rintro ⟨index, hfirst, hindex, hclear⟩
    exact ⟨index, hfirst, hindex, by rw [List.getElem?_take_of_lt hindex, hclear]⟩

theorem Placed.cached?_of_earlier {calls : List (Call World)} {visits : List (WatchedVisit World)}
    {first last : Nat} {visit : WatchedVisit World} {earlier : Step World} {call : Call World}
    {reference : Reference} (hplaced : Placed calls visits last visit call)
    (hlt : first < last) (hearlier : calls[first]? = some (.getOrInsert earlier))
    (hhandle : handle? visits first = some reference) :
    reference < visit.before.steps.length ∧
      (¬ Cleared calls first last →
        visit.before.cached? earlier.identity = some reference) ∧
      (Cleared calls first last →
        ∀ identity, visit.before.cached? identity ≠ some reference) := by
  have hlast := Nat.le_of_lt (List.getElem?_eq_some_iff.mp hplaced.called).1
  have hhanded := hplaced.sound.handed
  rw [← handle?_take hlt] at hhandle
  rw [← cleared_take_iff hlast]
  rw [← List.getElem?_take_of_lt hlt] at hearlier
  exact ⟨hhanded.bounded first reference hhandle,
    hhanded.current first earlier reference hearlier hhandle,
    hhanded.forgotten first reference hhandle⟩

/-- A step that is handed in gets the cached reference of its identity, else a new one. -/
theorem Placed.handle {calls : List (Call World)} {visits : List (WatchedVisit World)}
    {index : Nat} {visit : WatchedVisit World} {step : Step World}
    (hvisit : visits[index]? = some visit)
    (hplaced : Placed calls visits index visit (.getOrInsert step)) :
    ∃ reference, handle? visits index = some reference ∧ visit.answer = .handle reference ∧
      (visit.before.cached? step.identity = some reference ∨
        visit.before.cached? step.identity = none ∧
          reference = visit.before.steps.length ∧
          visit.after.get? reference = some (step.observed index)) := by
  have hindex : (visits.take index).length = index :=
    List.length_take_of_le (Nat.le_of_lt (List.getElem?_eq_some_iff.mp hvisit).1)
  obtain ⟨-, -, -, heffect⟩ := hplaced
  rcases visit with ⟨call, before, answer, notes, after⟩
  dsimp only at heffect
  cases heffect with
  | @found _ reference hcached =>
      exact ⟨reference, by rw [handle?, hvisit]; rfl, rfl, .inl hcached⟩
  | added habsent =>
      refine ⟨_, by rw [handle?, hvisit]; rfl, rfl, .inr ⟨habsent, rfl, ?_⟩⟩
      rw [get?, List.getElem?_concat_length, hindex]

theorem handle?_eq_iff {calls : List (Call World)} (world : World) {first last : Nat}
    {earlier later : Step World} (hlt : first < last)
    (hearlier : calls[first]? = some (.getOrInsert earlier))
    (hlater : calls[last]? = some (.getOrInsert later))
    (hcleared : ¬ Cleared calls first last) :
    handle? (visits calls world) first = handle? (visits calls world) last ↔
      earlier.identity = later.identity := by
  obtain ⟨opening, hopening, hfirst⟩ := exists_visit hearlier world
  obtain ⟨visit, hvisit, hlast⟩ := exists_visit hlater world
  obtain ⟨reference, hreference, -⟩ := hfirst.handle hopening
  obtain ⟨other, hother, -, hcases⟩ := hlast.handle hvisit
  obtain ⟨hbound, hcurrent, -⟩ := hlast.cached?_of_earlier hlt hearlier hreference
  have hcached := hcurrent hcleared
  rw [hreference, hother, Option.some.injEq]
  constructor
  · rintro rfl
    rcases hcases with hfound | ⟨-, hnew, -⟩
    · -- An object has one identity, and both steps were given this object.
      obtain ⟨object, hobject, hidentity⟩ := hlast.sound.keyed.named _ _ hcached
      obtain ⟨same, hsame, hlaterIdentity⟩ := hlast.sound.keyed.named _ _ hfound
      rw [hobject] at hsame
      cases hsame
      exact hidentity.symm.trans hlaterIdentity
    · exact absurd hnew (Nat.ne_of_lt hbound)
  · intro hidentity
    rw [← hidentity, hcached] at hcases
    rcases hcases with hfound | ⟨habsent, -⟩
    · exact Option.some.inj hfound
    · cases habsent

theorem handle?_ne_of_cleared {calls : List (Call World)} (world : World) {first last : Nat}
    {earlier later : Step World} (hlt : first < last)
    (hearlier : calls[first]? = some (.getOrInsert earlier))
    (hlater : calls[last]? = some (.getOrInsert later)) (hcleared : Cleared calls first last) :
    handle? (visits calls world) first ≠ handle? (visits calls world) last := by
  obtain ⟨opening, hopening, hfirst⟩ := exists_visit hearlier world
  obtain ⟨visit, hvisit, hlast⟩ := exists_visit hlater world
  obtain ⟨reference, hreference, -⟩ := hfirst.handle hopening
  obtain ⟨other, hother, -, hcases⟩ := hlast.handle hvisit
  obtain ⟨hbound, -, hforgotten⟩ := hlast.cached?_of_earlier hlt hearlier hreference
  rw [hreference, hother]
  rintro heq
  cases heq
  rcases hcases with hfound | ⟨-, hnew, -⟩
  · exact hforgotten hcleared _ hfound
  · exact absurd hnew (Nat.ne_of_lt hbound)

/-- The step of an identity was handed in, and the cache was not cleared since. -/
def Current (calls : List (Call World)) (identity : Step.Identity) : Prop :=
  ∃ index step, calls[index]? = some (.getOrInsert step) ∧ step.identity = identity ∧
    ¬ Cleared calls index calls.length

theorem current_concat_iff {calls : List (Call World)} {call : Call World}
    {identity : Step.Identity} :
    Current (calls ++ [call]) identity ↔
      call ≠ .clear ∧ Current calls identity ∨
        ∃ step, call = .getOrInsert step ∧ step.identity = identity := by
  constructor
  · rintro ⟨index, step, hcall, hidentity, hcleared⟩
    rw [cleared_concat_iff, not_or, not_and] at hcleared
    have hbound := (List.getElem?_eq_some_iff.mp hcall).1
    rw [List.length_append, List.length_singleton] at hbound
    rcases Nat.lt_succ_iff_lt_or_eq.mp hbound with hlt | rfl
    · rw [List.getElem?_append_left hlt] at hcall
      exact .inl ⟨hcleared.2 hlt, index, step, hcall, hidentity, hcleared.1⟩
    · rw [List.getElem?_concat_length] at hcall
      exact .inr ⟨step, Option.some.inj hcall, hidentity⟩
  · rintro (⟨hclear, index, step, hcall, hidentity, hcleared⟩ | ⟨step, rfl, hidentity⟩)
    · have hlt := (List.getElem?_eq_some_iff.mp hcall).1
      refine ⟨index, step, by rwa [List.getElem?_append_left hlt], hidentity, ?_⟩
      rw [cleared_concat_iff]
      exact not_or.mpr ⟨hcleared, fun hboth => hclear hboth.2⟩
    · refine ⟨calls.length, step, List.getElem?_concat_length, hidentity, ?_⟩
      rw [cleared_concat_iff]
      rintro (⟨index, hfirst, hlast, -⟩ | ⟨hlt, -⟩)
      · omega
      · exact Nat.lt_irrefl _ hlt

theorem mem_identities_iff {calls : List (Call World)} {identity : Step.Identity} :
    identity ∈ identities calls ↔ Current calls identity := by
  induction calls using List.reverseRecOn with
  | nil =>
      constructor
      · intro hmem
        cases hmem
      · rintro ⟨index, step, hcall, -⟩
        cases hcall
  | append_singleton past call induction =>
      rw [current_concat_iff, ← induction, identities_concat]
      cases call with
      | getOrInsert step => simp [eq_comm]
      | clear => simp
      | size => simp
      | isEmpty => simp
      | use reference call => simp

theorem Placed.absent_of_cleared {calls : List (Call World)}
    {visits : List (WatchedVisit World)} {index : Nat} {visit : WatchedVisit World}
    {step : Step World} (hplaced : Placed calls visits index visit (.getOrInsert step))
    (hnew : ∀ first earlier, first < index → calls[first]? = some (.getOrInsert earlier) →
      earlier.identity = step.identity → Cleared calls first index) :
    visit.before.cached? step.identity = none := by
  have hindex := Nat.le_of_lt (List.getElem?_eq_some_iff.mp hplaced.called).1
  rw [cached?_eq_none_iff, hplaced.sound.keyed.mem_iff, mem_identities_iff]
  rintro ⟨first, earlier, hearlier, hidentity, hcleared⟩
  have hlt := (List.getElem?_eq_some_iff.mp hearlier).1
  rw [List.length_take_of_le hindex] at hlt
  rw [cleared_take_iff hindex] at hcleared
  rw [List.getElem?_take_of_lt hlt] at hearlier
  exact hcleared (hnew first earlier hlt hearlier hidentity)

theorem Keyed.size_eq {calls : List (Call World)} {store : StepStore (Watched Nat World)}
    (hkeyed : Keyed calls store) : store.size = (identities calls).dedup.length := by
  have hperm : (store.cached.map Prod.fst).Perm (identities calls).dedup := by
    rw [List.perm_ext_iff_of_nodup hkeyed.nodup (List.nodup_dedup _)]
    intro identity
    rw [List.mem_dedup, hkeyed.mem_iff]
  rw [← hperm.length_eq, List.length_map, size]

/-- Only a call on its own handle changes an object. It gives an outcome to one that has
none. -/
theorem Effect.get?_of_get? {visits : List (WatchedVisit World)}
    {store after : StepStore (Watched Nat World)} {call : Call World} {answer : Answer}
    {notes : List (Happening Nat World)} {reference : Reference}
    {object : Step (Watched Nat World)}
    (heffect : Effect visits store call answer notes after)
    (hobject : store.get? reference = some object) :
    after.get? reference = some object ∨
      (∃ used, call = .use reference used) ∧ object.isInitialized = false ∧
        ∃ outcome, after.get? reference = some (object.settled outcome) := by
  cases heffect with
  | added =>
      have hlt := (List.getElem?_eq_some_iff.mp hobject).1
      exact .inl (by rw [get?, List.getElem?_append_left hlt]; exact hobject)
  | @settled used call origin step outcome answer own hused haccount hfresh =>
      by_cases heq : used = reference
      · subst heq
        have hlt := (List.getElem?_eq_some_iff.mp hobject).1
        rw [hused] at hobject
        cases hobject
        have hunset : (step.observed origin).isInitialized = false := by
          rw [Step.isInitialized_observed, Step.isInitialized, hfresh]
          rfl
        exact .inr ⟨⟨call, rfl⟩, hunset, Outcome.observed origin outcome,
          List.getElem?_set_self hlt⟩
      · exact .inl (by rw [get?, replace, List.getElem?_set_ne heq]; exact hobject)
  | cleared => exact .inl hobject
  | found | counted | tested | missing | unchanged => exact .inl hobject

/-- What every call preserves of an object holds of it for the rest of a run. -/
theorem exists_get?_of_preserved {calls : List (Call World)} {world : World}
    {reference : Reference} {Holds : Step (Watched Nat World) → Prop}
    (hpreserved : ∀ object outcome, Holds object → object.isInitialized = false →
      Holds (object.settled outcome))
    {first last : Nat} {earlier later : WatchedVisit World}
    {object : Step (Watched Nat World)} (hle : first ≤ last)
    (hearlier : (visits calls world)[first]? = some earlier)
    (hlater : (visits calls world)[last]? = some later)
    (hobject : earlier.after.get? reference = some object) (hholds : Holds object) :
    ∃ other, later.after.get? reference = some other ∧ Holds other := by
  obtain ⟨gap, rfl⟩ := Nat.exists_eq_add_of_le hle
  clear hle
  induction gap generalizing later with
  | zero =>
      rw [Nat.add_zero, hearlier] at hlater
      cases hlater
      exact ⟨object, hobject, hholds⟩
  | succ gap induction =>
      have hlt := Nat.lt_of_succ_lt (List.getElem?_eq_some_iff.mp hlater).1
      have hbefore := Visit.before_eq_after_of_history (List.getElem?_eq_getElem hlt) hlater
      obtain ⟨kept, hkept, hholdsKept⟩ := induction (List.getElem?_eq_getElem hlt)
      rw [← hbefore] at hkept
      obtain ⟨call, hplaced⟩ := exists_placed hlater
      rcases hplaced.effect.get?_of_get? hkept with hafter | ⟨-, hfresh, outcome, hafter⟩
      · exact ⟨kept, hafter, hholdsKept⟩
      · exact ⟨_, hafter, hpreserved kept outcome hholdsKept hfresh⟩

theorem get?_of_isInitialized {calls : List (Call World)} {world : World} {first last : Nat}
    {earlier later : WatchedVisit World} {reference : Reference}
    {object : Step (Watched Nat World)} (hle : first ≤ last)
    (hearlier : (visits calls world)[first]? = some earlier)
    (hlater : (visits calls world)[last]? = some later)
    (hobject : earlier.after.get? reference = some object) (hsettled : object.isInitialized) :
    later.after.get? reference = some object := by
  have hpreserved : ∀ other outcome, other = object → other.isInitialized = false →
      other.settled outcome = object := by
    rintro other outcome rfl hfresh
    rw [hsettled] at hfresh
    cases hfresh
  obtain ⟨_, hafter, rfl⟩ :=
    exists_get?_of_preserved hpreserved hle hearlier hlater hobject rfl
  exact hafter

theorem Placed.identity {calls : List (Call World)} {visits : List (WatchedVisit World)}
    {index : Nat} {visit : WatchedVisit World} {step : Step World} {reference : Reference}
    (hplaced : Placed calls visits index visit (.getOrInsert step))
    (hanswer : visit.answer.handle? = some reference) :
    ∃ object, visit.after.get? reference = some object ∧ object.identity = step.identity := by
  have hkeyed := hplaced.sound.keyed.extend hplaced.effect
  obtain ⟨same, hsame, hcached, -⟩ := hplaced.effect.cached?_of_handle hanswer
  cases hsame
  exact hkeyed.named _ _ hcached

theorem exists_reply_of_outcome {calls : List (Call World)} {world : World}
    {visit : WatchedVisit World} (hvisit : visit ∈ visits calls world) {reference : Reference}
    {call : Step.Call} {object : Step (Watched Nat World)}
    {outcome : Outcome (Watched Nat World)} (hcall : visit.call = .use reference call)
    (hobject : visit.before.get? reference = some object)
    (hsettled : object.outcome = some outcome) :
    ∃ now answer, visit.answer = .used (some answer) ∧
      (Observed.collected (object.reply outcome call) now).1 = (answer, visit.notes) := by
  obtain ⟨now, next, hcollected⟩ := Visit.exists_collected_of_mem_history hvisit
  rcases hreply : Observed.collected (object.reply outcome call) now with ⟨⟨answer, own⟩, later⟩
  rw [hcall, collected_use hobject, Step.collected_perform_of_outcome hsettled, hreply]
    at hcollected
  rcases visit with ⟨seen, before, given, notes, after⟩
  dsimp only at hcollected
  cases hcollected
  exact ⟨now, answer, rfl, by rw [hreply]⟩

/-! Observing the steps changes no answer. -/

section

variable {Note : Type}

inductive Call.Mirrors : Call World → Call (Observed Note World) → Prop
  | getOrInsert {step : Step World} {seen : Step (Observed Note World)}
      (hstep : step.Mirrors seen) : Mirrors (.getOrInsert step) (.getOrInsert seen)
  | clear : Mirrors .clear .clear
  | size : Mirrors .size .size
  | isEmpty : Mirrors .isEmpty .isEmpty
  | use (reference : Reference) (call : Step.Call) :
      Mirrors (.use reference call) (.use reference call)

theorem Mirrors.use {store : StepStore World} {seen : StepStore (Observed Note World)}
    (hstore : store.Mirrors seen) (reference : Reference) (call : Step.Call) :
    Observed.Mirrors (fun bare noted => bare.1 = noted.1 ∧ bare.2.Mirrors noted.2)
      (store.use reference (·.perform call)) (seen.use reference (·.perform call)) := by
  have hobject := hstore.get? reference
  rcases hplain : store.get? reference with _ | step <;>
    rcases hseen : seen.get? reference with _ | watched <;> rw [hplain, hseen] at hobject
  · simp only [StepStore.use, hplain, hseen]
    exact Observed.mirrors_pure ⟨rfl, hstore⟩
  · cases hobject
  · cases hobject
  · cases hobject with
    | some hstep =>
        simp only [StepStore.use, hplain, hseen]
        refine (hstep.perform call).bind ?_
        rintro ⟨answer, after⟩ ⟨_, seenAfter⟩ ⟨rfl, hafter⟩
        exact Observed.mirrors_pure ⟨rfl, hstore.replace reference hafter⟩

theorem Mirrors.perform {store : StepStore World} {seen : StepStore (Observed Note World)}
    (hstore : store.Mirrors seen) {call : Call World} {seenCall : Call (Observed Note World)}
    (hcall : call.Mirrors seenCall) :
    Observed.Mirrors (fun bare noted => bare.1 = noted.1 ∧ bare.2.Mirrors noted.2)
      (store.perform call) (seen.perform seenCall) := by
  cases hcall with
  | getOrInsert hstep =>
      obtain ⟨hreference, hafter⟩ := hstore.getOrInsert hstep
      exact Observed.mirrors_pure ⟨congrArg Answer.handle hreference, hafter⟩
  | clear => exact Observed.mirrors_pure ⟨rfl, rfl, hstore.steps⟩
  | size =>
      have hsize : store.size = seen.size := congrArg List.length hstore.cached
      exact Observed.mirrors_pure ⟨congrArg Answer.count hsize, hstore⟩
  | isEmpty =>
      have hempty : store.isEmpty = seen.isEmpty :=
        congrArg (fun cached => cached.length == 0) hstore.cached
      exact Observed.mirrors_pure ⟨congrArg Answer.flag hempty, hstore⟩
  | use reference call =>
      refine (hstore.use reference call).bind ?_
      rintro ⟨answer, after⟩ ⟨_, seenAfter⟩ ⟨rfl, hafter⟩
      exact Observed.mirrors_pure ⟨rfl, hafter⟩

end

theorem mirrors_call_observed (origin : Nat) (call : Call World) :
    call.Mirrors (call.observed origin) := by
  cases call with
  | getOrInsert step => exact .getOrInsert (Step.mirrors_observed origin step)
  | clear => exact .clear
  | size => exact .size
  | isEmpty => exact .isEmpty
  | use reference call => exact .use reference call

theorem answers_visits (calls : List (Call World)) (world : World) :
    (visits calls world).map Visit.answer = (Visit.run perform .empty calls world).1.1 := by
  have hcalls : List.Forall₂ Call.Mirrors calls (calls.mapIdx Call.observed) := by
    refine List.forall₂_iff_get.mpr ⟨by rw [List.length_mapIdx], ?_⟩
    intro index hlt hseen
    rw [List.get_eq_getElem, List.get_eq_getElem, List.getElem_mapIdx]
    exact mirrors_call_observed index _
  have hempty : (empty : StepStore World).Mirrors (empty : StepStore (Watched Nat World)) :=
    ⟨rfl, .nil⟩
  exact (Visit.answers_history_of_mirrors
    (fun _ _ _ _ hstore hcall => hstore.perform hcall) hcalls hempty world).1

theorem exists_handle? {calls : List (Call World)} (world : World) {index : Nat}
    {step : Step World} (hcall : calls[index]? = some (.getOrInsert step)) :
    ∃ reference, handle? (visits calls world) index = some reference := by
  obtain ⟨visit, hvisit, hplaced⟩ := exists_visit hcall world
  obtain ⟨reference, hreference, -⟩ := hplaced.handle hvisit
  exact ⟨reference, hreference⟩

theorem exists_identity_of_handle? {calls : List (Call World)} {world : World}
    {first last : Nat} {step : Step World} {reference : Reference} {visit : WatchedVisit World}
    (hcall : calls[first]? = some (.getOrInsert step))
    (hhandle : handle? (visits calls world) first = some reference) (hle : first ≤ last)
    (hvisit : (visits calls world)[last]? = some visit) :
    ∃ object, visit.after.get? reference = some object ∧ object.identity = step.identity := by
  obtain ⟨opening, hopening, hplaced⟩ := exists_visit hcall world
  rw [handle?, hopening, Option.bind_some] at hhandle
  obtain ⟨object, hobject, hidentity⟩ := hplaced.identity hhandle
  have hpreserved : ∀ (other : Step (Watched Nat World)) outcome,
      other.identity = step.identity → other.isInitialized = false →
      (other.settled outcome).identity = step.identity :=
    fun _ _ hother _ => hother
  exact exists_get?_of_preserved hpreserved hle hopening hvisit hobject hidentity

theorem exists_own {calls : List (Call World)} (world : World) {index : Nat} {step : Step World}
    (hcall : calls[index]? = some (.getOrInsert step))
    (hnew : ∀ first earlier, first < index → calls[first]? = some (.getOrInsert earlier) →
      earlier.identity = step.identity → Cleared calls first index) :
    ∃ visit reference, (visits calls world)[index]? = some visit ∧
      visit.answer = .handle reference ∧ visit.before.get? reference = none ∧
      visit.after.get? reference = some (step.observed index) := by
  obtain ⟨visit, hvisit, hplaced⟩ := exists_visit hcall world
  obtain ⟨reference, -, hanswer, hcases⟩ := hplaced.handle hvisit
  have habsent := hplaced.absent_of_cleared hnew
  rcases hcases with hcached | ⟨-, hreference, hafter⟩
  · rw [habsent] at hcached
    cases hcached
  · refine ⟨visit, reference, hvisit, hanswer, ?_, hafter⟩
    rw [get?, hreference, List.getElem?_eq_none (Nat.le_refl _)]

theorem answer_of_size {calls : List (Call World)} (world : World) {index : Nat}
    (hcall : calls[index]? = some .size) :
    (visits calls world)[index]?.map Visit.answer =
      some (.count (identities (calls.take index)).dedup.length) := by
  obtain ⟨visit, hvisit, -, -, hsound, heffect⟩ := exists_visit hcall world
  have hanswer : visit.answer = .count visit.before.size := by
    generalize visit.answer = answer, visit.notes = notes, visit.after = after at heffect
    cases heffect
    rfl
  rw [hvisit, Option.map_some, hanswer, hsound.keyed.size_eq]

theorem answer_of_isEmpty {calls : List (Call World)} (world : World) {index : Nat}
    (hcall : calls[index]? = some .isEmpty) :
    (visits calls world)[index]?.map Visit.answer =
      some (.flag (decide ((identities (calls.take index)).dedup.length = 0))) := by
  obtain ⟨visit, hvisit, -, -, hsound, heffect⟩ := exists_visit hcall world
  have hanswer : visit.answer = .flag visit.before.isEmpty := by
    generalize visit.answer = answer, visit.notes = notes, visit.after = after at heffect
    cases heffect
    rfl
  rw [hvisit, Option.map_some, hanswer, isEmpty, hsound.keyed.size_eq]
  rfl

theorem exists_answer_of_use {calls : List (Call World)} (world : World) {first index : Nat}
    {reference : Reference} {call : Step.Call} (hlt : first < index)
    (hhandle : handle? (visits calls world) first = some reference)
    (hcall : calls[index]? = some (.use reference call)) :
    ∃ answer, (visits calls world)[index]?.map Visit.answer = some (.used (some answer)) := by
  obtain ⟨visit, hvisit, -, -, hsound, heffect⟩ := exists_visit hcall world
  have hbound := hsound.handed.bounded first reference (by rw [handle?_take hlt, hhandle])
  rw [hvisit, Option.map_some]
  generalize visit.answer = answer, visit.notes = notes, visit.after = after at heffect
  cases heffect with
  | missing hmissing =>
      rw [get?, List.getElem?_eq_none_iff] at hmissing
      exact absurd hbound (Nat.not_lt.mpr hmissing)
  | unchanged => exact ⟨_, rfl⟩
  | settled => exact ⟨_, rfl⟩

theorem get?_of_other_call {calls : List (Call World)} {world : World}
    {visit : WatchedVisit World} (hvisit : visit ∈ visits calls world) {reference : Reference}
    {object : Step (Watched Nat World)} (hother : ∀ call, visit.call ≠ .use reference call)
    (hobject : visit.before.get? reference = some object) :
    visit.after.get? reference = some object := by
  obtain ⟨index, hindex⟩ := List.getElem?_of_mem hvisit
  obtain ⟨call, -, hobserved, -, heffect⟩ := exists_placed hindex
  rcases heffect.get?_of_get? hobject with hafter | ⟨⟨used, rfl⟩, -⟩
  · exact hafter
  · exact absurd hobserved (hother used)

/-- A step that leaves notes was new where it was handed in, which a dropped one was not. -/
theorem origin_ne_of_dropped {calls : List (Call World)} {world : World} {first last : Nat}
    {earlier later : Step World} (hlt : first < last)
    (hearlier : calls[first]? = some (.getOrInsert earlier))
    (hlater : calls[last]? = some (.getOrInsert later)) (hcleared : ¬ Cleared calls first last)
    (hidentity : earlier.identity = later.identity) {visit : WatchedVisit World}
    (hvisit : visit ∈ visits calls world) {note : Happening Nat World}
    (hnote : note ∈ visit.notes) : note.origin ≠ last := by
  intro horigin
  obtain ⟨opening, hopening, hfirst⟩ := exists_visit hearlier world
  obtain ⟨dropping, hdropping, hlast⟩ := exists_visit hlater world
  obtain ⟨reference, hreference, -⟩ := hfirst.handle hopening
  obtain ⟨-, hcurrent, -⟩ := hlast.cached?_of_earlier hlt hearlier hreference
  obtain ⟨created, same, hsame, hanswer, hlength⟩ :=
    (sound_run calls world).accounted.noted visit hvisit note hnote
  rw [horigin, hdropping] at hsame
  cases hsame
  obtain ⟨other, -, hother, hcases⟩ := hlast.handle hdropping
  rw [hanswer] at hother
  cases hother
  rw [← hidentity, hcurrent hcleared] at hcases
  rcases hcases with hcached | ⟨habsent, -⟩
  · have hbound := hlast.sound.keyed.reference_lt (hcurrent hcleared)
    rw [Option.some.inj hcached, hlength] at hbound
    exact Nat.lt_irrefl _ hbound
  · cases habsent

/-- Over every run of a new cache and of the steps behind its handles. -/
theorem shared_run (calls : List (Call World)) (world : World) :
    Shared calls (visits calls world) ∧
      (visits calls world).map Visit.answer = (Visit.run perform .empty calls world).1.1 := by
  refine ⟨?_, answers_visits calls world⟩
  exact
    { visited := Visit.calls_history _ _ _ _
      given := fun _ _ hcall => exists_handle? world hcall
      named := fun _ _ _ _ _ hcall hhandle => exists_identity_of_handle? hcall hhandle
      shared := fun _ _ _ _ hlt hearlier hlater => handle?_eq_iff world hlt hearlier hlater
      own := fun _ _ hcall => exists_own world hcall
      apart := fun _ _ _ _ hlt hearlier => handle?_ne_of_cleared world hlt hearlier
      size := fun _ hcall => answer_of_size world hcall
      isEmpty := fun _ hcall => answer_of_isEmpty world hcall
      alive := fun _ _ _ _ hlt hhandle => exists_answer_of_use world hlt hhandle
      frame := fun _ hvisit _ _ => get?_of_other_call hvisit
      kept := fun _ _ _ _ _ _ hle hearlier => get?_of_isInitialized hle hearlier
      replies := fun _ hvisit _ _ _ _ => exists_reply_of_outcome hvisit
      once := (sound_run calls world).accounted.once
      dropped := fun _ _ _ _ hlt hearlier hlater hcleared hidentity _ hvisit _ hnote =>
        origin_ne_of_dropped hlt hearlier hlater hcleared hidentity hvisit hnote }

end CodeFormatting.StepStore
