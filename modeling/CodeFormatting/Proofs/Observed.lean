import Mathlib.Data.List.Forall2
import CodeFormatting.Machine
namespace CodeFormatting

/-! An observed world keeps notes beside the world itself. A note is left by the actions
that an observer looks at and holds what they answered, so that the notes of a run say
what was asked for, in which order and how often. -/

structure Observed (Note World : Type) where
  world : World
  notes : List Note

namespace Observed

variable {Note World Answer Next : Type}

/-- An action on the world itself that leaves a note of its answer. -/
def noted (note : Answer → Note) (action : StateM World Answer) :
    StateM (Observed Note World) Answer := fun observed =>
  let (answer, world) := action observed.world
  (answer, ⟨world, observed.notes ++ [note answer]⟩)

/-- An observed action as one on the world itself, with the notes that it leaves. -/
def collected (action : StateM (Observed Note World) Answer) :
    StateM World (Answer × List Note) := fun world =>
  let (answer, observed) := action ⟨world, []⟩
  ((answer, observed.notes), observed.world)

/-- What is done on the machine of an observed world leaves no note. -/
instance [HasMachine World] : HasMachine (Observed Note World) where
  onMachine action := fun observed =>
    let (answer, world) := HasMachine.onMachine action observed.world
    (answer, ⟨world, observed.notes⟩)

/-- The action looks at no note and takes none back: it only adds to them. -/
def Adds (action : StateM (Observed Note World) Answer) : Prop :=
  ∀ world notes,
    action ⟨world, notes⟩ =
      ((collected action world).1.1,
        ⟨(collected action world).2, notes ++ (collected action world).1.2⟩)

/-- The note of an action is there for all that comes after it. -/
theorem noted_bind {note : Answer → Note} {action : StateM World Answer}
    {observed : Observed Note World} {answer : Answer} {after : World}
    (haction : action observed.world = (answer, after))
    (next : Answer → StateM (Observed Note World) Next) :
    (noted note action >>= next) observed =
      next answer ⟨after, observed.notes ++ [note answer]⟩ := by
  change next (action observed.world).1
    ⟨(action observed.world).2, observed.notes ++ [note (action observed.world).1]⟩ = _
  rw [haction]

theorem collected_bind {action : StateM (Observed Note World) Answer}
    {next : Answer → StateM (Observed Note World) Next} {world after final : World}
    {answer : Answer} {result : Next} {first second : List Note}
    (haction : collected action world = ((answer, first), after))
    (hnext : collected (next answer) after = ((result, second), final))
    (hadds : Adds (next answer)) :
    collected (action >>= next) world = ((result, first ++ second), final) := by
  have hfirst : action ⟨world, []⟩ = (answer, ⟨after, first⟩) := by
    cases haction
    rfl
  have hsecond : next answer ⟨after, first⟩ = (result, ⟨final, first ++ second⟩) := by
    rw [hadds after first, hnext]
  change ((((action >>= next) ⟨world, []⟩).1, ((action >>= next) ⟨world, []⟩).2.notes),
    ((action >>= next) ⟨world, []⟩).2.world) = _
  have hrun : (action >>= next) ⟨world, []⟩ = (result, ⟨final, first ++ second⟩) := by
    change next (action ⟨world, []⟩).1 (action ⟨world, []⟩).2 = _
    rw [hfirst, hsecond]
  rw [hrun]

theorem adds_pure (answer : Answer) :
    Adds (pure answer : StateM (Observed Note World) Answer) := by
  intro world notes
  change (answer, Observed.mk world notes) = (answer, Observed.mk world (notes ++ []))
  rw [List.append_nil]

theorem adds_noted (note : Answer → Note) (action : StateM World Answer) :
    Adds (noted note action) :=
  fun _ _ => rfl

theorem Adds.bind {action : StateM (Observed Note World) Answer}
    {next : Answer → StateM (Observed Note World) Next}
    (haction : Adds action) (hnext : ∀ answer, Adds (next answer)) :
    Adds (action >>= next) := by
  intro world notes
  rcases hcollected : collected action world with ⟨⟨answer, first⟩, after⟩
  rcases hlater : collected (next answer) after with ⟨⟨result, second⟩, final⟩
  rw [collected_bind hcollected hlater (hnext answer)]
  change next (action ⟨world, notes⟩).1 (action ⟨world, notes⟩).2 = _
  rw [haction world notes, hcollected, hnext answer after, hlater, List.append_assoc]

/-! One action mirrors another if they answer alike and leave the same world, whatever is
noted. -/

def Mirrors {Seen : Type} (Same : Answer → Seen → Prop) (plain : StateM World Answer)
    (seen : StateM (Observed Note World) Seen) : Prop :=
  ∀ observed, Same (plain observed.world).1 (seen observed).1 ∧
    (seen observed).2.world = (plain observed.world).2

theorem mirrors_pure {Seen : Type} {Same : Answer → Seen → Prop} {plain : Answer} {seen : Seen}
    (hsame : Same plain seen) :
    Mirrors Same (pure plain : StateM World Answer)
      (pure seen : StateM (Observed Note World) Seen) :=
  fun _ => ⟨hsame, rfl⟩

theorem mirrors_noted (note : Answer → Note) (action : StateM World Answer) :
    Mirrors Eq action (noted note action) :=
  fun _ => ⟨rfl, rfl⟩

theorem Mirrors.bind {Seen SeenNext : Type} {Same : Answer → Seen → Prop}
    {SameNext : Next → SeenNext → Prop} {plain : StateM World Answer}
    {seen : StateM (Observed Note World) Seen} {next : Answer → StateM World Next}
    {seenNext : Seen → StateM (Observed Note World) SeenNext}
    (hfirst : Mirrors Same plain seen)
    (hnext : ∀ answer noted, Same answer noted →
      Mirrors SameNext (next answer) (seenNext noted)) :
    Mirrors SameNext (plain >>= next) (seen >>= seenNext) := by
  intro observed
  obtain ⟨hsame, hworld⟩ := hfirst observed
  have hlater := hnext _ _ hsame (seen observed).2
  rw [hworld] at hlater
  exact hlater

end Observed

/-! An object that is called again and again goes from state to state. Each visit is one
call, with its answer, the notes left during it and the states around it. -/

structure Visit (State Call Answer Note : Type) where
  call : Call
  before : State
  answer : Answer
  notes : List Note
  after : State

namespace Visit

variable {State Call Answer Note World : Type}

/-- The visits of a run and the state it ends in. -/
def history (perform : State → Call → StateM (Observed Note World) (Answer × State)) :
    State → List Call → StateM World (List (Visit State Call Answer Note) × State)
  | state, [] => pure ([], state)
  | state, call :: rest => do
    let ((answer, after), notes) ← Observed.collected (perform state call)
    let (later, final) ← history perform after rest
    return (⟨call, state, answer, notes, after⟩ :: later, final)

theorem history_cons {perform : State → Call → StateM (Observed Note World) (Answer × State)}
    {state after : State} {call : Call} {answer : Answer} {notes : List Note}
    {world next : World}
    (hcall : Observed.collected (perform state call) world = (((answer, after), notes), next))
    (rest : List Call) :
    history perform state (call :: rest) world =
      ((⟨call, state, answer, notes, after⟩ :: (history perform after rest next).1.1,
        (history perform after rest next).1.2),
        (history perform after rest next).2) := by
  simp only [history, bind, StateT.bind, hcall]
  rfl

theorem history_concat
    (perform : State → Call → StateM (Observed Note World) (Answer × State))
    (state : State) (past : List Call) (call : Call) (world : World) :
    history perform state (past ++ [call]) world =
      (let ((earlier, middle), now) := history perform state past world
      let (((answer, after), notes), next) := Observed.collected (perform middle call) now
      ((earlier ++ [⟨call, middle, answer, notes, after⟩], after), next)) := by
  induction past generalizing state world with
  | nil => rfl
  | cons head past induction =>
      rcases hcall : Observed.collected (perform state head) world with
        ⟨⟨⟨answer, after⟩, notes⟩, next⟩
      rw [List.cons_append, history_cons hcall, history_cons hcall, induction]
      rfl

theorem calls_history
    (perform : State → Call → StateM (Observed Note World) (Answer × State))
    (state : State) (calls : List Call) (world : World) :
    (history perform state calls world).1.1.map Visit.call = calls := by
  induction calls generalizing state world with
  | nil => rfl
  | cons call rest induction =>
      rcases hcall : Observed.collected (perform state call) world with
        ⟨⟨⟨answer, after⟩, notes⟩, next⟩
      rw [history_cons hcall]
      exact congrArg (call :: ·) (induction after next)

theorem getElem?_calls_history
    {perform : State → Call → StateM (Observed Note World) (Answer × State)}
    {state : State} {calls : List Call} {world : World} {index : Nat}
    {visit : Visit State Call Answer Note}
    (hvisit : (history perform state calls world).1.1[index]? = some visit) :
    calls[index]? = some visit.call := by
  rw [← calls_history perform state calls world, List.getElem?_map, hvisit, Option.map_some]

theorem exists_collected_of_mem_history
    {perform : State → Call → StateM (Observed Note World) (Answer × State)}
    {state : State} {calls : List Call} {world : World}
    {visit : Visit State Call Answer Note}
    (hvisit : visit ∈ (history perform state calls world).1.1) :
    ∃ now next, Observed.collected (perform visit.before visit.call) now =
      (((visit.answer, visit.after), visit.notes), next) := by
  induction calls generalizing state world with
  | nil => cases hvisit
  | cons call rest induction =>
      rcases hcall : Observed.collected (perform state call) world with
        ⟨⟨⟨answer, after⟩, notes⟩, next⟩
      rw [history_cons hcall] at hvisit
      rcases List.mem_cons.mp hvisit with rfl | hrest
      · exact ⟨world, next, hcall⟩
      · exact induction hrest

/-- Each visit starts in the state that the one before it left. -/
theorem before_eq_after_of_history
    {perform : State → Call → StateM (Observed Note World) (Answer × State)}
    {state : State} {calls : List Call} {world : World} {index : Nat}
    {first second : Visit State Call Answer Note}
    (hfirst : (history perform state calls world).1.1[index]? = some first)
    (hsecond : (history perform state calls world).1.1[index + 1]? = some second) :
    second.before = first.after := by
  induction calls generalizing state world index with
  | nil => cases hfirst
  | cons call rest induction =>
      rcases hcall : Observed.collected (perform state call) world with
        ⟨⟨⟨answer, after⟩, notes⟩, next⟩
      rw [history_cons hcall] at hfirst hsecond
      cases index with
      | succ index => exact induction hfirst hsecond
      | zero =>
          cases hfirst
          cases rest with
          | nil => cases hsecond
          | cons call rest =>
              rcases hnext : Observed.collected (perform after call) next with
                ⟨⟨⟨answer, final⟩, notes⟩, later⟩
              simp only [history_cons hnext] at hsecond
              cases hsecond
              rfl

/-- The answers of a run that nobody observes and the state it ends in. -/
def run (perform : State → Call → StateM World (Answer × State)) :
    State → List Call → StateM World (List Answer × State)
  | state, [] => pure ([], state)
  | state, call :: rest => do
    let (answer, after) ← perform state call
    let (later, final) ← run perform after rest
    return (answer :: later, final)

/-- Where each call mirrors another one, the answers and the world of a run are the same. -/
theorem answers_history_of_mirrors {Seen SeenCall : Type} {Same : State → Seen → Prop}
    {SameCall : Call → SeenCall → Prop}
    {plain : State → Call → StateM World (Answer × State)}
    {perform : Seen → SeenCall → StateM (Observed Note World) (Answer × Seen)}
    (hperform : ∀ state seen call seenCall, Same state seen → SameCall call seenCall →
      Observed.Mirrors (fun bare noted => bare.1 = noted.1 ∧ Same bare.2 noted.2)
        (plain state call) (perform seen seenCall))
    {calls : List Call} {seenCalls : List SeenCall} (hcalls : List.Forall₂ SameCall calls seenCalls)
    {state : State} {seen : Seen} (hstate : Same state seen) (world : World) :
    let observed := history perform seen seenCalls world
    let bare := run plain state calls world
    observed.1.1.map Visit.answer = bare.1.1 ∧ Same bare.1.2 observed.1.2 ∧
      observed.2 = bare.2 := by
  induction hcalls generalizing state seen world with
  | nil => exact ⟨rfl, hstate, rfl⟩
  | @cons call seenCall rest seenRest hcall hrest induction =>
      have hmirrors := hperform state seen call seenCall hstate hcall ⟨world, []⟩
      rcases hseen : perform seen seenCall ⟨world, []⟩ with ⟨⟨noted, seenAfter⟩, ⟨next, notes⟩⟩
      rcases hplain : plain state call world with ⟨⟨answer, after⟩, later⟩
      rw [hseen, hplain] at hmirrors
      obtain ⟨⟨hanswer, hafter⟩, hworld⟩ := hmirrors
      dsimp only at hanswer hafter hworld
      subst hanswer hworld
      have hcollected : Observed.collected (perform seen seenCall) world =
          (((answer, seenAfter), notes), next) := by
        rw [Observed.collected, hseen]
      obtain ⟨hanswers, hfinal, hsameWorld⟩ := induction hafter next
      rw [history_cons hcollected]
      simp only [run, bind, StateT.bind, hplain]
      exact ⟨congrArg (answer :: ·) hanswers, hfinal, hsameWorld⟩

end Visit

end CodeFormatting
