import CodeFormatting.Machine
namespace CodeFormatting

/-! What an action adds to the journal of a machine. -/

variable {Fits Allows : Event → Prop} {machine middle next : Machine} {Answer Result : Type}
  {Good : Answer → Prop} {Fine : Result → Prop}

def Journaled (Fits : Event → Prop) (machine next : Machine) : Prop :=
  ∃ events, next.journal = machine.journal ++ events ∧ ∀ event ∈ events, Fits event

/-- Whatever it is run on, the action answers well and adds fitting events only. -/
def Journals (Fits : Event → Prop) (Good : Answer → Prop) (action : Action Answer) : Prop :=
  ∀ machine, Good (action machine).1 ∧ Journaled Fits machine (action machine).2

theorem Journaled.of_eq (hsame : next.journal = machine.journal) :
    Journaled Fits machine next :=
  ⟨[], by rw [hsame, List.append_nil], nofun⟩

theorem Journaled.trans (hfirst : Journaled Fits machine middle)
    (hsecond : Journaled Fits middle next) : Journaled Fits machine next := by
  obtain ⟨earlier, hearlier, hfits⟩ := hfirst
  obtain ⟨later, hlater, hallows⟩ := hsecond
  refine ⟨earlier ++ later, by rw [hlater, hearlier, List.append_assoc], ?_⟩
  intro event hevent
  rcases List.mem_append.mp hevent with hevent | hevent
  · exact hfits event hevent
  · exact hallows event hevent

theorem Journaled.mono (hjournaled : Journaled Fits machine next)
    (hallows : ∀ event, Fits event → Allows event) : Journaled Allows machine next := by
  obtain ⟨events, hevents, hfits⟩ := hjournaled
  exact ⟨events, hevents, fun event hevent => hallows event (hfits event hevent)⟩

theorem Journals.answered {action : Action Answer} (haction : Journals Fits Good action) :
    Journals Fits (fun answer => ∃ machine, (action machine).1 = answer) action :=
  fun machine => ⟨⟨machine, rfl⟩, (haction machine).2⟩

theorem journals_pure {answer : Answer} (hgood : Good answer) :
    Journals Fits Good (pure answer) :=
  fun _ => ⟨hgood, .of_eq rfl⟩

theorem journals_log {level : Log.Level} {target text : String}
    (hfits : Fits (.logged ⟨level, target, text⟩)) :
    Journals Fits (fun _ => True) (log level target text) :=
  fun _ => ⟨trivial, [.logged ⟨level, target, text⟩], rfl, by simpa using hfits⟩

theorem journals_start {launch : Launch} (hfits : Fits (.started launch)) :
    Journals Fits (fun _ => True) (start launch) := by
  intro machine
  refine ⟨trivial, ?_⟩
  rcases hanswer : machine.execute machine.files machine.directory launch with
    ⟨files, error | completion⟩
  · simp only [start, hanswer]
    exact .of_eq rfl
  · simp only [start, hanswer]
    exact ⟨[.started launch], rfl, by simpa using hfits⟩

theorem journals_get {rest : Machine → Action Answer}
    (hrest : ∀ machine, Journals Fits Good (rest machine)) :
    Journals Fits Good (get >>= rest) :=
  fun machine => hrest machine machine

theorem Journals.bind {action : Action Answer} {rest : Answer → Action Result}
    (haction : Journals Fits Good action)
    (hrest : ∀ answer, Good answer → Journals Fits Fine (rest answer)) :
    Journals Fits Fine (action >>= rest) := by
  intro machine
  obtain ⟨hgood, hfirst⟩ := haction machine
  obtain ⟨hfine, hsecond⟩ := hrest _ hgood (action machine).2
  exact ⟨hfine, hfirst.trans hsecond⟩

theorem Journaled.bind {action : Action Answer} {rest : Answer → Action Result}
    (haction : Journaled Fits machine (action machine).2)
    (hrest : Journals Fits (fun _ => True) (rest (action machine).1)) :
    Journaled Fits machine ((action >>= rest) machine).2 :=
  haction.trans (hrest (action machine).2).2

end CodeFormatting
