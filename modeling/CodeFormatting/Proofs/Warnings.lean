import CodeFormatting.Machine
namespace CodeFormatting

/-! An action that writes records and does nothing else, with the records that it writes and
the warnings among them. -/

def Machine.written (machine : Machine) (records : List Log.Record) : Machine :=
  { machine with journal := machine.journal ++ records.map .logged }

def Log.warnings (records : List Log.Record) : List Log.Record :=
  records.filter fun record => record.level = .warn

def Writes {Answer : Type} (action : Action Answer) (machine : Machine) (answer : Answer)
    (records : List Log.Record) : Prop :=
  action machine = (answer, machine.written records)

variable {machine : Machine} {Answer Result : Type} {answer : Answer} {result : Result}
  {first second records : List Log.Record}

theorem Machine.written_nil (machine : Machine) : machine.written [] = machine := by
  rw [written, List.map_nil, List.append_nil]

theorem Machine.written_append (machine : Machine) (first second : List Log.Record) :
    (machine.written first).written second = machine.written (first ++ second) := by
  simp only [written, List.map_append, List.append_assoc]

@[simp] theorem Log.warnings_nil : Log.warnings [] = [] := rfl

@[simp] theorem Log.warnings_append (first second : List Log.Record) :
    Log.warnings (first ++ second) = Log.warnings first ++ Log.warnings second :=
  List.filter_append ..

theorem writes_pure (machine : Machine) (answer : Answer) :
    Writes (pure answer) machine answer [] := by
  rw [Writes, machine.written_nil]
  rfl

theorem writes_log (level : Log.Level) (target text : String) (machine : Machine) :
    Writes (log level target text) machine () [⟨level, target, text⟩] := rfl

theorem writes_get_iff {rest : Machine → Action Answer} :
    Writes (get >>= rest) machine answer records ↔
      Writes (rest machine) machine answer records :=
  Iff.rfl

theorem Writes.bind {action : Action Answer} {rest : Answer → Action Result}
    (haction : Writes action machine answer first)
    (hrest : Writes (rest answer) (machine.written first) result second) :
    Writes (action >>= rest) machine result (first ++ second) := by
  rw [Writes] at haction hrest ⊢
  simp only [Bind.bind, StateT.bind, haction]
  rw [← machine.written_append]
  exact hrest

/-- A record that is written before an answer is given. -/
theorem writes_log_pure (level : Log.Level) (target text : String) (machine : Machine)
    (answer : Answer) :
    Writes (log level target text >>= fun _ => pure answer) machine answer
      [⟨level, target, text⟩] :=
  (writes_log ..).bind (writes_pure ..)

end CodeFormatting
