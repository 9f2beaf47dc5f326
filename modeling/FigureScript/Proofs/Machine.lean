import FigureScript.Machine
import FigureScript.Proofs.Files.Paths

namespace FigureScript

/-! # Tasks and what they change

A task that succeeds is taken apart into its steps. The most frequent step is a report, which can write
to the log file and to no other file.
-/

namespace Machine

variable {machine : Machine} {place : Location}

/-- Sending bytes to a device changes what was printed, if anything. -/
theorem send_eq {device : Device} {bytes : List UInt8} {after : Machine}
    (sent : machine.send bytes device = .ok after) :
    ∃ stdout stderr, after = { machine with stdout, stderr } := by
  cases device with
  | output => cases sent; exact ⟨_, _, rfl⟩
  | complaints => cases sent; exact ⟨_, _, rfl⟩
  | full =>
      simp only [send] at sent
      split at sent
      · cases sent; exact ⟨_, _, rfl⟩
      · contradiction
  | nothing | zeros | terminal => cases sent; exact ⟨_, _, rfl⟩

theorem logTo_eq (machine : Machine) (level : LogLevel) (place : Location) (offset : Nat)
    (line : String) :
    (∃ stdout stderr, machine.logTo level place offset line = { machine with stdout, stderr }) ∨
      ∃ bytes, machine.logTo level place offset line =
        { machine with
          files := machine.files.writeAt place offset bytes
          log := .file level place (offset + bytes.length) } := by
  unfold logTo
  split
  · rename_i device _
    refine .inl ?_
    cases sent : machine.send (Utf8.encode line) device with
    | error error => exact ⟨machine.stdout, machine.stderr, by simp [sent, Except.toOption]⟩
    | ok after =>
        obtain ⟨stdout, stderr, rfl⟩ := send_eq sent
        exact ⟨stdout, stderr, by simp [sent, Except.toOption]⟩
  · exact .inr ⟨_, rfl⟩

/-- After a report the files are as they were, or the open log file has got a line. -/
theorem report_eq (machine : Machine) (event : Event) :
    (∃ events stdout stderr, machine.report event = { machine with events, stdout, stderr }) ∨
      ∃ level place offset bytes events, machine.log = .file level place offset ∧
        machine.report event =
          { machine with
            files := machine.files.writeAt place offset bytes
            log := .file level place (offset + bytes.length)
            events } := by
  unfold report
  dsimp only
  split
  · exact .inl ⟨_, machine.stdout, machine.stderr, rfl⟩
  · split
    · exact .inl ⟨_, machine.stdout, _, rfl⟩
    · exact .inl ⟨_, machine.stdout, machine.stderr, rfl⟩
  · rename_i level place offset log
    split
    · rcases logTo_eq { machine with events := machine.events ++ [event] } level place offset
        (logLine machine.time event) with ⟨stdout, stderr, same⟩ | ⟨bytes, same⟩
      · exact .inl ⟨_, stdout, stderr, same⟩
      · exact .inr ⟨level, place, offset, bytes, _, log, same⟩
    · exact .inl ⟨_, machine.stdout, machine.stderr, rfl⟩

@[simp] theorem report_directory (machine : Machine) (event : Event) :
    (machine.report event).directory = machine.directory := by
  rcases machine.report_eq event with ⟨_, _, _, same⟩ | ⟨_, _, _, _, _, _, same⟩ <;> rw [same]

@[simp] theorem report_launches (machine : Machine) (event : Event) :
    (machine.report event).launches = machine.launches := by
  rcases machine.report_eq event with ⟨_, _, _, same⟩ | ⟨_, _, _, _, _, _, same⟩ <;> rw [same]

/-- The log stays where it was. -/
@[simp] theorem report_isWriting (machine : Machine) (event : Event) (place : Location) :
    (machine.report event).isWriting place = machine.isWriting place := by
  rcases machine.report_eq event with ⟨_, _, _, same⟩ | ⟨_, _, _, _, _, log, same⟩
  · rw [same]
    rfl
  · rw [same]
    simp only [isWriting, log]

theorem report_sameDirectories (machine : Machine) (event : Event) :
    machine.files.SameDirectories (machine.report event).files := by
  rcases machine.report_eq event with ⟨_, _, _, same⟩ | ⟨_, place, offset, bytes, _, _, same⟩
  · rw [same]
    exact .refl machine.files
  · rw [same]
    exact machine.files.sameDirectories_writeAt place offset bytes

/-- Apart from the log file, a report leaves everything as it stands. -/
theorem find?_report (event : Event) (other : machine.isWriting place = false) :
    (machine.report event).files.find? place = machine.files.find? place := by
  rcases machine.report_eq event with ⟨_, _, _, same⟩ | ⟨_, logged, _, _, _, log, same⟩
  · rw [same]
  · have apart : place ≠ logged := by
      rintro rfl
      simp [isWriting, log] at other
    rw [same]
    exact FileStore.find?_writeAt_of_ne apart _ _ _

end Machine

namespace Task

variable {ε α β δ : Type} {machine after new : Machine} {done : PUnit}

/-- What a task returns, beside the machine that it leaves. -/
theorem outcome_eq {outcome : Except ε α × Machine} {result : Except ε α}
    (returned : outcome.1 = result) : outcome = (result, outcome.2) :=
  Prod.ext returned rfl

/-- The second part of a task goes on with the machine that the first part leaves. -/
theorem bind_eq_ok_iff {first : Task ε α} {next : α → Task ε β} {result : β} :
    (first >>= next).run.run machine = (.ok result, after) ↔
      ∃ value between, first.run.run machine = (.ok value, between) ∧
        (next value).run.run between = (.ok result, after) := by
  rcases ran : first.run.run machine with ⟨failure | value, between⟩
  · have stopped : (first >>= next).run.run machine = (.error failure, between) := by
      rw [ExceptT.run_bind, StateT.run_bind, ran]
      rfl
    rw [stopped]
    constructor
    · intro same
      cases same
    · rintro ⟨_, _, same, _⟩
      cases same
  · have continued : (first >>= next).run.run machine = (next value).run.run between := by
      rw [ExceptT.run_bind, StateT.run_bind, ran]
      rfl
    rw [continued]
    constructor
    · exact fun rest => ⟨value, between, rfl, rest⟩
    · rintro ⟨_, _, same, rest⟩
      cases same
      exact rest

theorem pure_eq_ok_iff {value result : α} :
    (pure value : Task ε α).run.run machine = (.ok result, after) ↔
      value = result ∧ machine = after := by
  change (Except.ok value, machine) = _ ↔ _
  rw [Prod.mk.injEq, Except.ok.injEq]

theorem lift_eq_ok_iff {context : δ → ε} {attempt : Except δ α} {value : α} :
    (lift context attempt).run.run machine = (.ok value, after) ↔
      attempt = .ok value ∧ machine = after := by
  cases attempt with
  | ok found => exact pure_eq_ok_iff.trans (by rw [Except.ok.injEq])
  | error error =>
      change (Except.error (context error), machine) = _ ↔ _
      rw [Prod.mk.injEq]
      simp

theorem get_eq_ok_iff {value : Machine} :
    (get : Task ε Machine).run.run machine = (.ok value, after) ↔
      machine = value ∧ machine = after := by
  change (Except.ok machine, machine) = _ ↔ _
  rw [Prod.mk.injEq, Except.ok.injEq]

theorem modify_eq_ok_iff {change : Machine → Machine} :
    (modify change : Task ε PUnit).run.run machine = (.ok done, after) ↔ change machine = after := by
  change (Except.ok (), change machine) = _ ↔ _
  rw [Prod.mk.injEq]
  simp

theorem set_eq_ok_iff :
    (set new : Task ε PUnit).run.run machine = (.ok done, after) ↔ new = after := by
  change (Except.ok (), new) = _ ↔ _
  rw [Prod.mk.injEq]
  simp

theorem report_eq_ok_iff {event : Event} :
    (report event : Task ε Unit).run.run machine = (.ok done, after) ↔
      machine.report event = after :=
  modify_eq_ok_iff

end Task

end FigureScript
