import FigureScript.Proofs.Files.Reading
import FigureScript.Proofs.Machine

namespace FigureScript

/-! # What reporting and writing leave alone

Any number of reports changes the log and nothing else; writing a file changes what stands at its
place and nothing else.
-/

namespace Machine

variable {machine after last : Machine} {place : Location} {event : Event}

/-- The machines differ at most in their logs and in what was printed. -/
structure OnlyLogs (machine after : Machine) : Prop where
  directory : after.directory = machine.directory
  launches : after.launches = machine.launches
  isWriting : ∀ place, after.isWriting place = machine.isWriting place
  directories : machine.files.SameDirectories after.files
  devices : ∀ place device, after.files.find? place = some (.device device) ↔
    machine.files.find? place = some (.device device)
  others : ∀ place, machine.isWriting place = false →
    after.files.find? place = machine.files.find? place

theorem OnlyLogs.refl (machine : Machine) : machine.OnlyLogs machine where
  directory := rfl
  launches := rfl
  isWriting _ := rfl
  directories := .refl machine.files
  devices _ _ := Iff.rfl
  others _ _ := rfl

theorem OnlyLogs.trans (first : machine.OnlyLogs after) (second : after.OnlyLogs last) :
    machine.OnlyLogs last where
  directory := second.directory.trans first.directory
  launches := second.launches.trans first.launches
  isWriting place := (second.isWriting place).trans (first.isWriting place)
  directories := first.directories.trans second.directories
  devices place device := (second.devices place device).trans (first.devices place device)
  others place silent :=
    (second.others place ((first.isWriting place).trans silent)).trans (first.others place silent)

theorem onlyLogs_report (machine : Machine) (event : Event) :
    machine.OnlyLogs (machine.report event) where
  directory := report_directory machine event
  launches := report_launches machine event
  isWriting := report_isWriting machine event
  directories := report_sameDirectories machine event
  devices place device := by
    rcases machine.report_eq event with ⟨_, _, _, same⟩ | ⟨_, _, _, _, _, _, same⟩
    · rw [same]
    · rw [same]
      exact FileStore.find?_writeAt_device_iff
  others _ silent := find?_report event silent

theorem onlyLogs_reports (machine : Machine) (events : List Event) :
    machine.OnlyLogs (events.foldl report machine) := by
  induction events generalizing machine with
  | nil => exact .refl machine
  | cons event rest ih => exact (onlyLogs_report machine event).trans (ih _)

/-- A report is printed only where the log is standard output itself. -/
theorem stdout_report (quiet : ∀ place, machine.isWriting place = true →
      machine.files.find? place ≠ some (.device .output)) (event : Event) :
    (machine.report event).stdout = machine.stdout := by
  unfold report
  dsimp only
  split
  · rfl
  · split <;> rfl
  · rename_i level place offset log
    have here : machine.isWriting place = true := by simp [isWriting, log]
    split
    · unfold logTo
      split
      · rename_i device present
        have other := quiet place here
        cases device with
        | output => exact absurd present other
        | full =>
            simp only [send]
            split <;> rfl
        | complaints | nothing | zeros | terminal => rfl
      · rfl
    · rfl

theorem write_eq_ok_cases {path : String} {content : List UInt8}
    (written : machine.write path content = .ok after) :
    ∃ place, machine.files.writable machine.directory path = .ok place ∧
      ((∃ device stdout stderr, machine.files.find? place = some (.device device) ∧
          after = { machine with stdout, stderr }) ∨
        (∀ device, machine.files.find? place ≠ some (.device device)) ∧
          after = { machine with files := machine.files.overwrite place content }) := by
  obtain ⟨place, writable, stored⟩ := Fallible.bind_eq_ok_iff.mp written
  refine ⟨place, writable, ?_⟩
  split at stored
  · rename_i device present
    obtain ⟨stdout, stderr, same⟩ := send_eq stored
    exact .inl ⟨device, stdout, stderr, present, same⟩
  · rename_i other
    cases stored
    exact .inr ⟨fun device present => other device present, rfl⟩

/-- A file is written behind any number of reports. -/
theorem OnlyLogs.write {path : String} {content : List UInt8} (logs : machine.OnlyLogs after)
    (written : after.write path content = .ok last) :
    ∃ place, machine.files.Leads machine.directory path place ∧
      ((∀ device, machine.files.find? place ≠ some (.device device)) →
        ∃ executable, last.files.find? place = some (.file content executable)) ∧
      ∀ other, other ≠ place → machine.isWriting other = false →
        last.files.find? other = machine.files.find? other := by
  obtain ⟨place, writable, stored⟩ := write_eq_ok_cases written
  obtain ⟨target, _, free⟩ := FileStore.writable_eq_ok writable
  have before : machine.files.Leads machine.directory path place := by
    rw [← logs.directory]
    exact FileStore.locate_of_sameDirectories logs.directories.symm target
  refine ⟨place, before, ?_⟩
  rcases stored with ⟨device, stdout, stderr, present, rfl⟩ | ⟨plain, rfl⟩
  · constructor
    · intro absent
      exact absurd ((logs.devices place device).mp present) (absent device)
    · intro other _ silent
      exact logs.others other silent
  · constructor
    · intro _
      exact FileStore.find?_overwrite_self free plain content
    · intro other distinct silent
      exact (FileStore.find?_overwrite_of_ne distinct _ content).trans (logs.others other silent)

end Machine

namespace Task

variable {ε α β δ : Type} {machine after : Machine}

theorem run_bind_of_ok {first : Task ε α} {next : α → Task ε β} {value : α}
    (ran : first.run.run machine = (.ok value, after)) :
    (first >>= next).run.run machine = (next value).run.run after := by
  rw [ExceptT.run_bind, StateT.run_bind, ran]
  rfl

theorem run_bind_of_error {first : Task ε α} {next : α → Task ε β} {error : ε}
    (ran : first.run.run machine = (.error error, after)) :
    (first >>= next).run.run machine = (.error error, after) := by
  rw [ExceptT.run_bind, StateT.run_bind, ran]
  rfl

theorem run_lift_of_error {context : δ → ε} {attempt : Except δ α} {error : δ}
    (failed : attempt = .error error) :
    (lift context attempt : Task ε α).run.run machine = (.error (context error), machine) := by
  rw [failed]
  rfl

theorem run_reports (events : List Event) :
    (events.forM report : Task ε PUnit).run.run machine =
      (.ok (), events.foldl Machine.report machine) := by
  induction events generalizing machine with
  | nil => rfl
  | cons event rest ih =>
      have step : (event :: rest).forM (report : Event → Task ε Unit) =
          (report event >>= fun _ => rest.forM report) := rfl
      have first : (report event : Task ε Unit).run.run machine = (.ok (), machine.report event) :=
        rfl
      rw [step, run_bind_of_ok first, ih]
      rfl

theorem logged_eq_ok_iff {context : δ → ε} {outcome : Logged (Except δ α)} {value : α} :
    (logged context outcome).run.run machine = (.ok value, after) ↔
      outcome.result = .ok value ∧ outcome.events.foldl Machine.report machine = after := by
  rw [logged, run_bind_of_ok (run_reports outcome.events), lift_eq_ok_iff]

theorem write_eq_ok_iff {path : String} {content : List UInt8} :
    (write path content : Task ε (Except OsError Unit)).run.run machine = (.ok (.ok ()), after) ↔
      machine.write path content = .ok after := by
  rw [write, run_bind_of_ok (get_eq_ok_iff.mpr ⟨rfl, rfl⟩)]
  cases machine.write path content with
  | ok next =>
      change (Except.ok (Except.ok ()), next) = _ ↔ _
      rw [Prod.mk.injEq]
      simp
  | error error =>
      change (Except.ok (Except.error error), machine) = _ ↔ _
      rw [Prod.mk.injEq]
      simp

end Task

end FigureScript
