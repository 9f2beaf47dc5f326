import FigureScript.Figure.Save
import FigureScript.Proofs.Figure.Compilation
import FigureScript.Proofs.Machine.Reports

namespace FigureScript.Figure

/-! # Saving a script

A script is compiled before anything is written. A figure that does not compile leaves the machine
as it was, with its log.
-/

variable {figure : Figure} {machine after : Machine} {path script : String} {error : FigureError}

theorem compile_of_result_error (failed : figure.compile.result = .error error) :
    figure.compile = ⟨[], .error error⟩ := by
  cases validated : figure.validate with
  | error reason =>
      rw [compile_of_error validated] at failed ⊢
      cases failed
      rfl
  | ok layout =>
      rw [compile_of_valid (validate_eq_ok_iff.mp validated)] at failed
      contradiction

theorem run_compile_of_error {ε : Type} {context : FigureError → ε}
    (failed : figure.compile.result = .error error) :
    (Task.logged context figure.compile).run.run machine = (.error (context error), machine) := by
  rw [compile_of_result_error failed]
  rfl

theorem save_of_error (failed : figure.compile.result = .error error) :
    (figure.save path).run.run machine = (.error error, machine) := by
  rw [save, Task.run_bind_of_error (run_compile_of_error failed)]
  rfl

theorem save_eq_ok_iff :
    (figure.save path).run.run machine = (.ok (), after) ↔
      ∃ script, figure.compile.result = .ok script ∧
        (figure.compile.events.foldl Machine.report machine).write path (Utf8.encode script) =
          .ok after := by
  simp only [save, Task.bind_eq_ok_iff, Task.logged_eq_ok_iff, Task.lift_eq_ok_iff]
  constructor
  · rintro ⟨script, _, ⟨compiled, rfl⟩, _, _, written, rfl, rfl⟩
    exact ⟨script, compiled, Task.write_eq_ok_iff.mp written⟩
  · rintro ⟨script, compiled, written⟩
    exact ⟨script, _, ⟨compiled, rfl⟩, _, _, Task.write_eq_ok_iff.mpr written, rfl, rfl⟩

/-- The place that the path leads to holds the script afterwards, unless a device stands there.
Nothing else has changed but an open log. -/
theorem files_of_save (saved : (figure.save path).run.run machine = (.ok (), after)) :
    ∃ script place, figure.compile.result = .ok script ∧
      machine.files.Leads machine.directory path place ∧
      ((∀ device, machine.files.find? place ≠ some (.device device)) →
        ∃ executable,
          after.files.find? place = some (.file (Utf8.encode script) executable)) ∧
      ∀ other, other ≠ place → machine.isWriting other = false →
        after.files.find? other = machine.files.find? other := by
  obtain ⟨script, compiled, written⟩ := save_eq_ok_iff.mp saved
  have logs := Machine.onlyLogs_reports machine figure.compile.events
  obtain ⟨place, target, stored, others⟩ := logs.write written
  exact ⟨script, place, compiled, target, stored, others⟩

end FigureScript.Figure
