import FigureScript.Proofs.Machine.Reports
import FigureScript.Proofs.Text.Utf8

namespace FigureScript

/-! # What a log receives

A log gets one line for every event that its level shows, behind what it got before. Main statement:
what an open log file holds after any number of reports.
-/

namespace FileStore

theorem find?_writeAt_end {store : FileStore} {place : Location} {content : List UInt8}
    {executable : Bool} (present : store.find? place = some (.file content executable))
    (bytes : List UInt8) :
    (store.writeAt place content.length bytes).find? place =
      some (.file (content ++ bytes) executable) := by
  have below : place ≠ [] := by
    rintro rfl
    simp [find?] at present
  simp only [writeAt, present, find?_put_self below]
  simp

end FileStore

namespace Machine

/-- A bracket comes first in a log line, and nothing can hide it. -/
theorem logLine_ne_empty (time : String) (event : Event) : logLine time event ≠ "" := by
  have bracket : ∀ rest, Visible.text ("[" ++ rest) ≠ "" := by
    intro rest empty
    have characters := congrArg String.toList empty
    have shown : Visible.isShownIn .text '[' = true := by decide
    simp [Visible.text, Visible.characters, shown] at characters
  simpa [logLine, String.append_assoc] using bracket _

theorem encode_logLine_ne_nil (time : String) (event : Event) :
    Utf8.encode (logLine time event) ≠ [] := by
  intro empty
  have read := Utf8.lossy_encode (logLine time event)
  rw [empty] at read
  exact logLine_ne_empty time event read.symm

/-- The lines of the events that a level shows. -/
def logged (level : LogLevel) (time : String) (events : List Event) : List UInt8 :=
  (events.filter fun event => level.shows event.level).flatMap fun event =>
    Utf8.encode (logLine time event)

/-- A log file at a place is open for adding lines at its end. -/
structure LogsTo (machine : Machine) (level : LogLevel) (place : Location) (content : List UInt8)
    (executable : Bool) : Prop where
  log : machine.log = .file level place content.length
  stands : machine.files.find? place = some (.file content executable)

variable {machine : Machine} {level : LogLevel} {place : Location} {content : List UInt8}
  {executable : Bool} {event : Event}

theorem report_time (machine : Machine) (event : Event) :
    (machine.report event).time = machine.time := by
  rcases machine.report_eq event with ⟨_, _, _, same⟩ | ⟨_, _, _, _, _, _, same⟩ <;> rw [same]

theorem LogsTo.report (logs : machine.LogsTo level place content executable) (event : Event) :
    (machine.report event).LogsTo level place (content ++ logged level machine.time [event])
      executable := by
  by_cases shown : level.shows event.level
  · have line : logged level machine.time [event] = Utf8.encode (logLine machine.time event) := by
      simp [logged, shown]
    have added : machine.report event =
        { machine with
          events := machine.events ++ [event]
          files := machine.files.writeAt place content.length
            (Utf8.encode (logLine machine.time event))
          log := .file level place
            (content.length + (Utf8.encode (logLine machine.time event)).length) } := by
      simp only [Machine.report, logs.log, shown, if_true, logTo, logs.stands]
    rw [line, added]
    exact ⟨by rw [List.length_append], FileStore.find?_writeAt_end logs.stands _⟩
  · have nothing : logged level machine.time [event] = [] := by simp [logged, shown]
    have silent : machine.report event = { machine with events := machine.events ++ [event] } := by
      simp only [Machine.report, logs.log, shown, Bool.false_eq_true, if_false]
    rw [nothing, List.append_nil, silent]
    exact ⟨logs.log, logs.stands⟩

/-- Any number of reports adds the lines of those that are shown, in their order. -/
theorem LogsTo.reports (logs : machine.LogsTo level place content executable)
    (events : List Event) :
    (events.foldl Machine.report machine).LogsTo level place
      (content ++ logged level machine.time events) executable := by
  induction events generalizing machine content with
  | nil => simpa [logged] using logs
  | cons event rest ih =>
      have split : logged level machine.time (event :: rest) =
          logged level machine.time [event] ++ logged level machine.time rest := by
        by_cases shown : level.shows event.level <;> simp [logged, shown]
      have next := ih (logs.report event)
      rw [report_time, List.append_assoc, ← split] at next
      exact next

/-- What is written elsewhere leaves the log file alone. -/
theorem LogsTo.write {path : String} {bytes : List UInt8} {after : Machine}
    (logs : machine.LogsTo level place content executable)
    (written : machine.write path bytes = .ok after)
    (apart : ¬ machine.files.Leads machine.directory path place) :
    after.files.find? place = some (.file content executable) := by
  obtain ⟨target, writable, ⟨_, _, _, _, rfl⟩ | ⟨_, rfl⟩⟩ := write_eq_ok_cases written
  · exact logs.stands
  · obtain ⟨leads, _⟩ := FileStore.writable_eq_ok writable
    have other : place ≠ target := by
      rintro rfl
      exact apart leads
    exact (FileStore.find?_overwrite_of_ne other _ bytes).trans logs.stands

theorem logged_ne_nil {time : String} {events : List Event} (member : event ∈ events)
    (shown : level.shows event.level = true) : logged level time events ≠ [] := by
  intro empty
  have line := List.flatMap_eq_nil_iff.mp empty event (List.mem_filter.mpr ⟨member, shown⟩)
  exact encode_logLine_ne_nil time event line

/-- On standard output the line itself is printed. -/
theorem stdout_report_of_output {offset : Nat} (log : machine.log = .file level place offset)
    (stands : machine.files.find? place = some (.device .output))
    (shown : level.shows event.level = true) :
    (machine.report event).stdout = machine.stdout ++ logLine machine.time event := by
  simp only [Machine.report, log, shown, if_true, logTo, stands, send, Except.toOption,
    Option.getD_some, Utf8.lossy_encode]

end Machine

end FigureScript
