import FigureScript.CommandLine.Run
import FigureScript.Proofs.Figure.Saving
import FigureScript.Proofs.Figure.WellFormed
import FigureScript.Proofs.Files.Reading
import FigureScript.Proofs.Machine.Log
import FigureScript.Runner.Standard

namespace FigureScript.CommandLine

/-! # Figures that are refused

A command asks for its figure before it does anything else that can be seen. Main statement: where
there is no figure to be had, the program writes to its log and nowhere else.
-/

variable {machine after : Machine} {invocation : Invocation} {path : String} {figure : Figure}

/-- The description that a command reads. -/
def Command.figure? : Command → Option String
  | .compile figure _ | .run figure .. => some figure
  | .schema | .demo _ => none

/-! ## Reading a figure -/

def Holds (machine : Machine) (path text : String) : Prop :=
  ∃ bytes, machine.files.read machine.directory path = .ok bytes ∧ Utf8.text? bytes = some text

def Describes (machine : Machine) (path : String) (figure : Figure) : Prop :=
  ∃ text, Holds machine path text ∧ Figure.parse text = .ok figure

/-- What can be wrong with the figure at a path, with the error that says so. -/
inductive Refused (machine : Machine) (path : String) : RunError → Prop
  | unreadable {error : OsError}
      (failed : machine.files.read machine.directory path = .error error) :
      Refused machine path (.readFigure path error)
  | notText {bytes : List UInt8} (read : machine.files.read machine.directory path = .ok bytes)
      (broken : Utf8.text? bytes = none) : Refused machine path (.readFigure path .notText)
  | notJson {text : String} {failure : Json.Failure} (holds : Holds machine path text)
      (failed : Json.parse text = .error failure) :
      Refused machine path (.describeFigure path (.text failure))
  | outsideSchema {text : String} {value : Json} {error : DescriptionError}
      (holds : Holds machine path text) (parsed : Json.parse text = .ok value)
      (failed : Figure.checkSchema value = .error error) :
      Refused machine path (.describeFigure path error)
  | notFigure {text : String} {value : Json} {error : DescriptionError}
      (holds : Holds machine path text) (parsed : Json.parse text = .ok value)
      (admitted : Figure.checkSchema value = .ok ()) (failed : Figure.read value = .error error) :
      Refused machine path (.describeFigure path error)
  | notCompiled {figure : Figure} {error : FigureError} (described : Describes machine path figure)
      (failed : figure.compile.result = .error error) : Refused machine path (.figure error)

/-- A refused path may describe a figure, but none that compiles. -/
theorem Refused.not_compiles {error : RunError} (refused : Refused machine path error)
    (described : Describes machine path figure) :
    ∃ reason, figure.compile.result = .error reason := by
  obtain ⟨text, ⟨bytes, read, spelled⟩, parsed⟩ := described
  have only : ∀ {other : String}, Holds machine path other → other = text := by
    rintro other ⟨found, again, spells⟩
    rw [read] at again
    cases again
    rw [spelled] at spells
    exact (Option.some.inj spells).symm
  cases refused with
  | unreadable failed =>
      rw [read] at failed
      contradiction
  | notText other broken =>
      rw [read] at other
      cases other
      rw [spelled] at broken
      contradiction
  | notJson holds failed =>
      cases only holds
      rw [Figure.parse, failed] at parsed
      contradiction
  | outsideSchema holds value failed =>
      cases only holds
      simp only [Figure.parse, value, Figure.ofDocument, failed, bind, Except.bind] at parsed
      contradiction
  | notFigure holds value admitted failed =>
      cases only holds
      simp only [Figure.parse, value, Figure.ofDocument, admitted, failed, bind, Except.bind]
        at parsed
      contradiction
  | notCompiled other failed =>
      obtain ⟨again, holds, same⟩ := other
      cases only holds
      rw [parsed] at same
      cases same
      exact ⟨_, failed⟩

/-- Reading a figure changes nothing, whether it succeeds or not. -/
theorem loadFigure_cases (machine : Machine) (path : String) :
    (∃ figure, Describes machine path figure ∧
      (loadFigure path).run.run machine = (.ok figure, machine)) ∨
    ∃ error, (loadFigure path).run.run machine = (.error error, machine) := by
  have first : (Task.read path : Task RunError _).run.run machine =
      (.ok (machine.files.read machine.directory path), machine) := rfl
  rw [loadFigure, Task.run_bind_of_ok first]
  cases read : machine.files.read machine.directory path with
  | error reason => exact .inr ⟨.readFigure path reason, rfl⟩
  | ok bytes =>
      rw [Task.run_bind_of_ok (Task.lift_eq_ok_iff.mpr ⟨rfl, rfl⟩)]
      cases spelled : Utf8.text? bytes with
      | none => exact .inr ⟨.readFigure path .notText, rfl⟩
      | some text =>
          cases parsed : Figure.parse text with
          | error reason => exact .inr ⟨_, Task.run_lift_of_error parsed⟩
          | ok figure =>
              exact .inl ⟨figure, ⟨text, ⟨bytes, read, spelled⟩, parsed⟩,
                Task.lift_eq_ok_iff.mpr ⟨parsed, rfl⟩⟩

/-- The same for a configuration. -/
theorem load_inert (machine : Machine) (path : String) :
    ∃ result, (RunConfig.load path).run.run machine = (result, machine) := by
  rw [RunConfig.load, Task.run_bind_of_ok (Task.get_eq_ok_iff.mpr ⟨rfl, rfl⟩)]
  cases machine.files.openToRead machine.directory path with
  | error reason => exact ⟨_, rfl⟩
  | ok node =>
      rw [Task.run_bind_of_ok (Task.lift_eq_ok_iff.mpr ⟨rfl, rfl⟩)]
      cases node.content with
      | error reason => exact ⟨_, rfl⟩
      | ok bytes =>
          rw [Task.run_bind_of_ok (Task.lift_eq_ok_iff.mpr ⟨rfl, rfl⟩)]
          cases RunConfig.ofBytes bytes with
          | error failure => exact ⟨_, rfl⟩
          | ok config => exact ⟨_, rfl⟩

/-! ## Commands without a figure -/

theorem runFigure_of_error {config : RunConfig} {error : FigureError}
    (failed : figure.compile.result = .error error) :
    (runFigure figure config).run.run machine = (.error (.figure error), machine) := by
  rw [runFigure, Task.run_bind_of_error (Figure.run_compile_of_error failed)]

/-- What follows a figure that is not to be had does not happen. -/
theorem load_then_refuses {α : Type} {next : Figure → Task RunError α}
    (nothing : ∀ figure, Describes machine path figure →
      ∃ reason, figure.compile.result = .error reason)
    (follows : ∀ figure reason, figure.compile.result = .error reason →
      (next figure).run.run machine = (.error (.figure reason), machine)) :
    ∃ error, (loadFigure path >>= next).run.run machine = (.error error, machine) := by
  rcases loadFigure_cases machine path with ⟨figure, described, loaded⟩ | ⟨error, failed⟩
  · obtain ⟨reason, refused⟩ := nothing figure described
    exact ⟨.figure reason, (Task.run_bind_of_ok loaded).trans (follows figure reason refused)⟩
  · exact ⟨error, Task.run_bind_of_error failed⟩

theorem execute_refuses (machine : Machine) {command : Command}
    (reads : command.figure? = some path)
    (nothing : ∀ figure, Describes machine path figure →
      ∃ reason, figure.compile.result = .error reason) :
    ∃ error, (execute command).run.run machine = (.error error, machine) := by
  cases command with
  | compile figure out =>
      cases reads
      exact load_then_refuses nothing fun figure reason failed =>
        Task.run_bind_of_error (Figure.run_compile_of_error failed)
  | run figure config python scriptName =>
      cases reads
      have configured : ∀ config : RunConfig,
          ∃ error, (do runFigure (← loadFigure path) config : Task RunError ExitCode).run.run
            machine = (.error error, machine) := fun config =>
        load_then_refuses nothing fun figure reason failed => runFigure_of_error failed
      cases config with
      | none => exact configured _
      | some file =>
          obtain ⟨result, inert⟩ := load_inert machine file
          cases result with
          | error error => exact ⟨error, Task.run_bind_of_error inert⟩
          | ok settings =>
              obtain ⟨error, failed⟩ := configured _
              exact ⟨error, (Task.run_bind_of_ok inert).trans failed⟩
  | schema => contradiction
  | demo => contradiction

/-! ## The log -/

/-- The place of the log file that an invocation asks for. -/
def logPlace? (machine : Machine) (invocation : Invocation) : Option Location :=
  invocation.logFile.bind fun path => (machine.files.writable machine.directory path).toOption

theorem openLog_cases (opened : openLog machine invocation = .ok after) :
    (logPlace? machine invocation = none ∧
      after = { machine with log := .stderr invocation.logLevel }) ∨
    ∃ place, logPlace? machine invocation = some place ∧
      machine.files.find? place ≠ some .directory ∧
      after = { machine with
        files := machine.files.overwrite place []
        log := .file invocation.logLevel place 0 } := by
  unfold openLog at opened
  split at opened
  · rename_i absent
    cases opened
    exact .inl ⟨by simp [logPlace?, absent], rfl⟩
  · rename_i path present
    obtain ⟨place, writable, same⟩ := Fallible.bind_eq_ok_iff.mp opened
    cases same
    refine .inr ⟨place, ?_, (FileStore.writable_eq_ok writable).2.2, rfl⟩
    simp [logPlace?, present, writable, Except.toOption]

/-- An empty text describes no figure. -/
theorem parse_empty (figure : Figure) : Figure.parse "" ≠ .ok figure := by
  have empty : (Figure.parse "").toOption.isNone = true := by decide +kernel
  intro parsed
  rw [parsed] at empty
  contradiction

/-- Opening the log can empty a file, but that brings no figure about. -/
theorem describes_of_openLog (opened : openLog machine invocation = .ok after)
    (described : Describes after path figure) : Describes machine path figure := by
  rcases openLog_cases opened with ⟨_, rfl⟩ | ⟨place, _, free, rfl⟩
  · exact described
  · obtain ⟨text, ⟨bytes, read, spelled⟩, parsed⟩ := described
    have nonempty : bytes ≠ [] := by
      rintro rfl
      cases spelled
      exact parse_empty figure parsed
    exact ⟨text, ⟨bytes, FileStore.read_of_emptied free read nonempty, spelled⟩, parsed⟩

/-- Apart from the place of its log file, an invocation that fails leaves all files as they are. -/
theorem fails_of_openLog (opened : openLog machine invocation = .ok after) (event : Event) :
    (after.report event).launches = machine.launches ∧
      ((∀ place, logPlace? machine invocation = some place →
          machine.files.find? place ≠ some (.device .output)) →
        (after.report event).stdout = machine.stdout) ∧
      ∀ place, logPlace? machine invocation ≠ some place →
        (after.report event).files.find? place = machine.files.find? place := by
  rcases openLog_cases opened with ⟨_, rfl⟩ | ⟨logged, asked, free, rfl⟩
  · refine ⟨Machine.report_launches _ event, fun _ => Machine.stdout_report ?_ event,
      fun place _ => Machine.find?_report event rfl⟩
    intro place writing
    simp [Machine.isWriting] at writing
  · refine ⟨Machine.report_launches _ event, ?stdout, ?files⟩
    case stdout =>
      intro quiet
      refine Machine.stdout_report ?_ event
      intro place writing emptied
      have same : logged = place := by simpa [Machine.isWriting] using writing
      subst same
      exact quiet logged asked ((FileStore.find?_overwrite_device_iff free).mp emptied)
    case files =>
      intro place other
      have apart : place ≠ logged := fun same => other (same ▸ asked)
      have silent : ({ machine with
          files := machine.files.overwrite logged []
          log := .file invocation.logLevel logged 0 } : Machine).isWriting place = false := by
        simpa [Machine.isWriting] using apart.symm
      exact (Machine.find?_report event silent).trans
        (FileStore.find?_overwrite_of_ne apart machine.files [])

theorem perform_of_openLog {error : RunError} (opened : openLog machine invocation = .ok after)
    (reads : invocation.command.figure? = some path) (refused : Refused machine path error) :
    ∃ failure : RunError,
      perform invocation machine = (.failure, after.report (.failed failure.message)) := by
  obtain ⟨failure, failed⟩ := execute_refuses after reads fun figure described =>
    refused.not_compiles (describes_of_openLog opened described)
  exact ⟨failure, by simp only [perform, opened, failed]⟩

/-- An invocation that finds no figure fails. -/
theorem perform_of_refused {error : RunError} (reads : invocation.command.figure? = some path)
    (refused : Refused machine path error) :
    (perform invocation machine).1 = .failure ∧
      (perform invocation machine).2.launches = machine.launches ∧
      ((∀ place, logPlace? machine invocation = some place →
          machine.files.find? place ≠ some (.device .output)) →
        (perform invocation machine).2.stdout = machine.stdout) ∧
      ∀ place, logPlace? machine invocation ≠ some place →
        (perform invocation machine).2.files.find? place = machine.files.find? place := by
  cases opened : openLog machine invocation with
  | error reason =>
      simp only [perform, opened]
      exact ⟨trivial, trivial, fun _ => trivial, fun _ _ => trivial⟩
  | ok after =>
      obtain ⟨failure, performed⟩ := perform_of_openLog opened reads refused
      rw [performed]
      exact ⟨rfl, fails_of_openLog opened _⟩

theorem openLog_of_place {place : Location} (asked : logPlace? machine invocation = some place) :
    openLog machine invocation = .ok { machine with
      files := machine.files.overwrite place []
      log := .file invocation.logLevel place 0 } := by
  obtain ⟨path, file, writable⟩ := Option.bind_eq_some_iff.mp asked
  simp only [openLog, file, Fallible.eq_ok_of_toOption writable]
  rfl

/-- Where the log goes to standard output, an invocation that finds no figure says so there. -/
theorem stdout_of_refused {error : RunError} {place : Location}
    (asked : logPlace? machine invocation = some place)
    (stands : machine.files.find? place = some (.device .output))
    (reads : invocation.command.figure? = some path) (refused : Refused machine path error) :
    (perform invocation machine).2.stdout ≠ "" := by
  obtain ⟨failure, performed⟩ := perform_of_openLog (openLog_of_place asked) reads refused
  have free : machine.files.find? place ≠ some .directory := by simp [stands]
  have kept : (machine.files.overwrite place []).find? place = some (.device .output) :=
    (FileStore.find?_overwrite_device_iff free).mpr stands
  have shown : invocation.logLevel.shows (Event.failed failure.message).level = true := by
    cases invocation.logLevel <;> rfl
  rw [performed, Machine.stdout_report_of_output rfl kept shown]
  exact fun empty => Machine.logLine_ne_empty _ _ (String.append_eq_empty_iff.mp empty).2

/-- A log that shows all but traces grows with every figure that is saved elsewhere. -/
theorem find?_log_of_save {place : Location} {content : List UInt8} {executable : Bool}
    (logs : machine.LogsTo .debug place content executable)
    (saved : (figure.save path).run.run machine = (.ok (), after))
    (elsewhere : ¬ machine.files.Leads machine.directory path place) :
    after.files.find? place ≠ machine.files.find? place := by
  obtain ⟨script, compiled, written⟩ := Figure.save_eq_ok_iff.mp saved
  obtain ⟨layout, valid, _⟩ := Figure.compile_eq_ok_iff.mp compiled
  have lines : Machine.logged .debug machine.time figure.compile.events ≠ [] :=
    Machine.logged_ne_nil ((Figure.compiled_mem_events valid _).mpr rfl) rfl
  have only := Machine.onlyLogs_reports machine figure.compile.events
  have grown := (logs.reports figure.compile.events).write written fun leads => by
    rw [only.directory] at leads
    exact elsewhere (FileStore.locate_of_sameDirectories only.directories.symm leads)
  rw [grown, logs.stands]
  simpa using lines

/-- A figure that does not compile is not saved, and nothing happens. One that is saved fills the
file that the path leads to, where that is no device, with its script; no other file changes but an
open log. Without a figure that compiles the program fails, starts no interpreter and changes no file
but the log file it is asked for; it prints nothing, unless the log is to go to standard output. -/
theorem fails_closed (machine : Machine) :
    (∀ (figure : Figure) (path : String) (error : FigureError),
      figure.compile.result = .error error →
        (figure.save path).run.run machine = (.error error, machine)) ∧
    (∀ (figure : Figure) (path : String) (after : Machine),
      (figure.save path).run.run machine = (.ok (), after) →
        ∃ script place, figure.compile.result = .ok script ∧
          machine.files.Leads machine.directory path place ∧
          ((∀ device, machine.files.find? place ≠ some (.device device)) →
            ∃ executable,
              after.files.find? place = some (.file (Utf8.encode script) executable)) ∧
          ∀ other, other ≠ place → machine.isWriting other = false →
            after.files.find? other = machine.files.find? other) ∧
    ∀ (arguments : List String) (invocation : Invocation) (path : String) (error : RunError),
      parse arguments = some invocation → invocation.command.figure? = some path →
        Refused machine path error →
          (run arguments machine).1.value = 1 ∧
          (run arguments machine).2.launches = machine.launches ∧
          ((∀ place, logPlace? machine invocation = some place →
              machine.files.find? place ≠ some (.device .output)) →
            (run arguments machine).2.stdout = machine.stdout) ∧
          ∀ place, logPlace? machine invocation ≠ some place →
            (run arguments machine).2.files.find? place = machine.files.find? place := by
  refine ⟨fun figure path error failed => Figure.save_of_error failed,
    fun figure path after saved => Figure.files_of_save saved, ?_⟩
  intro arguments invocation path error parsed reads refused
  have performed : run arguments machine = perform invocation machine := by
    simp only [run, parsed]
  -- However it is refused, the path leads to no figure that compiles, and that alone matters.
  obtain ⟨code, unchanged⟩ := perform_of_refused reads refused
  rw [performed, code]
  exact ⟨rfl, unchanged⟩

/-- A script at `p.py`, and a description at `f` that is no JSON. -/
def draft : Machine :=
  { Machine.standard with
    files := (Machine.standard.files.put ["tmp", "work", "p.py"]
      (.file (Utf8.encode "print(1)") true)).put ["tmp", "work", "f"] (.file [91] false) }

/-- A line without points. -/
def pointless : Figure where
  series := [.line {}]

theorem fails_closed_on_draft :
    (pointless.save "p.py").run.run draft = (.error (.series .noPoints), draft) ∧
    (∃ after script executable, (({} : Figure).save "p.py").run.run draft = (.ok (), after) ∧
      after.files.find? ["tmp", "work", "p.py"] =
        some (.file (Utf8.encode script) executable)) ∧
    (run ["compile", "--figure", "f", "--out", "p.py"] draft).1.value = 1 ∧
    (run ["compile", "--figure", "f", "--out", "p.py"] draft).2.stdout = "" ∧
    (run ["compile", "--figure", "f", "--out", "p.py"] draft).2.files.find?
        ["tmp", "work", "p.py"] = some (.file (Utf8.encode "print(1)") true) := by
  obtain ⟨fails, saves, runs⟩ := fails_closed draft
  have saved : (({} : Figure).save "p.py").run.run draft =
      (.ok (), ((({} : Figure).save "p.py").run.run draft).2) :=
    Task.outcome_eq (Fallible.eq_ok_of_toOption (by decide +kernel))
  have parsed : parse ["compile", "--figure", "f", "--out", "p.py"] =
      some ⟨.info, none, .compile "f" (some "p.py")⟩ := by decide +kernel
  have holds : Holds draft "f" "[" :=
    ⟨[91], Fallible.eq_ok_of_toOption (by decide +kernel), by decide +kernel⟩
  obtain ⟨failure, failed⟩ : ∃ failure, Json.parse "[" = .error failure :=
    Fallible.exists_error_of_toOption (by decide +kernel)
  obtain ⟨script, place, _, target, stored, _⟩ := saves _ _ _ saved
  have known : draft.files.Leads draft.directory "p.py" ["tmp", "work", "p.py"] := by
    decide +kernel
  have here : place = ["tmp", "work", "p.py"] := by
    rw [FileStore.Leads, known] at target
    cases target
    rfl
  subst here
  have present : draft.files.find? ["tmp", "work", "p.py"] =
      some (.file (Utf8.encode "print(1)") true) := by decide +kernel
  obtain ⟨executable, written⟩ := stored fun device other => by
    rw [present] at other
    cases other
  obtain ⟨code, _, silent, kept⟩ := runs _ _ _ _ parsed rfl (.notJson holds failed)
  exact ⟨fails _ _ _ rfl, ⟨_, script, executable, saved, written⟩, code, silent nofun,
    (kept _ nofun).trans present⟩

/-- A log at `l` that is open. -/
def logging : Machine :=
  { Machine.standard with
    files := Machine.standard.files.put ["tmp", "work", "l"] (.file [] false)
    log := .file .debug ["tmp", "work", "l"] 0 }

/-- A device keeps no script, an open log file grows while a figure is saved, and a log that goes to
standard output is printed. -/
theorem devices_and_logs_are_exceptions :
    (∃ (figure : Figure) (script : String) (after : Machine), figure.compile.result = .ok script ∧
      script ≠ "" ∧ (figure.save "/dev/null").run.run Machine.standard = (.ok (), after) ∧
      after.files.read after.directory "/dev/null" = .ok []) ∧
    (∃ (figure : Figure) (after : Machine),
      (figure.save "s.py").run.run logging = (.ok (), after) ∧
      after.files.find? ["tmp", "work", "l"] ≠ logging.files.find? ["tmp", "work", "l"]) ∧
    ∃ arguments invocation error, parse arguments = some invocation ∧
      invocation.command = .compile "missing.json" none ∧
      Refused Machine.standard "missing.json" error ∧
      (run arguments Machine.standard).2.stdout ≠ "" := by
  refine ⟨?device, ?log, ?output⟩
  case device =>
    have compiled := Figure.compile_eq_ok_iff.mpr
      ⟨.single, Figure.validate_eq_ok_iff.mp (rfl : ({} : Figure).validate = .ok .single), rfl⟩
    have saved : (({} : Figure).save "/dev/null").run.run Machine.standard =
        (.ok (), ((({} : Figure).save "/dev/null").run.run Machine.standard).2) :=
      Task.outcome_eq (Fallible.eq_ok_of_toOption (by decide +kernel))
    exact ⟨{}, _, _, compiled, Figure.script_ne_empty compiled, saved,
      Fallible.eq_ok_of_toOption (by decide +kernel)⟩
  case log =>
    have saved : (({} : Figure).save "s.py").run.run logging =
        (.ok (), ((({} : Figure).save "s.py").run.run logging).2) :=
      Task.outcome_eq (Fallible.eq_ok_of_toOption (by decide +kernel))
    have logs : logging.LogsTo .debug ["tmp", "work", "l"] [] false := ⟨rfl, by decide +kernel⟩
    exact ⟨{}, _, saved, find?_log_of_save logs saved (by decide +kernel)⟩
  case output =>
    obtain ⟨error, failed⟩ : ∃ error,
        Machine.standard.files.read Machine.standard.directory "missing.json" = .error error :=
      Fallible.exists_error_of_toOption (by decide +kernel)
    have refused : Refused Machine.standard "missing.json" _ := .unreadable failed
    have parsed : parse ["compile", "--figure", "missing.json", "--log-file", "/dev/stdout"] =
        some ⟨.info, some "/dev/stdout", .compile "missing.json" none⟩ := by decide +kernel
    have place : logPlace? Machine.standard
        ⟨.info, some "/dev/stdout", .compile "missing.json" none⟩ = some ["dev", "stdout"] := by
      decide +kernel
    refine ⟨_, _, _, parsed, rfl, refused, ?_⟩
    rw [run, parsed]
    exact stdout_of_refused place rfl rfl refused

end FigureScript.CommandLine
