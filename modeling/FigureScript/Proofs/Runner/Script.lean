import FigureScript.Proofs.FileName
import FigureScript.Proofs.Machine
import FigureScript.Proofs.Text.Utf8
import FigureScript.Runner.Run
import FigureScript.Runner.Standard

namespace FigureScript

/-! # The script that an interpreter is given

A script is written from the working directory of the program and read from the directory that its
interpreter runs in, under one path. Main statement: when that path leads to the script from there.
-/

namespace PrintOptions

theorem files_of_plain {path : String} (plain : path.toList.head? ≠ some '-') :
    files [path] = .ok [path] := by
  simp only [files]
  split
  · rename_i same
    simp [same] at plain
  · rename_i same
    simp [same] at plain
  · rename_i same
    simp [same] at plain
  · rfl

/-- What begins with a hyphen and goes on is an option, if it is anything. -/
theorem files_of_hyphen {path : String} (hyphen : path.toList.head? = some '-')
    (long : 1 < path.toList.length) {paths : List String} (read : files [path] = .ok paths) :
    paths = [] := by
  simp only [files] at read
  split at read
  · cases read
    rfl
  · obtain ⟨_, _, rest⟩ := Fallible.bind_eq_ok_iff.mp read
    cases rest
    rfl
  · obtain ⟨_, _, rest⟩ := Fallible.bind_eq_ok_iff.mp read
    cases rest
    rfl
  · rename_i alone longer other
    rcases letters : path.toList with _ | ⟨first, _ | ⟨second, others⟩⟩
    · simp [letters] at hyphen
    · simp [letters] at long
    · simp only [letters, List.head?_cons, Option.some_inj] at hyphen
      subst hyphen
      exact absurd letters (other second others)

end PrintOptions

namespace RunConfig

variable {config : RunConfig} {script : String} {machine after : Machine} {output : RunOutput}
  {location directory : Location} {start : Start} {name : String}

/-! ## The stages of a run -/

theorem scriptPath_eq_append (config : RunConfig) : ∃ stem, config.scriptPath = stem ++ ".py" :=
  FileName.script_eq_append _

/-- The machine on which the interpreter is started: the script is written, the start announced. -/
def launching (config : RunConfig) (script : String) (machine : Machine) : Machine :=
  ((config.writeScript script).run.run machine).2.report
    (.running config.interpreter config.scriptPath)

/-- The machine with a script written at a place. -/
def withScript (config : RunConfig) (script : String) (machine : Machine) (location : Location) :
    Machine :=
  { machine with
    files := (machine.files.overwrite location
      (Utf8.encode (config.header ++ script))).markExecutable location }

theorem writeScript_eq_ok_iff {path : String} :
    (config.writeScript script).run.run machine = (.ok path, after) ↔
      ∃ location, machine.files.writable machine.directory config.scriptPath = .ok location ∧
        config.scriptPath = path ∧
        (config.withScript script machine location).report (.scriptWritten config.scriptPath) =
          after := by
  simp only [writeScript, Task.bind_eq_ok_iff, Task.get_eq_ok_iff, Task.lift_eq_ok_iff,
    Task.set_eq_ok_iff, Task.report_eq_ok_iff, Task.pure_eq_ok_iff]
  constructor
  · rintro ⟨_, _, ⟨rfl, rfl⟩, location, _, ⟨writable, rfl⟩, _, _, rfl, _, _, rfl, same, rfl⟩
    exact ⟨location, writable, same, rfl⟩
  · rintro ⟨location, writable, rfl, rfl⟩
    exact ⟨_, _, ⟨rfl, rfl⟩, location, _, ⟨writable, rfl⟩, (), _, rfl, (), _, rfl, rfl, rfl⟩

theorem writeScript_of_writable (script : String)
    (writable : machine.files.writable machine.directory config.scriptPath = .ok location) :
    (config.writeScript script).run.run machine =
      (.ok config.scriptPath,
        (config.withScript script machine location).report (.scriptWritten config.scriptPath)) :=
  writeScript_eq_ok_iff.mpr ⟨location, writable, rfl, rfl⟩

theorem launching_eq (script : String)
    (writable : machine.files.writable machine.directory config.scriptPath = .ok location) :
    config.launching script machine =
      ((config.withScript script machine location).report (.scriptWritten config.scriptPath)).report
        (.running config.interpreter config.scriptPath) := by
  rw [launching, writeScript_of_writable script writable]

/-- What an interpreter leaves behind, as texts. -/
def outputOf (outcome : Outcome) : RunOutput :=
  { code := outcome.code
    stdout := Utf8.lossy outcome.stdout
    stderr := Utf8.lossy outcome.stderr }

/-- The machine after a run that began on `launching`: the start is recorded, the end reported. -/
def finished (config : RunConfig) (launching : Machine) (directory : Location)
    (output : RunOutput) : Machine :=
  ({ launching with
    launches := launching.launches ++
      [⟨config.interpreter, [config.scriptPath], directory⟩] } : Machine).report
    (if output.success then .finished else .exited output.code (Blank.trimmed output.stderr))

/-- A run succeeds when the script can be written and the interpreter started, whatever becomes of
it then. -/
theorem runScript_eq_ok_iff :
    (config.runScript script).run.run machine = (.ok output, after) ↔
      ∃ location directory start,
        machine.files.writable machine.directory config.scriptPath = .ok location ∧
        config.prepare config.scriptPath (config.launching script machine) =
          .ok (directory, start) ∧
        outputOf (start.run (config.launching script machine).files directory) = output ∧
        config.finished (config.launching script machine) directory output = after := by
  simp only [runScript, Task.bind_eq_ok_iff]
  constructor
  · rintro ⟨path, written, wrote, _, launching, announced, _, _, got, ⟨directory, start⟩, _,
      lifted, rest⟩
    obtain ⟨location, writable, rfl, rfl⟩ := writeScript_eq_ok_iff.mp wrote
    have same : config.launching script machine = launching :=
      (launching_eq script writable).trans (Task.report_eq_ok_iff.mp announced)
    obtain ⟨rfl, rfl⟩ := Task.get_eq_ok_iff.mp got
    obtain ⟨prepared, rfl⟩ := Task.lift_eq_ok_iff.mp lifted
    simp only [Task.modify_eq_ok_iff, Task.report_eq_ok_iff, Task.pure_eq_ok_iff] at rest
    obtain ⟨_, _, rfl, _, _, rfl, rfl, rfl⟩ := rest
    rw [same]
    exact ⟨location, directory, start, writable, prepared, rfl, rfl⟩
  · rintro ⟨location, directory, start, writable, prepared, rfl, rfl⟩
    have announced := (launching_eq script writable).symm
    -- From here on it does not matter how the machine came about.
    generalize config.launching script machine = launching at prepared announced
    refine ⟨_, _, writeScript_of_writable script writable, (), launching,
      Task.report_eq_ok_iff.mpr announced, launching, launching,
      Task.get_eq_ok_iff.mpr ⟨rfl, rfl⟩, (directory, start), launching,
      Task.lift_eq_ok_iff.mpr ⟨prepared, rfl⟩, ?_⟩
    simp only [Task.modify_eq_ok_iff, Task.report_eq_ok_iff, Task.pure_eq_ok_iff]
    exact ⟨(), _, rfl, (), _, rfl, rfl, rfl⟩

/-! ## The machine at the start of the interpreter -/

theorem launching_sameDirectories (script : String)
    (writable : machine.files.writable machine.directory config.scriptPath = .ok location) :
    machine.files.SameDirectories (config.launching script machine).files := by
  have free := (FileStore.writable_eq_ok writable).2.2
  have written : machine.files.SameDirectories (config.withScript script machine location).files :=
    (FileStore.sameDirectories_overwrite free _).trans
      (FileStore.sameDirectories_markExecutable _ location)
  rw [launching_eq script writable]
  exact (written.trans (Machine.report_sameDirectories _ _)).trans
    (Machine.report_sameDirectories _ _)

/-- The script stands where it was written, unless the log or a device is there. -/
theorem find?_launching (script : String)
    (writable : machine.files.writable machine.directory config.scriptPath = .ok location)
    (unlogged : machine.isWriting location = false)
    (plain : ∀ device, machine.files.find? location ≠ some (.device device)) :
    (config.launching script machine).files.find? location =
      some (.file (Utf8.encode (config.header ++ script)) true) := by
  have free := (FileStore.writable_eq_ok writable).2.2
  obtain ⟨executable, overwritten⟩ :=
    FileStore.find?_overwrite_self free plain (Utf8.encode (config.header ++ script))
  -- Neither of the two reports in between goes to the place of the script.
  have first : (config.withScript script machine location).isWriting location = false := unlogged
  have second : ((config.withScript script machine location).report
      (.scriptWritten config.scriptPath)).isWriting location = false := by
    rw [Machine.report_isWriting, first]
  rw [launching_eq script writable, Machine.find?_report _ second, Machine.find?_report _ first]
  exact FileStore.find?_markExecutable_self overwritten

theorem launches_finished
    (writable : machine.files.writable machine.directory config.scriptPath = .ok location) :
    (config.finished (config.launching script machine) directory output).launches =
      machine.launches ++ [⟨config.interpreter, [config.scriptPath], directory⟩] := by
  rw [finished, Machine.report_launches, launching_eq script writable, Machine.report_launches,
    Machine.report_launches]
  rfl

theorem leads_launching_iff
    (writable : machine.files.writable machine.directory config.scriptPath = .ok location) :
    (config.launching script machine).files.Leads directory config.scriptPath location ↔
      machine.files.parentOf directory config.scriptPath =
        machine.files.parentOf machine.directory config.scriptPath := by
  have same := launching_sameDirectories script writable
  rw [← (FileStore.writable_eq_ok writable).1.leads_iff_parentOf_eq]
  exact ⟨FileStore.locate_of_sameDirectories same.symm, FileStore.locate_of_sameDirectories same⟩

theorem runDirectory_of_prepare {path : String}
    (prepared : config.prepare path machine = .ok (directory, start)) :
    config.runDirectory machine = .ok directory := by
  simp only [prepare, Fallible.guard_eq_ok_iff, Fallible.bind_eq_ok_iff] at prepared
  obtain ⟨_, place, entered, _, _, same⟩ := prepared
  cases same
  exact entered

theorem runDirectory_of_sameDirectories {other : Machine} (here : other.directory = machine.directory)
    (same : machine.files.SameDirectories other.files)
    (runs : config.runDirectory machine = .ok directory) :
    config.runDirectory other = .ok directory := by
  unfold runDirectory at runs ⊢
  rw [here]
  split at runs
  · split at runs
    · contradiction
    · rename_i named
      rw [if_neg named]
      exact FileStore.enter_of_sameDirectories same runs
  · exact runs

/-- Writing the script and announcing the run do not move the directory that is asked for. -/
theorem runDirectory_of_started
    (writable : machine.files.writable machine.directory config.scriptPath = .ok location)
    (started : config.prepare config.scriptPath (config.launching script machine) =
      .ok (directory, start)) :
    config.runDirectory machine = .ok directory := by
  have stays : machine.directory = (config.launching script machine).directory := by
    rw [launching_eq script writable, Machine.report_directory, Machine.report_directory]
    rfl
  exact runDirectory_of_sameDirectories stays (launching_sameDirectories script writable).symm
    (runDirectory_of_prepare started)

theorem leads_of_unset_or_absolute
    (writable : machine.files.writable machine.directory config.scriptPath = .ok location)
    (runs : config.runDirectory machine = .ok directory)
    (anchored : config.directory = none ∨ Path.isAbsolute config.scriptPath = true) :
    (config.launching script machine).files.Leads directory config.scriptPath location := by
  rw [leads_launching_iff writable]
  rcases anchored with unset | absolute
  · rw [runDirectory, unset] at runs
    rw [← Except.ok.inj runs]
  · exact FileStore.parentOf_of_isAbsolute absolute

theorem leads_of_bare_iff
    (writable : machine.files.writable machine.directory config.scriptPath = .ok location)
    (bare : Path.hasSlash config.scriptPath = false) :
    (config.launching script machine).files.Leads directory config.scriptPath location ↔
      directory = machine.directory := by
  rw [leads_launching_iff writable, FileStore.parentOf_of_bare bare,
    FileStore.parentOf_of_bare bare, Except.ok.injEq]

/-! ## What the interpreter prints -/

theorem printed_of_plain {files : FileStore} {content : List UInt8}
    (plain : config.scriptPath.toList.head? ≠ some '-')
    (read : files.read directory config.scriptPath = .ok content) :
    (Start.mk .printFiles name [config.scriptPath]).run files directory =
      { stdout := content } := by
  simp only [Start.run, Program.run, PrintOptions.files_of_plain plain, Program.printAll, read,
    List.append_nil]

/-- The path is taken for an option, and no file is left to print. -/
theorem printed_of_hyphen {files : FileStore} (hyphen : config.scriptPath.toList.head? = some '-') :
    ((Start.mk .printFiles name [config.scriptPath]).run files directory).stdout = [] := by
  obtain ⟨stem, path⟩ := config.scriptPath_eq_append
  have long : 1 < config.scriptPath.toList.length := by
    rw [path, String.toList_append, List.length_append]
    have extension : ".py".toList.length = 3 := rfl
    omega
  simp only [Start.run, Program.run]
  split
  · rename_i paths read
    rw [PrintOptions.files_of_hyphen hyphen long read, Program.printAll]
  · rfl

theorem output_of_plain {files : FileStore}
    (plain : config.scriptPath.toList.head? ≠ some '-')
    (opened : files.openNode directory config.scriptPath =
      .ok (location, .file (Utf8.encode (config.header ++ script)) true)) :
    outputOf ((Start.mk .printFiles name [config.scriptPath]).run files directory) =
      ⟨0, config.header ++ script, ""⟩ := by
  rw [printed_of_plain plain (FileStore.read_of_openNode opened), outputOf, Utf8.lossy_encode]
  rfl

/-- A program that prints its files prints a script exactly where its path is no option. -/
theorem prints_script_iff {files : FileStore}
    (opened : files.openNode directory config.scriptPath =
      .ok (location, .file (Utf8.encode (config.header ++ script)) true)) :
    (outputOf ((Start.mk .printFiles name [config.scriptPath]).run files directory)).stdout =
      config.header ++ script ↔ config.scriptPath.toList.head? ≠ some '-' := by
  by_cases hyphen : config.scriptPath.toList.head? = some '-'
  · have silent : (outputOf ((Start.mk .printFiles name [config.scriptPath]).run files
        directory)).stdout = "" := by
      rw [outputOf, printed_of_hyphen hyphen]
      rfl
    have present : config.header ++ script ≠ "" := by
      simp [header, String.append_eq_empty_iff]
    rw [silent]
    exact iff_of_false present.symm (not_not.mpr hyphen)
  · rw [output_of_plain hyphen opened]
    exact iff_of_true rfl hyphen

/-! ## Main statement -/

/-- Where the script can be written and the interpreter started, the run succeeds, and the interpreter
gets the path that the script was written to. From the directory that the interpreter runs in, this
path leads to the script exactly when its parent is the same from there as from the working directory:
always for an absolute path and where no directory is set, and for a bare name in the working directory
only. Where it does, the interpreter finds the header and the script, and one that prints the files it
is given prints them, unless the path looks like an option. -/
theorem runScript_finds_script_iff {path : String}
    (wrote : ((config.writeScript script).run.run machine).1 = .ok path)
    (started : config.prepare path (config.launching script machine) = .ok (directory, start)) :
    ∃ location output after,
      (config.runScript script).run.run machine = (.ok output, after) ∧
      path = config.scriptPath ∧ machine.files.writable machine.directory path = .ok location ∧
      after.launches = machine.launches ++ [⟨config.interpreter, [path], directory⟩] ∧
      config.runDirectory machine = .ok directory ∧
      ((config.launching script machine).files.Leads directory path location ↔
        machine.files.parentOf directory path = machine.files.parentOf machine.directory path) ∧
      (config.directory = none ∨ Path.isAbsolute path = true →
        (config.launching script machine).files.Leads directory path location) ∧
      (Path.hasSlash path = false →
        ((config.launching script machine).files.Leads directory path location ↔
          directory = machine.directory)) ∧
      ((config.launching script machine).files.Leads directory path location →
        machine.isWriting location = false →
        (∀ device, machine.files.find? location ≠ some (.device device)) →
        (config.launching script machine).files.openNode directory path =
          .ok (location, .file (Utf8.encode (config.header ++ script)) true) ∧
        (start.program = .printFiles → start.arguments = [path] →
          (output.stdout = config.header ++ script ↔ path.toList.head? ≠ some '-') ∧
          (path.toList.head? ≠ some '-' → output = ⟨0, config.header ++ script, ""⟩))) := by
  obtain ⟨location, writable, rfl, _⟩ := writeScript_eq_ok_iff.mp (Task.outcome_eq wrote)
  have runs := runDirectory_of_started writable started
  have ran := runScript_eq_ok_iff.mpr ⟨location, directory, start, writable, started, rfl, rfl⟩
  refine ⟨location, _, _, ran, rfl, writable, launches_finished writable, runs,
    leads_launching_iff writable, leads_of_unset_or_absolute writable runs,
    leads_of_bare_iff writable, ?_⟩
  intro reached unlogged plain
  have short := (FileStore.writable_eq_ok writable).2.1
  have stands := find?_launching script writable unlogged plain
  have opened := reached.openNode_eq short stands nofun
  refine ⟨opened, fun program arguments => ?_⟩
  obtain ⟨_, name, _⟩ := start
  subst program arguments
  exact ⟨prints_script_iff opened, fun visible => output_of_plain visible opened⟩

/-- A machine with one more directory. -/
def machineWith (place : Location) : Machine :=
  { Machine.standard with files := Machine.standard.files.put place .directory }

def printingFrom (directory name : String) : RunConfig :=
  { interpreter := "cat", scriptName := name, directory := some directory }

/-- An absolute path leads to the script from the directory that was asked for. -/
theorem absolutePath_finds_script :
    ∃ location output after directory,
      ((printingFrom "../d" "/tmp/work/s").runScript "print(1)\n").run.run
        (machineWith ["tmp", "d"]) = (.ok output, after) ∧
      (machineWith ["tmp", "d"]).files.writable ["tmp", "work"] "/tmp/work/s.py" = .ok location ∧
      after.launches = [⟨"cat", ["/tmp/work/s.py"], directory⟩] ∧
      directory ≠ ["tmp", "work"] ∧
      ((printingFrom "../d" "/tmp/work/s").launching "print(1)\n"
        (machineWith ["tmp", "d"])).files.Leads directory "/tmp/work/s.py" location := by
  have wrote : (((printingFrom "../d" "/tmp/work/s").writeScript "print(1)\n").run.run
      (machineWith ["tmp", "d"])).1 = .ok "/tmp/work/s.py" :=
    Fallible.eq_ok_of_toOption (by decide +kernel)
  have started : (printingFrom "../d" "/tmp/work/s").prepare "/tmp/work/s.py"
      ((printingFrom "../d" "/tmp/work/s").launching "print(1)\n" (machineWith ["tmp", "d"])) =
      .ok (["tmp", "d"], ⟨.printFiles, "cat", ["/tmp/work/s.py"]⟩) :=
    Fallible.eq_ok_of_toOption (by decide +kernel)
  obtain ⟨location, output, after, ran, _, writable, launched, _, _, leads, _⟩ :=
    runScript_finds_script_iff wrote started
  exact ⟨location, output, after, _, ran, writable, launched, by decide, leads (.inr (by decide))⟩

/-- A relative path is followed from the directory that was asked for, where the script is not. -/
theorem relativePath_misses_script :
    let run := ((printingFrom "d" "s").runScript "print(1)\n").run.run
      (machineWith ["tmp", "work", "d"])
    run.1 = .ok ⟨1, "", "cat: s.py: No such file or directory\n"⟩ ∧
      run.2.launches = [⟨"cat", ["s.py"], ["tmp", "work", "d"]⟩] ∧
      run.2.files.Leads ["tmp", "work"] "s.py" ["tmp", "work", "s.py"] ∧
      run.2.files.find? ["tmp", "work", "s.py"] =
        some (.file (Utf8.encode ((printingFrom "d" "s").header ++ "print(1)\n")) true) ∧
      ¬ run.2.files.Leads ["tmp", "work", "d"] "s.py" ["tmp", "work", "s.py"] := by
  intro run
  exact ⟨Fallible.eq_ok_of_toOption (by decide +kernel), by decide +kernel⟩

end RunConfig

end FigureScript
