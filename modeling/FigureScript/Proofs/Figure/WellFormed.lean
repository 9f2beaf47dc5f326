import FigureScript.Proofs.Figure.Vocabulary
import FigureScript.Proofs.Script.Lines

namespace FigureScript.Figure

open Lexer

/-! # Scripts are well formed

Where the texts of a figure can stand between quotes, every statement of its script is a line that
can be read by itself, and the script is made of these lines.
-/

variable {figure : Figure} {layout : Layout}

/-- A text that stands between quotes without ending its literal or its line. -/
structure Embeddable (text : String) : Prop where
  safe : Literal.isUnsafe text = false
  even : trailingBackslashes text % 2 = 0

instance (text : String) : Decidable (Embeddable text) :=
  decidable_of_iff (Literal.isUnsafe text = false ∧ trailingBackslashes text % 2 = 0)
    ⟨fun both => ⟨both.1, both.2⟩, fun embeddable => ⟨embeddable.safe, embeddable.even⟩⟩

theorem Embeddable.fills {text : String} (embeddable : Embeddable text) :
    Fills .escaping text ∧ OneLine text := by
  obtain ⟨unquoted, single⟩ := Literal.isUnsafe_eq_false.mp embeddable.safe
  exact ⟨fills_escaping unquoted embeddable.even, single⟩

/-- The file name is as safe as the name it is made of, and its extension ends with no backslash. -/
theorem embeddable_outputPath (safe : ∀ text ∈ figure.outputName.toList, Literal.isUnsafe text = false) :
    Embeddable figure.outputPath where
  safe := by
    have kept : ∀ character ∈ figure.outputPath.toList,
        character ≠ '\'' ∧ character ≠ '\n' ∧ character ≠ '\r' := by
      intro character member
      rcases FileName.mem_figure member with ⟨text, given, inside⟩ | fixed | rfl
      · obtain ⟨unquoted, single⟩ := Literal.isUnsafe_eq_false.mp (safe text given)
        exact ⟨fun same => unquoted (same ▸ inside), single character inside⟩
      · have constant : Literal.isUnsafe "plot.pdf" = false := by decide
        obtain ⟨unquoted, single⟩ := Literal.isUnsafe_eq_false.mp constant
        exact ⟨fun same => unquoted (same ▸ fixed), single character fixed⟩
      · decide
    refine Literal.isUnsafe_eq_false.mpr ⟨fun quote => (kept _ quote).1 rfl, ?_⟩
    exact fun character member => (kept character member).2
  even := by
    obtain ⟨stem, same⟩ := FileName.figure_eq_append figure.outputName
    simp [trailingBackslashes, outputPath, same, FileName.figureExtension]

theorem fills_of_embeddable (embeddable : ∀ text ∈ figure.texts, Embeddable text) {text : String}
    (quoted : figure.Quotes text) : Fills .escaping text ∧ OneLine text := by
  rcases quoted.texts with own | rfl | harmless
  · exact (embeddable text own).fills
  · have safe : Embeddable figure.outputPath := embeddable_outputPath fun text given =>
      (embeddable text (List.mem_append_left _ (mem_checkedTexts_of_outputName given))).safe
    exact safe.fills
  · exact ⟨fills_of_harmless harmless, harmless.oneLine⟩

theorem eq_of_mem_notes {series : Series} {event : Event} (note : event ∈ series.notes) :
    event = .colorMapIgnored := by
  cases series with
  | matrix values =>
      cases ignored : values.ignoresColorMap with
      | true => simpa [Series.notes, ignored] using note
      | false => simp [Series.notes, ignored] at note
  | line | scatter | bar | errorBand => exact absurd note List.not_mem_nil

theorem compiled_mem_events (valid : figure.Valid layout) (count : Nat) :
    .compiled count ∈ figure.compile.events ↔ count = (figure.written layout).length := by
  have announced : .compiled count ∉ figure.announcement layout := by
    simp [announcement, warnings]
  have noted : .compiled count ∉ figure.allSeries.flatMap Series.notes := by
    intro member
    obtain ⟨series, _, note⟩ := List.mem_flatMap.mp member
    have other := eq_of_mem_notes note
    contradiction
  simp [compile_of_valid valid, announced, noted]

theorem lines_written (figure : Figure) (layout : Layout) :
    (Script.ofStatements (figure.written layout)).lines ≠ [] ∧
      (Script.ofStatements (figure.written layout)).lines ≠ [""] := by
  have first : ∃ rest, (Script.ofStatements (figure.written layout)).lines =
      "import warnings" :: rest := ⟨_, rfl⟩
  obtain ⟨rest, lines⟩ := first
  rw [lines]
  exact ⟨by simp, by simp⟩

theorem script_ne_empty {script : String} (compiled : figure.compile.result = .ok script) :
    script ≠ "" := by
  obtain ⟨layout, _, rfl⟩ := compile_eq_ok_iff.mp compiled
  obtain ⟨present, visible⟩ := lines_written figure layout
  exact Script.render_ne_empty present visible

/-- Where no text of a figure has a quote or a line break or ends with an odd number of backslashes,
every statement of its script is one line whose literals are closed and whose brackets are paired.
Cut at its line breaks the script falls into these statements, as many as are reported. -/
theorem compile_writes_wellFormed_lines {script : String}
    (compiled : figure.compile.result = .ok script)
    (embeddable : ∀ text ∈ figure.texts, Embeddable text) :
    ∃ layout statements, figure.Emits script layout statements ∧
      (∀ statement ∈ statements, WellFormed statement.text) ∧
      script.toList.getLast? = some '\n' ∧
      (script.split '\n').toList.map (·.copy) = statements.map Statement.text ++ [""] ∧
      ∀ count, .compiled count ∈ figure.compile.events ↔ count = statements.length := by
  obtain ⟨layout, valid, emits⟩ := emits_written compiled
  obtain ⟨present, visible⟩ := lines_written figure layout
  have formed : ∀ statement ∈ figure.written layout, WellFormed statement.text := by
    intro statement member
    have uses := uses_written valid statement member
    exact Statement.wellFormed_text
      (uses.mono (fun _ word => word) fun _ quoted => fills_of_embeddable embeddable quoted)
  have unbroken : ∀ line ∈ (Script.ofStatements (figure.written layout)).lines,
      '\n' ∉ line.toList := by
    intro line member broken
    obtain ⟨statement, written, rfl⟩ := List.mem_map.mp member
    exact ((formed statement written).physical _ broken).1 rfl
  refine ⟨layout, _, emits, formed, ?last, ?cut, compiled_mem_events valid⟩
  case last =>
    rw [← emits.rendered]
    exact Script.getLast_render present visible
  case cut =>
    rw [← emits.rendered]
    exact Script.split_render present visible unbroken

/-- Bars with names for their ticks, and a text that ends with two backslashes. -/
def backslashes : Figure where
  title := some "$\\alpha$"
  series :=
    [.bar
      { values := some [1.0, -2.5], categories := some (.labels ["a (b", "c\\\\"]),
        label := some "[" }]

theorem backslashes_writes_wellFormed_lines :
    ∃ script, backslashes.compile.result = .ok script ∧
      (∀ text ∈ backslashes.texts, Embeddable text) ∧
      ∃ layout statements, backslashes.Emits script layout statements ∧
        ∀ statement ∈ statements, WellFormed statement.text := by
  have compiled : backslashes.compile.result =
      .ok (Script.ofStatements (backslashes.written .single)).render :=
    compile_eq_ok_iff.mpr ⟨.single, validate_eq_ok_iff.mp rfl, rfl⟩
  have embeddable : ∀ text ∈ backslashes.texts, Embeddable text := by decide
  obtain ⟨layout, statements, emits, formed, _⟩ :=
    compile_writes_wellFormed_lines compiled embeddable
  exact ⟨_, compiled, embeddable, layout, statements, emits, formed⟩

end FigureScript.Figure
