import FigureScript.Proofs.Figure.Omissions
import FigureScript.Proofs.Figure.RoundTrip

namespace FigureScript

open Fallible (Succeeds bind_eq_ok_iff)
open Json (Decoder DataFault Path Record beyond lookup without withoutItems withoutMembers)
open Json.Record (field)

/-! # Figures written short

Main statement: whatever fields with their defaults are left out of a written figure, the schema
admits the rest and it is read as the same figure. Where a field without a default is left out, the
tag of a series or a side of a grid, the schema and the reader refuse what is left.
-/

variable {α : Type} {part other : Part} {gone : Path → Bool} {name : String}
  {members : List (String × Json)} {decoder : Decoder α} {default : α}

/-! ## Fields without defaults -/

/-- The path is gone, and no other one on the way to it. -/
def Severs (gone : Path → Bool) (path : Path) : Prop :=
  gone path = true ∧
    ∀ front rest, front ≠ [] → rest ≠ [] → front ++ rest = path → gone front = false

theorem Severs.beyond {step : Json.Step} {path : Path} (severed : Severs gone (step :: path)) :
    Severs (beyond step gone) path := by
  refine ⟨severed.1, fun front rest _ present same => ?_⟩
  exact severed.2 (step :: front) rest (by simp) present (by simp [same])

theorem Severs.kept {step : Json.Step} {path : Path} (severed : Severs gone (step :: path))
    (further : path ≠ []) : gone [step] = false :=
  severed.2 [step] path (by simp) further rfl

theorem severs_self (path : Path) : Severs (· == path) path := by
  refine ⟨beq_self_eq_true path, fun front rest _ present same => ?_⟩
  rw [beq_eq_false_iff_ne]
  rintro rfl
  exact present (List.append_right_eq_self.mp same)

/-- What accepts a part accepts the parts in it, and asks for the fields that have no defaults. -/
structure Exacting (accepts : Part → Json → Prop) : Prop where
  inside : ∀ {part other name document value}, accepts part document →
    document.get? name = some value → part.part? name = some other →
    value = .null ∨ accepts other value
  item : ∀ {kind items value}, accepts .seriesList (.array items) → value ∈ items →
    accepts (.series kind) value
  given : ∀ {part name members}, name ∈ part.required → lookup name members = none →
    ¬ accepts part (.object members)

theorem FieldAt.refused {accepts : Part → Json → Prop} (exacting : Exacting accepts)
    {document : Json} {path : Path} (required : FieldAt Part.IsRequired part document path)
    (severed : Severs gone path) : ¬ accepts part (document.without gone) := by
  induction required generalizing gone with
  | @own part document value name found holds =>
      cases document with
      | object members =>
          refine exacting.given holds ?_
          rw [Json.lookup_withoutMembers, if_pos severed.1]
      | null | boolean | number | string | array => cases found
  | @inside part other document value name path found stands further ih =>
      intro accepted
      have kept := severed.kept further.ne_nil
      have left : (document.without gone).get? name =
          some (value.without (beyond (.member name) gone)) := by
        rw [Json.get?_without, kept, found]
        rfl
      rcases exacting.inside accepted left stands with empty | deeper
      · cases value with
        | null => cases further <;> contradiction
        | boolean | number | string | array | object => cases empty
      · exact ih severed.beyond deeper
  | @item kind items index value path listed tagged further ih =>
      intro accepted
      have member : value.without (beyond (.item index) gone) ∈ withoutItems gone 0 items :=
        Json.mem_withoutItems.mpr ⟨index, value, listed, rfl⟩
      exact ih severed.beyond (exacting.item accepted member)

theorem Part.mem_parts (stands : part.part? name = some other) : (name, other) ∈ part.parts := by
  obtain ⟨before, after, same, _⟩ := List.lookup_eq_some_iff.mp stands
  rw [same]
  exact List.mem_append_right before List.mem_cons_self

/-! ### The schema -/

namespace FigureSchema

open Schema

/-- What the schema asks of a part. In the parts that every field can be missing from, nothing is
asked for here. -/
def AdmitsPart : Part → Json → Prop
  | .figure, value => figure.Admits value
  | .twin, value => twin.Admits value
  | .grid, value => grid.Admits value
  | .seriesList, value => ∃ description, (seriesList description).Admits value
  | .series _, value => series.Admits value
  | .axis, _ | .legend, _ | .style, _ | .cell, _ => True

theorem exacting_admitsPart : Exacting AdmitsPart where
  inside {part other name document value} admits found stands := by
    have listed := Part.mem_parts stands
    cases part with
    | figure =>
        obtain ⟨_, given⟩ := admits_record.mp admits
        simp only [List.forall_mem_cons] at given
        obtain ⟨_, _, _, drawn, _, _, _, subplots, _, _, _, second, _⟩ := given
        simp only [Part.parts, List.mem_cons, List.not_mem_nil, or_false, Prod.mk.injEq] at listed
        rcases listed with ⟨rfl, rfl⟩ | ⟨rfl, rfl⟩ | ⟨rfl, rfl⟩ | ⟨rfl, rfl⟩ | ⟨rfl, rfl⟩ |
          ⟨rfl, rfl⟩ | ⟨rfl, rfl⟩
        · exact .inr trivial
        · exact .inr ⟨_, drawn value found⟩
        · exact .inr trivial
        · exact admits_optional_iff.mp (subplots value found)
        · exact admits_optional_iff.mp (second value found)
        · exact .inr trivial
        · exact .inr trivial
    | twin =>
        obtain ⟨_, given⟩ := admits_record.mp admits
        simp only [List.forall_mem_cons] at given
        simp only [Part.parts, List.mem_cons, List.not_mem_nil, or_false, Prod.mk.injEq] at listed
        rcases listed with ⟨rfl, rfl⟩ | ⟨rfl, rfl⟩
        · exact .inr ⟨_, given.1 value found⟩
        · exact .inr trivial
    | series kind =>
        simp only [Part.parts, List.mem_singleton, Prod.mk.injEq] at listed
        obtain ⟨rfl, rfl⟩ := listed
        exact .inr trivial
    | axis | legend | style | grid | cell | seriesList => cases listed
  item {kind items value} admits member := by
    obtain ⟨description, admits⟩ := admits
    obtain ⟨others, same, each⟩ := form_seriesList admits
    cases same
    exact each value member
  given {part name members} required missing admits := by
    cases part with
    | grid =>
        have needed := (admits_cons.mp (admits_append.mp admits).2).1
        exact allows_required.mp needed members rfl name required missing
    | series kind =>
        obtain rfl : name = "kind" := List.mem_singleton.mp required
        obtain ⟨own, others, same, tagged, _⟩ := form_series admits
        cases same
        rw [missing] at tagged
        cases tagged
    | figure | twin | axis | legend | style | cell | seriesList => cases required

end FigureSchema

/-! ### Reading -/

/-- The value is read as the part. Parts that every field can be missing from count as read here. -/
def Part.IsRead : Part → Json → Prop
  | .figure, value => Succeeds (Figure.ofJson value)
  | .twin, value => Succeeds (TwinAxis.record.decode .document value)
  | .grid, value => Succeeds (Grid.decode value)
  | .seriesList, value => Succeeds (Decoder.list Series.decode value)
  | .series _, value => Succeeds (Series.decode value)
  | .axis, _ | .legend, _ | .style, _ | .cell, _ => True

theorem succeeds_of_field {result : α} {value : Json}
    (read : field members name decoder default = .ok result)
    (found : lookup name members = some value) : Succeeds (decoder value) := by
  simp only [field, found] at read
  exact ⟨result, read⟩

theorem read_optional {result : Option α} {value : Json}
    (read : field members name (Decoder.optional decoder) none = .ok result)
    (found : lookup name members = some value) : value = .null ∨ Succeeds (decoder value) := by
  have whole := succeeds_of_field read found
  cases value with
  | null => exact .inl rfl
  | boolean | number | string | array | object => exact .inr (Fallible.succeeds_map_iff.mp whole)

theorem succeeds_of_items {items : List Json} (read : Succeeds (Decoder.items decoder items))
    {value : Json} (member : value ∈ items) : Succeeds (decoder value) := by
  induction items with
  | nil => exact absurd member List.not_mem_nil
  | cons item rest ih =>
      obtain ⟨result, read⟩ := read
      obtain ⟨first, own, read⟩ := bind_eq_ok_iff.mp read
      obtain ⟨others, later, _⟩ := bind_eq_ok_iff.mp read
      rcases List.mem_cons.mp member with rfl | behind
      · exact ⟨first, own⟩
      · exact ih ⟨others, later⟩ behind

theorem Grid.refuses {missing : String} (required : missing = "rows" ∨ missing = "columns")
    (absent : lookup missing members = none) : ¬ Succeeds (Grid.decode (.object members)) := by
  rintro ⟨grid, read⟩
  obtain ⟨sides, described, whole⟩ := bind_eq_ok_iff.mp read
  obtain ⟨columns, first, described⟩ := bind_eq_ok_iff.mp described
  obtain ⟨rows, second, described⟩ := bind_eq_ok_iff.mp described
  obtain ⟨shareX, _, described⟩ := bind_eq_ok_iff.mp described
  obtain ⟨shareY, _, described⟩ := bind_eq_ok_iff.mp described
  cases described
  rcases required with rfl | rfl
  · rw [field, absent] at second
    cases second
    cases whole
  · rw [field, absent] at first
    cases first
    cases rows <;> cases whole

theorem exacting_isRead : Exacting Part.IsRead where
  inside {part other name document value} accepted found stands := by
    have listed := Part.mem_parts stands
    cases part with
    | figure =>
        cases document with
        | object members =>
            obtain ⟨figure, read⟩ := accepted
            change Figure.record.read members = _ at read
            simp only [Figure.record, bind_eq_ok_iff] at read
            obtain ⟨_, _, _, _, _, _, _, drawn, _, _, _, _, _, _, _, subplots, _, _, _, _, _, _, _,
              second, _⟩ := read
            simp only [Part.parts, List.mem_cons, List.not_mem_nil, or_false,
              Prod.mk.injEq] at listed
            rcases listed with ⟨rfl, rfl⟩ | ⟨rfl, rfl⟩ | ⟨rfl, rfl⟩ | ⟨rfl, rfl⟩ | ⟨rfl, rfl⟩ |
              ⟨rfl, rfl⟩ | ⟨rfl, rfl⟩
            · exact .inr trivial
            · exact .inr (succeeds_of_field drawn found)
            · exact .inr trivial
            · exact read_optional subplots found
            · exact read_optional second found
            · exact .inr trivial
            · exact .inr trivial
        | null | boolean | number | string | array => cases found
    | twin =>
        cases document with
        | object members =>
            obtain ⟨twin, read⟩ := accepted
            obtain ⟨_, drawn, _⟩ := bind_eq_ok_iff.mp read
            simp only [Part.parts, List.mem_cons, List.not_mem_nil, or_false,
              Prod.mk.injEq] at listed
            rcases listed with ⟨rfl, rfl⟩ | ⟨rfl, rfl⟩
            · exact .inr (succeeds_of_field drawn found)
            · exact .inr trivial
        | null | boolean | number | string | array => cases found
    | series kind =>
        simp only [Part.parts, List.mem_singleton, Prod.mk.injEq] at listed
        obtain ⟨rfl, rfl⟩ := listed
        exact .inr trivial
    | axis | legend | style | grid | cell | seriesList => cases listed
  item read member := succeeds_of_items read member
  given {part name members} required missing read := by
    cases part with
    | grid =>
        have side : name = "rows" ∨ name = "columns" := by
          simpa [Part.required] using required
        exact Grid.refuses side missing read
    | series kind =>
        obtain rfl : name = "kind" := List.mem_singleton.mp required
        obtain ⟨series, read⟩ := read
        simp only [Series.decode, missing] at read
        cases read
    | figure | twin | axis | legend | style | cell | seriesList => cases required

namespace Figure

/-- The path leads to the tag of a series or to a side of the grid. -/
inductive NeededAt (figure : Figure) : Path → Prop
  | tag {index : Nat} (listed : index < figure.series.length) :
      NeededAt figure [.member "series", .item index, .member "kind"]
  | twinTag {twin : TwinAxis} {index : Nat} (given : figure.twin = some twin)
      (listed : index < twin.series.length) :
      NeededAt figure [.member "twin", .member "series", .item index, .member "kind"]
  | side {grid : Grid} {name : String} (given : figure.subplots = some grid)
      (named : name = "rows" ∨ name = "columns") :
      NeededAt figure [.member "subplots", .member name]

theorem exists_tag (series : Series) :
    ∃ kind : SeriesKind, series.toJson.get? "kind" = some (.string kind.name) := by
  cases series with
  | line trace => exact ⟨.line, rfl⟩
  | scatter trace => exact ⟨.scatter, rfl⟩
  | bar bars => exact ⟨.bar, rfl⟩
  | errorBand band => exact ⟨.errorBand, rfl⟩
  | matrix values => exact ⟨.matrix, rfl⟩

theorem fieldAt_tag {list : List Series} {index : Nat} (listed : index < list.length) :
    FieldAt Part.IsRequired .seriesList (Json.ofList Series.toJson list)
      [.item index, .member "kind"] := by
  have present : (list.map Series.toJson)[index]? = some list[index].toJson := by
    rw [List.getElem?_map, List.getElem?_eq_getElem listed, Option.map_some]
  obtain ⟨kind, tagged⟩ := exists_tag list[index]
  exact .item present tagged (.own tagged (List.mem_singleton_self _))

theorem NeededAt.fieldAt {figure : Figure} {path : Path} (needed : figure.NeededAt path) :
    FieldAt Part.IsRequired .figure figure.toJson path := by
  cases needed with
  | tag listed => exact .inside rfl rfl (fieldAt_tag listed)
  | @twinTag twin index given listed =>
      have written : figure.toJson.get? "twin" = some twin.toJson :=
        congrArg (fun twin => some (Json.ofOption TwinAxis.toJson twin)) given
      exact .inside written rfl (.inside rfl rfl (fieldAt_tag listed))
  | @side grid name given named =>
      have written : figure.toJson.get? "subplots" = some grid.toJson :=
        congrArg (fun grid => some (Json.ofOption Grid.toJson grid)) given
      rcases named with rfl | rfl
      · exact .inside written rfl (.own rfl List.mem_cons_self)
      · exact .inside written rfl (.own rfl (List.mem_cons_of_mem _ List.mem_cons_self))

/-- Fields with their defaults can be left out of a written figure, in any number and at any depth:
the schema admits what is left, and it is read as the same figure. Where the tag of a series or a
side of the grid is left out, whatever else is, the schema and the reader refuse what is left. -/
theorem defaults_can_be_omitted (figure : Figure) (representable : figure.Representable) :
    (∀ gone : Path → Bool,
      (∀ path, gone path = true → FieldAt Part.IsDefault .figure figure.toJson path) →
      checkSchema (figure.toJson.without gone) = .ok () ∧
        ofJson (figure.toJson.without gone) = .ok figure) ∧
    ∀ (gone : Path → Bool) (path : Path), figure.NeededAt path → Severs gone path →
      (∃ violations, checkSchema (figure.toJson.without gone) = .error (.schema violations)) ∧
        ∃ fault, ofJson (figure.toJson.without gone) = .error fault := by
  constructor
  · intro gone defaults
    have only : OnlyDefaults gone .figure figure.toJson := fun step path => defaults (step :: path)
    have admits := FigureSchema.admits_figure representable.finite
    have kept := FigureSchema.keeps_figure gone figure.toJson only admits
    exact ⟨checkSchema_of_admits kept,
      (respects gone figure.toJson only).trans (read_toJson representable)⟩
  · intro gone path needed severed
    have unread := needed.fieldAt.refused exacting_isRead severed
    have refused := needed.fieldAt.refused FigureSchema.exacting_admitsPart severed
    refine ⟨?_, Fallible.not_succeeds_iff.mp unread⟩
    cases found : Schema.violations [] (figure.toJson.without gone) FigureSchema.figure with
    | nil => exact absurd found refused
    | cons first others => exact ⟨first :: others, by simp only [checkSchema, found]⟩

/-- Some fields of `everyKind` that have their defaults, at several depths. -/
def idlePaths : List Path :=
  [[.member "style"], [.member "style", .member "dark"], [.member "y_axis", .member "label"],
    [.member "subplots", .member "share_y"],
    [.member "series", .item 1, .member "position", .member "column"],
    [.member "series", .item 2, .member "alpha"],
    [.member "twin", .member "series", .item 0, .member "position"]]

theorem idlePaths_can_be_omitted :
    everyKind.Representable ∧
    (∀ path, decide (path ∈ idlePaths) = true →
      FieldAt Part.IsDefault .figure everyKind.toJson path) ∧
    (checkSchema (everyKind.toJson.without fun path => decide (path ∈ idlePaths)) = .ok () ∧
      ofJson (everyKind.toJson.without fun path => decide (path ∈ idlePaths)) = .ok everyKind) ∧
    everyKind.NeededAt [.member "series", .item 3, .member "kind"] ∧
    (∃ fault, ofJson (everyKind.toJson.without
      (· == [.member "series", .item 3, .member "kind"])) = .error fault) := by
  have named : ∀ series ∈ everyKind.allSeries, series.Named := by
    simp [everyKind, allSeries, twinSeries, Series.Named]
  have representable : everyKind.Representable := ⟨by decide, named⟩
  have idle : ∀ path, decide (path ∈ idlePaths) = true →
      FieldAt Part.IsDefault .figure everyKind.toJson path := by
    intro path listed
    simp only [idlePaths, List.mem_cons, List.not_mem_nil, or_false, decide_eq_true_eq] at listed
    rcases listed with rfl | rfl | rfl | rfl | rfl | rfl | rfl
    · exact .own rfl rfl
    · exact .inside rfl rfl (.own rfl rfl)
    · exact .inside rfl rfl (.own rfl rfl)
    · exact .inside rfl rfl (.own rfl rfl)
    · exact .inside rfl rfl (@FieldAt.item _ .bar _ _ _ _ rfl rfl (.inside rfl rfl (.own rfl rfl)))
    · exact .inside rfl rfl (@FieldAt.item _ .errorBand _ _ _ _ rfl rfl (.own rfl rfl))
    · exact .inside rfl rfl (.inside rfl rfl (@FieldAt.item _ .scatter _ _ _ _ rfl rfl (.own rfl rfl)))
  have needed : everyKind.NeededAt [.member "series", .item 3, .member "kind"] := .tag (by decide)
  obtain ⟨omitted, refused⟩ := defaults_can_be_omitted everyKind representable
  exact ⟨representable, idle, omitted _ idle, needed, (refused _ _ needed (severs_self _)).2⟩

end Figure

end FigureScript
