import FigureScript.Proofs.Figure.Agreement
import FigureScript.Proofs.Figure.Fields

namespace FigureScript

open Json (Decoder DataFault Path Place Record beyond lookup without withoutItems withoutMembers)
open Json.Record (field)

/-! # Fields left out

A field that is missing takes its default. Main statements: a value from which fields with their
defaults are left out is read as before, and the schema goes on admitting it. Both hold part by part,
for values of any form.
-/

/-! ## Reading -/

/-- The decoder reads the same when fields with their defaults are left out. -/
def Respects {α : Type} (part : Part) (decoder : Decoder α) : Prop :=
  ∀ gone document, OnlyDefaults gone part document →
    decoder (document.without gone) = decoder document

variable {α β : Type} {part other : Part} {gone : Path → Bool} {name : String}
  {members : List (String × Json)} {decoder : Decoder α} {default : α}

theorem Respects.optional (respects : Respects part decoder) :
    Respects part (Decoder.optional decoder) := by
  intro gone document only
  have same := respects gone document only
  cases document with
  | object members => exact congrArg (Except.map some) same
  | array items => exact congrArg (Except.map some) same
  | null | boolean | number | string => rfl

theorem Respects.map (respects : Respects part decoder) (wrap : α → β) :
    Respects part fun value => (decoder value).map wrap :=
  fun gone document only => congrArg (Except.map wrap) (respects gone document only)

theorem respects_record {record : Record α} {place : Place} (single : part ≠ .seriesList)
    (reads : ∀ gone members, OnlyDefaults gone part (.object members) →
      record.read (withoutMembers gone members) = record.read members) :
    Respects part (record.decode place) := by
  intro gone document only
  cases document with
  | object members => exact reads gone members only
  | null | boolean | number | string => rfl
  | array items =>
      have untouched := only.untouched_of_no_object single (by simp)
      rw [Json.without_eq_self gone untouched]

namespace OnlyDefaults

/-- The next field is read as before if its default is what a missing member stands for, and a part
in it is read as before. -/
theorem read_next {next follow : α → Except DataFault β}
    (only : OnlyDefaults gone part (.object members))
    (reads : ∀ held, part.default? name = some held → decoder held = .ok default)
    (respects : ∀ inner, part.part? name = some inner → Respects inner decoder)
    (others : ∀ value, next value = follow value) :
    (field (withoutMembers gone members) name decoder default >>= next) =
      (field members name decoder default >>= follow) := by
  have same : field (withoutMembers gone members) name decoder default =
      field members name decoder default := by
    cases found : lookup name members with
    | none => simp [field, Json.lookup_withoutMembers, found]
    | some value =>
        by_cases omitted : gone [.member name] = true
        · have held := reads value (only.default?_eq omitted found)
          simp [field, Json.lookup_withoutMembers, omitted, found, held]
        · have own : decoder (value.without (beyond (.member name) gone)) = decoder value := by
            cases stands : part.part? name with
            | none => rw [Json.without_eq_self _ (only.untouched stands)]
            | some inner => exact respects inner stands _ value (only.inside found stands)
          simp [field, Json.lookup_withoutMembers, omitted, found, own]
  rw [same, funext others]

theorem read {held : Json} {next follow : α → Except DataFault β}
    (only : OnlyDefaults gone part (.object members)) (own : part.default? name = some held)
    (reads : decoder held = .ok default)
    (respects : ∀ inner, part.part? name = some inner → Respects inner decoder)
    (others : ∀ value, next value = follow value) :
    (field (withoutMembers gone members) name decoder default >>= next) =
      (field members name decoder default >>= follow) := by
  refine only.read_next (fun given isDefault => ?_) respects others
  rw [own, Option.some.injEq] at isDefault
  rwa [← isDefault]

end OnlyDefaults

theorem Respects.within (stands : part.part? name = some other) (respects : Respects other decoder) :
    ∀ inner, part.part? name = some inner → Respects inner decoder := by
  intro inner again
  rw [stands, Option.some.injEq] at again
  rwa [← again]

theorem Axis.respects {place : Place} : Respects .axis (Axis.record.decode place) := by
  refine respects_record (by simp) fun gone members only => ?_
  refine only.read rfl rfl nofun fun label => ?_
  exact only.read rfl rfl nofun fun limits => rfl

theorem Legend.respects {place : Place} : Respects .legend (Legend.record.decode place) := by
  refine respects_record (by simp) fun gone members only => ?_
  refine only.read rfl (Decoder.float_ofFloat (by decide)) nofun fun fontSize => ?_
  exact only.read rfl rfl nofun fun position => rfl

theorem Style.respects {place : Place} : Respects .style (Style.record.decode place) := by
  refine respects_record (by simp) fun gone members only => ?_
  refine only.read rfl rfl nofun fun dark => ?_
  refine only.read rfl rfl nofun fun grid => ?_
  exact only.read rfl rfl nofun fun styling => rfl

theorem Cell.respects {place : Place} : Respects .cell (Cell.record.decode place) := by
  refine respects_record (by simp) fun gone members only => ?_
  refine only.read rfl rfl nofun fun column => ?_
  exact only.read rfl rfl nofun fun row => rfl

theorem Cell.respects_within {kind : SeriesKind} :
    ∀ inner, (Part.series kind).part? "position" = some inner →
      Respects inner (Cell.record.decode .tagged) :=
  Cell.respects.within rfl

theorem Trace.respects {kind : SeriesKind} {place : Place} (traced : kind = .line ∨ kind = .scatter) :
    Respects (.series kind) (Trace.record.decode place) := by
  refine respects_record (by simp) fun gone members only => ?_
  rcases traced with rfl | rfl
  all_goals
    refine only.read rfl rfl nofun fun color => ?_
    refine only.read rfl rfl nofun fun label => ?_
    refine only.read rfl rfl Cell.respects_within fun cell => ?_
    refine only.read rfl rfl nofun fun x => ?_
    exact only.read rfl rfl nofun fun y => rfl

theorem Bars.respects {place : Place} : Respects (.series .bar) (Bars.record.decode place) := by
  refine respects_record (by simp) fun gone members only => ?_
  refine only.read rfl rfl nofun fun categories => ?_
  refine only.read rfl rfl nofun fun color => ?_
  refine only.read rfl rfl nofun fun errors => ?_
  refine only.read rfl rfl nofun fun horizontal => ?_
  refine only.read rfl rfl nofun fun label => ?_
  refine only.read rfl rfl Cell.respects_within fun cell => ?_
  refine only.read rfl rfl nofun fun values => ?_
  exact only.read rfl rfl nofun fun width => rfl

theorem Band.respects {place : Place} : Respects (.series .errorBand) (Band.record.decode place) := by
  refine respects_record (by simp) fun gone members only => ?_
  refine only.read rfl rfl nofun fun alpha => ?_
  refine only.read rfl rfl nofun fun color => ?_
  refine only.read rfl rfl nofun fun errorLabel => ?_
  refine only.read rfl rfl nofun fun errors => ?_
  refine only.read rfl rfl nofun fun label => ?_
  refine only.read rfl rfl Cell.respects_within fun cell => ?_
  refine only.read rfl rfl nofun fun x => ?_
  exact only.read rfl rfl nofun fun y => rfl

theorem Matrix.respects {place : Place} : Respects (.series .matrix) (Matrix.record.decode place) := by
  refine respects_record (by simp) fun gone members only => ?_
  refine only.read rfl rfl nofun fun colorMap => ?_
  refine only.read rfl rfl nofun fun hinton => ?_
  refine only.read rfl rfl nofun fun label => ?_
  refine only.read rfl rfl Cell.respects_within fun cell => ?_
  exact only.read rfl rfl nofun fun values => rfl

theorem PartialGrid.respects {place : Place} : Respects .grid (PartialGrid.record.decode place) := by
  refine respects_record (by simp) fun gone members only => ?_
  refine only.read_next nofun nofun fun columns => ?_
  refine only.read_next nofun nofun fun rows => ?_
  refine only.read rfl rfl nofun fun shareX => ?_
  exact only.read rfl rfl nofun fun shareY => rfl

theorem Grid.respects : Respects .grid Grid.decode := by
  intro gone document only
  cases document with
  | object members =>
      have sides : Respects .grid (PartialGrid.record.decode .document) := PartialGrid.respects
      exact congrArg (· >>= Grid.ofPartial .missingField) (sides gone (.object members) only)
  | null | boolean | number | string => rfl
  | array items =>
      have untouched := only.untouched_of_no_object (by simp) (by simp)
      rw [Json.without_eq_self gone untouched]

theorem SeriesKind.respects (kind : SeriesKind) : Respects (.series kind) kind.content := by
  cases kind with
  | line => exact (Trace.respects (.inl rfl)).map Series.line
  | scatter => exact (Trace.respects (.inr rfl)).map Series.scatter
  | bar => exact Bars.respects.map Series.bar
  | errorBand => exact Band.respects.map Series.errorBand
  | matrix => exact Matrix.respects.map Series.matrix

/-- The tag of a series has no default, so it stays. -/
theorem OnlyDefaults.lookup_kind {kind : SeriesKind}
    (only : OnlyDefaults gone (.series kind) (.object members))
    (tagged : lookup "kind" members = some (.string kind.name)) :
    lookup "kind" (withoutMembers gone members) = some (.string kind.name) := by
  have kept : gone [.member "kind"] = false := only.kept rfl
  rw [Json.lookup_of_kept kept, tagged]
  rfl

theorem Series.decode_without {kind : SeriesKind} {value : Json}
    (only : OnlyDefaults gone (.series kind) value)
    (tagged : value.get? "kind" = some (.string kind.name)) :
    Series.decode (value.without gone) = Series.decode value := by
  cases value with
  | object members =>
      have content := kind.respects gone (.object members) only
      rw [without] at content ⊢
      rw [decode_object kind (only.lookup_kind tagged), decode_object kind tagged, content]
  | null | boolean | number | string | array => contradiction

theorem items_withoutItems {items : List Json} {index : Nat}
    (same : ∀ place value, items[place]? = some value →
      decoder (value.without (beyond (.item (index + place)) gone)) = decoder value) :
    Decoder.items decoder (withoutItems gone index items) = Decoder.items decoder items := by
  induction items generalizing index with
  | nil => rw [withoutItems]
  | cons item rest ih =>
      have first := same 0 item rfl
      have others : Decoder.items decoder (withoutItems gone (index + 1) rest) =
          Decoder.items decoder rest := by
        refine ih fun place value listed => ?_
        have later := same (place + 1) value listed
        rwa [← Nat.add_assoc, Nat.add_right_comm] at later
      rw [Nat.add_zero] at first
      rw [withoutItems, Decoder.items, Decoder.items, first, others]

theorem Series.respects_list : Respects .seriesList (Decoder.list Series.decode) := by
  intro gone document only
  cases document with
  | array items =>
      refine items_withoutItems fun place value listed => ?_
      rw [Nat.zero_add]
      by_cases tagged : ∃ kind : SeriesKind, value.get? "kind" = some (.string kind.name)
      · obtain ⟨kind, tagged⟩ := tagged
        exact Series.decode_without (only.item listed tagged) tagged
      · have untouched := only.untouched_item listed (not_exists.mp tagged)
        rw [Json.without_eq_self _ untouched]
  | object members => rfl
  | null | boolean | number | string => rfl

theorem TwinAxis.respects {place : Place} : Respects .twin (TwinAxis.record.decode place) := by
  refine respects_record (by simp) fun gone members only => ?_
  refine only.read rfl rfl (Series.respects_list.within rfl) fun series => ?_
  exact only.read rfl rfl (Axis.respects.within rfl) fun yAxis => rfl

theorem Figure.respects : Respects .figure Figure.ofJson := by
  refine respects_record (by simp) fun gone members only => ?_
  refine only.read rfl rfl nofun fun block => ?_
  refine only.read rfl rfl (Legend.respects.within rfl) fun legend => ?_
  refine only.read rfl rfl nofun fun outputName => ?_
  refine only.read rfl rfl (Series.respects_list.within rfl) fun series => ?_
  refine only.read rfl rfl nofun fun showWindow => ?_
  refine only.read rfl rfl nofun fun size => ?_
  refine only.read rfl rfl (Style.respects.within rfl) fun style => ?_
  refine only.read rfl rfl (Grid.respects.optional.within rfl) fun subplots => ?_
  refine only.read rfl rfl nofun fun tickLabelSize => ?_
  refine only.read rfl rfl nofun fun tight => ?_
  refine only.read rfl rfl nofun fun title => ?_
  refine only.read rfl rfl (TwinAxis.respects.optional.within rfl) fun twin => ?_
  refine only.read rfl rfl (Axis.respects.within rfl) fun xAxis => ?_
  exact only.read rfl rfl (Axis.respects.within rfl) fun yAxis => rfl

/-! ## The schema -/

namespace FigureSchema

open Schema

variable {description : String} {definition : Schema} {document value : Json}

/-- The schema goes on admitting a part when fields with their defaults are left out. -/
def Keeps (part : Part) (schema : Schema) : Prop :=
  ∀ gone document, OnlyDefaults gone part document → schema.Admits document →
    schema.Admits (document.without gone)

/-- The same of a field and the part in it, if it holds one. -/
def KeepsField (part : Part) (entry : String × Schema) : Prop :=
  ∀ inner, part.part? entry.1 = some inner → Keeps inner entry.2

theorem Keeps.field {schema : Schema} (stands : part.part? name = some other)
    (keeps : Keeps other schema) : KeepsField part (name, schema) := by
  intro inner again
  rw [stands, Option.some.injEq] at again
  rwa [← again]

theorem keeps_record {entries : List (String × Schema)}
    (each : ∀ entry ∈ entries, KeepsField part entry) :
    Keeps part (record description entries) := by
  intro gone document only admits
  obtain ⟨typed, given⟩ := admits_record.mp admits
  obtain ⟨members, rfl⟩ := admits_object_iff.mp typed
  refine admits_record.mpr ⟨rfl, fun entry listed left found => ?_⟩
  rw [Json.get?_without, Option.mem_def, Option.ite_none_left_eq_some,
    Option.map_eq_some_iff] at found
  obtain ⟨_, held, present, rfl⟩ := found
  have own := given entry listed held present
  cases stands : part.part? entry.1 with
  | none => rwa [Json.without_eq_self _ (only.untouched stands)]
  | some inner => exact each entry listed inner stands _ held (only.inside present stands) own

theorem Keeps.required {default : Json} (keeps : Keeps part definition) :
    Keeps part (required description name definition default) :=
  fun gone document only admits =>
    admits_required.mpr (keeps gone document only (admits_required.mp admits))

theorem admits_optional_iff :
    (optional description name definition).Admits value ↔ value = .null ∨ definition.Admits value := by
  simp [optional, admits_null_iff, or_comm]

theorem Keeps.optional (keeps : Keeps part definition) :
    Keeps part (optional description name definition) := by
  intro gone document only admits
  rcases admits_optional_iff.mp admits with rfl | present
  · exact admits
  · exact admits_optional_iff.mpr (.inr (keeps gone document only present))

theorem Keeps.append {first rest : Schema} (front : Keeps part first) (back : Keeps part rest) :
    Keeps part (first ++ rest) := by
  intro gone document only admits
  obtain ⟨before, after⟩ := admits_append.mp admits
  exact admits_append.mpr ⟨front gone document only before, back gone document only after⟩

/-- Members without defaults stay where they are asked for. -/
theorem keeps_presence {names : List String}
    (needed : ∀ name ∈ names, part.default? name = none) : Keeps part [.required names] := by
  intro gone document only admits
  refine admits_cons.mpr ⟨allows_required.mpr fun entries same name listed => ?_, admits_nil⟩
  have present := allows_required.mp (admits_cons.mp admits).1
  have kept := only.kept (needed name listed)
  cases document with
  | object members =>
      cases same
      rw [Json.lookup_of_kept kept, ne_eq, Option.map_eq_none_iff]
      exact present members rfl name listed
  | null | boolean | number | string | array => cases same

theorem keeps_axis : Keeps .axis axis := keeps_record fun _ _ => nofun

theorem keeps_legend : Keeps .legend legend := keeps_record fun _ _ => nofun

theorem keeps_style : Keeps .style style := keeps_record fun _ _ => nofun

theorem keeps_cell : Keeps .cell cell := keeps_record fun _ _ => nofun

theorem keeps_grid : Keeps .grid grid := by
  refine Keeps.append (keeps_record fun _ _ => nofun) (keeps_presence ?_)
  simp [Part.default?, Part.required]

theorem keeps_fields (kind : SeriesKind) : Keeps (.series kind) (fieldsOf kind) := by
  have position : KeepsField (.series kind) ("position", cellField) := keeps_cell.required.field rfl
  cases kind with
  | line | scatter =>
      refine keeps_record ?_
      simp only [List.forall_mem_cons]
      exact ⟨nofun, nofun, position, nofun, nofun, nofun⟩
  | bar =>
      refine keeps_record ?_
      simp only [List.forall_mem_cons]
      exact ⟨nofun, nofun, nofun, nofun, nofun, position, nofun, nofun, nofun⟩
  | errorBand =>
      refine keeps_record ?_
      simp only [List.forall_mem_cons]
      exact ⟨nofun, nofun, nofun, nofun, nofun, position, nofun, nofun, nofun⟩
  | matrix =>
      refine keeps_record ?_
      simp only [List.forall_mem_cons]
      exact ⟨nofun, nofun, nofun, position, nofun, nofun⟩

theorem keeps_series {kind : SeriesKind} (only : OnlyDefaults gone (.series kind) value)
    (tagged : value.get? "kind" = some (.string kind.name)) (admits : series.Admits value) :
    series.Admits (value.without gone) := by
  cases value with
  | object members =>
      have fields := keeps_fields kind gone _ only ((admits_series_iff kind tagged).mp admits)
      rw [without] at fields ⊢
      exact (admits_series_iff kind (only.lookup_kind tagged)).mpr fields
  | null | boolean | number | string | array => contradiction

theorem keeps_seriesList : Keeps .seriesList (seriesList description) := by
  intro gone document only admits
  obtain ⟨items, rfl, each⟩ := form_seriesList admits
  have left : ∀ item ∈ withoutItems gone 0 items, series.Admits item := by
    intro item member
    obtain ⟨place, held, listed, rfl⟩ := Json.mem_withoutItems.mp member
    have own := each held (List.mem_of_getElem? listed)
    obtain ⟨kind, members, rfl, tagged, _⟩ := form_series own
    exact keeps_series (only.item listed tagged) tagged own
  simpa [seriesList, without] using left

theorem keeps_twin : Keeps .twin twin := by
  refine keeps_record ?_
  simp only [List.forall_mem_cons]
  exact ⟨keeps_seriesList.field rfl, keeps_axis.required.field rfl, nofun⟩

theorem keeps_figure : Keeps .figure figure := by
  refine keeps_record ?_
  simp only [List.forall_mem_cons]
  exact ⟨nofun, keeps_legend.required.field rfl, nofun, keeps_seriesList.field rfl, nofun, nofun,
    keeps_style.required.field rfl, keeps_grid.optional.field rfl, nofun, nofun, nofun,
    keeps_twin.optional.field rfl, keeps_axis.required.field rfl, keeps_axis.required.field rfl,
    nofun⟩

end FigureSchema

end FigureScript
