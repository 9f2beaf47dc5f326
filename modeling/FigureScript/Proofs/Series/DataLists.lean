import FigureScript.Proofs.Script.Lists
import FigureScript.Proofs.Series.Encoding

namespace FigureScript

open Lexer

/-! # Data lists agree

The lists in the lines of a series hold its data: coordinates, heights, errors, ticks with their names,
or the rows of a matrix. Main statement: all lists of a series that can be drawn are equally long, and
none is empty.
-/

namespace Series

namespace NormalForm

/-- The lists in the lines of a form, with their entries. -/
def dataLists : NormalForm → List (List (List Token))
  | line x y _ _ => (x.toList ++ [y]).map Expr.numberEntries
  | scatter x y _ _ => [x, y].map Expr.numberEntries
  | bar positions heights _ _ errors _ names _ =>
    ([positions, heights] ++ errors.toList).map Expr.numberEntries ++
      names.toList.flatMap fun names => [Expr.numberEntries positions, Expr.textEntries names]
  | errorBand values _ _ _ _ => [values.x, values.y, values.errors].map Expr.numberEntries
  | matrix values _ => values.map Expr.numberEntries

variable (axes : Axes)

theorem holds_optional {parameter : String} {value : Option Expr}
    (plain : ∀ item ∈ value, Holds item.tokens []) :
    Expr.EachHolds (Expr.optional parameter value) [] := by
  cases value with
  | none => exact .nil
  | some value => exact .cons (Expr.holds_named parameter (plain value rfl)) .nil

theorem holds_label (label : Option String) :
    Expr.EachHolds (Expr.optional "label" (label.map .quoted)) [] := by
  refine holds_optional fun item member => ?_
  obtain ⟨text, _, rfl⟩ := Option.map_eq_some_iff.mp member
  exact Expr.holds_quoted text

theorem holds_options {expr : Color → Expr} (plain : ∀ color, Holds (expr color).tokens [])
    (color : Option Color) (label : Option String) :
    Expr.EachHolds (options (color.map expr) label) [] := by
  refine .append (holds_optional fun item member => ?_) (holds_label label)
  obtain ⟨color, _, rfl⟩ := Option.map_eq_some_iff.mp member
  exact plain color

theorem holds_color (color : Color) : Holds color.expr.tokens [] := by
  cases color with
  | palette => exact Expr.holds_call "next" (.cons (Expr.holds_name "palette") .nil)
  | named name => exact Expr.holds_quoted name

theorem holds_bandColor (color : Color) : Holds (bandColor color).tokens [] := by
  cases color with
  | palette => exact Expr.holds_name "c"
  | named name => exact Expr.holds_quoted name

theorem holds_numberLists (values : List (List Float)) :
    Expr.EachHolds (values.map Expr.numbers) (values.map Expr.numberEntries) :=
  .of_lists fun list _ => Expr.holds_numbers list

theorem holds_optionalList (parameter : String) (values : Option (List Float)) :
    Expr.EachHolds (Expr.optional parameter (values.map Expr.numbers))
      (values.toList.map Expr.numberEntries) := by
  cases values with
  | none => exact .nil
  | some values => exact .cons (Expr.holds_named parameter (Expr.holds_numbers values)) .nil

theorem holds_method (field : String) {items : List Expr} {found : List (List (List Token))}
    (each : Expr.EachHolds items found) : Holds (Expr.method axes.expr field items).tokens found :=
  Expr.holds_method axes.variableName field each

theorem holds_register {call : Expr} {found : List (List (List Token))}
    (holds : Holds call.tokens found) : Holds (register call).tokens found := by
  have whole := Expr.holds_method "lines" "append" (.cons holds .nil)
  rwa [List.append_nil] at whole

theorem holds_extend {value : Expr} {found : List (List (List Token))}
    (holds : Holds value.tokens found) : Holds (Statement.extend "lines" value).tokens found :=
  ((holds.cons (by simp [IsBracket])).cons (by simp [IsBracket])).cons (by simp [IsBracket])

theorem holds_assign (target : String) {value : Expr} {found : List (List (List Token))}
    (holds : Holds value.tokens found) : Holds (Statement.assign [target] value).tokens found :=
  (holds.cons (by simp [IsBracket])).cons (by simp [IsBracket])

theorem holds_evaluate {value : Expr} {found : List (List (List Token))}
    (holds : Holds value.tokens found) : Holds (Statement.evaluate value).tokens found :=
  holds

theorem holds_bindArray (name : String) (values : List Float) :
    Holds (Band.bindArray name values).tokens [Expr.numberEntries values] :=
  holds_assign name (Expr.holds_call "array" (.cons (Expr.holds_numbers values) .nil))

theorem holds_fill (alpha : Float) (color : Option Color) (errorLabel : Option String) :
    Holds (fill axes alpha color errorLabel).tokens [] := by
  have bounds : Expr.EachHolds [.name "x", .difference (.name "y") (.name "e"),
      .sum (.name "y") (.name "e"), .named "alpha" (.number alpha)] [] :=
    .cons (Expr.holds_name "x") (.cons (Expr.holds_difference "y" "e")
      (.cons (Expr.holds_sum "y" "e")
        (.cons (Expr.holds_named "alpha" (Expr.holds_number alpha)) .nil)))
  have area : Holds (area axes alpha color errorLabel).tokens [] :=
    holds_method axes "fill_between" (bounds.append (holds_options holds_bandColor color errorLabel))
  cases errorLabel with
  | none => exact area
  | some text => exact holds_register area

theorem listsOf_colorDraw (color : Option Color) :
    listsOf (if color = some .palette then [.assign ["c"] Color.palette.expr] else []) = [] := by
  split
  · exact listsOf_single (holds_assign "c" (holds_color .palette))
  · rfl

theorem listsOf_tickLabels (axis : String) (positions : List Float)
    (names : Option (List String)) :
    listsOf (tickLabels axes axis positions names) =
      names.toList.flatMap fun names =>
        [Expr.numberEntries positions, Expr.textEntries names] := by
  cases names with
  | none => rfl
  | some names =>
      have ticks : Expr.EachHolds [.numbers positions] [Expr.numberEntries positions] :=
        .cons (Expr.holds_numbers positions) .nil
      have labels : Expr.EachHolds [.quotedList names] [Expr.textEntries names] :=
        .cons (Expr.holds_quotedList names) .nil
      have marked := holds_evaluate (holds_method axes ("set_" ++ axis ++ "ticks") ticks)
      have named := holds_evaluate (holds_method axes ("set_" ++ axis ++ "ticklabels") labels)
      have both := listsOf_cons marked (listsOf_single named)
      exact both

theorem listsOf_display (colorMap : Option String) : listsOf (display axes colorMap) = [] := by
  cases colorMap with
  | none =>
      have imported : Holds (Statement.importFrom "mpltools" "special").tokens [] :=
        Holds.plain (by simp [Statement.tokens, IsBracket])
      have chosen : Expr.EachHolds [axes.expr] [] :=
        .cons (Expr.holds_name axes.variableName) .nil
      have values : Expr.EachHolds [.name "x"] [] := .cons (Expr.holds_name "x") .nil
      exact listsOf_cons imported (listsOf_cons (holds_evaluate (Expr.holds_call "sca" chosen))
        (listsOf_single (holds_evaluate (Expr.holds_method "special" "hinton" values))))
  | some name =>
      have shown : Expr.EachHolds [.name "x", .named "cmap" (.quoted name)] [] :=
        .cons (Expr.holds_name "x") (.cons (Expr.holds_named "cmap" (Expr.holds_quoted name)) .nil)
      exact listsOf_single (holds_evaluate (holds_method axes "matshow" shown))

/-- The lists of a form stand in its lines in their order, and no others. -/
theorem listsOf_statements {form : NormalForm} (filled : ∀ colorMap, form ≠ matrix [] colorMap) :
    listsOf (form.statements axes) = form.dataLists := by
  cases form with
  | line x y color label =>
      have arguments := (holds_numberLists (x.toList ++ [y])).append
        (holds_options holds_color color label)
      rw [List.append_nil] at arguments
      exact listsOf_single (holds_extend (holds_method axes "plot" arguments))
  | scatter x y color label =>
      have arguments := (holds_numberLists [x, y]).append (holds_options holds_color color label)
      exact listsOf_single (holds_register (holds_method axes "scatter" arguments))
  | bar positions heights width horizontal errors color names label =>
      have appearance : Expr.EachHolds [.number width, .named "color" color.expr] [] :=
        .cons (Expr.holds_number width) (.cons (Expr.holds_named "color" (holds_color color)) .nil)
      have spans := holds_optionalList (if horizontal then "xerr" else "yerr") errors
      have arguments := (((holds_numberLists [positions, heights]).append appearance).append
        spans).append (holds_label label)
      rw [List.append_nil, List.append_nil, ← List.map_append] at arguments
      exact listsOf_cons (holds_register (holds_method axes _ arguments))
        (listsOf_tickLabels axes _ positions names)
  | errorBand values alpha color label errorLabel =>
      have center : Expr.EachHolds [.name "x", .name "y"] [] :=
        .cons (Expr.holds_name "x") (.cons (Expr.holds_name "y") .nil)
      have plotted := holds_extend (holds_method axes "plot"
        (center.append (holds_options holds_bandColor color label)))
      have bindings := listsOf_cons (holds_bindArray "x" values.x)
        (listsOf_cons (holds_bindArray "y" values.y)
          (listsOf_cons (holds_bindArray "e" values.errors)
            (listsOf_cons plotted (listsOf_single (holds_fill axes alpha color errorLabel)))))
      exact listsOf_append (listsOf_colorDraw color) bindings
  | matrix values colorMap =>
      have present : values ≠ [] := by
        rintro rfl
        exact filled colorMap rfl
      have rows : Expr.EachHolds [.numberRows values] (values.map Expr.numberEntries ++ []) :=
        .cons (Expr.holds_numberRows present) .nil
      have whole := listsOf_cons (holds_assign "x" (Expr.holds_call "array" rows))
        (listsOf_display axes colorMap)
      rwa [List.append_nil, List.append_nil] at whole

end NormalForm

end Series

/-! ## Lengths -/

theorem Trace.length_points {trace : Trace} {points : Points} (found : trace.points = .ok points) :
    points.y ≠ [] ∧ ∀ x ∈ points.x, x.length = points.y.length := by
  rcases points_cases found with ⟨x, pair, _, second, equal⟩ | ⟨single, first | second⟩
  · exact ⟨(Given.list_eq_some_iff.mp second).2, by simpa [pair] using equal⟩
  · exact ⟨(Given.list_eq_some_iff.mp first).2, by simp [single]⟩
  · exact ⟨(Given.list_eq_some_iff.mp second).2, by simp [single]⟩

theorem Band.length_values {band : Band} {values : BandValues} (found : band.values = .ok values) :
    values.y ≠ [] ∧ values.x.length = values.y.length ∧
      values.errors.length = values.y.length := by
  obtain ⟨_, spans, ⟨_, second, equal⟩ | ⟨moved, index⟩⟩ := values_cases found
  · exact ⟨(Given.list_eq_some_iff.mp second).2, equal.symm, spans⟩
  · exact ⟨(Given.list_eq_some_iff.mp moved).2, by simp [index], spans⟩

section

variable {bars : Bars} {heights : List Float}

theorem Bars.length_positions (consistent : bars.Consistent)
    (given : bars.values = some heights) : (bars.positions heights).length = heights.length := by
  obtain ⟨_, numeric, _⟩ := consistent
  rcases categories : bars.categories with _ | placed | names
  · simp [positions, categories]
  · simpa [positions, categories, given] using numeric placed categories
  · simp [positions, categories]

theorem Bars.length_names (consistent : bars.Consistent) (given : bars.values = some heights) :
    ∀ names ∈ bars.names, names.length = heights.length := by
  obtain ⟨_, _, textual, _⟩ := consistent
  rcases categories : bars.categories with _ | placed | shown
  · simp [names, categories]
  · simp [names, categories]
  · simpa [names, categories, given] using textual shown categories

end

namespace Series

theorem NormalForm.length_bar {positions heights : List Float} {width : Float} {horizontal : Bool}
    {errors : Option (List Float)} {color : Color} {names : Option (List String)}
    {label : Option String} (placed : positions.length = heights.length)
    (spans : ∀ list ∈ errors, list.length = heights.length)
    (named : ∀ list ∈ names, list.length = heights.length) :
    ∀ list ∈ (bar positions heights width horizontal errors color names label).dataLists,
      list.length = heights.length := by
  rw [dataLists, List.forall_mem_append, List.forall_mem_map, List.forall_mem_append]
  refine ⟨⟨by simpa using placed, by simpa using spans⟩, fun list member => ?_⟩
  obtain ⟨shown, isShown, either⟩ := List.mem_flatMap.mp member
  have length := named shown (Option.mem_toList.mp isShown)
  rcases List.mem_pair.mp either with rfl | rfl
  · exact (Expr.length_numberEntries _).trans placed
  · exact (Expr.length_textEntries _).trans length

/-- All lists of a series are equally long, and not empty. -/
theorem NormalForm.exists_length {series : Series} {form : NormalForm}
    (found : series.normalForm = .ok form) :
    form.dataLists ≠ [] ∧
      ∃ count, 0 < count ∧ ∀ list ∈ form.dataLists, list.length = count := by
  cases series with
  | line trace =>
      obtain ⟨points, drawn, rfl⟩ := Fallible.map_eq_ok_iff.mp found
      obtain ⟨present, paired⟩ := Trace.length_points drawn
      refine ⟨by simp [dataLists], points.y.length, List.length_pos_iff.mpr present, ?_⟩
      simpa [dataLists, or_imp, forall_and] using paired
  | scatter trace =>
      obtain ⟨points, drawn, rfl⟩ := Fallible.map_eq_ok_iff.mp found
      obtain ⟨present, paired⟩ := Trace.length_points drawn
      refine ⟨by simp [dataLists], points.y.length, List.length_pos_iff.mpr present, ?_⟩
      cases given : points.x with
      | none => simp [dataLists]
      | some x => simpa [dataLists] using paired x given
  | bar bars =>
      obtain ⟨checked, found⟩ := Fallible.then_eq_ok_iff.mp found
      obtain ⟨heights, drawn, same⟩ := Fallible.bind_eq_ok_iff.mp found
      cases same
      -- The heights are what positions, names and errors have been compared with.
      obtain ⟨given, present⟩ := Given.list_eq_some_iff.mp (Bars.heights_eq_ok_iff.mp drawn)
      have consistent := Bars.check_eq_ok_iff.mp checked
      have positions := Bars.length_positions consistent given
      have names := Bars.length_names consistent given
      have errors : ∀ errors ∈ bars.errors, errors.length = heights.length := by
        simpa [given] using consistent.2.2.2
      exact ⟨by simp [dataLists], heights.length, List.length_pos_iff.mpr present,
        length_bar positions errors names⟩
  | errorBand band =>
      obtain ⟨values, drawn, rfl⟩ := Fallible.map_eq_ok_iff.mp found
      obtain ⟨present, index, errors⟩ := Band.length_values drawn
      refine ⟨by simp [dataLists], values.y.length, List.length_pos_iff.mpr present, ?_⟩
      simp [dataLists, index, errors]
  | matrix shown =>
      obtain ⟨_, checked, rfl⟩ := Fallible.map_eq_ok_iff.mp found
      obtain ⟨present, columns, positive, equal⟩ := Matrix.check_eq_ok_iff.mp checked
      refine ⟨by simpa [dataLists] using present, columns, positive, ?_⟩
      simpa [dataLists] using equal

theorem NormalForm.shape_eq {shown : Matrix} {form : NormalForm} {count : Nat}
    (found : (Series.matrix shown).normalForm = .ok form)
    (equal : ∀ list ∈ form.dataLists, list.length = count) (present : form.dataLists ≠ []) :
    shown.shape = (form.dataLists.length, count) := by
  obtain ⟨_, _, rfl⟩ := Fallible.map_eq_ok_iff.mp found
  rw [dataLists, List.forall_mem_map] at equal
  rw [dataLists, ne_eq, List.map_eq_nil_iff] at present
  obtain ⟨first, rest, values⟩ := List.exists_cons_of_ne_nil present
  have columns : first.length = count := by
    simpa using equal first (by simp [values])
  simp [dataLists, Matrix.shape, values, columns]

theorem NormalForm.filled {form : NormalForm} (present : form.dataLists ≠ [])
    (colorMap : Option String) : form ≠ .matrix [] colorMap := by
  rintro rfl
  exact present rfl

/-- The lists in the lines of a series that is drawn are those of its data, all of one length, and no
list is empty. A matrix has as many lists as rows and as many entries as its shape says. -/
theorem data_lists_agree {series : Series} {axes : Axes} {script after : Script}
    (rendered : (series.render axes script).result = .ok after)
    (unquoted : ∀ text ∈ series.label.toList ++ series.texts, '\'' ∉ text.toList) :
    ∃ form lines count,
      series.normalForm = .ok form ∧ after.lines = script.lines ++ lines ∧
        lines.flatMap Line.lists = form.dataLists ∧ form.dataLists ≠ [] ∧
        0 < count ∧ (∀ list ∈ form.dataLists, list.length = count) ∧
        ∀ shown, series = .matrix shown →
          shown.shape = (form.dataLists.length, count) ∧
            ((lines.flatMap Line.lists).map List.length).sum = shown.shape.1 * shown.shape.2 := by
  have checked := check_of_render rendered
  obtain ⟨form, found, drawn⟩ := exists_normalForm checked
  obtain ⟨present, count, positive, equal⟩ := NormalForm.exists_length found
  have appended := Except.ok.inj (rendered.symm.trans (result_render_of_check checked axes script))
  have lists : ((series.drawn axes).map Statement.text).flatMap Line.lists = form.dataLists := by
    rw [flatMap_lists_text (legible_drawn checked unquoted axes), drawn,
      NormalForm.listsOf_statements axes (NormalForm.filled present)]
  refine ⟨form, (series.drawn axes).map Statement.text, count, found, by rw [appended]; rfl, lists,
    present, positive, equal, ?_⟩
  rintro shown rfl
  have shape := NormalForm.shape_eq found equal present
  have lengths : form.dataLists.map List.length = List.replicate form.dataLists.length count := by
    rw [List.eq_replicate_iff]
    exact ⟨List.length_map _, List.forall_mem_map.mpr equal⟩
  refine ⟨shape, ?_⟩
  rw [lists, lengths, List.sum_replicate, shape, smul_eq_mul]

/-- Horizontal bars with names and errors. -/
def namedBars : Series :=
  .bar
    { values := some [3, 5]
      categories := some (.labels ["left", "right"])
      errors := some [1, 1]
      horizontal := true }

theorem namedBars_data_lists_agree :
    ∃ after, (namedBars.render .twin .empty).result = .ok after ∧
      ∃ form lines count,
        namedBars.normalForm = .ok form ∧ after.lines = Script.empty.lines ++ lines ∧
          lines.flatMap Line.lists = form.dataLists ∧ form.dataLists ≠ [] ∧
          0 < count ∧ (∀ list ∈ form.dataLists, list.length = count) ∧
          ∀ shown, namedBars = .matrix shown →
            shown.shape = (form.dataLists.length, count) ∧
              ((lines.flatMap Line.lists).map List.length).sum = shown.shape.1 * shown.shape.2 :=
  ⟨_, rfl, data_lists_agree rfl (by decide)⟩

end Series

end FigureScript
