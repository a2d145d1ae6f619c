import DeltaStudy.Chart.Picture
import DeltaStudy.Proofs.Chart.Dashes
import DeltaStudy.Proofs.Chart.Ranges

/-!
# Legends and lines

The lines of a chart and its legend are made separately. They meet at the parts of the chart: the
roles in which each series is shown, series by series. The legend has one entry for each part,
and the lines are drawn part by part, each of them in the stroke of its entry.

That no part is without a trace takes two conditions: every series has a difficulty to draw, and
the dashes of the references come to an end. Where a trace runs is not said here.
-/

namespace DeltaStudy.Chart

variable {content : Content} {options : Options} {axes : Axes} {series : Trend.Series}

/-! ## Parts -/

/-- What a line shows of a series. -/
inductive Role where
  /-- Its averaged mining times. -/
  | miningTime
  /-- Its difficulties. -/
  | difficulty
  /-- The value that its difficulties approach. -/
  | reference
deriving DecidableEq, Repr

/-- The roles in which a series is shown. -/
def rolesOf (content : Content) (options : Options) (form : Form) (series : Trend.Series) :
    List Role :=
  (if form = .dual ∧ miningLine options series ≠ [] then [.miningTime] else [])
    ++ [.difficulty]
    ++ if (content.referenceValue? options series).isSome then [.reference] else []

/-- The stroke of a role. -/
def Role.stroke (form : Form) (standing : Standing) : Role → Stroke
  | miningTime => miningStroke standing
  | difficulty => difficultyStroke form standing
  | reference => referenceStroke form standing

/-- The length of the sample of a role. -/
def Role.sample : Role → Nat
  | miningTime | difficulty => 20
  | reference => 8

/-- What a legend says about a role. -/
def Role.words (options : Options) (height : Float) : Role → String
  | miningTime => "Mining Time (" ++ Numeral.decimalText options.window ++ "-block MA)"
  | difficulty => "Difficulty"
  | reference => referenceText height

/-- A part of a chart: a series in one of its roles. -/
structure Part where
  series : Trend.Series
  /-- The standing of the series. -/
  standing : Standing
  role : Role

/-- The parts of a chart in the order of the series. -/
def partsOf (content : Content) (options : Options) (form : Form) : List Part :=
  content.standings.flatMap fun (series, standing) =>
    (rolesOf content options form series).map fun role => ⟨series, standing, role⟩

/-- The height of the reference of a series. -/
def Content.height (content : Content) (options : Options) (series : Trend.Series) : Float :=
  (content.referenceValue? options series).getD 0

/-- The text of a part. Where there are only difficulties, their role is not named. -/
def Part.text (content : Content) (options : Options) (form : Form) (part : Part) : String :=
  let words := part.role.words options (content.height options part.series)
  match form with
  | .dual => legendPrefix part.series part.standing ++ words
  | .difficultyOnly =>
    if part.role = .reference then part.series.label ++ " " ++ words else part.series.label

/-- The entry of a part in the legend. -/
def Part.entry (content : Content) (options : Options) (form : Form) (part : Part) : Entry :=
  ⟨part.text content options form, part.role.stroke form part.standing, part.role.sample⟩

/-- The line of a part. -/
def Part.line (content : Content) (options : Options) (axes : Axes) (part : Part) : Line where
  stroke := part.role.stroke axes.form part.standing
  frame := match part.role with
    | .miningTime => .primary
    | .difficulty | .reference => axes.form.difficultyFrame
  strands := match part.role with
    | .miningTime => [miningLine options part.series]
    | .difficulty => [difficultyLine part.series]
    | .reference => referenceStrands axes.rounds (content.height options part.series)

/-- The traces of a part in a picture. -/
def Part.traces (content : Content) (options : Options) (axes : Axes) (part : Part) : List Trace :=
  (part.line content options axes).traces axes

/-! ## One entry and one line for each part -/

/-- What is made of the value of a reference is made of the role if the series has a reference. -/
theorem map_reference {Item : Type} (content : Content) (options : Options) (series : Trend.Series)
    (ofHeight : Float → Item) (ofRole : Role → Item)
    (same : ofHeight (content.height options series) = ofRole .reference) :
    (content.referenceValue? options series).toList.map ofHeight
      = (if (content.referenceValue? options series).isSome then [Role.reference] else []).map
          ofRole := by
  rw [Content.height] at same
  cases found : content.referenceValue? options series with
  | none => rfl
  | some height =>
    rw [found] at same
    exact congrArg (fun item => [item]) same

theorem seriesLines_eq (content : Content) (options : Options) (axes : Axes)
    (series : Trend.Series) (standing : Standing) :
    seriesLines content options axes series standing
      = (rolesOf content options axes.form series).map fun role =>
          (⟨series, standing, role⟩ : Part).line content options axes := by
  rw [rolesOf, List.map_append, List.map_append]
  refine congrArg₂ _ (congrArg₂ _ ?_ rfl) (map_reference content options series _ _ rfl)
  rw [miningLines]
  split <;> rfl

/-- The lines of a chart are those of its parts. -/
theorem linesOf_eq (content : Content) (options : Options) (axes : Axes) :
    linesOf content options axes
      = (partsOf content options axes.form).map (Part.line content options axes) := by
  rw [linesOf, partsOf, List.map_flatMap]
  refine congrArg content.standings.flatMap (funext fun ⟨series, standing⟩ => ?_)
  rw [List.map_map]
  exact seriesLines_eq content options axes series standing

theorem dualEntries_eq (content : Content) (options : Options) (series : Trend.Series)
    (standing : Standing) :
    dualEntries content options series standing
      = (rolesOf content options .dual series).map fun role =>
          (⟨series, standing, role⟩ : Part).entry content options .dual := by
  rw [rolesOf, List.map_append, List.map_append]
  refine congrArg₂ _ (congrArg₂ _ ?_ rfl) (map_reference content options series _ _ rfl)
  by_cases empty : miningLine options series = []
  · simp [empty]
  · simp [empty, Part.entry, Part.text, Role.words, Role.stroke, Role.sample, String.append_assoc]

theorem difficultyEntries_eq (content : Content) (options : Options) (series : Trend.Series)
    (standing : Standing) :
    difficultyEntries content options series standing
      = (rolesOf content options .difficultyOnly series).map fun role =>
          (⟨series, standing, role⟩ : Part).entry content options .difficultyOnly := by
  rw [rolesOf, if_neg fun dual => Form.noConfusion dual.1, List.nil_append, List.singleton_append,
    List.map_cons]
  exact congrArg₂ _ rfl (map_reference content options series _ _ rfl)

/-- The legend of a chart is that of its parts. -/
theorem legendOf_eq (content : Content) (options : Options) (form : Form) :
    legendOf content options form
      = (partsOf content options form).map (Part.entry content options form) := by
  rw [legendOf, partsOf, List.map_flatMap]
  refine congrArg content.standings.flatMap (funext fun ⟨series, standing⟩ => ?_)
  rw [List.map_map]
  cases form with
  | dual => exact dualEntries_eq content options series standing
  | difficultyOnly => exact difficultyEntries_eq content options series standing

/-! ## What the styles depend on -/

/-- The stroke and the length of the sample of an entry. -/
def Entry.style (entry : Entry) : Stroke × Nat :=
  (entry.stroke, entry.length)

/-- The styles of a legend for the roles of each series, which depend on nothing else. -/
def stylesOf (form : Form) (roles : List (List Role)) : List (Stroke × Nat) :=
  roles.zipIdx.flatMap fun (shown, position) =>
    shown.map fun role => (role.stroke form ⟨roles.length == 1, position⟩, role.sample)

theorem legendOf_styles (content : Content) (options : Options) (form : Form) :
    (legendOf content options form).map Entry.style
      = stylesOf form (content.series.map (rolesOf content options form)) := by
  simp only [legendOf_eq, partsOf, Content.standings, stylesOf, List.map_flatMap, List.map_map,
    List.flatMap_map, List.zipIdx_map, List.length_map]
  rfl

/-! ## No part is without a trace -/

/-- The dashes of the references come to an end if there are any. -/
def Content.Finishes (content : Content) (options : Options) : Prop :=
  ∀ axes, axesOf content options = .ok axes →
    (∃ series ∈ content.series, (content.referenceValue? options series).isSome = true) →
    (dashes? axes.rounds).isSome = true

/-- Every series has a point with a finite difficulty. -/
def Content.Finite (content : Content) : Prop :=
  ∀ series ∈ content.series, ∃ point ∈ series.points, point.difficulty.isFinite = true

/-- The dashes come to an end if no round is larger than `2^47`. -/
theorem finishes_of_le (finite : content.Finite)
    (small : ∀ round ∈ roundsOf content, round.toNat ≤ Numeral.twoTo 47) :
    content.Finishes options := by
  rintro axes computed ⟨series, member, -⟩
  obtain ⟨point, inPoints, -⟩ := finite series member
  obtain ⟨_, least, greatest, drawn, bounds, same⟩ :=
    exists_axesOf options ⟨series, member, List.ne_nil_of_mem inPoints⟩
  rw [computed] at drawn
  cases drawn
  obtain ⟨dashes, made⟩ :=
    (bounds.ends_or_dashes?_eq_none.1 (bounds.resolved_of_le small)).exists_unroll
  rw [same]
  exact Option.isSome_iff_exists.mpr ⟨dashes, made⟩

/-- A part has traces, one for each dash of a reference and a single one otherwise, and they are
drawn like the sample of its entry. -/
structure Part.Drawn (content : Content) (options : Options) (axes : Axes) (part : Part) :
    Prop where
  traces_ne_nil : part.traces content options axes ≠ []
  stroke_eq : ∀ trace ∈ part.traces content options axes,
    trace.stroke = (part.entry content options axes.form).stroke
  length_eq : (part.traces content options axes).length
    = if part.role = .reference then (dashes axes.rounds).length else 1

theorem mem_partsOf {form : Form} {part : Part} (member : part ∈ partsOf content options form) :
    part.series ∈ content.series ∧ part.role ∈ rolesOf content options form part.series := by
  obtain ⟨⟨series, standing⟩, ofSeries, inRoles⟩ := List.mem_flatMap.mp member
  obtain ⟨role, shown, rfl⟩ := List.mem_map.mp inRoles
  obtain ⟨⟨series, position⟩, placed, same⟩ := List.mem_map.mp ofSeries
  cases same
  exact ⟨List.fst_mem_of_mem_zipIdx placed, shown⟩

theorem difficultyLine_ne_nil (finite : ∃ point ∈ series.points, point.difficulty.isFinite = true) :
    difficultyLine series ≠ [] := by
  obtain ⟨point, member, isFinite⟩ := finite
  exact List.ne_nil_of_mem (List.mem_map_of_mem (List.mem_filter.mpr ⟨member, isFinite⟩))

/-- Dashes along an axis whose ends are apart are not none if they come to an end. -/
theorem dashes_ne_nil {axis : Range} (apart : axis.start < axis.stop)
    (ended : (dashes? axis).isSome = true) : dashes axis ≠ [] := by
  obtain ⟨drawn, made⟩ := Option.isSome_iff_exists.mp ended
  have first : ∃ dash next, nextDash? axis axis.start = some (dash, next) :=
    ⟨_, _, if_pos apart⟩
  obtain ⟨dash, next, first⟩ := first
  have unrolled := made
  rw [dashes?, Stepper.unroll_of_some first] at unrolled
  obtain ⟨rest, -, rfl⟩ := Option.map_eq_some_iff.mp unrolled
  rw [dashes, made, Option.getD_some]
  exact List.cons_ne_nil dash rest

theorem Line.traces_of_strand {line : Line} {places : List Place} (alone : line.strands = [places])
    (nonempty : places ≠ []) (axes : Axes) :
    line.traces axes = [⟨line.stroke, places.map (pixelOf axes line.frame)⟩] := by
  rw [traces, alone]
  simp [nonempty]

theorem Line.length_traces_of_reference {line : Line} {axis : Range} {height : Float}
    (dashed : line.strands = referenceStrands axis height) (axes : Axes) :
    (line.traces axes).length = (dashes axis).length := by
  have kept : (referenceStrands axis height).filter (fun strand => !strand.isEmpty)
      = referenceStrands axis height := by
    refine List.filter_eq_self.mpr fun strand member => ?_
    obtain ⟨dash, -, rfl⟩ := List.mem_map.mp member
    rfl
  rw [traces, dashed, kept, List.length_map, referenceStrands, List.length_map]

/-- The ends of the bottom axis of a chart are apart. -/
theorem rounds_apart_of_axesOf (computed : axesOf content options = .ok axes) :
    axes.rounds.start < axes.rounds.stop := by
  rw [axesOf, roundValues_eq] at computed
  split at computed
  · cases computed
  case h_2 rounds ranged =>
    cases computed
    exact (rangeOf?_rounds_sound ranged).1

theorem drawn_of_mem_partsOf (computed : axesOf content options = .ok axes)
    (finite : content.Finite) (finishes : content.Finishes options) {part : Part}
    (member : part ∈ partsOf content options axes.form) : part.Drawn content options axes := by
  obtain ⟨ofContent, shown⟩ := mem_partsOf member
  have stroke_eq : ∀ trace ∈ part.traces content options axes,
      trace.stroke = (part.entry content options axes.form).stroke := by
    intro trace inTraces
    obtain ⟨strand, -, rfl⟩ := List.mem_map.mp inTraces
    rfl
  have of_strand {places : List Place} (nonempty : places ≠ [])
      (notReference : part.role ≠ .reference)
      (alone : (part.line content options axes).strands = [places]) :
      part.Drawn content options axes := by
    have traces : part.traces content options axes = _ :=
      Line.traces_of_strand alone nonempty axes
    refine ⟨traces ▸ List.cons_ne_nil _ _, stroke_eq, ?_⟩
    rw [if_neg notReference, traces, List.length_singleton]
  obtain ⟨series, standing, role⟩ := part
  cases role with
  | miningTime =>
    have nonempty : miningLine options series ≠ [] := by
      by_contra empty
      simp [rolesOf, empty] at shown
    exact of_strand nonempty nofun rfl
  | difficulty => exact of_strand (difficultyLine_ne_nil (finite series ofContent)) nofun rfl
  | reference =>
    have found : (content.referenceValue? options series).isSome = true := by
      by_contra missing
      simp [rolesOf, missing] at shown
    have length : (Part.traces content options axes ⟨series, standing, .reference⟩).length
        = (dashes axes.rounds).length := Line.length_traces_of_reference rfl axes
    have nonempty := dashes_ne_nil (rounds_apart_of_axesOf computed)
      (finishes axes computed ⟨series, ofContent, found⟩)
    refine ⟨List.ne_nil_of_length_pos ?_, stroke_eq, length⟩
    rw [length]
    exact List.length_pos_of_ne_nil nonempty

/-- A chart in which every series has a finite difficulty and the dashes come to an end
is drawn unless it has no series. Legend and traces are those of its parts, in the same order, and
no part is without a trace. How many entries there are and how they look depends on the roles of
each series alone. -/
theorem draw_legend (content : Content) (options : Options) (finite : content.Finite)
    (finishes : content.Finishes options) :
    match draw content options with
    | .error _ => content.series = []
    | .ok picture =>
      ∃ axes, axesOf content options = .ok axes
        ∧ picture.legend
          = (partsOf content options axes.form).map (Part.entry content options axes.form)
        ∧ picture.traces
          = (partsOf content options axes.form).flatMap (Part.traces content options axes)
        ∧ (∀ part ∈ partsOf content options axes.form, part.Drawn content options axes)
        ∧ picture.legend.map Entry.style
          = stylesOf axes.form (content.series.map (rolesOf content options axes.form)) := by
  rw [draw]
  cases computed : axesOf content options with
  | error failure =>
    refine Classical.byContradiction fun some => ?_
    obtain ⟨series, member⟩ := List.exists_mem_of_ne_nil _ some
    obtain ⟨point, inPoints, -⟩ := finite series member
    obtain ⟨axes, -, -, drawn, -⟩ :=
      exists_axesOf options ⟨series, member, List.ne_nil_of_mem inPoints⟩
    rw [computed] at drawn
    cases drawn
  | ok axes =>
    refine ⟨axes, rfl, legendOf_eq content options axes.form, ?_,
      fun part => drawn_of_mem_partsOf computed finite finishes,
      legendOf_styles content options axes.form⟩
    show (linesOf content options axes).flatMap (fun line => line.traces axes) = _
    rw [linesOf_eq, List.flatMap_map]
    rfl

/-- A chart of a series with mining times and a Δ/T value, and of one without either. -/
def unlike : Content :=
  .ofSeries [⟨"first", some 1, true, [⟨1, 1, 1, 0.5⟩]⟩, ⟨"second", none, false, [⟨2, 1, 1, 0.5⟩]⟩]

/-- The first series has three entries and the second one has a single entry. -/
theorem draw_legend_unlike :
    unlike.Finite ∧ unlike.Finishes everything
    ∧ ∃ picture, draw unlike everything = .ok picture
      ∧ picture.legend.map Entry.style
        = [(⟨seriesColour 0, 100, 2⟩, 20), (⟨seriesColour 0, 55, 1⟩, 20),
          (⟨seriesColour 0, 45, 1⟩, 8), (⟨seriesColour 1, 55, 1⟩, 20)] := by
  have facts : (0.5 : Float).isFinite = true
      ∧ (axesOf unlike everything).toOption.map Axes.form = some .dual
      ∧ unlike.series.map (rolesOf unlike everything .dual)
        = [[.miningTime, .difficulty, .reference], [.difficulty]] := by
    decide +kernel
  obtain ⟨half, dual, roles⟩ := facts
  have finite : unlike.Finite := by
    simp [Content.Finite, unlike, Content.ofSeries, Content.ofSeriesBy, half]
  have finishes : unlike.Finishes everything := by
    refine finishes_of_le finite ?_
    simp [roundsOf, unlike, Content.ofSeries, Content.ofSeriesBy, Numeral.twoTo]
  have result := draw_legend unlike everything finite finishes
  refine ⟨finite, finishes, ?_⟩
  cases drawn : draw unlike everything with
  | error failure =>
    rw [drawn] at result
    cases result
  | ok picture =>
    rw [drawn] at result
    obtain ⟨axes, computed, -, -, -, styles⟩ := result
    rw [computed] at dual
    rw [Option.some.inj dual, roles] at styles
    exact ⟨picture, rfl, styles⟩

end DeltaStudy.Chart
