import DeltaStudy.Chart.Content
import DeltaStudy.Proofs.Numeral.Order

/-!
# One reference for each distinct value

The Δ/T values of a chart are told apart as doubles are. This relation is symmetric and
transitive, and reflexive on numbers, so among numbers it puts every value into one class,
and the first value of each class has a reference. What is not a number equals nothing: it
has a reference of its own each time, which no series finds.
-/

namespace DeltaStudy.Chart

open Numeral

variable {values deltas : List Float} {delta : Float} {approached : Float → Float}

/-! ## First occurrences -/

/-- Doubles in turn, where those that equal one are left out behind it. -/
theorem firsts_induction {motive : List Float → Prop} (nil : motive [])
    (cons : ∀ head rest, motive (rest.filter fun value => !value == head) → motive (head :: rest))
    (values : List Float) : motive values := by
  induction size : values.length using Nat.strong_induction_on generalizing values with
  | _ size inductionHypothesis =>
    cases values with
    | nil => exact nil
    | cons head rest =>
      have shorter := List.length_filter_le (fun value => !value == head) rest
      rw [List.length_cons] at size
      exact cons head rest (inductionHypothesis _ (by omega) _ rfl)

theorem eraseDups_sublist (values : List Float) : values.eraseDups.Sublist values := by
  induction values using firsts_induction with
  | nil => exact .slnil
  | cons head rest inductionHypothesis =>
    rw [List.eraseDups_cons]
    exact (inductionHypothesis.trans List.filter_sublist).cons_cons head

/-- No double is kept that equals an earlier one. -/
theorem eraseDups_pairwise (values : List Float) :
    values.eraseDups.Pairwise fun earlier later => (earlier == later) = false := by
  induction values using firsts_induction with
  | nil => exact .nil
  | cons head rest inductionHypothesis =>
    rw [List.eraseDups_cons]
    refine .cons (fun later member => ?_) inductionHypothesis
    have kept := (List.mem_filter.mp ((eraseDups_sublist _).subset member)).2
    rw [Double.beq_comm]
    simpa using kept

/-- What comes before the first failure of a test still does when those that were left out are back,
if none of them fails the test. -/
theorem mem_takeWhile_of_filter {kept test : Float → Bool}
    (passing : ∀ value ∈ values, kept value = false → test value = true)
    (member : delta ∈ (values.filter kept).takeWhile test) : delta ∈ values.takeWhile test := by
  induction values with
  | nil => exact member
  | cons head rest inductionHypothesis =>
    obtain ⟨ofHead, ofRest⟩ := List.forall_mem_cons.mp passing
    rw [List.filter_cons] at member
    split at member
    case isTrue =>
      rw [List.takeWhile_cons] at member ⊢
      split at member
      case isTrue passes =>
        rw [if_pos passes]
        exact (List.mem_cons.mp member).elim (fun same => same ▸ List.mem_cons_self)
          fun later => List.mem_cons_of_mem _ (inductionHypothesis ofRest later)
      case isFalse => cases member
    case isFalse leftOut =>
      rw [List.takeWhile_cons, if_pos (ofHead (Bool.eq_false_iff.mpr leftOut))]
      exact List.mem_cons_of_mem _ (inductionHypothesis ofRest member)

/-- A double that is kept comes before every equal of those that are kept behind it. -/
theorem eraseDups_ordered (values : List Float) :
    values.eraseDups.Pairwise fun earlier later =>
      earlier ∈ values.takeWhile fun value => !value == later := by
  induction values using firsts_induction with
  | nil => exact .nil
  | cons head rest inductionHypothesis =>
    have apart := eraseDups_pairwise (head :: rest)
    rw [List.eraseDups_cons, List.pairwise_cons] at apart ⊢
    refine ⟨fun later member => ?_, ?_⟩
    · rw [List.takeWhile_cons, apart.1 later member]
      exact List.mem_cons_self
    · refine inductionHypothesis.imp_of_mem fun {earlier later} _ member before => ?_
      rw [List.takeWhile_cons, apart.1 later member]
      refine List.mem_cons_of_mem _ (mem_takeWhile_of_filter (fun value _ leftOut => ?_) before)
      have equal : (value == head) = true := by simpa using leftOut
      rw [Double.beq_congr equal, apart.1 later member]
      rfl

/-- The first double that equals another one is kept. -/
theorem find?_eraseDups (values : List Float) (value : Float) :
    values.eraseDups.find? (· == value) = values.find? (· == value) := by
  induction values using firsts_induction with
  | nil => rfl
  | cons head rest inductionHypothesis =>
    rw [List.eraseDups_cons, List.find?_cons, List.find?_cons, inductionHypothesis,
      List.find?_filter]
    by_cases found : (head == value) = true
    · rw [found]
    · simp only [found]
      refine congrArg (fun test => rest.find? test) (funext fun other => ?_)
      by_cases equal : (other == head) = true
      · rw [Double.beq_congr equal value, equal]
        simpa using found
      · simp [equal]

/-- Whether doubles are numbers may be asked before or after. -/
theorem filter_eraseDups (values : List Float) :
    values.eraseDups.filter (fun value => !value.isNaN)
      = (values.filter fun value => !value.isNaN).eraseDups := by
  induction values using firsts_induction with
  | nil => rfl
  | cons head rest inductionHypothesis =>
    rw [List.eraseDups_cons, List.filter_cons, List.filter_cons, inductionHypothesis,
      List.filter_filter]
    split
    case isTrue =>
      rw [List.eraseDups_cons, List.filter_filter]
      simp only [Bool.and_comm]
    case isFalse isNaN =>
      refine congrArg List.eraseDups (List.filter_congr fun value _ => ?_)
      have apart : (value == head) = false := by
        refine Bool.eq_false_iff.mpr fun equal => isNaN ?_
        rw [(Double.isNaN_eq_of_beq equal).2]
        rfl
      rw [apart]
      simp

/-! ## References -/

/-- References are added for the first occurrences of what has none. -/
theorem foldl_addReference (approached : Float → Float) (deltas : List Float)
    (references : List Reference) :
    deltas.foldl (addReference approached) references
      = references ++ (deltas.filter fun delta =>
          !references.any fun reference => reference.delta == delta).eraseDups.map
            fun delta => ⟨delta, approached delta⟩ := by
  induction deltas generalizing references with
  | nil => simp
  | cons delta rest inductionHypothesis =>
    rw [List.foldl_cons, inductionHypothesis, addReference, List.filter_cons]
    split
    case isTrue found => simp [found]
    case isFalse new =>
      have others : (rest.filter fun other => !(references ++
            [(⟨delta, approached delta⟩ : Reference)]).any fun reference =>
              reference.delta == other)
          = (rest.filter fun other => !references.any fun reference =>
              reference.delta == other).filter fun other => !other == delta := by
        rw [List.filter_filter]
        refine List.filter_congr fun other _ => ?_
        rw [Double.beq_comm other delta]
        simp [Bool.and_comm]
      rw [others, if_pos (by simpa using new), List.eraseDups_cons, List.map_cons,
        List.append_assoc, List.singleton_append]

/-- There is one reference for each first occurrence of a Δ/T value. -/
theorem referencesBy_eq (approached : Float → Float) (series : List Trend.Series) :
    referencesBy approached series
      = (series.filterMap Trend.Series.delta).eraseDups.map
          fun delta => ⟨delta, approached delta⟩ := by
  rw [referencesBy, foldl_addReference]
  simp

/-- Values that are the first ones of their kind among others, in the order in which they
appear there. -/
structure Firsts (firsts values : List Float) : Prop where
  /-- Each of them appears before any value that equals a later one. -/
  ordered : firsts.Pairwise fun earlier later =>
    earlier ∈ values.takeWhile fun value => !value == later
  /-- No two of them are equal. -/
  apart : firsts.Pairwise fun earlier later => (earlier == later) = false
  /-- Every value equals one of them. -/
  covers : ∀ value ∈ values, ∃ first ∈ firsts, (first == value) = true
  /-- None of them has an equal before it. -/
  earliest : ∀ first ∈ firsts, values.find? (· == first) = some first

/-- Among numbers the first occurrences are the first ones of their kind. -/
theorem firsts_eraseDups (numbers : ∀ value ∈ values, value.isNaN = false) :
    Firsts values.eraseDups values where
  ordered := eraseDups_ordered values
  apart := eraseDups_pairwise values
  covers := by
    intro value member
    have present : (values.find? (· == value)).isSome = true :=
      List.find?_isSome.mpr ⟨value, member, Double.beq_refl (numbers value member)⟩
    obtain ⟨first, found⟩ := Option.isSome_iff_exists.mp present
    rw [← find?_eraseDups] at found
    have equal := List.find?_some found
    exact ⟨first, List.mem_of_find?_eq_some found, equal⟩
  earliest := by
    intro first member
    have isNumber := numbers first ((eraseDups_sublist values).subset member)
    have present : (values.eraseDups.find? (· == first)).isSome = true :=
      List.find?_isSome.mpr ⟨first, member, Double.beq_refl isNumber⟩
    obtain ⟨found, found_eq⟩ := Option.isSome_iff_exists.mp present
    rw [← find?_eraseDups, found_eq]
    -- Equal ones of the first occurrences are the same.
    refine congrArg some (Classical.byContradiction fun different => ?_)
    have symmetric : Std.Symm fun left right : Float => (left == right) = false :=
      ⟨fun left right apart => (Double.beq_comm right left).trans apart⟩
    have apart := (eraseDups_pairwise values).forall
      (List.mem_of_find?_eq_some found_eq) member different
    have equal := List.find?_some found_eq
    rw [apart] at equal
    cases equal

variable {series : List Trend.Series} {options : Options} {one : Trend.Series}

theorem references_ofSeries (series : List Trend.Series) :
    (Content.ofSeries series).references
      = (series.filterMap Trend.Series.delta).eraseDups.map
          fun delta => ⟨delta, Trend.convergence delta⟩ :=
  referencesBy_eq Trend.convergence series

/-- The value of a reference is that of the first Δ/T value that equals the one looked for. -/
theorem referenceValue?_ofSeries (on : options.referenceLines = true)
    (known : one.delta = some delta) :
    (Content.ofSeries series).referenceValue? options one
      = ((series.filterMap Trend.Series.delta).find? (· == delta)).map Trend.convergence := by
  rw [Content.referenceValue?, if_pos on, known, Option.bind_some, references_ofSeries,
    List.find?_map, Option.map_map]
  exact congrArg _ (find?_eraseDups _ delta)

/-- A series of the chart with a number as its Δ/T value finds a reference. -/
theorem exists_referenceValue? (member : one ∈ series) (known : one.delta = some delta)
    (isNumber : delta.isNaN = false) (on : options.referenceLines = true) :
    ∃ first, (series.filterMap Trend.Series.delta).find? (· == delta) = some first
      ∧ (Content.ofSeries series).referenceValue? options one = some (Trend.convergence first) := by
  have present : ((series.filterMap Trend.Series.delta).find? (· == delta)).isSome = true :=
    List.find?_isSome.mpr
      ⟨delta, List.mem_filterMap.mpr ⟨one, member, known⟩, Double.beq_refl isNumber⟩
  obtain ⟨first, found⟩ := Option.isSome_iff_exists.mp present
  refine ⟨first, found, ?_⟩
  rw [referenceValue?_ofSeries on known, found, Option.map_some]

/-- Without a number as its Δ/T value a series finds no reference. -/
theorem referenceValue?_eq_none (unknown : ∀ delta, one.delta = some delta → delta.isNaN = true) :
    (Content.ofSeries series).referenceValue? options one = none := by
  cases on : options.referenceLines with
  | false =>
    rw [Content.referenceValue?, on]
    rfl
  | true =>
    cases known : one.delta with
    | none =>
      rw [Content.referenceValue?, known]
      exact ite_self none
    | some delta =>
      have missing : (series.filterMap Trend.Series.delta).find? (· == delta) = none := by
        refine List.find?_eq_none.mpr fun value _ equal => ?_
        have isNumber := (Double.isNaN_eq_of_beq equal).2
        rw [unknown delta known] at isNumber
        cases isNumber
      rw [referenceValue?_ofSeries on known, missing, Option.map_none]

/-- The Δ/T values of the references, as far as they are numbers, are the first ones of their kind
among those of the series. -/
theorem firsts_references (series : List Trend.Series) :
    Firsts
      (((Content.ofSeries series).references.filter fun reference =>
        !reference.delta.isNaN).map Reference.delta)
      ((series.filterMap Trend.Series.delta).filter fun delta => !delta.isNaN) := by
  have deltas : ((Content.ofSeries series).references.filter fun reference =>
        !reference.delta.isNaN).map Reference.delta
      = ((series.filterMap Trend.Series.delta).filter fun delta => !delta.isNaN).eraseDups := by
    rw [← filter_eraseDups, references_ofSeries, List.filter_map, List.map_map]
    exact List.map_id _
  rw [deltas]
  refine firsts_eraseDups fun value member => ?_
  simpa using (List.mem_filter.mp member).2

/-- A chart shows its series as they are. Its references, as far as their Δ/T values are numbers,
are those of the first series of each distinct value, in their order. Every series with a
Δ/T value that is a number finds the reference of the first one that equals it, if references are
drawn; any other series finds none. -/
theorem ofSeries_references (series : List Trend.Series) :
    (Content.ofSeries series).series = series
    ∧ Firsts
        (((Content.ofSeries series).references.filter fun reference =>
          !reference.delta.isNaN).map Reference.delta)
        ((series.filterMap Trend.Series.delta).filter fun delta => !delta.isNaN)
    ∧ (∀ reference ∈ (Content.ofSeries series).references,
        reference.value = Trend.convergence reference.delta)
    ∧ ∀ options : Options,
      (∀ one ∈ series, ∀ delta, one.delta = some delta → delta.isNaN = false →
        options.referenceLines = true →
        ∃ first, (series.filterMap Trend.Series.delta).find? (· == delta) = some first
          ∧ (Content.ofSeries series).referenceValue? options one
            = some (Trend.convergence first))
      ∧ ∀ one : Trend.Series,
        options.referenceLines = false ∨ (∀ delta, one.delta = some delta → delta.isNaN = true) →
        (Content.ofSeries series).referenceValue? options one = none := by
  refine ⟨rfl, firsts_references series, fun reference member => ?_, fun options => ⟨?_, ?_⟩⟩
  · rw [references_ofSeries] at member
    obtain ⟨delta, -, rfl⟩ := List.mem_map.mp member
    rfl
  · intro one member delta
    exact exists_referenceValue? member
  · rintro one (off | unknown)
    · rw [Content.referenceValue?, off]
      rfl
    · exact referenceValue?_eq_none unknown

end DeltaStudy.Chart
