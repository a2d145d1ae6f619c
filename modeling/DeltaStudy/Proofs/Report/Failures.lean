import Mathlib.Data.List.SplitBy
import DeltaStudy.Proofs.Numeral.Texts
import DeltaStudy.Report.Campaign

/-!
# Failures in a summary

A summary ends with the failures of the runs. Their texts come from a simulator and may have
any lines, also such that look like the start of an entry. In a summary only the first line of
a failure is not indented, so the entries can be told apart and every failure can be read
again; only the blanks behind it are lost.

Reading a summary is not something a campaign does. It is defined here to say that nothing
in a summary is ambiguous.
-/

namespace DeltaStudy.Report

open Campaign (Outcome Tally)
open Text (Unbroken brokenLines endsLine indentation linesOf splitAt written)

/-! ## Reading a summary -/

/-- The line in front of the failures. -/
def failureHeading : String := "Failures:"

/-- The lines behind the heading of the failures, if there is one. -/
def failureLines? (summary : String) : Option (List String) :=
  match (linesOf summary).dropWhile (· != failureHeading) with
  | [] => none
  | _ :: behind => some behind

/-- Whether a line starts an entry. -/
def startsEntry (line : String) : Bool :=
  "- Δ/T=".toList.isPrefixOf line.toList

/-- Lines cut in front of every line that starts an entry. -/
def entriesIn (lines : List String) : List (List String) :=
  lines.splitBy fun _ next => !startsEntry next

/-- What stands behind the first colon that a blank follows. -/
def behindColon : List Char → List Char
  | [] => []
  | ':' :: ' ' :: rest => rest
  | _ :: rest => behindColon rest

/-- The failure that an entry tells: its first line from the colon on, and its other lines
without the four characters that indent them. -/
def failureIn : List String → String
  | [] => ""
  | first :: others =>
    Text.joined "\n"
      (String.ofList (behindColon first.toList)
        :: others.map fun line => String.ofList (line.toList.drop 4))

/-! ## Lines in front of the failures -/

theorem unbroken_padded (count value : Nat) : Unbroken (padded count value) := by
  intro member
  rw [padded, String.toList_ofList] at member
  exact absurd (Numeral.isDigit_of_mem_padded member) (by decide)

theorem Moment.unbroken_text (moment : Moment) : Unbroken moment.text := by
  have date : Unbroken (Text.joined "-"
      [padded 4 moment.year, padded 2 moment.month, padded 2 moment.day]) :=
    .joined (by decide) (by simp [unbroken_padded])
  have time : Unbroken (Text.joined ":"
      [padded 2 moment.hour, padded 2 moment.minute, padded 2 moment.second]) :=
    .joined (by decide) (by simp [unbroken_padded])
  exact (date.append (by decide)).append time

theorem unbroken_deltasText (deltas : List Float) : Unbroken (deltasText deltas) := by
  have values : Unbroken (Text.joined ", " (deltas.map Numeral.shortest)) :=
    .joined (by decide) (List.forall_mem_map.mpr fun value _ => Numeral.unbroken_shortest value)
  exact (Unbroken.append (by decide) values).append (by decide)

/-- A text that starts otherwise is another one. -/
theorem append_ne_of_not_prefix {front whole : String}
    (apart : front.toList.isPrefixOf whole.toList = false) (rest : String) :
    front ++ rest ≠ whole := by
  rintro rfl
  rw [← Bool.not_eq_true, List.isPrefixOf_iff_prefix, String.toList_append] at apart
  exact apart (List.prefix_append _ _)

/-- In front of the failures there are whole lines, and none of them is the heading. -/
theorem exists_front_summary (tally : Tally) (finished : Moment) :
    ∃ front, summary tally finished = written (front ++ failureSection tally)
      ∧ ∀ line ∈ front, Unbroken line ∧ line ≠ failureHeading := by
  refine ⟨_, rfl, ?_⟩
  simp only [List.forall_mem_cons, String.append_assoc]
  refine ⟨⟨by decide, by decide⟩, ⟨?_, ?_⟩, ⟨?_, ?_⟩, ⟨?_, ?_⟩, ⟨?_, ?_⟩, List.forall_mem_nil _⟩
  · exact .append (by decide) finished.unbroken_text
  · exact append_ne_of_not_prefix (by decide) _
  · have count (value : Nat) := Numeral.unbroken_decimalText value
    exact .append (by decide) (.append (count _) (.append (by decide) (.append (count _)
      (.append (by decide) (count _)))))
  · exact append_ne_of_not_prefix (by decide) _
  · exact .append (by decide) (unbroken_deltasText _)
  · exact append_ne_of_not_prefix (by decide) _
  · exact .append (by decide) (unbroken_deltasText _)
  · exact append_ne_of_not_prefix (by decide) _

/-! ## Entries -/

/-- Lines of which the first one starts an entry and the others are indented. -/
inductive IsEntry : List String → Prop where
  | intro {first : String} {others : List String} (starts : startsEntry first = true)
      (indented : ∀ line ∈ others, indentation <+: line.toList) : IsEntry (first :: others)

theorem not_startsEntry_of_indented {line : String} (indented : indentation <+: line.toList) :
    startsEntry line = false := by
  obtain ⟨rest, spelled⟩ := indented
  rw [startsEntry, ← spelled]
  rfl

/-- Behind an entry the next one is found. -/
theorem entriesIn_append {entry rest : List String} (isEntry : IsEntry entry)
    (next : ∀ line ∈ rest.head?, startsEntry line = true) :
    entriesIn (entry ++ rest) = entry :: entriesIn rest := by
  obtain ⟨starts, indented⟩ := isEntry
  rename_i first others
  have chain : (first :: others).IsChain fun _ line => !startsEntry line := by
    clear starts
    induction others generalizing first with
    | nil => exact .singleton _
    | cons second more inductionHypothesis =>
      rw [List.forall_mem_cons] at indented
      refine .cons_cons ?_ (inductionHypothesis indented.2)
      rw [not_startsEntry_of_indented indented.1]
      rfl
  have apart : ∀ last ∈ (first :: others).getLast?, ∀ line ∈ rest.head?,
      (!startsEntry line) = false := by
    intro last _ line isNext
    rw [next line isNext]
    rfl
  rw [entriesIn, List.splitBy_append apart, List.splitBy_of_isChain (List.cons_ne_nil _ _) chain]
  rfl

/-- Entries one after the other are read as these entries. -/
theorem entriesIn_flatten {entries : List (List String)} (all : ∀ entry ∈ entries, IsEntry entry) :
    entriesIn entries.flatten = entries := by
  induction entries with
  | nil => rfl
  | cons entry rest inductionHypothesis =>
    rw [List.forall_mem_cons] at all
    have next : ∀ line ∈ rest.flatten.head?, startsEntry line = true := by
      cases rest with
      | nil => simp
      | cons second more =>
        obtain ⟨starts, -⟩ := all.2 second List.mem_cons_self
        simpa using starts
    rw [List.flatten_cons, entriesIn_append all.1 next, inductionHypothesis all.2]

theorem filter_startsEntry_entry {first : String} {others rest : List String}
    (starts : startsEntry first = true) (indented : ∀ line ∈ others, indentation <+: line.toList) :
    ((first :: others) ++ rest).filter startsEntry = first :: rest.filter startsEntry := by
  have none : others.filter startsEntry = [] := by
    rw [List.filter_eq_nil_iff]
    intro line member
    simp [not_startsEntry_of_indented (indented line member)]
  rw [List.filter_append, List.filter_cons_of_pos starts, none, List.singleton_append]

/-! ## The entry of a failed run -/

/-- What the first line of an entry says before the failure. -/
def entryFront (outcome : Outcome) : String :=
  "- Δ/T=" ++ Numeral.shortest outcome.delta ++ ": "

theorem behindColon_append {front : List Char} (clear : ':' ∉ front) (rest : List Char) :
    behindColon (front ++ ':' :: ' ' :: rest) = rest := by
  induction front with
  | nil => rfl
  | cons character more inductionHypothesis =>
    rw [List.mem_cons, not_or] at clear
    rw [List.cons_append, behindColon, inductionHypothesis clear.2]
    rintro _ rfl
    exact absurd rfl clear.1

theorem behindColon_entryFront (outcome : Outcome) (rest : List Char) :
    behindColon ((entryFront outcome).toList ++ rest) = rest := by
  have clear : ':' ∉ ("- Δ/T=" ++ Numeral.shortest outcome.delta).toList := by
    rw [String.toList_append, List.mem_append, not_or]
    refine ⟨by decide, fun member => ?_⟩
    exact absurd (Numeral.isPartOfText_of_mem_shortest member) (by decide)
  rw [entryFront, String.toList_append, List.append_assoc]
  exact behindColon_append clear rest

theorem unbroken_entryFront (outcome : Outcome) : Unbroken (entryFront outcome) :=
  (Unbroken.append (by decide) (Numeral.unbroken_shortest _)).append (by decide)

/-- The lines of an entry: the first piece of the failure behind the front of the entry, and
every other piece indented. -/
theorem brokenLines_failureEntry {outcome : Outcome} {first : List Char}
    {others : List (List Char)}
    (split : splitAt endsLine (Text.dropTrailingBlanks (reasonOf outcome).toList)
      = first :: others) :
    brokenLines (failureEntry outcome)
      = String.ofList ((entryFront outcome).toList ++ first)
        :: others.map fun piece => String.ofList (indentation ++ piece) := by
  have spelled : (failureEntry outcome).toList = (entryFront outcome).toList
      ++ (Text.dropTrailingBlanks (reasonOf outcome).toList).flatMap Text.indentedCharacter := by
    rw [failureEntry, ← entryFront, Text.indented, String.toList_append, String.toList_ofList]
  rw [brokenLines, spelled, Text.splitAt_append_of_unbroken (unbroken_entryFront outcome)
    (Text.splitAt_indented split), List.map_cons, List.map_map, Function.comp_def]

theorem startsEntry_entryFront (outcome : Outcome) (rest : List Char) :
    startsEntry (String.ofList ((entryFront outcome).toList ++ rest)) = true := by
  have spelled : (String.ofList ((entryFront outcome).toList ++ rest)).toList
      = "- Δ/T=".toList ++ ((Numeral.shortest outcome.delta ++ ": ").toList ++ rest) := by
    rw [entryFront, String.append_assoc, String.toList_append, List.append_assoc]
    exact String.toList_ofList
  rw [startsEntry, spelled, List.isPrefixOf_iff_prefix]
  exact List.prefix_append _ _

theorem isEntry_failureEntry (outcome : Outcome) :
    IsEntry (brokenLines (failureEntry outcome)) := by
  obtain ⟨first, others, split⟩ := List.exists_cons_of_ne_nil
    (Text.splitAt_ne_nil endsLine (Text.dropTrailingBlanks (reasonOf outcome).toList))
  rw [brokenLines_failureEntry split]
  refine .intro (startsEntry_entryFront outcome first) (List.forall_mem_map.mpr fun piece _ => ?_)
  rw [String.toList_ofList]
  exact List.prefix_append _ _

/-- The failure is read from its entry. -/
theorem failureIn_failureEntry (outcome : Outcome) :
    failureIn (brokenLines (failureEntry outcome)) = Text.trimEnd (reasonOf outcome) := by
  obtain ⟨first, others, split⟩ := List.exists_cons_of_ne_nil
    (Text.splitAt_ne_nil endsLine (Text.dropTrailingBlanks (reasonOf outcome).toList))
  have pieces : (others.map fun piece => String.ofList (indentation ++ piece)).map
      (fun line => String.ofList (line.toList.drop 4)) = others.map String.ofList := by
    rw [List.map_map]
    refine List.map_congr_left fun piece _ => ?_
    rw [Function.comp_apply, String.toList_ofList]
    rfl
  rw [brokenLines_failureEntry split, failureIn, String.toList_ofList, behindColon_entryFront,
    pieces, ← String.toList_inj, Text.joined, String.toList_intercalate, Text.trimEnd,
    String.toList_ofList, ← Text.intercalate_splitAt (Text.dropTrailingBlanks _), split]
  simp

/-! ## Failures in a summary -/

/-- Lines that tell the failures of outcomes. -/
structure TellsFailures (failed : List Outcome) (lines : List String) : Prop where
  /-- One line for each outcome starts an entry, in the order of the outcomes. -/
  starts : List.Forall₂
    (fun line outcome => ∃ told, line = "- Δ/T=" ++ Numeral.shortest outcome.delta ++ ": " ++ told)
    (lines.filter startsEntry) failed
  indented : ∀ line ∈ lines, startsEntry line = false → [' ', ' ', ' ', ' '] <+: line.toList
  /-- Every failure is read again, without the blanks behind it. -/
  failures : (entriesIn lines).map failureIn
    = failed.map fun outcome => Text.trimEnd (outcome.failure.getD "unknown failure")

theorem tellsFailures_entries (failed : List Outcome) :
    TellsFailures failed (failed.flatMap fun outcome => brokenLines (failureEntry outcome)) where
  starts := by
    induction failed with
    | nil => exact .nil
    | cons outcome rest inductionHypothesis =>
      obtain ⟨first, others, split⟩ := List.exists_cons_of_ne_nil
        (Text.splitAt_ne_nil endsLine (Text.dropTrailingBlanks (reasonOf outcome).toList))
      have isEntry := isEntry_failureEntry outcome
      rw [List.flatMap_cons, brokenLines_failureEntry split] at *
      obtain ⟨starts, indented⟩ := isEntry
      rw [filter_startsEntry_entry starts indented]
      refine .cons ⟨String.ofList first, ?_⟩ inductionHypothesis
      rw [← entryFront, String.ofList_append, String.ofList_toList]
  indented := by
    intro line member none
    obtain ⟨outcome, -, isLine⟩ := List.mem_flatMap.mp member
    have isEntry := isEntry_failureEntry outcome
    generalize brokenLines (failureEntry outcome) = entry at isEntry isLine
    obtain ⟨starts, indented⟩ := isEntry
    rcases List.mem_cons.mp isLine with rfl | isOther
    · rw [starts] at none
      cases none
    · exact indented line isOther
  failures := by
    rw [List.flatMap_def, entriesIn_flatten, List.map_map]
    · exact List.map_congr_left fun outcome _ => failureIn_failureEntry outcome
    · exact List.forall_mem_map.mpr fun outcome _ => isEntry_failureEntry outcome

/-- What stands behind the heading are the entries of the failed runs. -/
theorem failureLines?_summary (tally : Tally) (finished : Moment) :
    failureLines? (summary tally finished)
      = if tally.failed = [] then none
        else some (tally.failed.flatMap fun outcome => brokenLines (failureEntry outcome)) := by
  obtain ⟨front, spelled, whole⟩ := exists_front_summary tally finished
  have others : ∀ line ∈ front, (line != failureHeading) = true := by
    intro line member
    simpa using (whole line member).2
  have lines : linesOf (summary tally finished)
      = front ++ (failureSection tally).flatMap brokenLines := by
    rw [spelled, Text.linesOf_written, List.flatMap_append,
      Text.flatMap_brokenLines_of_unbroken fun line member => (whole line member).1]
  rw [failureLines?, lines, List.dropWhile_append_of_pos others, failureSection]
  by_cases none : tally.failed = []
  · rw [if_pos none, none]
    rfl
  · rw [if_neg none, if_neg (by simpa using none), List.flatMap_cons, List.flatMap_cons,
      List.flatMap_map, Text.brokenLines_of_unbroken (by decide),
      Text.brokenLines_of_unbroken (by decide)]
    rfl

/-- A summary has a heading for failures exactly if there are failed runs. The lines behind it
tell the failures, whatever lines are in them. -/
theorem summary_failures (tally : Tally) (finished : Moment) :
    match failureLines? (summary tally finished) with
    | none => tally.failed = []
    | some lines => tally.failed ≠ [] ∧ TellsFailures tally.failed lines := by
  rw [failureLines?_summary]
  by_cases none : tally.failed = []
  · rw [if_pos none]
    exact none
  · rw [if_neg none]
    exact ⟨none, tellsFailures_entries tally.failed⟩

end DeltaStudy.Report
