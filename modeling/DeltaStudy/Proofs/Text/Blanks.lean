import Mathlib.Data.List.DropRight
import DeltaStudy.Text.Blank
import DeltaStudy.Text.Split

/-!
# Laws of trimming

Trimming leaves nothing to trim, and it does not matter whether the letters of ASCII
are put in lower case before or after. Blanks around a text do not matter either.
-/

namespace DeltaStudy.Text

/-- The code of a letter in lower case. -/
theorem toNat_toLower (character : Char) :
    character.toLower.toNat
      = if 65 ≤ character.toNat ∧ character.toNat ≤ 90 then character.toNat + 32
        else character.toNat := by
  have capital : (character.val ≥ 'A'.val ∧ character.val ≤ 'Z'.val)
      ↔ 65 ≤ character.toNat ∧ character.toNat ≤ 90 := Iff.rfl
  unfold Char.toLower
  by_cases upper : character.val ≥ 'A'.val ∧ character.val ≤ 'Z'.val
  · have shift : ('a'.val - 'A'.val).toNat = 32 := rfl
    rw [dif_pos upper, if_pos (capital.mp upper)]
    show (character.val + ('a'.val - 'A'.val)).toNat = character.val.toNat + 32
    have bound : character.val.toNat ≤ 90 := (capital.mp upper).2
    rw [UInt32.toNat_add, shift]
    omega
  · rw [dif_neg upper, if_neg (mt capital.mpr upper)]

theorem toLower_toLower (character : Char) :
    character.toLower.toLower = character.toLower := by
  apply Char.toNat_inj.mp
  rw [toNat_toLower, toNat_toLower]
  split
  · rw [if_neg (by omega)]
  · rfl

/-- A character that is not a letter is nothing else in lower case. -/
theorem eq_slash_of_toLower {character : Char} (slash : character.toLower = '/') :
    character = '/' := by
  have code : character.toLower.toNat = 47 := congrArg Char.toNat slash
  apply Char.toNat_inj.mp
  rw [toNat_toLower] at code
  split at code
  · omega
  · exact code

theorem isBlank_toLower (character : Char) : isBlank character.toLower = isBlank character := by
  unfold isBlank
  rw [toNat_toLower]
  split
  · rename_i capital
    generalize character.toNat = code at capital
    rw [Bool.eq_iff_iff]
    simp only [Bool.or_eq_true, Bool.and_eq_true, decide_eq_true_eq, beq_iff_eq]
    omega
  · rfl

theorem trimmed_map_toLower (text : List Char) :
    trimmed (text.map Char.toLower) = (trimmed text).map Char.toLower := by
  have same : isBlank ∘ Char.toLower = isBlank := funext isBlank_toLower
  unfold trimmed dropTrailingBlanks dropLeadingBlanks
  rw [List.dropWhile_map, same, ← List.map_reverse, List.dropWhile_map, same, ← List.map_reverse]

/-- A text that does not start with a blank has none in front once those behind it are
gone. -/
theorem dropLeadingBlanks_dropTrailingBlanks {text : List Char}
    (clear : dropLeadingBlanks text = text) :
    dropLeadingBlanks (dropTrailingBlanks text) = dropTrailingBlanks text := by
  have start : dropTrailingBlanks text <+: text := List.rdropWhile_prefix isBlank text
  cases kept : dropTrailingBlanks text with
  | nil => rfl
  | cons first rest =>
    obtain ⟨blanks, spelled⟩ := kept ▸ start
    rw [← spelled, dropLeadingBlanks, List.cons_append, List.dropWhile_cons] at clear
    cases blank : isBlank first with
    | false => exact List.dropWhile_cons_of_neg (by simp [blank])
    | true =>
      -- Dropping a blank would have left less than there is.
      rw [if_pos blank] at clear
      have suffix : (rest ++ blanks).dropWhile isBlank <:+ rest ++ blanks :=
        List.dropWhile_suffix isBlank
      have shorter := suffix.length_le
      rw [clear, List.length_cons] at shorter
      omega

theorem trimmed_trimmed (text : List Char) : trimmed (trimmed text) = trimmed text := by
  have clear : dropLeadingBlanks (dropLeadingBlanks text) = dropLeadingBlanks text :=
    List.dropWhile_idempotent isBlank text
  rw [trimmed, trimmed, dropLeadingBlanks_dropTrailingBlanks clear]
  exact List.rdropWhile_idempotent isBlank _

/-- Trimming puts nothing into a text. -/
theorem mem_of_mem_trimmed {text : List Char} {character : Char}
    (member : character ∈ trimmed text) : character ∈ text := by
  have front : dropLeadingBlanks text <:+ text := List.dropWhile_suffix isBlank
  have back : trimmed text <+: dropLeadingBlanks text := List.rdropWhile_prefix isBlank _
  exact front.subset (back.subset member)

/-- Nothing is left of a text exactly if there is nothing but blanks in it. -/
theorem trimmed_eq_nil_iff {text : List Char} :
    trimmed text = [] ↔ ∀ character ∈ text, isBlank character = true := by
  have split : text.takeWhile isBlank ++ dropLeadingBlanks text = text :=
    List.takeWhile_append_dropWhile
  have behind : trimmed text = []
      ↔ ∀ character ∈ dropLeadingBlanks text, isBlank character = true :=
    List.rdropWhile_eq_nil_iff
  rw [behind, ← split, List.forall_mem_append, split]
  exact ⟨fun all => ⟨fun _ => List.mem_takeWhile_imp, all⟩, And.right⟩

/-- Blanks behind a text are dropped with those that the text ends with. -/
theorem dropTrailingBlanks_append {blanks : List Char} (text : List Char)
    (all : ∀ character ∈ blanks, isBlank character = true) :
    dropTrailingBlanks (text ++ blanks) = dropTrailingBlanks text := by
  rw [dropTrailingBlanks, List.reverse_append,
    List.dropWhile_append_of_pos fun character member => all character (List.mem_reverse.mp member),
    dropTrailingBlanks]

/-- What ends as a text does that has no blanks behind it has none either. -/
theorem dropTrailingBlanks_of_suffix {text rest : List Char} (suffix : rest <:+ text)
    (clear : dropTrailingBlanks text = text) : dropTrailingBlanks rest = rest := by
  refine List.rdropWhile_eq_self_iff.mpr fun nonempty => ?_
  rw [suffix.getLast nonempty]
  exact List.rdropWhile_eq_self_iff.mp clear _

/-- Blanks around a text are not part of what is left of it. -/
theorem trimmed_padded {front back : List Char} (text : List Char)
    (allFront : ∀ character ∈ front, isBlank character = true)
    (allBack : ∀ character ∈ back, isBlank character = true) :
    trimmed (front ++ text ++ back) = trimmed text := by
  have nothing : back.dropWhile isBlank = [] :=
    List.dropWhile_eq_nil_iff.mpr allBack
  rw [trimmed, dropLeadingBlanks, List.append_assoc, List.dropWhile_append_of_pos allFront,
    List.dropWhile_append]
  split
  case isTrue empty =>
    rw [nothing, trimmed, dropLeadingBlanks, List.isEmpty_iff.mp empty]
  case isFalse => exact dropTrailingBlanks_append _ allBack

end DeltaStudy.Text
