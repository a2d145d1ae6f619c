import DeltaStudy.Proofs.Text.Blanks
import DeltaStudy.Proofs.Text.Utf8

/-!
# Plain texts

A plain text has only characters of ASCII that show, and no comma or quote among them.
There is nothing to trim in it, and whether a text is plain does not depend on the case
of its letters.
-/

namespace DeltaStudy.Text

/-- Whether a character of ASCII shows and is no comma or quote. -/
def isPlain (character : Char) : Bool :=
  0x21 ≤ character.toNat && character.toNat ≤ 0x7e
    && character.toNat != ','.toNat && character.toNat != '"'.toNat

theorem isPlain_iff {character : Char} :
    isPlain character = true ↔ 0x21 ≤ character.toNat ∧ character.toNat ≤ 0x7e
      ∧ character.toNat ≠ 44 ∧ character.toNat ≠ 34 := by
  have comma : ','.toNat = 44 := rfl
  have quote : '"'.toNat = 34 := rfl
  simp [isPlain, comma, quote, and_assoc]

theorem isPlain_toLower (character : Char) : isPlain character.toLower = isPlain character := by
  rw [Bool.eq_iff_iff, isPlain_iff, isPlain_iff, toNat_toLower]
  split
  · omega
  · rfl

theorem isBlank_of_isPlain {character : Char} (plain : isPlain character = true) :
    isBlank character = false := by
  rw [isPlain_iff] at plain
  simp only [isBlank, Bool.or_eq_false_iff, Bool.and_eq_false_iff, decide_eq_false_iff_not,
    beq_eq_false_iff_ne]
  omega

/-- A text that is not empty and has plain characters only. -/
structure Plain (text : String) : Prop where
  nonempty : text ≠ ""
  characters : ∀ character ∈ text.toList, isPlain character = true

/-- Nothing is dropped in front of what does not start with it. -/
theorem dropWhile_of_clear {α : Type} {drops : α → Bool} {list : List α}
    (clear : ∀ element ∈ list, drops element = false) : list.dropWhile drops = list := by
  cases list with
  | nil => rfl
  | cons head tail =>
    exact List.dropWhile_cons_of_neg (by simp [clear head List.mem_cons_self])

/-- What does not start with something that is dropped is kept, whatever stands in front. -/
theorem dropWhile_append_cons {α : Type} {drops : α → Bool} {first : α}
    (stays : drops first = false) (front rest : List α) :
    (front ++ first :: rest).dropWhile drops = front.dropWhile drops ++ first :: rest := by
  rw [List.dropWhile_append]
  split
  case isTrue empty =>
    rw [List.isEmpty_iff.mp empty, List.nil_append]
    exact List.dropWhile_cons_of_neg (by simp [stays])
  case isFalse => rfl

namespace Plain

variable {text : String}

theorem trimmed_eq (plain : Plain text) : trimmed text.toList = text.toList := by
  have clear : ∀ character ∈ text.toList, isBlank character = false :=
    fun character member => isBlank_of_isPlain (plain.characters character member)
  have clear' : ∀ character ∈ text.toList.reverse, isBlank character = false :=
    fun character member => clear character (List.mem_reverse.mp member)
  rw [trimmed, dropLeadingBlanks, dropWhile_of_clear clear, dropTrailingBlanks,
    dropWhile_of_clear clear', List.reverse_reverse]

theorem trim_eq (plain : Plain text) : trim text = text := by
  rw [trim, plain.trimmed_eq, String.ofList_toList]

/-- A text is plain if it is in lower case. -/
theorem of_lowercase (plain : Plain (lowercase text)) : Plain text := by
  refine ⟨?_, fun character member => ?_⟩
  · rintro rfl
    exact plain.nonempty rfl
  · rw [← isPlain_toLower]
    refine plain.characters _ ?_
    rw [lowercase, String.toList_ofList]
    exact List.mem_map_of_mem member

theorem encodeUtf8_eq (plain : Plain text) :
    encodeUtf8 text = text.toList.map fun character => .ofNat character.toNat := by
  refine encodeUtf8_ascii fun character member => ?_
  have bounds := isPlain_iff.mp (plain.characters character member)
  omega

/-- A byte of a plain text shows and is no comma or quote. -/
theorem of_mem_encodeUtf8 (plain : Plain text) {byte : UInt8} (member : byte ∈ encodeUtf8 text) :
    0x21 ≤ byte.toNat ∧ byte.toNat ≤ 0x7e ∧ byte.toNat ≠ 44 ∧ byte.toNat ≠ 34 := by
  rw [plain.encodeUtf8_eq, List.mem_map] at member
  obtain ⟨character, among, rfl⟩ := member
  have bounds := isPlain_iff.mp (plain.characters character among)
  have value : (UInt8.ofNat character.toNat).toNat = character.toNat :=
    UInt8.toNat_ofNat_of_lt' (by simp only [UInt8.size]; omega)
  rwa [value]

theorem encodeUtf8_ne_nil (plain : Plain text) : encodeUtf8 text ≠ [] := by
  rw [plain.encodeUtf8_eq]
  simpa using plain.nonempty

end Plain

end DeltaStudy.Text
