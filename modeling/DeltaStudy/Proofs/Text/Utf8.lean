import Mathlib.Data.List.Basic
import DeltaStudy.Proofs.Failure
import DeltaStudy.Text.Utf8

/-!
# Texts as UTF-8

Decoding undoes encoding, for every text. A text of ASCII is encoded as the codes of its
characters, and a character of ASCII is decoded only where its code is one of the bytes.
-/

namespace DeltaStudy.Text

/-! ## Bytes of one character -/

/-- What the first byte of a character says about the bytes after it. -/
theorem continuation?_ofNat {lead : Nat} (bound : lead < 256) :
    continuation? (.ofNat lead) =
      if lead < 128 then some (0, 0x80, 0xbf)
      else if lead < 194 then none
      else if lead < 224 then some (1, 0x80, 0xbf)
      else if lead < 240 then
        some (2, if lead = 224 then 0xa0 else 0x80, if lead = 237 then 0x9f else 0xbf)
      else if lead < 245 then
        some (3, if lead = 240 then 0x90 else 0x80, if lead = 244 then 0x8f else 0xbf)
      else none := by
  have value : (UInt8.ofNat lead).toNat = lead := UInt8.toNat_ofNat_of_lt' bound
  simp only [continuation?, UInt8.lt_iff_toNat_lt, value, beq_iff_eq, ← UInt8.toNat_inj]
  grind

/-- A byte within its bounds continues a character. -/
theorem readContinuation_succ {count seen code bits : Nat} {low high : UInt8}
    {rest : List UInt8} (lower : low.toNat ≤ bits % 64 + 128)
    (upper : bits % 64 + 128 ≤ high.toNat) :
    readContinuation (count + 1) seen low high code (.ofNat (bits % 64 + 128) :: rest)
      = readContinuation count (seen + 1) 0x80 0xbf (code * 64 + bits % 64) rest := by
  have value : (UInt8.ofNat (bits % 64 + 128)).toNat = bits % 64 + 128 :=
    UInt8.toNat_ofNat_of_lt' (by simp only [UInt8.size]; omega)
  have within : (decide (low ≤ .ofNat (bits % 64 + 128))
      && decide (.ofNat (bits % 64 + 128) ≤ high)) = true := by
    simp only [UInt8.le_iff_toNat_le, value, lower, upper, decide_true, Bool.and_self]
  have payload : (bits % 64 + 128) % 64 = bits % 64 := by omega
  rw [readContinuation, if_pos within, value, payload]

/-- Behind the second byte of a character every continuing byte is within its bounds. -/
theorem readContinuation_later {count seen code bits : Nat} {rest : List UInt8} :
    readContinuation (count + 1) seen 0x80 0xbf code (.ofNat (bits % 64 + 128) :: rest)
      = readContinuation count (seen + 1) 0x80 0xbf (code * 64 + bits % 64) rest :=
  readContinuation_succ (by simp) (by simp; omega)

/-- A character is read from its first byte and the bytes that continue it. -/
theorem readCharacter_eq_ok {lead count code : Nat} {low high : UInt8} {rest : List UInt8}
    (continued : continuation? (.ofNat lead) = some (count, low, high))
    (read : readContinuation count 1 low high (leadBits count (.ofNat lead)) rest = .ok code) :
    readCharacter (.ofNat lead) rest = .ok (Char.ofNat code, count) := by
  simp only [readCharacter, continued, read]
  rfl

section Widths

variable {code : Nat} (rest : List UInt8)

theorem readCharacter_one (upper : code ≤ 127) :
    readCharacter (.ofNat code) rest = .ok (Char.ofNat code, 0) := by
  have value : (UInt8.ofNat code).toNat = code :=
    UInt8.toNat_ofNat_of_lt' (by simp only [UInt8.size]; omega)
  have lead := continuation?_ofNat (show code < 256 by omega)
  rw [if_pos (by omega)] at lead
  refine readCharacter_eq_ok lead ?_
  rw [leadBits, value, readContinuation]

theorem readCharacter_two (lower : 127 < code) (upper : code ≤ 2047) :
    readCharacter (.ofNat (code / 64 % 32 + 192)) (.ofNat (code % 64 + 128) :: rest)
      = .ok (Char.ofNat code, 1) := by
  have value : (UInt8.ofNat (code / 64 % 32 + 192)).toNat = code / 64 % 32 + 192 :=
    UInt8.toNat_ofNat_of_lt' (by simp only [UInt8.size]; omega)
  have lead := continuation?_ofNat (show code / 64 % 32 + 192 < 256 by omega)
  rw [if_neg (by omega), if_neg (by omega), if_pos (by omega)] at lead
  refine readCharacter_eq_ok lead ?_
  rw [leadBits, value, readContinuation_later, readContinuation]
  congr 1
  omega

theorem readCharacter_three (lower : 2047 < code) (upper : code ≤ 65535)
    (scalar : code < 0xd800 ∨ 0xdfff < code) :
    readCharacter (.ofNat (code / 4096 % 16 + 224))
        (.ofNat (code / 64 % 64 + 128) :: .ofNat (code % 64 + 128) :: rest)
      = .ok (Char.ofNat code, 2) := by
  have value : (UInt8.ofNat (code / 4096 % 16 + 224)).toNat = code / 4096 % 16 + 224 :=
    UInt8.toNat_ofNat_of_lt' (by simp only [UInt8.size]; omega)
  have lead := continuation?_ofNat (show code / 4096 % 16 + 224 < 256 by omega)
  rw [if_neg (by omega), if_neg (by omega), if_neg (by omega), if_pos (by omega)] at lead
  refine readCharacter_eq_ok lead ?_
  -- The bounds of the second byte leave out overlong forms and surrogates.
  rw [leadBits, value, readContinuation_succ, readContinuation_later, readContinuation]
  · congr 1
    omega
  · split
    · simp
      omega
    · simp
  · split
    · simp
      omega
    · simp
      omega

theorem readCharacter_four (lower : 65535 < code) (upper : code < 0x110000) :
    readCharacter (.ofNat (code / 262144 % 8 + 240))
        (.ofNat (code / 4096 % 64 + 128) :: .ofNat (code / 64 % 64 + 128)
          :: .ofNat (code % 64 + 128) :: rest)
      = .ok (Char.ofNat code, 3) := by
  have value : (UInt8.ofNat (code / 262144 % 8 + 240)).toNat = code / 262144 % 8 + 240 :=
    UInt8.toNat_ofNat_of_lt' (by simp only [UInt8.size]; omega)
  have lead := continuation?_ofNat (show code / 262144 % 8 + 240 < 256 by omega)
  rw [if_neg (by omega), if_neg (by omega), if_neg (by omega), if_neg (by omega),
    if_pos (by omega)] at lead
  refine readCharacter_eq_ok lead ?_
  -- The bounds of the second byte leave out overlong forms and what no character has.
  have three {bits : Nat} : leadBits 3 (.ofNat bits) = (UInt8.ofNat bits).toNat % 8 := rfl
  rw [three, value, readContinuation_succ, readContinuation_later, readContinuation_later,
    readContinuation]
  · congr 1
    omega
  · split
    · simp
      omega
    · simp
  · split
    · simp
      omega
    · simp
      omega

end Widths

/-- A character is read back from its bytes. -/
theorem readCharacter_encode (character : Char) (rest : List UInt8) :
    ∃ first more, String.utf8EncodeChar character = first :: more
      ∧ readCharacter first (more ++ rest) = .ok (character, more.length) := by
  have scalar : character.toNat < 0xd800
      ∨ (0xdfff < character.toNat ∧ character.toNat < 0x110000) := character.valid
  have back : Char.ofNat character.toNat = character := Char.ofNat_toNat character
  have encoded : String.utf8EncodeChar character = _ := String.utf8EncodeChar.eq_def character
  simp only [Char.toNat_val] at encoded
  rw [encoded]
  generalize character.toNat = code at scalar back
  subst back
  split
  · exact ⟨_, _, rfl, readCharacter_one rest (by omega)⟩
  split
  · exact ⟨_, _, rfl, readCharacter_two rest (by omega) (by omega)⟩
  split
  · exact ⟨_, _, rfl, readCharacter_three rest (by omega) (by omega) (by omega)⟩
  · exact ⟨_, _, rfl, readCharacter_four rest (by omega) (by omega)⟩

/-! ## Texts -/

/-- A byte array is listed from an index on, behind the bytes that were listed before. -/
theorem toList_loop_eq (bytes : ByteArray) (index : Nat) (seen : List UInt8) :
    ByteArray.toList.loop bytes index seen = seen.reverse ++ bytes.data.toList.drop index := by
  fun_induction ByteArray.toList.loop bytes index seen with
  | case1 index seen within inductionHypothesis =>
    have inside : index < bytes.data.toList.length := by simpa using within
    have same : bytes.get! index = bytes.data[index]! := by cases bytes; rfl
    rw [inductionHypothesis, List.drop_eq_getElem_cons inside, same,
      getElem!_pos bytes.data index within]
    simp
  | case2 index seen past =>
    rw [List.drop_eq_nil_of_le (by simpa using Nat.le_of_not_lt past), List.append_nil]

/-- The bytes of a text are those of its characters. -/
theorem encodeUtf8_eq (text : String) :
    encodeUtf8 text = text.toList.flatMap String.utf8EncodeChar := by
  rw [encodeUtf8, ByteArray.toList, toList_loop_eq, String.toUTF8,
    ← String.utf8Encode_toList (b := text), List.utf8Encode, List.data_toByteArray]
  simp

/-- Decoding takes the characters off one by one, from any index on. -/
theorem decodeFrom_encode (characters : List Char) (index fuel : Nat)
    (enough : (characters.flatMap String.utf8EncodeChar).length ≤ fuel) :
    decodeFrom index fuel (characters.flatMap String.utf8EncodeChar) = .ok characters := by
  induction characters generalizing index fuel with
  | nil => cases fuel <;> rfl
  | cons character rest inductionHypothesis =>
    obtain ⟨first, more, bytes, read⟩ :=
      readCharacter_encode character (rest.flatMap String.utf8EncodeChar)
    rw [List.flatMap_cons, bytes, List.cons_append] at enough ⊢
    obtain ⟨left, rfl⟩ : ∃ left, fuel = left + 1 :=
      Nat.exists_eq_add_one.mpr (Nat.lt_of_lt_of_le (Nat.succ_pos _) enough)
    have enoughLeft : (rest.flatMap String.utf8EncodeChar).length ≤ left := by
      simp only [List.length_cons, List.length_append] at enough
      omega
    rw [decodeFrom, read]
    simp only [List.drop_left, inductionHypothesis _ _ enoughLeft]
    rfl

/-- Decoding undoes encoding. -/
theorem decodeUtf8?_encodeUtf8 (text : String) : decodeUtf8? (encodeUtf8 text) = some text := by
  rw [decodeUtf8?, decodeUtf8, encodeUtf8_eq, decodeFrom_encode _ _ _ Nat.le.refl]
  simp

/-- A text of ASCII has a byte for each character, which is its code. -/
theorem encodeUtf8_ascii {text : String}
    (ascii : ∀ character ∈ text.toList, character.toNat < 128) :
    encodeUtf8 text = text.toList.map fun character => .ofNat character.toNat := by
  rw [encodeUtf8_eq, List.map_eq_flatMap]
  refine List.flatMap_congr fun character member => ?_
  have short : character.toNat ≤ 127 := Nat.le_of_lt_succ (ascii character member)
  rw [String.utf8EncodeChar.eq_def]
  simp only [Char.toNat_val, if_pos short]

/-! ## Characters of ASCII in bytes -/

/-- Another byte of a character is within its bounds and shifts the bits before it. -/
theorem exists_of_readContinuation {count seen code result : Nat} {low high : UInt8}
    {rest : List UInt8} (read : readContinuation (count + 1) seen low high code rest = .ok result) :
    ∃ (byte : UInt8) (more : List UInt8), low.toNat ≤ byte.toNat ∧ byte.toNat ≤ high.toNat
      ∧ readContinuation count (seen + 1) 0x80 0xbf (code * 64 + byte.toNat % 64) more
        = .ok result := by
  cases rest with
  | nil => cases read
  | cons byte more =>
    rw [readContinuation] at read
    split at read
    case isTrue within =>
      rw [Bool.and_eq_true, decide_eq_true_eq, decide_eq_true_eq, UInt8.le_iff_toNat_le,
        UInt8.le_iff_toNat_le] at within
      exact ⟨byte, more, within.1, within.2, read⟩
    case isFalse => cases read

theorem le_of_readContinuation {count seen code result : Nat} {low high : UInt8}
    {rest : List UInt8} (read : readContinuation count seen low high code rest = .ok result) :
    code ≤ result := by
  induction count generalizing seen low high code rest with
  | zero =>
    cases read
    exact Nat.le_refl _
  | succ count inductionHypothesis =>
    obtain ⟨byte, more, -, -, later⟩ := exists_of_readContinuation read
    have shifted := inductionHypothesis later
    omega

/-- A character that several bytes spell is not one of ASCII. -/
theorem le_of_continued {lead count code : Nat} {low high : UInt8} {rest : List UInt8}
    (bound : lead < 256) (continued : continuation? (.ofNat lead) = some (count + 1, low, high))
    (read : readContinuation (count + 1) 1 low high (leadBits (count + 1) (.ofNat lead)) rest
      = .ok code) :
    128 ≤ code := by
  obtain ⟨byte, more, lower, upper, later⟩ := exists_of_readContinuation read
  have value : (UInt8.ofNat lead).toNat = lead := UInt8.toNat_ofNat_of_lt' bound
  rw [continuation?_ofNat bound] at continued
  split at continued
  · cases continued
  split at continued
  · cases continued
  split at continued
  · cases continued
    have bits := le_of_readContinuation later
    rw [leadBits, value] at bits
    omega
  -- With three bytes or more the second one counts: it rules out overlong forms.
  split at continued
  · cases continued
    obtain ⟨third, _, -, -, last⟩ := exists_of_readContinuation later
    have bits := le_of_readContinuation last
    rw [leadBits, value] at bits
    have within : byte.toNat ≤ 191 := by split at upper <;> exact Nat.le_trans upper (by decide)
    split at lower
    · have above : 160 ≤ byte.toNat := lower
      omega
    · omega
  split at continued
  · cases continued
    obtain ⟨third, _, -, -, last⟩ := exists_of_readContinuation later
    have bits := le_of_readContinuation last
    have three : leadBits 3 (.ofNat lead) = (UInt8.ofNat lead).toNat % 8 := rfl
    rw [three, value] at bits
    have within : byte.toNat ≤ 191 := by split at upper <;> exact Nat.le_trans upper (by decide)
    split at lower
    · have above : 144 ≤ byte.toNat := lower
      omega
    · omega
  · cases continued

/-- A character of ASCII is read from the byte that is its code. -/
theorem toNat_of_readCharacter {first : UInt8} {rest : List UInt8} {character : Char} {count : Nat}
    (read : readCharacter first rest = .ok (character, count)) (positive : 0 < character.toNat)
    (ascii : character.toNat < 128) : first.toNat = character.toNat := by
  obtain ⟨lead, bound, rfl⟩ : ∃ lead, lead < 256 ∧ first = .ofNat lead :=
    ⟨first.toNat, first.toNat_lt, UInt8.ofNat_toNat.symm⟩
  rw [readCharacter] at read
  split at read
  case h_1 => cases read
  case h_2 many low high continued =>
    obtain ⟨code, continuation, same⟩ := bind_eq_ok_iff.mp read
    cases same
    have isCode : (Char.ofNat code).toNat = code := by
      by_cases valid : code.isValidChar
      · rw [Char.ofNat, dif_pos valid]
        rfl
      · rw [Char.ofNat, dif_neg valid] at positive
        cases positive
    cases count with
    | zero =>
      cases continuation
      rw [isCode, leadBits]
    | succ count =>
      have large := le_of_continued bound continued continuation
      omega

/-- A character of ASCII in decoded bytes is one of the bytes. -/
theorem mem_of_decodeFrom {index fuel : Nat} {bytes : List UInt8} {characters : List Char}
    (decoded : decodeFrom index fuel bytes = .ok characters) {character : Char}
    (member : character ∈ characters) (positive : 0 < character.toNat)
    (ascii : character.toNat < 128) : .ofNat character.toNat ∈ bytes := by
  induction fuel generalizing index bytes characters with
  | zero =>
    cases bytes <;> cases decoded <;> cases member
  | succ fuel inductionHypothesis =>
    cases bytes with
    | nil =>
      cases decoded
      cases member
    | cons first rest =>
      rw [decodeFrom] at decoded
      split at decoded
      case h_1 => cases decoded
      case h_2 read =>
        obtain ⟨more, later, same⟩ := bind_eq_ok_iff.mp decoded
        cases same
        rcases List.mem_cons.mp member with rfl | member
        · rw [← toNat_of_readCharacter read positive ascii, UInt8.ofNat_toNat]
          exact List.mem_cons_self
        · exact List.mem_cons_of_mem _ (List.mem_of_mem_drop (inductionHypothesis later member))

theorem mem_of_decodeUtf8? {bytes : List UInt8} {text : String}
    (decoded : decodeUtf8? bytes = some text) {character : Char}
    (member : character ∈ text.toList) (positive : 0 < character.toNat)
    (ascii : character.toNat < 128) : .ofNat character.toNat ∈ bytes := by
  rw [decodeUtf8?] at decoded
  split at decoded
  case h_1 characters read =>
    cases decoded
    rw [String.toList_ofList] at member
    exact mem_of_decodeFrom read member positive ascii
  case h_2 => cases decoded

end DeltaStudy.Text
