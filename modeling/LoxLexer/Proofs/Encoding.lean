import LoxLexer.Program.Access

/-!
# Texts and their bytes

Bytes are read as the text that they encode, and there is at most one; where they
encode none, the reader says so.
-/

namespace LoxLexer

/-- The bytes of a text in UTF-8. -/
def Encodes (bytes : Bytes) (text : Text) : Prop :=
  bytes = text.flatMap String.utf8EncodeChar

namespace Bytes

theorem toByteArray_injective {left right : Bytes}
    (same : left.toByteArray = right.toByteArray) :
    left = right := by
  rw [← List.toList_data_toByteArray (l := left), same, List.toList_data_toByteArray]

theorem decode?_eq_some_iff {bytes : Bytes} {text : Text} :
    decode? bytes = some text ↔ Encodes bytes text := by
  unfold decode? String.fromUTF8?
  constructor
  · intro found
    split at found
    · rename_i valid
      rw [Option.map_some, Option.some.injEq] at found
      apply toByteArray_injective
      change bytes.toByteArray = text.utf8Encode
      rw [← found, String.utf8Encode_toList]
      rfl
    · cases found
  · rintro rfl
    have valid : (List.toByteArray (text.flatMap String.utf8EncodeChar)).IsValidUTF8 :=
      ⟨text, rfl⟩
    have same : String.fromUTF8 _ valid = String.ofList text := by
      rw [← String.toByteArray_inj, String.toByteArray_ofList]
      rfl
    rw [dif_pos valid, Option.map_some, same, String.toList_ofList]

theorem readText_of_encodes {bytes : Bytes} {text : Text} (encodes : Encodes bytes text) :
    readText bytes = .ok text := by
  rw [readText, decode?_eq_some_iff.mpr encodes]

theorem readText_of_not_encodes
    {bytes : Bytes} (none : ∀ text, ¬ Encodes bytes text) :
    readText bytes = .error .notText := by
  have missing : decode? bytes = Option.none := by
    rw [Option.eq_none_iff_forall_ne_some]
    intro text found
    exact none text (decode?_eq_some_iff.mp found)
  rw [readText, missing]

end Bytes

/-- Bytes encode one text at most. -/
theorem Encodes.unique
    {bytes : Bytes} {left right : Text}
    (encodesLeft : Encodes bytes left) (encodesRight : Encodes bytes right) :
    left = right := by
  have found := Bytes.decode?_eq_some_iff.mpr encodesLeft
  rw [Bytes.decode?_eq_some_iff.mpr encodesRight] at found
  exact (Option.some.inj found).symm

/-- Every character takes a byte at least. -/
theorem flatMap_utf8EncodeChar_eq_nil_iff {text : Text} :
    text.flatMap String.utf8EncodeChar = [] ↔ text = [] := by
  rw [List.flatMap_eq_nil_iff]
  constructor
  · intro empty
    rw [List.eq_nil_iff_forall_not_mem]
    intro character member
    have size := String.length_utf8EncodeChar character
    rw [empty character member] at size
    exact absurd size.symm (Nat.ne_of_gt character.utf8Size_pos)
  · rintro rfl
    simp

theorem ten_ne_ofNat {number : Nat} (high : 128 ≤ number) (byte : number < 256) :
    (10 : UInt8) ≠ UInt8.ofNat number := by
  intro same
  have value := congrArg UInt8.toNat same
  rw [UInt8.toNat_ofNat', Nat.mod_eq_of_lt byte] at value
  have ten : (10 : UInt8).toNat = 10 := rfl
  omega

/-- Ten is the byte of a line feed, and it is in no other encoding. -/
theorem eq_lineFeed_of_mem_utf8EncodeChar
    {character : Char} (member : 10 ∈ String.utf8EncodeChar character) :
    character = '\n' := by
  unfold String.utf8EncodeChar at member
  dsimp only at member
  split at member
  · rename_i ascii
    have value := congrArg UInt8.toNat (List.mem_singleton.mp member)
    rw [UInt8.toNat_ofNat', Nat.mod_eq_of_lt (by omega)] at value
    exact Char.ext (UInt32.toNat_inj.mp value.symm)
  -- Past ASCII every byte of an encoding is 128 at least.
  · split at member
    · simp (disch := omega) only
        [List.mem_cons, ten_ne_ofNat, List.not_mem_nil, or_self] at member
    · split at member
      · simp (disch := omega) only
          [List.mem_cons, ten_ne_ofNat, List.not_mem_nil, or_self] at member
      · simp (disch := omega) only
          [List.mem_cons, ten_ne_ofNat, List.not_mem_nil, or_self] at member

theorem not_mem_encoding_of_unbroken {text : Text} (unbroken : '\n' ∉ text) :
    10 ∉ text.flatMap String.utf8EncodeChar := by
  intro member
  obtain ⟨character, inText, inBytes⟩ := List.mem_flatMap.mp member
  obtain rfl := eq_lineFeed_of_mem_utf8EncodeChar inBytes
  exact unbroken inText

end LoxLexer
