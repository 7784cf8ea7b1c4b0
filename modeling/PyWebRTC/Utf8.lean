import Mathlib.Data.List.TakeWhile

/-!
UTF-8 between lists of bytes, the strings of native code, and lists of Unicode
scalar values, the strings of Python. Encoding and decoding are the library's
own; this module only carries them to lists. A C string ends at its first null
character, in the text as in its bytes.
-/

namespace PyWebRTC.Utf8

set_option autoImplicit false

def encode (text : List Char) : List UInt8 := text.flatMap String.utf8EncodeChar

def ascii (c : Char) : UInt8 := UInt8.ofNat c.toNat

/-- Strict decoding: `none` where the bytes are not UTF-8. -/
def decode (bytes : List UInt8) : Option (List Char) :=
  bytes.toByteArray.utf8Decode?.map Array.toList

@[simp]
theorem encode_nil : encode [] = [] := rfl

@[simp]
theorem encode_append (left right : List Char) : encode (left ++ right) = encode left ++ encode right :=
  List.flatMap_append

theorem encode_cons (first : Char) (rest : List Char) :
    encode (first :: rest) = String.utf8EncodeChar first ++ encode rest :=
  List.flatMap_cons

theorem decode_encode (text : List Char) : decode (encode text) = some text := by
  have roundtrip := List.utf8Decode?_utf8Encode (l := text)
  unfold List.utf8Encode at roundtrip
  simp [decode, encode, roundtrip]

theorem encode_of_decode {bytes : List UInt8} {text : List Char}
    (decoded : decode bytes = some text) : encode text = bytes := by
  obtain ⟨chars, decodedChars, rfl⟩ := Option.map_eq_some_iff.mp decoded
  have valid : bytes.toByteArray.utf8Decode?.isSome = true := by simp [decodedChars]
  have roundtrip := ByteArray.utf8Encode_get_utf8Decode? (h := valid)
  simp only [decodedChars, Option.get_some, List.utf8Encode] at roundtrip
  simpa [encode] using congrArg (fun array : ByteArray => array.data.toList) roundtrip

def IsUtf8 (bytes : List UInt8) : Prop := (decode bytes).isSome = true

instance (bytes : List UInt8) : Decidable (IsUtf8 bytes) :=
  inferInstanceAs (Decidable ((decode bytes).isSome = true))

theorem is_utf8_encode (text : List Char) : IsUtf8 (encode text) := by
  simp [IsUtf8, decode_encode]

def textOf (bytes : List UInt8) : List Char := (decode bytes).getD []

theorem decode_of_is_utf8 {bytes : List UInt8} (isUtf8 : IsUtf8 bytes) :
    decode bytes = some (textOf bytes) := by
  obtain ⟨text, decoded⟩ := Option.isSome_iff_exists.mp isUtf8
  rw [textOf, decoded, Option.getD_some]

theorem encode_text_of {bytes : List UInt8} (isUtf8 : IsUtf8 bytes) :
    encode (textOf bytes) = bytes :=
  encode_of_decode (decode_of_is_utf8 isUtf8)

theorem encode_ascii {c : Char} (narrow : c.toNat < 0x80) :
    String.utf8EncodeChar c = [ascii c] := by
  have small : c.val.toNat ≤ 127 := Nat.le_of_lt_succ narrow
  simp only [String.utf8EncodeChar, if_pos small]
  rfl

theorem encode_cons_ascii {c : Char} (narrow : c.toNat < 0x80) (rest : List Char) :
    encode (c :: rest) = ascii c :: encode rest := by
  rw [encode_cons, encode_ascii narrow, List.singleton_append]

theorem encode_eq_map_ascii {text : List Char} (narrow : ∀ c ∈ text, c.toNat < 0x80) :
    encode text = text.map ascii := by
  induction text with
  | nil => rfl
  | cons first rest ih =>
      rw [encode_cons_ascii (narrow first (by simp)), List.map_cons,
        ih fun c member => narrow c (by simp [member])]

theorem le_of_mem_encode {c : Char} (wide : 0x80 ≤ c.toNat) {byte : UInt8}
    (member : byte ∈ String.utf8EncodeChar c) : 0x80 ≤ byte.toNat := by
  have valid : c.val.toNat < 0x110000 := by
    have := c.valid
    simp only [UInt32.isValidChar, Nat.isValidChar] at this
    omega
  change 0x80 ≤ c.val.toNat at wide
  simp only [String.utf8EncodeChar] at member
  split at member
  · omega
  · split at member
    · simp only [List.mem_cons, List.not_mem_nil, or_false] at member
      rcases member with rfl | rfl <;> simp only [UInt8.toNat_ofNat'] <;> omega
    · split at member
      · simp only [List.mem_cons, List.not_mem_nil, or_false] at member
        rcases member with rfl | rfl | rfl <;> simp only [UInt8.toNat_ofNat'] <;> omega
      · simp only [List.mem_cons, List.not_mem_nil, or_false] at member
        rcases member with rfl | rfl | rfl | rfl <;> simp only [UInt8.toNat_ofNat'] <;> omega

theorem ascii_toNat {c : Char} (narrow : c.toNat < 0x80) : (ascii c).toNat = c.toNat := by
  rw [ascii, UInt8.toNat_ofNat']
  omega

theorem ascii_of_nat {byte : UInt8} (narrow : byte.toNat < 0x80) :
    (Char.ofNat byte.toNat).toNat = byte.toNat ∧ ascii (Char.ofNat byte.toNat) = byte := by
  have codes : ∀ code < 0x80, (Char.ofNat code).toNat = code := by decide
  have code := codes byte.toNat narrow
  exact ⟨code, by rw [← UInt8.toNat_inj, ascii_toNat (by omega), code]⟩

theorem ascii_mem_encode_iff {mark : Char} (narrow : mark.toNat < 0x80) (text : List Char) :
    ascii mark ∈ encode text ↔ mark ∈ text := by
  induction text with
  | nil => simp
  | cons first rest ih =>
      rw [encode_cons, List.mem_append, List.mem_cons, ih]
      apply or_congr_left
      by_cases narrowFirst : first.toNat < 0x80
      · rw [encode_ascii narrowFirst, List.mem_singleton, ← UInt8.toNat_inj, ← Char.toNat_inj,
          ascii_toNat narrow, ascii_toNat narrowFirst]
      · have different : mark ≠ first := by
          rintro rfl
          exact narrowFirst narrow
        refine iff_of_false (fun member => ?_) different
        have wide := le_of_mem_encode (Nat.le_of_not_lt narrowFirst) member
        rw [ascii_toNat narrow] at wide
        omega

/-! ## C strings -/

def cText (text : List Char) : List Char := text.takeWhile (· ≠ '\x00')

theorem c_text_eq_iff {text : List Char} : cText text = text ↔ '\x00' ∉ text := by
  rw [cText, List.takeWhile_eq_self_iff]
  constructor
  · intro kept null
    simpa using kept '\x00' null
  · intro absent c member
    refine decide_eq_true ?_
    rintro rfl
    exact absent member

theorem c_str_encode (text : List Char) :
    (encode text).takeWhile (· ≠ 0) = encode (cText text) := by
  induction text with
  | nil => rfl
  | cons first rest ih =>
      by_cases null : first = '\x00'
      · subst null
        rw [encode_cons_ascii (by decide)]
        rfl
      · have whole : ∀ byte ∈ String.utf8EncodeChar first, decide (byte ≠ 0) = true := by
          intro byte member
          have alone : '\x00' ∉ [first] := by simpa using Ne.symm null
          rw [← ascii_mem_encode_iff (by decide)] at alone
          refine decide_eq_true ?_
          rintro rfl
          apply alone
          rw [encode, List.flatMap_singleton]
          exact member
        rw [encode_cons, List.takeWhile_append_of_pos whole, ih, cText, cText,
          List.takeWhile_cons_of_pos (by simpa using null), encode_cons]

end PyWebRTC.Utf8
