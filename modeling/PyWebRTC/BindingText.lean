import PyWebRTC.PicojsonRoundTrip
import PyWebRTC.Signaling
import PyWebRTC.Utf8Pieces

/-!
# What Python gets of a serialized text

The binding hands the texts of descriptions and candidates to Python as C
strings. picojson escapes every control character, so no text is cut short; and
it copies all other bytes, so Python can decode a text if and only if the
strings in it are UTF-8.
-/

namespace PyWebRTC.BindingText

open IceCandidateObject PicojsonDecimal PicojsonSerialize PicojsonValue Signaling Utf8Pieces
open PicojsonRoundTrip (number_text_format serialize_str_char_wide)
open Utf8 (ascii IsUtf8)

set_option autoImplicit false

/-- A fact about listed bytes is decided on the list, and not on all bytes. -/
local instance (priority := 2000) decidableListedByte {p : UInt8 → Prop} [DecidablePred p]
    (listed : Bytes) : Decidable (∀ byte ∈ listed, p byte) :=
  List.decidableBAll p listed

mutual

def Utf8Strings : Value → Prop
  | .null | .boolean _ | .number _ => True
  | .string s => IsUtf8 s
  | .array items => Utf8Items items
  | .object entries => Utf8Entries entries

def Utf8Items : List Value → Prop
  | [] => True
  | item :: rest => Utf8Strings item ∧ Utf8Items rest

def Utf8Entries : List (Bytes × Value) → Prop
  | [] => True
  | entry :: rest => Utf8Entry entry ∧ Utf8Entries rest

def Utf8Entry : Bytes × Value → Prop
  | (key, item) => IsUtf8 key ∧ Utf8Strings item

end

def Printed (byte : UInt8) : Prop :=
  byte = ascii '\n' ∨ (0x20 ≤ byte.toNat ∧ byte.toNat ≠ 0x7f)

instance (byte : UInt8) : Decidable (Printed byte) :=
  inferInstanceAs (Decidable (_ ∨ _))

/-- A part of the text: it is printed, and UTF-8 by itself under the condition. -/
structure Written (bytes : Bytes) (valid : Prop) : Prop where
  printed : ∀ byte ∈ bytes, Printed byte
  piece : Piece bytes valid

def Layout (bytes : Bytes) : Prop := ∀ byte ∈ bytes, Printed byte ∧ byte.toNat < 0x80

instance (bytes : Bytes) : Decidable (Layout bytes) :=
  inferInstanceAs (Decidable (∀ byte ∈ bytes, Printed byte ∧ byte.toNat < 0x80))

theorem written_of_layout {bytes : Bytes} (nonempty : bytes ≠ []) (layout : Layout bytes) :
    Written bytes True where
  printed byte member := (layout byte member).1
  piece := piece_of_narrow nonempty fun byte member => (layout byte member).2

theorem written_append {left right : Bytes} {validLeft validRight : Prop}
    (writtenLeft : Written left validLeft) (writtenRight : Written right validRight) :
    Written (left ++ right) (validLeft ∧ validRight) where
  printed byte member := (List.mem_append.mp member).elim (writtenLeft.printed byte)
    (writtenRight.printed byte)
  piece := piece_append writtenLeft.piece writtenRight.piece

theorem written_append_layout {bytes ending : Bytes} {valid : Prop} (written : Written bytes valid)
    (layout : Layout ending) : Written (bytes ++ ending) valid where
  printed byte member := (List.mem_append.mp member).elim (written.printed byte)
    fun inEnding => (layout byte inEnding).1
  piece := piece_append_narrow written.piece fun byte member => (layout byte member).2

theorem written_congr {bytes : Bytes} {valid condition : Prop} (written : Written bytes valid)
    (same : valid ↔ condition) : Written bytes condition :=
  ⟨written.printed, piece_congr written.piece same⟩

/-! ## The parts -/

theorem layout_map_ascii {text : List Char}
    (chars : ∀ c ∈ text, Printed (ascii c) ∧ (ascii c).toNat < 0x80) : Layout (text.map ascii) := by
  intro byte member
  obtain ⟨c, listed, rfl⟩ := List.mem_map.mp member
  exact chars c listed

theorem layout_line_indent (indent : Option Nat) : Layout (lineIndent indent) := by
  cases indent with
  | none => simp [Layout, lineIndent]
  | some indent =>
      intro byte member
      rcases List.mem_cons.mp member with rfl | space
      · decide
      · rw [List.eq_of_mem_replicate space]
        decide

theorem layout_separator (indent : Option Nat) (first : Bool) : Layout (separator indent first) := by
  intro byte member
  rcases List.mem_append.mp member with comma | blank
  · cases first with
    | true => simp at comma
    | false =>
        rw [List.mem_singleton.mp comma]
        decide
  · exact layout_line_indent indent byte blank

theorem written_number (number : DoubleRounding.Double) :
    Written ((formatNumber number).map ascii) True := by
  have chars : ∀ c ∈ numberMarks, Printed (ascii c) ∧ (ascii c).toNat < 0x80 := by decide
  have decimal := number_text_format number
  refine written_of_layout ?_
    (layout_map_ascii fun c member => chars c (mem_number_text decimal member))
  obtain ⟨first, rest, spelled, -⟩ := number_text_cons decimal
  simp [spelled]

theorem serialize_str_char_narrow {byte : UInt8} (narrow : byte.toNat < 0x80) :
    serializeStrChar byte ≠ [] ∧ Layout (serializeStrChar byte) := by
  have codes : ∀ code < 0x80, serializeStrChar (UInt8.ofNat code) ≠ [] ∧
      ∀ other ∈ serializeStrChar (UInt8.ofNat code), Printed other ∧ other.toNat < 0x80 := by
    decide
  have whole := codes byte.toNat narrow
  rwa [UInt8.ofNat_toNat] at whole

theorem written_str (s : Bytes) : Written (serializeStr s) (IsUtf8 s) where
  printed := by
    have chars : ∀ byte, ∀ other ∈ serializeStrChar byte, Printed other := by
      intro byte other member
      by_cases narrow : byte.toNat < 0x80
      · exact ((serialize_str_char_narrow narrow).2 other member).1
      · have wide := Nat.le_of_not_lt narrow
        rw [serialize_str_char_wide wide, List.mem_singleton] at member
        subst member
        exact .inr (by omega)
    intro byte member
    simp only [serializeStr, List.cons_append, List.mem_cons, List.mem_append,
      List.mem_flatMap, List.not_mem_nil, or_false] at member
    rcases member with rfl | ⟨source, -, inChar⟩ | rfl
    · decide
    · exact chars source byte inChar
    · decide
  piece := by
    have between := piece_between (show (ascii '"').toNat < 0x80 by decide)
      (show (ascii '"').toNat < 0x80 by decide) (s.flatMap serializeStrChar)
    refine piece_congr between (is_utf8_flat_map_iff (fun byte => serialize_str_char_wide) ?_ s)
    intro byte narrow
    obtain ⟨nonempty, layout⟩ := serialize_str_char_narrow narrow
    exact ⟨nonempty, fun other member => (layout other member).2⟩

/-! ## Values -/

mutual

theorem written_inner (indent : Option Nat) : ∀ value : Value,
    Written (serializeInner indent value) (Utf8Strings value)
  | .null => by
      rw [serializeInner]
      exact written_of_layout (by simp) (by decide)
  | .boolean true => by
      rw [serializeInner]
      exact written_of_layout (by simp) (by decide)
  | .boolean false => by
      rw [serializeInner]
      exact written_of_layout (by simp) (by decide)
  | .number number => written_number number
  | .string s => written_str s
  | .array items => by
      have inside := written_items (indent.map (· + 1)) true items
        (written_of_layout (List.cons_ne_nil (ascii '[') []) (by decide))
      have layout : Layout (if items.isEmpty then [] else lineIndent indent) := by
        split
        · decide
        · exact layout_line_indent indent
      rw [serializeInner]
      exact written_congr (written_append_layout (written_append_layout inside layout)
        (show Layout [ascii ']'] by decide)) (Iff.of_eq (true_and _))
  | .object entries => by
      have inside := written_entries (indent.map (· + 1)) true entries
        (written_of_layout (List.cons_ne_nil (ascii '{') []) (by decide))
      have layout : Layout (if entries.isEmpty then [] else lineIndent indent) := by
        split
        · decide
        · exact layout_line_indent indent
      rw [serializeInner]
      exact written_congr (written_append_layout (written_append_layout inside layout)
        (show Layout [ascii '}'] by decide)) (Iff.of_eq (true_and _))

theorem written_items (indent : Option Nat) (first : Bool) :
    ∀ (items : List Value) {before : Bytes} {valid : Prop}, Written before valid →
      Written (before ++ serializeItems indent first items) (valid ∧ Utf8Items items)
  | [], before, valid, written => by
      rw [serializeItems, List.append_nil]
      exact written_congr written (Iff.of_eq (and_true _).symm)
  | item :: rest, before, valid, written => by
      have behind := written_items indent false rest
        (written_append (written_append_layout written (layout_separator indent first))
          (written_inner indent item))
      rw [serializeItems, ← List.append_assoc, ← List.append_assoc]
      exact written_congr behind and_assoc

theorem written_entries (indent : Option Nat) (first : Bool) :
    ∀ (entries : List (Bytes × Value)) {before : Bytes} {valid : Prop}, Written before valid →
      Written (before ++ serializeEntries indent first entries) (valid ∧ Utf8Entries entries)
  | [], before, valid, written => by
      rw [serializeEntries, List.append_nil]
      exact written_congr written (Iff.of_eq (and_true _).symm)
  | entry :: rest, before, valid, written => by
      have behind := written_entries indent false rest
        (written_append (written_append_layout written (layout_separator indent first))
          (written_entry indent entry))
      rw [serializeEntries, ← List.append_assoc, ← List.append_assoc]
      exact written_congr behind and_assoc

theorem written_entry (indent : Option Nat) : ∀ entry : Bytes × Value,
    Written (serializeEntry indent entry) (Utf8Entry entry)
  | (key, item) => by
      have layout : Layout (ascii ':' :: if indent.isSome then [ascii ' '] else []) := by
        split <;> decide
      have whole := written_append (written_append_layout (written_str key) layout)
        (written_inner indent item)
      simpa [serializeEntry, Utf8Entry] using whole

end

theorem written_serialize (value : Value) (prettify : Bool) :
    Written (serialize value prettify) (Utf8Strings value) := by
  unfold serialize
  split
  · exact written_append_layout (written_inner (some 0) value)
      (show Layout [ascii '\n'] by decide)
  · exact written_inner none value

/-! ## In Python -/

/-- A C string holds a printed text whole. -/
theorem py_unicode_eq_decode {bytes : Bytes} (printed : ∀ byte ∈ bytes, Printed byte) :
    pyUnicodeFromString bytes = Utf8.decode bytes := by
  have whole : bytes.takeWhile (· ≠ 0) = bytes := by
    rw [List.takeWhile_eq_self_iff]
    intro byte member
    refine decide_eq_true ?_
    rintro rfl
    exact absurd (printed 0 member) (by decide)
  rw [pyUnicodeFromString, whole]

/-- Whatever bytes the strings of a value hold: its text has no control character
but line feeds, so Python converts the whole of it or nothing, and it converts it
if and only if all the strings are UTF-8. -/
theorem python_text_iff (value : Value) (prettify : Bool) :
    (∀ byte ∈ serialize value prettify, Printed byte) ∧
      pyUnicodeFromString (serialize value prettify) = Utf8.decode (serialize value prettify) ∧
      ((pyUnicodeFromString (serialize value prettify)).isSome = true ↔ Utf8Strings value) := by
  have written := written_serialize value prettify
  have whole := py_unicode_eq_decode written.printed
  refine ⟨written.printed, whole, ?_⟩
  rw [whole]
  exact piece_is_utf8 written.piece

theorem utf8_items_iff {items : List Value} :
    Utf8Items items ↔ ∀ item ∈ items, Utf8Strings item := by
  induction items with
  | nil => simp [Utf8Items]
  | cons item rest ih => simp [Utf8Items, ih]

theorem utf8_strings_ice_object {ice : IceCandidate} :
    Utf8Strings (iceObject ice) ↔ IsUtf8 ice.candidate ∧ IsUtf8 ice.sdpMid := by
  have keys : IsUtf8 candidateKey ∧ IsUtf8 sdpMLineIndexKey ∧ IsUtf8 sdpMidKey :=
    ⟨Utf8.is_utf8_encode _, Utf8.is_utf8_encode _, Utf8.is_utf8_encode _⟩
  rw [ice_object_eq]
  simp [Utf8Strings, Utf8Entries, Utf8Entry, keys]

theorem utf8_strings_session_information {sdp : Bytes} {kind : SessionDescription.SdpKind} :
    Utf8Strings (SessionDescription.sessionInformation sdp (SessionDescription.sdpTypeOf kind)) ↔
      IsUtf8 sdp := by
  have keys : IsUtf8 SessionDescription.sdpKey ∧ IsUtf8 SessionDescription.typeKey :=
    ⟨Utf8.is_utf8_encode _, Utf8.is_utf8_encode _⟩
  have name : IsUtf8 (SessionDescription.sdpTypeOf kind) := by
    cases kind <;> exact Utf8.is_utf8_encode _
  have entries : SessionDescription.sessionInformation sdp (SessionDescription.sdpTypeOf kind) =
      .object [(SessionDescription.sdpKey, .string sdp),
        (SessionDescription.typeKey, .string (SessionDescription.sdpTypeOf kind))] := rfl
  rw [entries]
  simp [Utf8Strings, Utf8Entries, Utf8Entry, keys, name]

/-- `getSDP` and `receiveOffer` raise for a description that is not UTF-8, and for
no other; `getICEInformation` raises exactly when the text or the mid of a
candidate is not. -/
theorem session_texts_convert_iff (kind : SessionDescription.SdpKind) (sdp : Bytes)
    (ices : List IceCandidate) :
    ((pyUnicodeFromString
        (SessionDescription.sessionText sdp (SessionDescription.sdpTypeOf kind))).isSome = true ↔
      IsUtf8 sdp) ∧
    ((pyUnicodeFromString
        (IceCandidateArray.connectionIceText (ices.map iceObject))).isSome = true ↔
      ∀ ice ∈ ices, IsUtf8 ice.candidate ∧ IsUtf8 ice.sdpMid) := by
  constructor
  · rw [SessionDescription.sessionText, py_unicode_eq_decode (written_serialize _ _).printed]
    exact (piece_is_utf8 (written_serialize _ _).piece).trans utf8_strings_session_information
  · rw [IceCandidateArray.connectionIceText, py_unicode_eq_decode (written_serialize _ _).printed]
    refine (piece_is_utf8 (written_serialize _ _).piece).trans ?_
    rw [Utf8Strings, utf8_items_iff, List.forall_mem_map]
    simp only [utf8_strings_ice_object]

/-- A candidate with a byte that no UTF-8 has. -/
example : (pyUnicodeFromString (IceCandidateArray.connectionIceText
    [iceObject ⟨[], ⟨0, by decide⟩, [0xff]⟩])).isSome = false := by decide +kernel

end PyWebRTC.BindingText
