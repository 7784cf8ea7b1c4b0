import Mathlib.Data.List.DropRight
import Mathlib.Data.List.TakeWhile
import PyWebRTC.JsonText
import PyWebRTC.PicojsonFuel

/-!
# picojson reads every JSON text

`fromJson` is the picojson value of a JSON value whose integers round to finite
doubles. The parser returns it on the encoding of every text of the value.
-/

namespace PyWebRTC.PicojsonComplete

open DoubleRounding (roundRatio)
open JsonText PicojsonParse PicojsonValue
open PicojsonFuel (fuel_suffices getc_shortens parse_number_rest skip_ws_shortens)
open Utf8 (ascii encode)

set_option autoImplicit false

mutual

def fromJson : Json → Option Value
  | .null => some .null
  | .bool value => some (.boolean value)
  | .int value => (roundRatio (decide (value < 0)) value.natAbs 1).map .number
  | .str text => some (.string (encode text))
  | .list items => (itemsFromJson items).map .array
  | .dict entries => (entriesFromJson entries []).map .object

def itemsFromJson : List Json → Option (List Value)
  | [] => some []
  | json :: rest => (fromJson json).bind fun item => (itemsFromJson rest).map (item :: ·)

def entriesFromJson : List (List Char × Json) → List (Bytes × Value) →
    Option (List (Bytes × Value))
  | [], entries => some entries
  | entry :: rest, entries => (entryFromJson entry).bind fun item =>
      entriesFromJson rest (assign item.1 item.2 entries)

def entryFromJson : List Char × Json → Option (Bytes × Value)
  | (key, json) => (fromJson json).map fun item => (encode key, item)

end

/-! ## Strings -/

theorem hex_digit_ascii : ∀ code < 128, hexDigit (ascii (Char.ofNat code)) =
    hexValue (Char.ofNat code) := by
  decide

theorem hex_value_narrow {digit : Char} {value : Nat} (read : hexValue digit = some value) :
    digit.toNat < 0x80 := by
  have bounds : '9'.toNat = 57 ∧ 'F'.toNat = 70 ∧ 'f'.toNat = 102 := by decide
  unfold hexValue at read
  split at read
  · omega
  split at read
  · omega
  split at read
  · omega
  · contradiction

theorem hex_digit_of_value {digit : Char} {value : Nat} (read : hexValue digit = some value) :
    hexDigit (ascii digit) = some value := by
  have same := hex_digit_ascii digit.toNat (hex_value_narrow read)
  rwa [Char.ofNat_toNat, read] at same

theorem parse_quadhex_word {digits : List Char} {start word : Nat} {input : Input} {after : Bytes}
    (spelled : hexWord start digits = some word) (ahead : input.rest = encode digits ++ after) :
    ∃ next, parseQuadhex digits.length start input = (some word, next) ∧ next.rest = after := by
  induction digits generalizing start input with
  | nil =>
      obtain rfl := Option.some.inj spelled
      exact ⟨input, rfl, ahead⟩
  | cons digit rest ih =>
      obtain ⟨value, digitRead, restRead⟩ := Option.bind_eq_some_iff.mp spelled
      rw [Utf8.encode_cons_ascii (hex_value_narrow digitRead), List.cons_append] at ahead
      obtain ⟨afterDigit, taken, aheadRest⟩ := getc_ahead ahead
      obtain ⟨next, read, nextRest⟩ := ih restRead aheadRest
      refine ⟨next, ?_, nextRest⟩
      simpa only [List.length_cons, parseQuadhex, taken, hex_digit_of_value digitRead] using read

theorem continuation_byte (bits : Nat) :
    UInt8.ofNat (0x80 ||| bits &&& 0x3f) = UInt8.ofNat (bits % 64 + 128) := by
  have mask : bits &&& 0x3f = bits % 64 := Nat.and_two_pow_sub_one_eq_mod bits 6
  have lead : 2 <<< 6 + bits % 64 = 2 <<< 6 ||| bits % 64 :=
    Nat.shiftLeft_add_eq_or_of_lt (Nat.mod_lt _ (by decide)) 2
  rw [mask, show (0x80 : Nat) = 2 <<< 6 from rfl, ← lead, Nat.add_comm]

/-- The leading byte of a sequence, whose mark leaves the low bits free. -/
theorem leading_byte (mark : Nat) {width bits : Nat} (bounded : bits < 2 ^ width) :
    mark <<< width ||| bits = bits % 2 ^ width + mark <<< width := by
  rw [← Nat.shiftLeft_add_eq_or_of_lt bounded, Nat.mod_eq_of_lt bounded, Nat.add_comm]

theorem push_codepoint_char (c : Char) : pushCodepoint c.toNat = String.utf8EncodeChar c := by
  have valid : c.toNat < 0x110000 := by
    have := c.valid
    simp only [UInt32.isValidChar, Nat.isValidChar] at this
    have same : c.val.toNat = c.toNat := rfl
    omega
  have same : c.val.toNat = c.toNat := rfl
  simp only [pushCodepoint, String.utf8EncodeChar, continuation_byte, Nat.shiftRight_eq_div_pow,
    same]
  generalize c.toNat = code at valid
  rcases Nat.lt_or_ge code 0x80 with one | one
  · rw [if_pos one, if_pos (by omega)]
  rw [if_neg (by omega), if_neg (show ¬code ≤ 127 by omega)]
  rcases Nat.lt_or_ge code 0x800 with two | two
  · have lead : 0xc0 ||| code / 2 ^ 6 = code / 64 % 32 + 192 :=
      leading_byte 6 (show code / 2 ^ 6 < 2 ^ 5 by omega)
    rw [if_pos two, if_pos (show code ≤ 2047 by omega), lead]
  rw [if_neg (by omega), if_neg (show ¬code ≤ 2047 by omega)]
  rcases Nat.lt_or_ge code 0x10000 with three | three
  · have lead : 0xe0 ||| code / 2 ^ 12 = code / 4096 % 16 + 224 :=
      leading_byte 14 (show code / 2 ^ 12 < 2 ^ 4 by omega)
    rw [if_pos three, if_pos (show code ≤ 65535 by omega), lead]
  · have lead : 0xf0 ||| code / 2 ^ 18 = code / 262144 % 8 + 240 :=
      leading_byte 30 (show code / 2 ^ 18 < 2 ^ 3 by omega)
    rw [if_neg (by omega), if_neg (show ¬code ≤ 65535 by omega), lead]

theorem join_surrogates {leading trailing : Nat} (bounded : trailing < 0x400) :
    ((0xd800 + leading - 0xd800) <<< 10 ||| (0xdc00 + trailing - 0xdc00) &&& 0x3ff) + 0x10000 =
      0x10000 + leading * 0x400 + trailing := by
  have mask : trailing &&& 0x3ff = trailing := by
    rw [Nat.and_two_pow_sub_one_eq_mod trailing 10, Nat.mod_eq_of_lt bounded]
  rw [Nat.add_sub_cancel_left, Nat.add_sub_cancel_left, mask,
    ← Nat.shiftLeft_add_eq_or_of_lt bounded, Nat.shiftLeft_eq]
  omega

theorem parse_codepoint_unit {c : Char} {digits : List Char} {input : Input} {after : Bytes}
    (four : digits.length = 4) (word : hexWord 0 digits = some c.toNat)
    (ahead : input.rest = encode digits ++ after) :
    ∃ next, parseCodepoint input = (some (String.utf8EncodeChar c), next) ∧
      next.rest = after := by
  obtain ⟨next, read, nextRest⟩ := parse_quadhex_word word ahead
  rw [four] at read
  have scalar : ¬(0xd800 ≤ c.toNat ∧ c.toNat ≤ 0xdfff) := by
    have := c.valid
    simp only [UInt32.isValidChar, Nat.isValidChar] at this
    have same : c.val.toNat = c.toNat := rfl
    omega
  refine ⟨next, ?_, nextRest⟩
  simp only [parseCodepoint, read]
  rw [if_neg scalar, push_codepoint_char]

theorem parse_codepoint_pair {c : Char} {high low : List Char} {leading trailing : Nat}
    {input : Input} {after : Bytes} (fourHigh : high.length = 4) (fourLow : low.length = 4)
    (highWord : hexWord 0 high = some (0xD800 + leading))
    (lowWord : hexWord 0 low = some (0xDC00 + trailing)) (leadingBound : leading < 0x400)
    (trailingBound : trailing < 0x400) (joined : c.toNat = 0x10000 + leading * 0x400 + trailing)
    (ahead : input.rest = encode high ++ (ascii '\\' :: ascii 'u' :: encode low ++ after)) :
    ∃ next, parseCodepoint input = (some (String.utf8EncodeChar c), next) ∧
      next.rest = after := by
  obtain ⟨afterHigh, readHigh, restHigh⟩ := parse_quadhex_word highWord ahead
  rw [fourHigh] at readHigh
  obtain ⟨afterSlash, slash, restSlash⟩ := getc_ahead restHigh
  obtain ⟨afterLetter, letter, restLetter⟩ := getc_ahead restSlash
  obtain ⟨afterLow, readLow, restLow⟩ := parse_quadhex_word lowWord restLetter
  rw [fourLow] at readLow
  refine ⟨afterLow, ?_, restLow⟩
  have trailingRead : parseTrailing (0xD800 + leading) afterHigh = (some c.toNat, afterLow) := by
    simp only [parseTrailing, slash, letter, readLow]
    rw [if_neg (by simp), if_neg (by simp), if_pos (by omega), join_surrogates trailingBound,
      joined]
  simp only [parseCodepoint, readHigh]
  rw [if_pos (by omega), if_neg (by omega)]
  simp only [trailingRead, push_codepoint_char]

/-- A number of rounds of the string loop that append the bytes. -/
def Appends (bytes : Bytes) (consumed : Nat) (input next : Input) : Prop :=
  ∃ rounds ≤ consumed, ∀ fuel out,
    parseStringLoop (fuel + rounds) out input = parseStringLoop fuel (out ++ bytes) next

theorem appends_trans {first second : Bytes} {firstConsumed secondConsumed : Nat}
    {input middle next : Input} (left : Appends first firstConsumed input middle)
    (right : Appends second secondConsumed middle next) :
    Appends (first ++ second) (firstConsumed + secondConsumed) input next := by
  obtain ⟨leftRounds, leftLe, leftLoop⟩ := left
  obtain ⟨rightRounds, rightLe, rightLoop⟩ := right
  refine ⟨rightRounds + leftRounds, by omega, ?_⟩
  intro fuel out
  rw [← Nat.add_assoc, leftLoop, rightLoop, List.append_assoc]

def IsPlainByte (byte : UInt8) : Prop := ascii ' ' ≤ byte ∧ byte ≠ ascii '"' ∧ byte ≠ ascii '\\'

theorem appends_plain {bytes after : Bytes} {input : Input}
    (plain : ∀ byte ∈ bytes, IsPlainByte byte) (ahead : input.rest = bytes ++ after) :
    ∃ next, Appends bytes bytes.length input next ∧ next.rest = after := by
  induction bytes generalizing input with
  | nil => exact ⟨input, ⟨0, Nat.le_refl _, by simp⟩, ahead⟩
  | cons byte rest ih =>
      obtain ⟨middle, taken, aheadRest⟩ := getc_ahead ahead
      obtain ⟨next, appends, nextRest⟩ := ih (fun other member => plain other (by simp [member]))
        aheadRest
      obtain ⟨printable, notQuote, notBackslash⟩ := plain byte (by simp)
      have round : Appends [byte] 1 input middle := by
        refine ⟨1, Nat.le_refl _, fun fuel out => ?_⟩
        simp only [parseStringLoop, taken]
        rw [if_neg (UInt8.not_lt.mpr printable), if_neg notQuote, if_neg notBackslash]
      refine ⟨next, ?_, nextRest⟩
      rw [List.length_cons, Nat.add_comm]
      exact appends_trans round appends

theorem is_plain_byte_of_mem_encode {c : Char} (printable : 0x20 ≤ c.toNat) (notQuote : c ≠ '"')
    (notBackslash : c ≠ '\\') {byte : UInt8} (member : byte ∈ String.utf8EncodeChar c) :
    IsPlainByte byte := by
  by_cases narrow : c.toNat < 0x80
  · rw [Utf8.encode_ascii narrow, List.mem_singleton] at member
    subst member
    have different {mark : Char} (narrowMark : mark.toNat < 0x80) (other : c ≠ mark) :
        ascii c ≠ ascii mark := by
      intro same
      apply other
      rw [← Char.toNat_inj, ← Utf8.ascii_toNat narrow, same, Utf8.ascii_toNat narrowMark]
    refine ⟨?_, different (by decide) notQuote, different (by decide) notBackslash⟩
    rw [UInt8.le_iff_toNat_le, Utf8.ascii_toNat narrow]
    exact printable
  · have wide := Utf8.le_of_mem_encode (Nat.le_of_not_lt narrow) member
    refine ⟨?_, ?_, ?_⟩
    · rw [UInt8.le_iff_toNat_le]
      exact Nat.le_trans (by decide) wide
    · rintro rfl
      exact absurd wide (by decide)
    · rintro rfl
      exact absurd wide (by decide)

theorem unescape_table_short : ∀ short ∈ shortEscapes,
    unescapeTable.lookup (ascii short.1) = some (ascii short.2) ∧ short.1.toNat < 0x80 ∧
      short.2.toNat < 0x80 := by
  decide

theorem appends_escape {bytes : Bytes} {input afterSlash next : Input}
    (slash : getc input = (some (ascii '\\'), afterSlash))
    (escape : parseEscape afterSlash = (some bytes, next)) : Appends bytes 1 input next := by
  refine ⟨1, Nat.le_refl _, fun fuel out => ?_⟩
  simp only [parseStringLoop, slash, escape]
  rw [if_neg (by decide), if_neg (by decide), if_pos trivial]

theorem parse_escape_unicode {input afterLetter : Input}
    (letter : getc input = (some (ascii 'u'), afterLetter)) :
    parseEscape input = parseCodepoint afterLetter := by
  have absent : unescapeTable.lookup (ascii 'u') = none := by decide
  simp only [parseEscape, letter, absent]
  rw [if_pos trivial]

theorem appends_char_text {c : Char} {spelled : List Char} {input : Input} {after : Bytes}
    (text : CharText c spelled) (ahead : input.rest = encode spelled ++ after) :
    ∃ next, Appends (String.utf8EncodeChar c) (encode spelled).length input next ∧
      next.rest = after := by
  cases text with
  | plain printable notQuote notBackslash =>
      simp only [Utf8.encode_cons, Utf8.encode_nil, List.append_nil] at ahead ⊢
      exact appends_plain
        (fun _ member => is_plain_byte_of_mem_encode printable notQuote notBackslash member) ahead
  | @short letter listed =>
      obtain ⟨lookup, narrowLetter, narrow⟩ := unescape_table_short _ listed
      rw [Utf8.encode_cons_ascii (by decide), Utf8.encode_cons_ascii narrowLetter] at ahead ⊢
      obtain ⟨afterSlash, slash, restSlash⟩ := getc_ahead ahead
      obtain ⟨next, taken, restNext⟩ := getc_ahead restSlash
      refine ⟨next, ?_, restNext⟩
      have escape : parseEscape afterSlash = (some (String.utf8EncodeChar c), next) := by
        simp only [parseEscape, taken, lookup]
        rw [Utf8.encode_ascii narrow]
      obtain ⟨rounds, le, loop⟩ := appends_escape slash escape
      exact ⟨rounds, le.trans (by simp), loop⟩
  | unit four word =>
      rw [Utf8.encode_cons_ascii (by decide), Utf8.encode_cons_ascii (by decide)] at ahead ⊢
      obtain ⟨afterSlash, slash, restSlash⟩ := getc_ahead ahead
      obtain ⟨afterLetter, letter, restLetter⟩ := getc_ahead restSlash
      obtain ⟨next, read, restNext⟩ := parse_codepoint_unit four word restLetter
      refine ⟨next, ?_, restNext⟩
      obtain ⟨rounds, le, loop⟩ :=
        appends_escape slash ((parse_escape_unicode letter).trans read)
      exact ⟨rounds, le.trans (by simp), loop⟩
  | pair fourHigh fourLow highWord lowWord leadingBound trailingBound joined =>
      rw [List.cons_append, List.cons_append, Utf8.encode_cons_ascii (by decide),
        Utf8.encode_cons_ascii (by decide), Utf8.encode_append,
        Utf8.encode_cons_ascii (by decide), Utf8.encode_cons_ascii (by decide)] at ahead ⊢
      obtain ⟨afterSlash, slash, restSlash⟩ := getc_ahead ahead
      obtain ⟨afterLetter, letter, restLetter⟩ := getc_ahead restSlash
      rw [List.append_eq, List.append_assoc] at restLetter
      obtain ⟨next, read, restNext⟩ := parse_codepoint_pair fourHigh fourLow highWord lowWord
        leadingBound trailingBound joined restLetter
      refine ⟨next, ?_, restNext⟩
      obtain ⟨rounds, le, loop⟩ :=
        appends_escape slash ((parse_escape_unicode letter).trans read)
      exact ⟨rounds, le.trans (by simp), loop⟩

theorem appends_string_body {text body : List Char} {input : Input} {after : Bytes}
    (spelled : StringBody text body) (ahead : input.rest = encode body ++ after) :
    ∃ next, Appends (encode text) (encode body).length input next ∧ next.rest = after := by
  induction spelled generalizing input with
  | nil => exact ⟨input, ⟨0, Nat.le_refl _, by simp⟩, ahead⟩
  | cons first others ih =>
      rw [Utf8.encode_append, List.append_assoc] at ahead
      obtain ⟨middle, appendsFirst, restFirst⟩ := appends_char_text first ahead
      obtain ⟨next, appendsRest, restNext⟩ := ih restFirst
      refine ⟨next, ?_, restNext⟩
      rw [Utf8.encode_cons, Utf8.encode_append, List.length_append]
      exact appends_trans appendsFirst appendsRest

theorem encode_bracketed {opening closing : Char} (narrowOpening : opening.toNat < 0x80)
    (narrowClosing : closing.toNat < 0x80) (inside : List Char) (after : Bytes) :
    encode (opening :: inside ++ [closing]) ++ after =
      ascii opening :: (encode inside ++ ascii closing :: after) := by
  rw [Utf8.encode_append, Utf8.encode_cons_ascii narrowOpening,
    Utf8.encode_cons_ascii narrowClosing, Utf8.encode_nil]
  simp

theorem parse_string_body {text body : List Char} {input : Input} {after : Bytes}
    (spelled : StringBody text body) (ahead : input.rest = encode body ++ ascii '"' :: after) :
    ∃ next, parseString input = .ok (encode text) next ∧ next.rest = after := by
  obtain ⟨middle, ⟨rounds, le, loop⟩, restMiddle⟩ := appends_string_body spelled ahead
  obtain ⟨next, quote, restNext⟩ := getc_ahead restMiddle
  refine ⟨next, ?_, restNext⟩
  obtain ⟨spare, total⟩ : ∃ spare, input.rest.length + 1 = (spare + 1) + rounds := by
    refine ⟨input.rest.length - rounds, ?_⟩
    simp only [ahead, List.length_append]
    omega
  rw [parseString, total, loop]
  simp only [parseStringLoop, quote]
  rw [if_neg (by decide), if_pos trivial, List.nil_append]

/-! ## Numbers -/

theorem split_sign_to_digits (n : Nat) :
    splitSign (Nat.toDigits 10 n) = (false, Nat.toDigits 10 n) := by
  have digits (c : Char) : c ∈ Nat.toDigits 10 n → c ∈ decimalDigits := mem_to_digits
  unfold splitSign
  split
  case h_1 rest spelled => exact absurd (digits '-' (by simp [spelled])) (by decide)
  case h_2 rest spelled => exact absurd (digits '+' (by simp [spelled])) (by decide)
  case h_3 => rfl

theorem split_sign_int_text (value : Int) :
    splitSign (intText value) = (decide (value < 0), Nat.toDigits 10 value.natAbs) := by
  unfold intText
  split
  case isTrue negative => simp [splitSign, negative]
  case isFalse nonnegative =>
    rw [split_sign_to_digits]
    simp [nonnegative]

theorem strtod_int_text (value : Int) :
    strtod (intText value) = (roundRatio (decide (value < 0)) value.natAbs 1, []) := by
  have digits : ∀ c ∈ Nat.toDigits 10 value.natAbs, c.isDigit = true := fun _ member =>
    Nat.isDigit_of_mem_toDigits (by decide) (by decide) member
  simp only [strtod, split_sign_int_text, List.takeWhile_eq_self_iff.mpr digits,
    List.dropWhile_eq_nil_iff.mpr digits, List.append_nil, exponentPart]
  rw [if_neg Nat.toDigits_ne_nil, Nat.ofDigitChars_ten_toDigits]
  simp [scaleByTen]

def EndsNumber (after : Bytes) : Prop := ∀ c ∈ after.head?, isNumberChar c = false

theorem take_while_ends_number {after : Bytes} (ends : EndsNumber after) :
    after.takeWhile isNumberChar = [] ∧ after.dropWhile isNumberChar = after := by
  cases after with
  | nil => simp
  | cons c rest => simp [ends c rfl]

theorem int_text_number_char {value : Int} {c : Char} (member : c ∈ intText value) :
    isNumberChar (ascii c) = true ∧ Char.ofNat (ascii c).toNat = c := by
  have digits : ∀ c ∈ '-' :: decimalDigits,
      isNumberChar (ascii c) = true ∧ Char.ofNat (ascii c).toNat = c := by decide
  exact digits c (mem_int_text member)

theorem parse_number_value_int {value : Int} {number : DoubleRounding.Double} {input : Input}
    {after : Bytes} (rounded : roundRatio (decide (value < 0)) value.natAbs 1 = some number)
    (ends : EndsNumber after) (ahead : input.rest = encode (intText value) ++ after) :
    ∃ next, parseNumberValue input = .ok (.number number) next ∧ next.rest = after := by
  rw [Utf8.encode_eq_map_ascii fun _ => int_text_narrow] at ahead
  have token : ∀ byte ∈ (intText value).map ascii, isNumberChar byte = true := by
    intro byte member
    obtain ⟨c, listed, rfl⟩ := List.mem_map.mp member
    exact (int_text_number_char listed).1
  have back : ((intText value).map ascii).map (fun c => Char.ofNat c.toNat) = intText value := by
    rw [List.map_map]
    exact (List.map_congr_left fun c member => (int_text_number_char member).2).trans
      (List.map_id _)
  obtain ⟨numStr, left⟩ := parse_number_rest input
  rw [ahead, List.takeWhile_append_of_pos token, (take_while_ends_number ends).1,
    List.append_nil] at numStr
  rw [ahead, List.dropWhile_append_of_pos token, (take_while_ends_number ends).2] at left
  refine ⟨(parseNumber input).2, ?_, left⟩
  have nonempty : ¬((intText value).map ascii).isEmpty = true := by
    simpa using int_text_ne_nil value
  unfold parseNumberValue
  rw [show parseNumber input = ((intText value).map ascii, (parseNumber input).2) by rw [← numStr]]
  dsimp only
  rw [if_neg nonempty, back, strtod_int_text, rounded]
  rfl

/-! ## Values -/

/-- Up to white space, the bytes are what is left to read. -/
def Ahead (input : Input) (bytes : Bytes) : Prop :=
  input.rest.dropWhile isSpace = bytes.dropWhile isSpace

theorem blank_byte {blank : List Char} (isBlank : IsBlank blank) {byte : UInt8}
    (member : byte ∈ encode blank) : isSpace byte = true ∧ isNumberChar byte = false := by
  have spaces : ∀ c ∈ [' ', '\t', '\n', '\r'], c.toNat < 0x80 ∧ isSpace (ascii c) = true ∧
      isNumberChar (ascii c) = false := by decide
  have space (c : Char) (listed : c ∈ blank) := spaces c (by simpa [IsBlankChar] using isBlank c listed)
  rw [Utf8.encode_eq_map_ascii fun c listed => (space c listed).1] at member
  obtain ⟨c, listed, rfl⟩ := List.mem_map.mp member
  exact (space c listed).2

theorem ahead_blank {input : Input} {blank : List Char} {bytes : Bytes} (isBlank : IsBlank blank) :
    Ahead input (encode blank ++ bytes) ↔ Ahead input bytes := by
  unfold Ahead
  rw [List.dropWhile_append_of_pos fun _ member => (blank_byte isBlank member).1]

theorem ends_number_blank {blank : List Char} {after : Bytes} (isBlank : IsBlank blank)
    (ends : EndsNumber after) : EndsNumber (encode blank ++ after) := by
  intro c first
  cases spelled : encode blank with
  | nil => exact ends c (by simpa [spelled] using first)
  | cons byte rest =>
      obtain rfl : byte = c := by simpa [spelled] using first
      exact (blank_byte isBlank (by simp [spelled])).2

theorem ahead_rest {input : Input} {c : UInt8} {rest : Bytes} (mark : isSpace c = false)
    (ahead : Ahead input (c :: rest)) : input.rest.dropWhile isSpace = c :: rest := by
  rw [ahead, List.dropWhile_cons, if_neg (by simp [mark])]

theorem getc_skip_ws {input : Input} {c : UInt8} {rest : Bytes} (mark : isSpace c = false)
    (ahead : Ahead input (c :: rest)) :
    ∃ next, getc (skipWs input) = (some c, next) ∧ next.rest = rest ∧
      (ungetc next).rest = c :: rest := by
  have skipped : (skipWs input).rest = c :: rest := (skip_ws_rest input).trans (ahead_rest mark ahead)
  obtain ⟨next, taken, nextRest⟩ := getc_ahead skipped
  exact ⟨next, taken, nextRest, (getc_some taken).2.trans skipped⟩

theorem expect_ahead {input : Input} {c : UInt8} {rest : Bytes} (mark : isSpace c = false)
    (ahead : Ahead input (c :: rest)) :
    ∃ next, expect c input = (true, next) ∧ next.rest = rest :=
  expect_true (ahead_rest mark ahead)

theorem expect_other {input : Input} {c expected : UInt8} {rest bytes : Bytes}
    (first : bytes.dropWhile isSpace = c :: rest) (different : c ≠ expected)
    (ahead : Ahead input bytes) :
    ∃ next, expect expected input = (false, next) ∧ Ahead next bytes := by
  have missing : (input.rest.dropWhile isSpace).head? ≠ some expected := by
    rw [ahead, first]
    simpa using different
  obtain ⟨next, read, nextRest⟩ := expect_false missing
  refine ⟨next, read, ?_⟩
  rw [Ahead, nextRest, ahead, List.dropWhile_idempotent]

theorem match_pattern_ahead {pattern after : Bytes} {input : Input}
    (ahead : input.rest = pattern ++ after) :
    ∃ next, matchPattern pattern input = (true, next) ∧ next.rest = after := by
  induction pattern generalizing input with
  | nil => exact ⟨input, rfl, ahead⟩
  | cons expected rest ih =>
      obtain ⟨middle, taken, aheadRest⟩ := getc_ahead ahead
      obtain ⟨next, matched, nextRest⟩ := ih aheadRest
      refine ⟨next, ?_, nextRest⟩
      simp only [matchPattern, taken, matched]
      exact if_pos trivial

/-- The first character of a value is not a closing bracket. -/
def StartsValue (bytes : Bytes) : Prop :=
  ∃ c rest, bytes.dropWhile isSpace = c :: rest ∧ c ≠ ascii ']' ∧ c ≠ ascii '}'

theorem starts_value_cons {c : Char} {text : List Char} {after : Bytes} (narrow : c.toNat < 0x80)
    (mark : isSpace (ascii c) = false) (notBracket : ascii c ≠ ascii ']')
    (notBrace : ascii c ≠ ascii '}') : StartsValue (encode (c :: text) ++ after) := by
  refine ⟨ascii c, encode text ++ after, ?_, notBracket, notBrace⟩
  rw [Utf8.encode_cons_ascii narrow, List.cons_append, List.dropWhile_cons, if_neg (by simp [mark])]

theorem starts_value_of_denotes {text : List Char} {part : Part} (denotes : Denotes text part)
    (after : Bytes) : StartsValue (encode text ++ after) := by
  have blank {before rest : List Char} (isBlank : IsBlank before) {after : Bytes}
      (starts : StartsValue (encode rest ++ after)) :
      StartsValue (encode (before ++ rest) ++ after) := by
    rw [Utf8.encode_append, List.append_assoc]
    unfold StartsValue at starts ⊢
    rwa [List.dropWhile_append_of_pos fun _ member => (blank_byte isBlank member).1]
  induction denotes generalizing after with
  | null | true | false =>
      exact starts_value_cons (by decide) (by decide) (by decide) (by decide)
  | int value =>
      have marks : ∀ c ∈ '-' :: decimalDigits, c.toNat < 0x80 ∧ isSpace (ascii c) = false ∧
          ascii c ≠ ascii ']' ∧ ascii c ≠ ascii '}' := by decide
      obtain ⟨c, rest, spelled⟩ := List.exists_cons_of_ne_nil (int_text_ne_nil value)
      obtain ⟨narrow, mark, notBracket, notBrace⟩ := marks c (mem_int_text (by rw [spelled]; simp))
      rw [spelled]
      exact starts_value_cons narrow mark notBracket notBrace
  | str spelled =>
      exact starts_value_cons (by decide) (by decide) (by decide) (by decide)
  | emptyList isBlank =>
      exact starts_value_cons (by decide) (by decide) (by decide) (by decide)
  | list inside ih =>
      exact starts_value_cons (by decide) (by decide) (by decide) (by decide)
  | emptyDict isBlank =>
      exact starts_value_cons (by decide) (by decide) (by decide) (by decide)
  | dict inside distinct ih =>
      exact starts_value_cons (by decide) (by decide) (by decide) (by decide)
  | padded isBlankBefore isBlankAfter inside ih =>
      rw [List.append_assoc]
      apply blank isBlankBefore
      rw [Utf8.encode_append, List.append_assoc]
      exact ih _
  | lastElement only ih => exact ih after
  | element first others ihFirst ihOthers =>
      rw [Utf8.encode_append, List.append_assoc]
      exact ihFirst _
  | entry isBlankBefore spelled isBlankBetween inside ih =>
      rw [List.append_assoc, List.append_assoc]
      exact blank isBlankBefore
        (starts_value_cons (by decide) (by decide) (by decide) (by decide))
  | lastMember only ih => exact ih after
  | member first others ihFirst ihOthers =>
      rw [Utf8.encode_append, List.append_assoc]
      exact ihFirst _

/-- The parser reads the value: with fuel for what is left, it ends before what
follows, up to white space. -/
def CompletesValue (text : List Char) (json : Json) : Prop :=
  ∀ value, fromJson json = some value → ∀ (fuel : Nat) (input : Input) (after : Bytes),
    Ahead input (encode text ++ after) → EndsNumber after → 2 * input.rest.length + 1 ≤ fuel →
    ∃ next, parseValue fuel input = .ok value next ∧ Ahead next after

/-- What the loops read, up to the closing bracket, and what a round of the
object loop reads. -/
def Completes (text : List Char) : Part → Prop
  | .value json => CompletesValue text json
  | .elements jsons => ∀ values, itemsFromJson jsons = some values →
      ∀ (fuel : Nat) (items : List Value) (input : Input) (after : Bytes),
      Ahead input (encode text ++ ascii ']' :: after) → 2 * input.rest.length + 2 ≤ fuel →
      ∃ next, parseItems fuel items input = .ok (.array (items ++ values)) next ∧
        next.rest = after
  | .entry key json => ∀ value, fromJson json = some value →
      ∀ (fuel : Nat) (input : Input) (after : Bytes),
      Ahead input (encode text ++ after) → EndsNumber after → 2 * input.rest.length + 1 ≤ fuel →
      ∃ afterQuote afterKey afterColon next, expect (ascii '"') input = (true, afterQuote) ∧
        parseString afterQuote = .ok (encode key) afterKey ∧
        expect (ascii ':') afterKey = (true, afterColon) ∧
        parseValue fuel afterColon = .ok value next ∧ Ahead next after ∧
        next.rest.length < input.rest.length
  | .members entries => ∀ start read, entriesFromJson entries start = some read →
      ∀ (fuel : Nat) (input : Input) (after : Bytes),
      Ahead input (encode text ++ ascii '}' :: after) → 2 * input.rest.length + 2 ≤ fuel →
      ∃ next, parseEntries fuel start input = .ok (.object read) next ∧ next.rest = after

theorem ahead_of_rest {input : Input} {bytes : Bytes} (rest : input.rest = bytes) :
    Ahead input bytes := by
  rw [Ahead, rest]

theorem completes_word {first : Char} {rest : List Char} {json : Json} {value : Value}
    (same : fromJson json = some value) (narrow : ∀ c ∈ first :: rest, c.toNat < 0x80)
    (mark : isSpace (ascii first) = false)
    (dispatch : ∀ fuel input next, getc (skipWs input) = (some (ascii first), next) →
      parseValue (fuel + 1) input = parseWord (rest.map ascii) value next) :
    CompletesValue (first :: rest) json := by
  intro read found fuel input after ahead ends enough
  obtain rfl := Option.some.inj (found.symm.trans same)
  obtain ⟨fuel, rfl⟩ := Nat.exists_eq_add_of_lt enough
  rw [Utf8.encode_eq_map_ascii narrow, List.map_cons, List.cons_append] at ahead
  obtain ⟨middle, taken, aheadRest, -⟩ := getc_skip_ws mark ahead
  obtain ⟨next, matched, nextRest⟩ := match_pattern_ahead aheadRest
  refine ⟨next, ?_, ahead_of_rest nextRest⟩
  rw [dispatch _ _ _ taken]
  simp only [parseWord, matched]

theorem completes_int (value : Int) : CompletesValue (intText value) (.int value) := by
  intro read found fuel input after ahead ends enough
  obtain ⟨number, rounded, rfl⟩ := Option.map_eq_some_iff.mp found
  obtain ⟨fuel, rfl⟩ := Nat.exists_eq_add_of_lt enough
  have marks : ∀ c ∈ '-' :: decimalDigits, isSpace (ascii c) = false ∧ ascii c ≠ ascii 'n' ∧
      ascii c ≠ ascii 'f' ∧ ascii c ≠ ascii 't' ∧ ascii c ≠ ascii '"' ∧ ascii c ≠ ascii '[' ∧
      ascii c ≠ ascii '{' ∧ ((ascii '0' ≤ ascii c ∧ ascii c ≤ ascii '9') ∨
        ascii c = ascii '-') := by decide
  obtain ⟨c, rest, spelled⟩ := List.exists_cons_of_ne_nil (int_text_ne_nil value)
  obtain ⟨mark, notN, notF, notT, notQuote, notBracket, notBrace, numeric⟩ :=
    marks c (mem_int_text (by rw [spelled]; simp))
  have split : encode (intText value) ++ after = ascii c :: (encode rest ++ after) := by
    rw [spelled, Utf8.encode_cons_ascii (int_text_narrow (by rw [spelled]; simp)),
      List.cons_append]
  rw [split] at ahead
  obtain ⟨middle, taken, -, back⟩ := getc_skip_ws mark ahead
  obtain ⟨next, parsed, nextRest⟩ := parse_number_value_int rounded ends (back.trans split.symm)
  refine ⟨next, ?_, ahead_of_rest nextRest⟩
  simp only [parseValue, taken]
  rw [if_neg notN, if_neg notF, if_neg notT, if_neg notQuote, if_neg notBracket, if_neg notBrace,
    if_pos numeric, parsed]

theorem completes_str {text body : List Char} (spelled : StringBody text body) :
    CompletesValue (quoted body) (.str text) := by
  intro read found fuel input after ahead ends enough
  obtain rfl := Option.some.inj found
  obtain ⟨fuel, rfl⟩ := Nat.exists_eq_add_of_lt enough
  rw [quoted, encode_bracketed (by decide) (by decide)] at ahead
  obtain ⟨middle, taken, aheadRest, -⟩ := getc_skip_ws (by decide) ahead
  obtain ⟨next, parsed, nextRest⟩ := parse_string_body spelled aheadRest
  refine ⟨next, ?_, ahead_of_rest nextRest⟩
  simp only [parseValue, taken, parsed]
  rw [if_neg (by decide), if_neg (by decide), if_neg (by decide), if_pos trivial]

theorem open_bracketed {opening closing : Char} (narrowOpening : opening.toNat < 0x80)
    (narrowClosing : closing.toNat < 0x80) (mark : isSpace (ascii opening) = false)
    {inside : List Char} {fuel : Nat} {input : Input} {after : Bytes}
    (ahead : Ahead input (encode (opening :: inside ++ [closing]) ++ after))
    (enough : 2 * input.rest.length + 1 ≤ fuel) :
    ∃ left middle, fuel = left + 1 ∧ getc (skipWs input) = (some (ascii opening), middle) ∧
      middle.rest = encode inside ++ ascii closing :: after ∧
      2 * middle.rest.length + 2 ≤ left := by
  obtain ⟨left, rfl⟩ := Nat.exists_eq_add_one_of_ne_zero (show fuel ≠ 0 by omega)
  rw [encode_bracketed narrowOpening narrowClosing] at ahead
  obtain ⟨middle, taken, aheadRest, -⟩ := getc_skip_ws mark ahead
  have shorter : middle.rest.length < input.rest.length :=
    (getc_shortens taken).trans_le (skip_ws_shortens input)
  exact ⟨left, middle, rfl, taken, aheadRest, by omega⟩

theorem completes_empty_list {blank : List Char} (isBlank : IsBlank blank) :
    CompletesValue ('[' :: blank ++ [']']) (.list []) := by
  intro read found fuel input after ahead ends enough
  obtain rfl := Option.some.inj found
  obtain ⟨left, middle, rfl, taken, rest, -⟩ :=
    open_bracketed (by decide) (by decide) (by decide) ahead enough
  obtain ⟨next, closed, nextRest⟩ :=
    expect_ahead (by decide) ((ahead_blank isBlank).mp (ahead_of_rest rest))
  refine ⟨next, ?_, ahead_of_rest nextRest⟩
  simp only [parseValue, taken, closed]
  rw [if_neg (by decide), if_neg (by decide), if_neg (by decide), if_neg (by decide),
    if_pos trivial]

theorem completes_empty_dict {blank : List Char} (isBlank : IsBlank blank) :
    CompletesValue ('{' :: blank ++ ['}']) (.dict []) := by
  intro read found fuel input after ahead ends enough
  obtain rfl := Option.some.inj found
  obtain ⟨left, middle, rfl, taken, rest, -⟩ :=
    open_bracketed (by decide) (by decide) (by decide) ahead enough
  obtain ⟨next, closed, nextRest⟩ :=
    expect_ahead (by decide) ((ahead_blank isBlank).mp (ahead_of_rest rest))
  refine ⟨next, ?_, ahead_of_rest nextRest⟩
  simp only [parseValue, taken, closed]
  rw [if_neg (by decide), if_neg (by decide), if_neg (by decide), if_neg (by decide),
    if_neg (by decide), if_pos trivial]

/-- The closing bracket does not come first: the loop starts. -/
theorem expect_close {text : List Char} {part : Part} (denotes : Denotes text part)
    {closing : UInt8} (isClosing : closing = ascii ']' ∨ closing = ascii '}') {input : Input}
    {after : Bytes} (rest : input.rest = encode text ++ after) :
    ∃ next, expect closing input = (false, next) ∧ Ahead next (encode text ++ after) ∧
      next.rest.length ≤ input.rest.length := by
  obtain ⟨c, others, first, notBracket, notBrace⟩ := starts_value_of_denotes denotes after
  have different : c ≠ closing := by
    rcases isClosing with rfl | rfl
    · exact notBracket
    · exact notBrace
  obtain ⟨next, read, ahead⟩ := expect_other first different (ahead_of_rest rest)
  exact ⟨next, read, ahead, by simpa using expect_shortens read⟩

theorem completes_list {items : List Json} {text : List Char}
    (inside : Denotes text (.elements items)) (completes : Completes text (.elements items)) :
    CompletesValue ('[' :: text ++ [']']) (.list items) := by
  intro read found fuel input after ahead ends enough
  obtain ⟨values, valuesFound, rfl⟩ := Option.map_eq_some_iff.mp found
  obtain ⟨left, middle, rfl, taken, rest, enoughLeft⟩ :=
    open_bracketed (by decide) (by decide) (by decide) ahead enough
  obtain ⟨start, open_, aheadStart, le⟩ := expect_close inside (.inl rfl) rest
  obtain ⟨next, parsed, nextRest⟩ :=
    completes values valuesFound left [] start after aheadStart (by omega)
  refine ⟨next, ?_, ahead_of_rest nextRest⟩
  simp only [parseValue, taken, open_]
  rw [if_neg (by decide), if_neg (by decide), if_neg (by decide), if_neg (by decide),
    if_pos trivial, parsed, List.nil_append]

theorem completes_dict {entries : List (List Char × Json)} {text : List Char}
    (inside : Denotes text (.members entries)) (completes : Completes text (.members entries)) :
    CompletesValue ('{' :: text ++ ['}']) (.dict entries) := by
  intro read found fuel input after ahead ends enough
  obtain ⟨assigned, assignedFound, rfl⟩ := Option.map_eq_some_iff.mp found
  obtain ⟨left, middle, rfl, taken, rest, enoughLeft⟩ :=
    open_bracketed (by decide) (by decide) (by decide) ahead enough
  obtain ⟨start, open_, aheadStart, le⟩ := expect_close inside (.inr rfl) rest
  obtain ⟨next, parsed, nextRest⟩ :=
    completes [] assigned assignedFound left start after aheadStart (by omega)
  refine ⟨next, ?_, ahead_of_rest nextRest⟩
  simp only [parseValue, taken, open_]
  rw [if_neg (by decide), if_neg (by decide), if_neg (by decide), if_neg (by decide),
    if_neg (by decide), if_pos trivial, parsed]

theorem completes_padded {json : Json} {before text blank : List Char}
    (isBlankBefore : IsBlank before) (isBlankAfter : IsBlank blank)
    (completes : CompletesValue text json) :
    CompletesValue (before ++ text ++ blank) json := by
  intro read found fuel input after ahead ends enough
  rw [Utf8.encode_append, Utf8.encode_append, List.append_assoc, List.append_assoc,
    ahead_blank isBlankBefore] at ahead
  obtain ⟨next, parsed, aheadNext⟩ := completes read found fuel input _ ahead
    (ends_number_blank isBlankAfter ends) enough
  exact ⟨next, parsed, (ahead_blank isBlankAfter).mp aheadNext⟩

theorem parse_value_shortens {fuel : Nat} {value : Value} {input next : Input}
    (enough : 2 * input.rest.length + 1 ≤ fuel)
    (parsed : parseValue fuel input = .ok value next) :
    next.rest.length < input.rest.length := by
  have advances := (fuel_suffices fuel).1 input enough
  rwa [parsed] at advances

theorem ends_number_mark {mark : UInt8} {rest : Bytes} (isMark : isNumberChar mark = false) :
    EndsNumber (mark :: rest) := by
  intro c first
  exact Option.some.inj first ▸ isMark

theorem completes_last_element {json : Json} {text : List Char}
    (completes : CompletesValue text json) : Completes text (.elements [json]) := by
  intro values found fuel items input after ahead enough
  obtain ⟨value, valueFound, joined⟩ := Option.bind_eq_some_iff.mp found
  obtain rfl := Option.some.inj joined
  obtain ⟨left, rfl⟩ := Nat.exists_eq_add_one_of_ne_zero (show fuel ≠ 0 by omega)
  obtain ⟨middle, parsed, aheadMiddle⟩ := completes value valueFound left input _ ahead
    (ends_number_mark (by decide)) (by omega)
  have different : ascii ']' ≠ ascii ',' := by decide
  obtain ⟨afterItem, noComma, aheadClose⟩ :=
    expect_other (List.dropWhile_cons_of_neg (by decide)) different aheadMiddle
  obtain ⟨next, closed, nextRest⟩ := expect_ahead (by decide) aheadClose
  refine ⟨next, ?_, nextRest⟩
  simp only [parseItems, parsed, noComma, closed]

theorem completes_element {json : Json} {jsons : List Json} {text rest : List Char}
    (completes : CompletesValue text json) (others : Completes rest (.elements jsons)) :
    Completes (text ++ ',' :: rest) (.elements (json :: jsons)) := by
  intro values found fuel items input after ahead enough
  obtain ⟨value, valueFound, joined⟩ := Option.bind_eq_some_iff.mp found
  obtain ⟨restValues, restFound, rfl⟩ := Option.map_eq_some_iff.mp joined
  obtain ⟨left, rfl⟩ := Nat.exists_eq_add_one_of_ne_zero (show fuel ≠ 0 by omega)
  rw [Utf8.encode_append, Utf8.encode_cons_ascii (by decide), List.append_assoc,
    List.cons_append] at ahead
  obtain ⟨middle, parsed, aheadMiddle⟩ := completes value valueFound left input _ ahead
    (ends_number_mark (by decide)) (by omega)
  have shorter := parse_value_shortens (by omega) parsed
  obtain ⟨afterComma, comma, restComma⟩ := expect_ahead (by decide) aheadMiddle
  have commaShortens := expect_shortens comma
  obtain ⟨next, parsedRest, nextRest⟩ := others restValues restFound left (items ++ [value])
    afterComma after (ahead_of_rest restComma) (by omega)
  refine ⟨next, ?_, nextRest⟩
  simp only [parseItems, parsed, comma, parsedRest, List.append_assoc, List.singleton_append]

theorem completes_entry {key body before between text : List Char} {json : Json}
    (isBlankBefore : IsBlank before) (spelled : StringBody key body)
    (isBlankBetween : IsBlank between) (completes : CompletesValue text json) :
    Completes (before ++ quoted body ++ between ++ ':' :: text) (.entry key json) := by
  intro value found fuel input after ahead ends enough
  rw [Utf8.encode_append, Utf8.encode_append, Utf8.encode_append,
    Utf8.encode_cons_ascii (by decide), List.append_assoc, List.append_assoc, List.append_assoc,
    List.cons_append, ahead_blank isBlankBefore, quoted,
    encode_bracketed (by decide) (by decide)] at ahead
  obtain ⟨afterQuote, quote, restQuote⟩ := expect_ahead (by decide) ahead
  have quoteShortens := expect_shortens quote
  obtain ⟨afterKey, keyParsed, restKey⟩ := parse_string_body spelled restQuote
  have keyAdvances := PicojsonFuel.parse_string_advances afterQuote
  rw [keyParsed] at keyAdvances
  change afterKey.rest.length < afterQuote.rest.length at keyAdvances
  obtain ⟨afterColon, colon, restColon⟩ :=
    expect_ahead (by decide) ((ahead_blank isBlankBetween).mp (ahead_of_rest restKey))
  have colonShortens := expect_shortens colon
  obtain ⟨next, parsed, aheadNext⟩ := completes value found fuel afterColon after
    (ahead_of_rest restColon) ends (by omega)
  have shorter := parse_value_shortens (by omega) parsed
  exact ⟨afterQuote, afterKey, afterColon, next, quote, keyParsed, colon, parsed, aheadNext,
    by omega⟩

theorem completes_last_member {key : List Char} {json : Json} {text : List Char}
    (completes : Completes text (.entry key json)) :
    Completes text (.members [(key, json)]) := by
  intro start read found fuel input after ahead enough
  obtain ⟨item, itemFound, joined⟩ := Option.bind_eq_some_iff.mp found
  obtain ⟨value, valueFound, rfl⟩ := Option.map_eq_some_iff.mp itemFound
  obtain rfl := Option.some.inj joined
  obtain ⟨left, rfl⟩ := Nat.exists_eq_add_one_of_ne_zero (show fuel ≠ 0 by omega)
  obtain ⟨afterQuote, afterKey, afterColon, middle, quote, keyParsed, colon, parsed, aheadMiddle,
    -⟩ := completes value valueFound left input _ ahead (ends_number_mark (by decide)) (by omega)
  have different : ascii '}' ≠ ascii ',' := by decide
  obtain ⟨afterItem, noComma, aheadClose⟩ :=
    expect_other (List.dropWhile_cons_of_neg (by decide)) different aheadMiddle
  obtain ⟨next, closed, nextRest⟩ := expect_ahead (by decide) aheadClose
  refine ⟨next, ?_, nextRest⟩
  simp only [parseEntries, quote, keyParsed, colon, parsed, noComma, closed]

theorem completes_member {key : List Char} {json : Json} {entries : List (List Char × Json)}
    {text rest : List Char} (completes : Completes text (.entry key json))
    (others : Completes rest (.members entries)) :
    Completes (text ++ ',' :: rest) (.members ((key, json) :: entries)) := by
  intro start read found fuel input after ahead enough
  obtain ⟨item, itemFound, restFound⟩ := Option.bind_eq_some_iff.mp found
  obtain ⟨value, valueFound, rfl⟩ := Option.map_eq_some_iff.mp itemFound
  obtain ⟨left, rfl⟩ := Nat.exists_eq_add_one_of_ne_zero (show fuel ≠ 0 by omega)
  rw [Utf8.encode_append, Utf8.encode_cons_ascii (by decide), List.append_assoc,
    List.cons_append] at ahead
  obtain ⟨afterQuote, afterKey, afterColon, middle, quote, keyParsed, colon, parsed, aheadMiddle,
    shorter⟩ := completes value valueFound left input _ ahead (ends_number_mark (by decide))
      (by omega)
  obtain ⟨afterComma, comma, restComma⟩ := expect_ahead (by decide) aheadMiddle
  have commaShortens := expect_shortens comma
  obtain ⟨next, parsedRest, nextRest⟩ := others _ read restFound left afterComma after
    (ahead_of_rest restComma) (by omega)
  refine ⟨next, ?_, nextRest⟩
  simp only [parseEntries, quote, keyParsed, colon, parsed, comma, parsedRest]

theorem completes_of_denotes {text : List Char} {part : Part} (denotes : Denotes text part) :
    Completes text part := by
  induction denotes with
  | null =>
      refine completes_word rfl (by decide) (by decide) fun fuel input next taken => ?_
      simp only [parseValue, taken]
      rw [if_pos trivial]
      rfl
  | true =>
      refine completes_word rfl (by decide) (by decide) fun fuel input next taken => ?_
      simp only [parseValue, taken]
      rw [if_neg (by decide), if_neg (by decide), if_pos trivial]
      rfl
  | false =>
      refine completes_word rfl (by decide) (by decide) fun fuel input next taken => ?_
      simp only [parseValue, taken]
      rw [if_neg (by decide), if_pos trivial]
      rfl
  | int value => exact completes_int value
  | str spelled => exact completes_str spelled
  | emptyList isBlank => exact completes_empty_list isBlank
  | list inside ih => exact completes_list inside ih
  | emptyDict isBlank => exact completes_empty_dict isBlank
  | dict inside distinct ih => exact completes_dict inside ih
  | padded isBlankBefore isBlankAfter inside ih =>
      exact completes_padded isBlankBefore isBlankAfter ih
  | lastElement only ih => exact completes_last_element ih
  | element first others ihFirst ihOthers => exact completes_element ihFirst ihOthers
  | entry isBlankBefore spelled isBlankBetween inside ih =>
      exact completes_entry isBlankBefore spelled isBlankBetween ih
  | lastMember only ih => exact completes_last_member ih
  | member first others ihFirst ihOthers => exact completes_member ihFirst ihOthers

/-- `picojson::parse` returns the value that a JSON text denotes. -/
theorem parse_denotes {text : List Char} {json : Json} {value : Value}
    (denotes : DenotesValue text json) (found : fromJson json = some value) :
    parse (encode text) = .value value := by
  have ahead : Ahead ⟨none, encode text, 1⟩ (encode text ++ []) := by
    rw [List.append_nil]
    exact ahead_of_rest rfl
  obtain ⟨next, parsed, -⟩ := completes_of_denotes denotes value found
    (2 * (encode text).length + 2) ⟨none, encode text, 1⟩ [] ahead (by simp [EndsNumber])
    (Nat.le_succ _)
  simp only [parse, parsed]

end PyWebRTC.PicojsonComplete
