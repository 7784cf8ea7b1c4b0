import PyWebRTC.PicojsonSerialize

/-!
# What picojson writes is JSON

`toJson` reads a picojson value as a JSON value, where its strings are UTF-8,
its numbers are integers below 2^53 and the keys of its objects differ. The
text of such a value is the encoding of a JSON text that denotes it.
-/

namespace PyWebRTC.PicojsonDenotes

open DoubleRounding (Double CInt truncate truncatedMagnitude isIntegral)
open JsonText PicojsonSerialize PicojsonValue
open Utf8 (ascii encode)

set_option autoImplicit false

/-- Zero is written without a sign when it has none. -/
def integerOf (number : Double) : Option Int :=
  if truncatedMagnitude number < 2 ^ 53 ∧ isIntegral number = true ∧
      (truncatedMagnitude number = 0 → number.negative = false) then
    some (truncate number)
  else none

mutual

def toJson : Value → Option Json
  | .null => some .null
  | .boolean value => some (.bool value)
  | .number number => (integerOf number).map .int
  | .string value => (Utf8.decode value).map .str
  | .array items => (itemsToJson items).map .list
  | .object entries => (entriesToJson entries).bind fun read =>
      if (read.map Prod.fst).Nodup then some (.dict read) else none

def itemsToJson : List Value → Option (List Json)
  | [] => some []
  | item :: rest => (toJson item).bind fun read => (itemsToJson rest).map (read :: ·)

def entriesToJson : List (Bytes × Value) → Option (List (List Char × Json))
  | [] => some []
  | entry :: rest => (entryToJson entry).bind fun read => (entriesToJson rest).map (read :: ·)

def entryToJson : Bytes × Value → Option (List Char × Json)
  | (key, item) => (Utf8.decode key).bind fun text => (toJson item).map fun read => (text, read)

end

/-! ## Strings -/

def escaped (c : Char) : List Char :=
  if c.toNat < 0x80 then
    match escapeTable.lookup (ascii c) with
    | some sym => sym
    | none => if c.toNat < 0x20 ∨ c.toNat = 0x7f then unicodeEscape c.toNat else [c]
  else [c]

theorem escape_table_short : ∀ entry ∈ escapeTable, ∃ short ∈ shortEscapes,
    entry = (ascii short.2, ['\\', short.1]) ∧ short.1.toNat < 0x80 ∧ short.2.toNat < 0x80 := by
  decide

theorem short_of_lookup {c : Char} {sym : List Char} (narrow : c.toNat < 0x80)
    (found : escapeTable.lookup (ascii c) = some sym) :
    ∃ letter, (letter, c) ∈ shortEscapes ∧ sym = ['\\', letter] ∧ letter.toNat < 0x80 := by
  obtain ⟨before, after, split, -⟩ := List.lookup_eq_some_iff.mp found
  have member : (ascii c, sym) ∈ escapeTable := by simp [split]
  obtain ⟨⟨letter, target⟩, listed, same, narrowLetter, narrowTarget⟩ :=
    escape_table_short _ member
  obtain ⟨sameByte, rfl⟩ := Prod.mk.inj same
  have sameChar : c = target := by
    rw [← Char.toNat_inj, ← Utf8.ascii_toNat narrow, sameByte, Utf8.ascii_toNat narrowTarget]
  exact ⟨letter, sameChar ▸ listed, rfl, narrowLetter⟩

theorem char_text_escaped (c : Char) : CharText c (escaped c) := by
  unfold escaped
  split
  case isTrue narrow =>
    split
    case h_1 sym found =>
      obtain ⟨letter, listed, rfl, -⟩ := short_of_lookup narrow found
      exact .short listed
    case h_2 absent =>
      split
      case isTrue control =>
        exact .unit rfl (hex_word_unicode_escape (by omega))
      case isFalse printable =>
        refine .plain (by omega) ?_ ?_
        · rintro rfl
          exact absurd absent (by decide)
        · rintro rfl
          exact absurd absent (by decide)
  case isFalse wide =>
    refine .plain (by omega) ?_ ?_
    · rintro rfl
      exact wide (by decide)
    · rintro rfl
      exact wide (by decide)

theorem serialize_str_char_encode (c : Char) :
    (String.utf8EncodeChar c).flatMap serializeStrChar = encode (escaped c) := by
  by_cases narrow : c.toNat < 0x80
  · rw [Utf8.encode_ascii narrow, List.flatMap_singleton, serializeStrChar, escaped,
      if_pos narrow, Utf8.ascii_toNat narrow]
    cases found : escapeTable.lookup (ascii c) with
    | some sym =>
        obtain ⟨letter, -, rfl, narrowLetter⟩ := short_of_lookup narrow found
        refine (Utf8.encode_eq_map_ascii ?_).symm
        simpa using narrowLetter
    | none =>
        dsimp only
        split
        · rw [Utf8.encode_eq_map_ascii fun _ => unicode_escape_narrow]
        · rw [Utf8.encode_cons_ascii narrow, Utf8.encode_nil]
  · have unchanged : ∀ byte ∈ String.utf8EncodeChar c, serializeStrChar byte = [byte] := by
      intro byte member
      have wide := Utf8.le_of_mem_encode (Nat.le_of_not_lt narrow) member
      have absent : escapeTable.lookup byte = none := by
        rw [List.lookup_eq_none_iff]
        intro entry listed
        obtain ⟨short, -, rfl, -, narrowShort⟩ := escape_table_short entry listed
        rw [bne_iff_ne]
        rintro rfl
        rw [Utf8.ascii_toNat narrowShort] at wide
        omega
      simp only [serializeStrChar, absent]
      rw [if_neg]
      omega
    rw [escaped, if_neg narrow, Utf8.encode_cons, Utf8.encode_nil, List.append_nil,
      List.flatMap_def, List.map_congr_left unchanged, ← List.flatMap_def,
      List.flatMap_singleton']

theorem string_body_escaped (text : List Char) : StringBody text (text.flatMap escaped) := by
  induction text with
  | nil => exact .nil
  | cons first rest ih => exact .cons (char_text_escaped first) ih

theorem serialize_str_encode (text : List Char) :
    serializeStr (encode text) = encode (quoted (text.flatMap escaped)) := by
  have body : (encode text).flatMap serializeStrChar = encode (text.flatMap escaped) := by
    induction text with
    | nil => rfl
    | cons first rest ih =>
        rw [Utf8.encode_cons, List.flatMap_append, serialize_str_char_encode, ih,
          List.flatMap_cons, Utf8.encode_append]
  rw [serializeStr, body, quoted, Utf8.encode_append, Utf8.encode_cons_ascii (by decide),
    Utf8.encode_cons_ascii (by decide), Utf8.encode_nil]

/-! ## Numbers -/

theorem format_number_integer {number : Double} {value : Int}
    (integer : integerOf number = some value) : formatNumber number = intText value := by
  unfold integerOf at integer
  split at integer
  case isTrue fits =>
    obtain ⟨small, integral, sign⟩ := fits
    obtain rfl := Option.some.inj integer
    rw [formatNumber, if_pos ⟨small, integral⟩, formatInteger, truncate, intText]
    cases negative : number.negative with
    | false => simp
    | true =>
        have nonzero : truncatedMagnitude number ≠ 0 := by
          intro zero
          exact absurd (negative.symm.trans (sign zero)) (by decide)
        simp [Nat.pos_of_ne_zero nonzero]
  case isFalse => contradiction

theorem integer_of_to_double (n : CInt) : integerOf n.toDouble = some n.val := by
  obtain ⟨truncated, integral, sign⟩ := DoubleRounding.to_double_spec n
  have bounds := n.property
  have magnitude : truncatedMagnitude n.toDouble = n.val.natAbs := by
    rw [truncate] at truncated
    split at truncated <;> omega
  rw [integerOf, if_pos, truncated]
  refine ⟨by omega, integral, ?_⟩
  intro zero
  rw [sign]
  simpa using (show 0 ≤ n.val by omega)

/-! ## Values -/

def lineIndentText : Option Nat → List Char
  | none => []
  | some indent => '\n' :: List.replicate (indent * indentWidth) ' '

theorem line_indent_encode (indent : Option Nat) :
    lineIndent indent = encode (lineIndentText indent) := by
  cases indent with
  | none => rfl
  | some indent =>
      rw [lineIndentText, Utf8.encode_cons_ascii (by decide), Utf8.encode_eq_map_ascii,
        List.map_replicate, lineIndent]
      intro c member
      rw [List.eq_of_mem_replicate member]
      decide

theorem is_blank_line_indent_text (indent : Option Nat) : IsBlank (lineIndentText indent) := by
  cases indent with
  | none => exact is_blank_nil
  | some indent =>
      intro c member
      obtain rfl | space := List.mem_cons.mp member
      · decide
      · rw [List.eq_of_mem_replicate space]
        decide

def commaText (first : Bool) : List Char := if first then [] else [',']

theorem separator_encode (indent : Option Nat) (first : Bool) :
    separator indent first = encode (commaText first ++ lineIndentText indent) := by
  rw [separator, Utf8.encode_append, line_indent_encode]
  cases first with
  | false => rfl
  | true => rfl

theorem bracket_encode {opening closing : Char} (narrowOpening : opening.toNat < 0x80)
    (narrowClosing : closing.toNat < 0x80) (text : List Char) :
    ascii opening :: encode text ++ [ascii closing] =
      encode (opening :: text ++ [closing]) := by
  rw [Utf8.encode_append, Utf8.encode_cons_ascii narrowOpening,
    Utf8.encode_cons_ascii narrowClosing, Utf8.encode_nil]

mutual

theorem serialize_inner_denotes (indent : Option Nat) : ∀ (value : Value) (json : Json),
    toJson value = some json →
      ∃ text, serializeInner indent value = encode text ∧ DenotesValue text json
  | .null, json, read => by
      obtain rfl := Option.some.inj read
      exact ⟨['n', 'u', 'l', 'l'], rfl, .null⟩
  | .boolean true, json, read => by
      obtain rfl := Option.some.inj read
      exact ⟨['t', 'r', 'u', 'e'], rfl, .true⟩
  | .boolean false, json, read => by
      obtain rfl := Option.some.inj read
      exact ⟨['f', 'a', 'l', 's', 'e'], rfl, .false⟩
  | .number number, json, read => by
      obtain ⟨value, integer, rfl⟩ := Option.map_eq_some_iff.mp read
      refine ⟨intText value, ?_, .int value⟩
      rw [serializeInner, format_number_integer integer,
        Utf8.encode_eq_map_ascii fun _ => int_text_narrow]
  | .string s, json, read => by
      obtain ⟨text, decoded, rfl⟩ := Option.map_eq_some_iff.mp read
      refine ⟨quoted (text.flatMap escaped), ?_, .str (string_body_escaped text)⟩
      rw [serializeInner, ← serialize_str_encode, Utf8.encode_of_decode decoded]
  | .array [], json, read => by
      obtain rfl := Option.some.inj read
      exact ⟨['[', ']'], rfl, .emptyList is_blank_nil⟩
  | .array (item :: rest), json, read => by
      obtain ⟨items, readItems, rfl⟩ := Option.map_eq_some_iff.mp read
      obtain ⟨text, written, denotes⟩ := serialize_items_denotes (indent.map (· + 1)) true
        (item :: rest) items (List.cons_ne_nil _ _) readItems
      refine ⟨_, ?_, .list (denotes_append_blank denotes (is_blank_line_indent_text indent))⟩
      rw [serializeInner, written, line_indent_encode, ← bracket_encode (by decide) (by decide)]
      simp [commaText]
  | .object entries, json, read => by
      obtain ⟨members, readMembers, checked⟩ := Option.bind_eq_some_iff.mp read
      split at checked
      case isFalse => contradiction
      case isTrue distinct =>
        obtain rfl := Option.some.inj checked
        cases entries with
        | nil =>
            obtain rfl := Option.some.inj readMembers
            exact ⟨['{', '}'], rfl, .emptyDict is_blank_nil⟩
        | cons entry rest =>
            obtain ⟨text, written, denotes⟩ := serialize_entries_denotes (indent.map (· + 1)) true
              (entry :: rest) members (List.cons_ne_nil _ _) readMembers
            refine ⟨_, ?_, .dict (denotes_append_blank denotes
              (is_blank_line_indent_text indent)) distinct⟩
            rw [serializeInner, written, line_indent_encode,
              ← bracket_encode (by decide) (by decide)]
            simp [commaText]

theorem serialize_items_denotes (indent : Option Nat) (first : Bool) :
    ∀ (items : List Value) (read : List Json), items ≠ [] → itemsToJson items = some read →
      ∃ text, serializeItems indent first items = encode (commaText first ++ text) ∧
        Denotes text (.elements read)
  | item :: rest, read, _, itemsRead => by
      obtain ⟨json, itemRead, joined⟩ := Option.bind_eq_some_iff.mp itemsRead
      obtain ⟨jsons, restRead, rfl⟩ := Option.map_eq_some_iff.mp joined
      obtain ⟨text, written, denotes⟩ := serialize_inner_denotes indent item json itemRead
      have padded := Denotes.padded (is_blank_line_indent_text indent) is_blank_nil denotes
      cases rest with
      | nil =>
          obtain rfl := Option.some.inj restRead
          refine ⟨_, ?_, .lastElement padded⟩
          simp [serializeItems, separator_encode, written]
      | cons next rest =>
          obtain ⟨restText, restWritten, restDenotes⟩ := serialize_items_denotes indent false
            (next :: rest) jsons (List.cons_ne_nil _ _) restRead
          refine ⟨_, ?_, .element padded restDenotes⟩
          rw [serializeItems, separator_encode, written, restWritten]
          simp [commaText, Utf8.encode_cons]

theorem serialize_entries_denotes (indent : Option Nat) (first : Bool) :
    ∀ (entries : List (Bytes × Value)) (read : List (List Char × Json)), entries ≠ [] →
      entriesToJson entries = some read →
      ∃ text, serializeEntries indent first entries = encode (commaText first ++ text) ∧
        Denotes text (.members read)
  | entry :: rest, read, _, entriesRead => by
      obtain ⟨⟨key, json⟩, entryRead, joined⟩ := Option.bind_eq_some_iff.mp entriesRead
      obtain ⟨members, restRead, rfl⟩ := Option.map_eq_some_iff.mp joined
      obtain ⟨text, written, denotes⟩ := serialize_entry_denotes indent entry key json entryRead
      have indented := denotes (is_blank_line_indent_text indent)
      cases rest with
      | nil =>
          obtain rfl := Option.some.inj restRead
          refine ⟨_, ?_, .lastMember indented⟩
          simp [serializeEntries, separator_encode, written]
      | cons next rest =>
          obtain ⟨restText, restWritten, restDenotes⟩ := serialize_entries_denotes indent false
            (next :: rest) members (List.cons_ne_nil _ _) restRead
          refine ⟨_, ?_, .member indented restDenotes⟩
          rw [serializeEntries, separator_encode, written, restWritten]
          simp [commaText, Utf8.encode_cons]

theorem serialize_entry_denotes (indent : Option Nat) :
    ∀ (entry : Bytes × Value) (key : List Char) (json : Json),
      entryToJson entry = some (key, json) →
      ∃ text, serializeEntry indent entry = encode text ∧
        ∀ {blank : List Char}, IsBlank blank → Denotes (blank ++ text) (.entry key json)
  | (name, item), key, json, entryRead => by
      obtain ⟨keyText, decoded, joined⟩ := Option.bind_eq_some_iff.mp entryRead
      obtain ⟨itemJson, itemRead, same⟩ := Option.map_eq_some_iff.mp joined
      obtain ⟨rfl, rfl⟩ := Prod.mk.inj same
      obtain ⟨text, written, denotes⟩ := serialize_inner_denotes indent item _ itemRead
      refine ⟨quoted (keyText.flatMap escaped) ++
        ':' :: ((if indent.isSome then [' '] else []) ++ text), ?_, ?_⟩
      · rw [serializeEntry, ← Utf8.encode_of_decode decoded, serialize_str_encode, written,
          Utf8.encode_append, Utf8.encode_cons_ascii (by decide), Utf8.encode_append]
        cases indent with
        | none => simp
        | some indent => simp [Utf8.encode_cons_ascii (show ' '.toNat < 0x80 by decide)]
      · intro blank isBlank
        have space : IsBlank (if indent.isSome then [' '] else []) := by
          split
          · exact fun c member => .inl (List.mem_singleton.mp member)
          · exact is_blank_nil
        have inside := Denotes.padded space is_blank_nil denotes
        simpa using Denotes.entry isBlank (string_body_escaped keyText) is_blank_nil inside

end

/-- The text of a value that reads as JSON denotes it. -/
theorem serialize_denotes {value : Value} {json : Json} (prettify : Bool)
    (read : toJson value = some json) :
    ∃ text, serialize value prettify = encode text ∧ DenotesValue text json := by
  unfold serialize
  split
  · obtain ⟨text, written, denotes⟩ := serialize_inner_denotes (some 0) value json read
    have lineFeed : IsBlank ['\n'] := fun c member => .inr (.inr (.inl (List.mem_singleton.mp member)))
    refine ⟨text ++ ['\n'], ?_, denotes_append_blank denotes lineFeed⟩
    rw [written, Utf8.encode_append, Utf8.encode_cons_ascii (by decide), Utf8.encode_nil]
  · exact serialize_inner_denotes none value json read

end PyWebRTC.PicojsonDenotes
