import PyWebRTC.JsonText

/-!
# Python's `json` module and its writer

`Codec` is what the signaling relies on. `dumps` is the module's writer with its
default separators and `ensure_ascii`. Floating point numbers and lone
surrogates are left out.
-/

namespace PyWebRTC.PythonJson

open JsonText

set_option autoImplicit false

/-- `loads` returns the value of every text, and `dumps` writes a text of every
value that has one. -/
structure Codec where
  loads : List Char → Option Json
  dumps : Json → List Char
  loads_denotes : ∀ text json, DenotesValue text json → loads text = some json
  dumps_denotes : ∀ json, HasText json → DenotesValue (dumps json) json

theorem Codec.loads_dumps (codec : Codec) {json : Json} (hasText : HasText json) :
    codec.loads (codec.dumps json) = some json :=
  codec.loads_denotes _ _ (codec.dumps_denotes json hasText)

/-! ## The writer -/

def dumpsEscapes : List (Char × Char) :=
  [('\\', '\\'), ('"', '"'), ('\x08', 'b'), ('\x0c', 'f'), ('\n', 'n'), ('\r', 'r'), ('\t', 't')]

def dumpsChar (c : Char) : List Char :=
  match dumpsEscapes.lookup c with
  | some letter => ['\\', letter]
  | none =>
      if 0x20 ≤ c.toNat ∧ c.toNat < 0x7f then [c]
      else if c.toNat < 0x10000 then unicodeEscape c.toNat
      else
        unicodeEscape (0xD800 + (c.toNat - 0x10000) / 0x400) ++
          unicodeEscape (0xDC00 + (c.toNat - 0x10000) % 0x400)

def dumpsString (text : List Char) : List Char := quoted (text.flatMap dumpsChar)

mutual

def dumps : Json → List Char
  | .null => ['n', 'u', 'l', 'l']
  | .bool true => ['t', 'r', 'u', 'e']
  | .bool false => ['f', 'a', 'l', 's', 'e']
  | .int value => intText value
  | .str text => dumpsString text
  | .list items => '[' :: [',', ' '].intercalate (dumpsItems items) ++ [']']
  | .dict entries => '{' :: [',', ' '].intercalate (dumpsEntries entries) ++ ['}']

def dumpsItems : List Json → List (List Char)
  | [] => []
  | item :: rest => dumps item :: dumpsItems rest

def dumpsEntries : List (List Char × Json) → List (List Char)
  | [] => []
  | entry :: rest => dumpsEntry entry :: dumpsEntries rest

def dumpsEntry : List Char × Json → List Char
  | (key, json) => dumpsString key ++ ':' :: ' ' :: dumps json

end

theorem dumps_escapes_short : ∀ entry ∈ dumpsEscapes, (entry.2, entry.1) ∈ shortEscapes := by
  decide

theorem char_text_dumps_char (c : Char) : CharText c (dumpsChar c) := by
  have valid : c.toNat < 0xD800 ∨ 0xDFFF < c.toNat ∧ c.toNat < 0x110000 := c.valid
  unfold dumpsChar
  split
  case h_1 letter found =>
    obtain ⟨before, after, split, -⟩ := List.lookup_eq_some_iff.mp found
    exact .short (dumps_escapes_short (c, letter) (by simp [split]))
  case h_2 absent =>
    split
    case isTrue printable =>
      refine .plain printable.1 ?_ ?_
      · rintro rfl
        exact absurd absent (by decide)
      · rintro rfl
        exact absurd absent (by decide)
    case isFalse =>
      split
      case isTrue narrow => exact .unit rfl (hex_word_unicode_escape narrow)
      case isFalse wide =>
        exact .pair rfl rfl (hex_word_unicode_escape (by omega))
          (hex_word_unicode_escape (by omega)) (by omega) (by omega) (by omega)

theorem string_body_dumps (text : List Char) : StringBody text (text.flatMap dumpsChar) := by
  induction text with
  | nil => exact .nil
  | cons first rest ih => exact .cons (char_text_dumps_char first) ih

theorem has_text_str (text : List Char) : HasText (.str text) :=
  ⟨_, .str (string_body_dumps text)⟩

theorem has_text_int (value : Int) : HasText (.int value) := ⟨_, .int value⟩

theorem has_text_list {items : List Json} (each : ∀ item ∈ items, HasText item) :
    HasText (.list items) := by
  cases items with
  | nil => exact ⟨_, .emptyList is_blank_nil⟩
  | cons first rest =>
      have elements : ∃ text, Denotes text (.elements (first :: rest)) := by
        induction rest generalizing first with
        | nil =>
            obtain ⟨text, denotes⟩ := each first (by simp)
            exact ⟨text, .lastElement denotes⟩
        | cons second rest ih =>
            obtain ⟨text, denotes⟩ := each first (by simp)
            obtain ⟨others, denotesOthers⟩ :=
              ih second fun item member => each item (List.mem_cons_of_mem _ member)
            exact ⟨_, .element denotes denotesOthers⟩
      obtain ⟨text, denotes⟩ := elements
      exact ⟨_, .list denotes⟩

theorem has_text_dict {entries : List (List Char × Json)}
    (each : ∀ entry ∈ entries, HasText entry.2) (distinct : (entries.map Prod.fst).Nodup) :
    HasText (.dict entries) := by
  have entryText (entry : List Char × Json) (hasText : HasText entry.2) :
      ∃ text, Denotes text (.entry entry.1 entry.2) := by
    obtain ⟨text, denotes⟩ := hasText
    exact ⟨_, .entry is_blank_nil (string_body_dumps entry.1) is_blank_nil denotes⟩
  cases entries with
  | nil => exact ⟨_, .emptyDict is_blank_nil⟩
  | cons first rest =>
      have members : ∃ text, Denotes text (.members (first :: rest)) := by
        clear distinct
        induction rest generalizing first with
        | nil =>
            obtain ⟨text, denotes⟩ := entryText first (each first (by simp))
            exact ⟨text, .lastMember denotes⟩
        | cons second rest ih =>
            obtain ⟨text, denotes⟩ := entryText first (each first (by simp))
            obtain ⟨others, denotesOthers⟩ :=
              ih second fun entry member => each entry (List.mem_cons_of_mem _ member)
            exact ⟨_, .member denotes denotesOthers⟩
      obtain ⟨text, denotes⟩ := members
      exact ⟨_, .dict denotes distinct⟩

theorem is_blank_space : IsBlank [' '] := fun _ member => .inl (List.mem_singleton.mp member)

theorem intercalate_more (first second : List Char) (rest : List (List Char)) :
    [',', ' '].intercalate (first :: second :: rest) =
      first ++ ',' :: ([' '] ++ [',', ' '].intercalate (second :: rest)) := by
  rw [List.intercalate_cons_cons, List.append_assoc]
  rfl

def Writes : Part → Prop
  | .value json => Denotes (dumps json) (.value json)
  | .elements items =>
      Denotes ([',', ' '].intercalate (dumpsItems items)) (.elements items)
  | .entry key json => Denotes (dumpsEntry (key, json)) (.entry key json)
  | .members entries =>
      Denotes ([',', ' '].intercalate (dumpsEntries entries)) (.members entries)

/-- Induction on how the part was spelled by somebody else. -/
theorem writes_of_denotes {text : List Char} {part : Part} (denotes : Denotes text part) :
    Writes part := by
  induction denotes with
  | null => exact .null
  | true => exact .true
  | false => exact .false
  | int value => exact .int value
  | str spelled => exact .str (string_body_dumps _)
  | emptyList isBlank => exact .emptyList is_blank_nil
  | list inside ih => exact .list ih
  | emptyDict isBlank => exact .emptyDict is_blank_nil
  | dict inside distinct ih => exact .dict ih distinct
  | padded isBlankBefore isBlankAfter inside ih => exact ih
  | lastElement only ih =>
      rw [Writes, dumpsItems, dumpsItems, List.intercalate_singleton]
      exact .lastElement ih
  | element first others ihFirst ihOthers =>
      cases others with
      | lastElement | element =>
          rw [Writes, dumpsItems, dumpsItems, intercalate_more]
          exact .element ihFirst (denotes_prepend_blank ihOthers is_blank_space)
  | entry isBlankBefore spelled isBlankBetween inside ih =>
      have padded := denotes_prepend_blank ih is_blank_space
      simpa [Writes, dumpsEntry, dumpsString] using
        Denotes.entry is_blank_nil (string_body_dumps _) is_blank_nil padded
  | lastMember only ih =>
      rw [Writes, dumpsEntries, dumpsEntries, List.intercalate_singleton]
      exact .lastMember ih
  | member first others ihFirst ihOthers =>
      cases others with
      | lastMember | member =>
          rw [Writes, dumpsEntries, dumpsEntries, intercalate_more]
          exact .member ihFirst (denotes_prepend_blank ihOthers is_blank_space)

example : dumps (.list [.int (-1), .str ['é', '/']]) = "[-1, \"\\u00e9/\"]".toList := by decide

end PyWebRTC.PythonJson
