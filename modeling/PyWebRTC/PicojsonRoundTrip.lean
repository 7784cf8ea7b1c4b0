import PyWebRTC.PicojsonAccepts
import PyWebRTC.PicojsonDenotes

/-!
# picojson reads back what it writes

A value is what C++ can build when the keys of its objects ascend, as those of a
`std::map` do. The text of such a value, on one line or indented, is parsed as
the value: strings of any bytes and numbers of any size included.
-/

namespace PyWebRTC.PicojsonRoundTrip

open JsonText (CharText)
open PicojsonComplete PicojsonDecimal PicojsonGrammar PicojsonParse PicojsonSerialize PicojsonValue
open Utf8 (ascii)

set_option autoImplicit false

/-! ## Ascending keys -/

/-- The keys of a `std::map` in the order of its entries. -/
def Ascending {Item : Type*} (entries : List (Bytes × Item)) : Prop :=
  entries.Pairwise fun left right => left.1 < right.1

mutual

def Ordered : Value → Prop
  | .null | .boolean _ | .number _ | .string _ => True
  | .array items => OrderedItems items
  | .object entries => Ascending entries ∧ OrderedEntries entries

def OrderedItems : List Value → Prop
  | [] => True
  | item :: rest => Ordered item ∧ OrderedItems rest

def OrderedEntries : List (Bytes × Value) → Prop
  | [] => True
  | entry :: rest => OrderedEntry entry ∧ OrderedEntries rest

def OrderedEntry : Bytes × Value → Prop
  | (_, item) => Ordered item

end

theorem assign_last {Item : Type*} {key : Bytes} {item : Item} {entries : List (Bytes × Item)}
    (last : ∀ entry ∈ entries, entry.1 < key) :
    assign key item entries = entries ++ [(key, item)] := by
  induction entries with
  | nil => rfl
  | cons entry rest ih =>
      have above : entry.1 < key := last entry (by simp)
      have different : key ≠ entry.1 := by
        rintro rfl
        exact List.lt_irrefl _ above
      have notBelow : ¬key < entry.1 := List.lt_asymm above
      simp only [assign, upsert, List.cons_append]
      rw [if_neg different, if_neg notBelow]
      exact congrArg (entry :: ·) (ih fun other member => last other (by simp [member]))

/-! ## Strings -/

theorem serialize_str_char_wide {byte : UInt8} (wide : 0x80 ≤ byte.toNat) :
    serializeStrChar byte = [byte] := by
  have absent : escapeTable.lookup byte = none := by
    rw [List.lookup_eq_none_iff]
    intro entry listed
    have narrow : ∀ entry ∈ escapeTable, entry.1.toNat < 0x80 := by decide
    have := narrow entry listed
    rw [bne_iff_ne]
    rintro rfl
    omega
  simp only [serializeStrChar, absent]
  rw [if_neg (by omega)]

theorem string_text_char {c : Char} {spelled : List Char} {s body : Bytes}
    (text : CharText c spelled) (others : StringText s body) :
    StringText (String.utf8EncodeChar c ++ s) (Utf8.encode spelled ++ body) := by
  have plainBytes {bytes : Bytes} (plain : ∀ byte ∈ bytes, IsPlainByte byte) :
      StringText (bytes ++ s) (bytes ++ body) := by
    induction bytes with
    | nil => exact others
    | cons byte rest ih =>
        exact .plain (plain byte (by simp)) (ih fun other member => plain other (by simp [member]))
  cases text with
  | plain printable notQuote notBackslash =>
      simp only [Utf8.encode_cons, Utf8.encode_nil, List.append_nil]
      exact plainBytes fun _ => is_plain_byte_of_mem_encode printable notQuote notBackslash
  | short listed => exact .escape (.short listed) others
  | unit four word => exact .escape (.unit four word) others
  | pair fourHigh fourLow highWord lowWord leadingBound trailingBound joined =>
      exact .escape (.pair fourHigh fourLow highWord lowWord leadingBound trailingBound joined) others

theorem string_text_serialize_char (byte : UInt8) {s body : Bytes} (others : StringText s body) :
    StringText (byte :: s) (serializeStrChar byte ++ body) := by
  by_cases narrow : byte.toNat < 0x80
  · obtain ⟨c, narrowChar, rfl⟩ : ∃ c : Char, c.toNat < 0x80 ∧ ascii c = byte := by
      obtain ⟨code, same⟩ := Utf8.ascii_of_nat narrow
      exact ⟨Char.ofNat byte.toNat, by omega, same⟩
    have written : serializeStrChar (ascii c) = Utf8.encode (PicojsonDenotes.escaped c) := by
      rw [← PicojsonDenotes.serialize_str_char_encode, Utf8.encode_ascii narrowChar,
        List.flatMap_singleton]
    have spelled := string_text_char (PicojsonDenotes.char_text_escaped c) others
    rwa [Utf8.encode_ascii narrowChar, List.singleton_append, ← written] at spelled
  · have wide := Nat.le_of_not_lt narrow
    rw [serialize_str_char_wide wide]
    refine .plain ⟨?_, ?_, ?_⟩ others
    · rw [UInt8.le_iff_toNat_le]
      exact Nat.le_trans (by decide) wide
    · rintro rfl
      exact absurd wide (by decide)
    · rintro rfl
      exact absurd wide (by decide)

theorem string_text_serialize (s : Bytes) : StringText s (s.flatMap serializeStrChar) := by
  induction s with
  | nil => exact .nil
  | cons byte rest ih => exact string_text_serialize_char byte ih

/-! ## Values -/

theorem is_spaces_line_indent (indent : Option Nat) : IsSpaces (lineIndent indent) := by
  intro byte member
  cases indent with
  | none => exact absurd member List.not_mem_nil
  | some indent =>
      obtain rfl | space := List.mem_cons.mp member
      · decide
      · rw [List.eq_of_mem_replicate space]
        decide

theorem number_text_format (number : DoubleRounding.Double) :
    NumberText number (formatNumber number) :=
  number_text_of_strtod (PicojsonNumber.format_number_cons number)
    (PicojsonNumber.strtod_format_number number)

theorem assigned_of_ascending {start entries : List (Bytes × Value)}
    (ascending : Ascending (start ++ entries)) : assigned start entries = start ++ entries := by
  induction entries generalizing start with
  | nil => exact (List.append_nil start).symm
  | cons entry rest ih =>
      have greatest : ∀ earlier ∈ start, earlier.1 < entry.1 := fun earlier member =>
        (List.pairwise_append.mp ascending).2.2 earlier member entry (by simp)
      have appended : assign entry.1 entry.2 start = start ++ [entry] := assign_last greatest
      rw [List.append_cons] at ascending ⊢
      rw [← ih ascending, assigned, List.foldl_cons, appended, assigned]

def comma (first : Bool) : Bytes := if first then [] else [ascii ',']

mutual

theorem spells_serialize (indent : Option Nat) : ∀ value : Value, Ordered value →
    Spells (serializeInner indent value) (.value value)
  | .null, _ => .null
  | .boolean true, _ => .true
  | .boolean false, _ => .false
  | .number number, _ => .number (number_text_format number)
  | .string s, _ => .string (string_text_serialize s)
  | .array [], _ => .emptyArray is_spaces_nil
  | .object [], _ => .emptyObject is_spaces_nil
  | .array (item :: rest), ordered => by
      obtain ⟨text, written, spells⟩ := spells_serialize_items (indent.map (· + 1)) true
        (item :: rest) (List.cons_ne_nil _ _) ordered (is_spaces_line_indent indent)
      rw [serializeInner, written]
      simpa [comma] using Spells.array spells
  | .object (entry :: rest), ordered => by
      obtain ⟨text, written, spells⟩ := spells_serialize_entries (indent.map (· + 1)) true
        (entry :: rest) (List.cons_ne_nil _ _) ordered.2 (is_spaces_line_indent indent)
      rw [serializeInner, written]
      have object := Spells.object spells
      rw [assigned_of_ascending (by simpa using ordered.1)] at object
      simpa [comma] using object

theorem spells_serialize_items (indent : Option Nat) (first : Bool) : ∀ items : List Value,
    items ≠ [] → OrderedItems items → ∀ {behind : Bytes}, IsSpaces behind →
    ∃ text, serializeItems indent first items = comma first ++ text ∧
      Spells (text ++ behind) (.items items)
  | item :: rest, _, ordered, behind, spaces => by
      have spells := spells_serialize indent item ordered.1
      have before := is_spaces_line_indent indent
      cases rest with
      | nil =>
          refine ⟨lineIndent indent ++ serializeInner indent item, ?_, ?_⟩
          · simp [serializeItems, separator, comma]
          · rw [List.append_assoc]
            exact .lastItem (.padded before spaces spells)
      | cons next rest =>
          obtain ⟨text, written, spellsRest⟩ := spells_serialize_items indent false
            (next :: rest) (List.cons_ne_nil _ _) ordered.2 spaces
          refine ⟨lineIndent indent ++ (serializeInner indent item ++ []) ++ ascii ',' :: text, ?_, ?_⟩
          · rw [serializeItems, written]
            simp [separator, comma]
          · rw [List.append_assoc, List.cons_append]
            exact .item (.padded before is_spaces_nil spells) spellsRest

theorem spells_serialize_entries (indent : Option Nat) (first : Bool) :
    ∀ entries : List (Bytes × Value), entries ≠ [] → OrderedEntries entries →
    ∀ {behind : Bytes}, IsSpaces behind →
    ∃ text, serializeEntries indent first entries = comma first ++ text ∧
      Spells (text ++ behind) (.entries entries)
  | entry :: rest, _, ordered, behind, spaces => by
      cases rest with
      | nil =>
          refine ⟨lineIndent indent ++ serializeEntry indent entry, ?_, ?_⟩
          · simp [serializeEntries, separator, comma]
          · exact .lastEntry (spells_serialize_entry indent entry ordered.1 spaces)
      | cons next rest =>
          obtain ⟨text, written, spellsRest⟩ := spells_serialize_entries indent false
            (next :: rest) (List.cons_ne_nil _ _) ordered.2 spaces
          have spells := spells_serialize_entry indent entry ordered.1 is_spaces_nil
          rw [List.append_nil] at spells
          refine ⟨lineIndent indent ++ serializeEntry indent entry ++ ascii ',' :: text, ?_, ?_⟩
          · rw [serializeEntries, written]
            simp [separator, comma]
          · rw [List.append_assoc, List.cons_append]
            exact .moreEntries spells spellsRest

theorem spells_serialize_entry (indent : Option Nat) : ∀ entry : Bytes × Value,
    OrderedEntry entry → ∀ {behind : Bytes}, IsSpaces behind →
    Spells (lineIndent indent ++ serializeEntry indent entry ++ behind) (.entry entry.1 entry.2)
  | (key, item), ordered, behind, spaces => by
      have space : IsSpaces (if indent.isSome then [ascii ' '] else []) := by
        intro byte member
        split at member
        · rw [List.mem_singleton.mp member]
          decide
        · exact absurd member List.not_mem_nil
      have entry := Spells.entry (is_spaces_line_indent indent) (string_text_serialize key)
        is_spaces_nil (.padded space spaces (spells_serialize indent item ordered))
      simpa [serializeEntry, serializeStr] using entry

end

/-! ## What the parser returns is ordered -/

theorem ordered_entries_iff {entries : List (Bytes × Value)} :
    OrderedEntries entries ↔ ∀ entry ∈ entries, Ordered entry.2 := by
  induction entries with
  | nil => simp [OrderedEntries]
  | cons entry rest ih =>
      obtain ⟨key, item⟩ := entry
      rw [OrderedEntries, ih, List.forall_mem_cons, OrderedEntry]

theorem ordered_items_iff {items : List Value} :
    OrderedItems items ↔ ∀ item ∈ items, Ordered item := by
  induction items with
  | nil => simp [OrderedItems]
  | cons item rest ih => rw [OrderedItems, ih, List.forall_mem_cons]

theorem mem_assign {Item : Type*} {key : Bytes} {item : Item} {entries : List (Bytes × Item)}
    {entry : Bytes × Item} (member : entry ∈ assign key item entries) :
    entry = (key, item) ∨ entry ∈ entries := by
  induction entries with
  | nil => exact .inl (List.mem_singleton.mp member)
  | cons first rest ih =>
      simp only [assign, upsert] at member
      split at member
      case isTrue same =>
        obtain rfl | old := List.mem_cons.mp member
        · exact .inl (by rw [same])
        · exact .inr (List.mem_cons_of_mem _ old)
      case isFalse =>
        split at member
        case isTrue =>
          obtain rfl | old := List.mem_cons.mp member
          · exact .inl rfl
          · exact .inr old
        case isFalse =>
          obtain rfl | old := List.mem_cons.mp member
          · exact .inr List.mem_cons_self
          · exact (ih old).imp_right (List.mem_cons_of_mem _)

theorem ascending_assign {Item : Type*} {key : Bytes} {item : Item}
    {entries : List (Bytes × Item)} (ascending : Ascending entries) :
    Ascending (assign key item entries) := by
  induction entries with
  | nil => exact List.pairwise_singleton _ _
  | cons first rest ih =>
      obtain ⟨above, ascendingRest⟩ := List.pairwise_cons.mp ascending
      simp only [assign, upsert]
      split
      case isTrue => exact List.pairwise_cons.mpr ⟨above, ascendingRest⟩
      case isFalse different =>
        split
        case isTrue below =>
          refine List.pairwise_cons.mpr ⟨?_, ascending⟩
          intro entry member
          obtain rfl | old := List.mem_cons.mp member
          · exact below
          · exact List.lt_trans below (above entry old)
        case isFalse notBelow =>
          have less : first.1 < key :=
            Std.lt_of_le_of_ne (List.not_lt.mp notBelow) (Ne.symm different)
          refine List.pairwise_cons.mpr ⟨?_, ih ascendingRest⟩
          intro entry member
          obtain rfl | old := mem_assign member
          · exact less
          · exact above entry old

theorem ascending_assigned {start entries : List (Bytes × Value)} (ascending : Ascending start) :
    Ascending (assigned start entries) := by
  induction entries generalizing start with
  | nil => exact ascending
  | cons entry rest ih => exact ih (ascending_assign ascending)

theorem mem_assigned {start entries : List (Bytes × Value)} {entry : Bytes × Value}
    (member : entry ∈ assigned start entries) : entry ∈ start ∨ entry ∈ entries := by
  induction entries generalizing start with
  | nil => exact .inl member
  | cons first rest ih =>
      rcases ih member with inAssigned | inRest
      · rcases mem_assign inAssigned with rfl | inStart
        · exact .inr List.mem_cons_self
        · exact .inl inStart
      · exact .inr (List.mem_cons_of_mem _ inRest)

def OrderedPhrase : Phrase → Prop
  | .value value | .padded value => Ordered value
  | .items items => OrderedItems items
  | .entry _ item => Ordered item
  | .entries entries => OrderedEntries entries

theorem ordered_of_spells {text : Bytes} {phrase : Phrase} (spells : Spells text phrase) :
    OrderedPhrase phrase := by
  induction spells with
  | null | false | true | number | string | emptyArray => trivial
  | array inside ih => exact ih
  | emptyObject => exact ⟨List.Pairwise.nil, trivial⟩
  | @object entries text inside ih =>
      refine ⟨ascending_assigned List.Pairwise.nil, ordered_entries_iff.mpr ?_⟩
      intro entry member
      have inEntries := (mem_assigned member).resolve_left List.not_mem_nil
      exact ordered_entries_iff.mp ih entry inEntries
  | padded spacesBefore spacesBehind inside ih => exact ih
  | lastItem only ih => exact ⟨ih, trivial⟩
  | item first others ihFirst ihOthers => exact ⟨ihFirst, ihOthers⟩
  | entry spacesBefore spelled spacesBehind inside ih => exact ih
  | lastEntry only ih => exact ⟨ih, trivial⟩
  | moreEntries first others ihFirst ihOthers => exact ⟨ihFirst, ihOthers⟩

theorem ordered_of_parse {text : Bytes} {value : Value} (parsed : parse text = .value value) :
    Ordered value := by
  obtain ⟨blank, spelled, rest, -, -, spells, -⟩ := PicojsonAccepts.spells_of_parse parsed
  exact ordered_of_spells spells

/-! ## Round trips -/

/-- The text of a value is parsed as the value. -/
theorem parse_serialize {value : Value} (ordered : Ordered value) (prettify : Bool) :
    parse (serialize value prettify) = .value value := by
  unfold serialize
  split
  · exact parse_of_spells is_spaces_nil (spells_serialize (some 0) value ordered)
      fun _ _ => ends_number_mark (by decide)
  · have nothingBehind : EndsNumber [] := by simp [EndsNumber]
    have parsed := parse_of_spells is_spaces_nil (spells_serialize none value ordered)
      fun _ _ => nothingBehind
    rwa [List.append_nil] at parsed

/-- Exactly the values that C++ can build are read back, on one line and
indented. -/
theorem parse_serialize_iff {value : Value} {prettify : Bool} :
    parse (serialize value prettify) = .value value ↔ Ordered value :=
  ⟨ordered_of_parse, fun ordered => parse_serialize ordered prettify⟩

/-- What the parser accepts, from any text, it has built as C++ does; written and
parsed again it is the same. -/
theorem reparse {text : Bytes} {value : Value} (parsed : parse text = .value value) :
    Ordered value ∧ ∀ prettify, parse (serialize value prettify) = .value value :=
  ⟨ordered_of_parse parsed, parse_serialize (ordered_of_parse parsed)⟩

def accepts (text : Bytes) : Bool :=
  match parse text with
  | .value _ => true
  | _ => false

theorem exists_value_of_accepts {text : Bytes} (accepted : accepts text = true) :
    ∃ value, parse text = .value value := by
  unfold accepts at accepted
  split at accepted
  · next value read => exact ⟨value, read⟩
  · contradiction

/-- A key that comes twice, and behind one that is greater. -/
def unsortedText : Bytes :=
  Utf8.encode "\x7b \"b\" : [true, -0.5], \"a\" : null, \"a\" : \"\\u00e9\" \x7d".toList

theorem reparse_unsorted_text :
    ∃ value, parse unsortedText = .value value ∧ Ordered value ∧
      ∀ prettify, parse (serialize value prettify) = .value value := by
  obtain ⟨value, parsed⟩ := exists_value_of_accepts
    (show accepts unsortedText = true by decide +kernel)
  exact ⟨value, parsed, reparse parsed⟩

end PyWebRTC.PicojsonRoundTrip
