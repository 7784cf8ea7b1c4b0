import PyWebRTC.PicojsonGrammar

/-!
# The parser accepts the grammar and nothing else

Where a piece of the parser succeeds, what it has read is a text of what it
returns. So `parse` returns a value on exactly those texts that begin with a
text of it, and not in the middle of a number.
-/

namespace PyWebRTC.PicojsonAccepts

open JsonText (CharText decimalDigits hexValue hexWord)
open PicojsonComplete PicojsonDecimal PicojsonFuel PicojsonGrammar PicojsonParse PicojsonValue
open Utf8 (ascii encode)

set_option autoImplicit false

/-! ## White space -/

theorem skip_ws_split (input : Input) :
    ∃ blank, IsSpaces blank ∧ input.rest = blank ++ (skipWs input).rest := by
  refine ⟨input.rest.takeWhile isSpace, fun byte member => List.mem_takeWhile_imp member, ?_⟩
  rw [skip_ws_rest, List.takeWhile_append_dropWhile]

theorem expect_split {expected : UInt8} {input next : Input}
    (read : expect expected input = (true, next)) :
    ∃ blank, IsSpaces blank ∧ input.rest = blank ++ expected :: next.rest := by
  obtain ⟨blank, spaces, split⟩ := skip_ws_split input
  refine ⟨blank, spaces, ?_⟩
  unfold expect at read
  split at read
  case h_2 => simp at read
  case h_1 c after taken =>
    split at read
    case isFalse => simp at read
    case isTrue same =>
      obtain ⟨-, rfl⟩ := Prod.mk.inj read
      rw [split, (getc_some taken).1, same]

theorem expect_false_split {expected : UInt8} {input next : Input}
    (read : expect expected input = (false, next)) :
    ∃ blank, IsSpaces blank ∧ input.rest = blank ++ next.rest := by
  obtain ⟨blank, spaces, split⟩ := skip_ws_split input
  refine ⟨blank, spaces, ?_⟩
  unfold expect at read
  split at read
  case h_2 after taken =>
    obtain ⟨-, rfl⟩ := Prod.mk.inj read
    obtain ⟨atEnd, afterEnd, same⟩ := getc_none taken
    rw [split, atEnd, same, afterEnd]
  case h_1 c after taken =>
    split at read
    case isTrue => simp at read
    case isFalse =>
      obtain ⟨-, rfl⟩ := Prod.mk.inj read
      rw [split, (getc_some taken).2]

theorem match_pattern_split {pattern : Bytes} {input next : Input}
    (read : matchPattern pattern input = (true, next)) : input.rest = pattern ++ next.rest := by
  induction pattern generalizing input with
  | nil =>
      obtain ⟨-, rfl⟩ := Prod.mk.inj read
      rfl
  | cons expected pattern ih =>
      unfold matchPattern at read
      split at read
      case h_2 => simp at read
      case h_1 c after taken =>
        split at read
        case isFalse => simp at read
        case isTrue same => rw [(getc_some taken).1, ih read, same, List.cons_append]

/-! ## Strings -/

theorem hex_value_of_digit {byte : UInt8} {value : Nat} (read : hexDigit byte = some value) :
    ∃ digit, byte = ascii digit ∧ digit.toNat < 0x80 ∧ hexValue digit = some value := by
  have narrow : byte.toNat < 0x80 := by
    have bounds : (ascii '9').toNat = 57 ∧ (ascii 'F').toNat = 70 ∧ (ascii 'f').toNat = 102 := by
      decide
    simp only [hexDigit, UInt8.le_iff_toNat_le] at read
    split at read
    · omega
    split at read
    · omega
    split at read
    · omega
    · contradiction
  obtain ⟨code, same⟩ := Utf8.ascii_of_nat narrow
  refine ⟨Char.ofNat byte.toNat, same.symm, by omega, ?_⟩
  rw [← hex_digit_ascii byte.toNat narrow, same, read]

theorem parse_quadhex_split {left start word : Nat} {input next : Input}
    (read : parseQuadhex left start input = (some word, next)) :
    ∃ digits : List Char, digits.length = left ∧ hexWord start digits = some word ∧
      input.rest = encode digits ++ next.rest := by
  induction left generalizing start input with
  | zero =>
      obtain ⟨same, rfl⟩ := Prod.mk.inj read
      exact ⟨[], rfl, same, rfl⟩
  | succ left ih =>
      unfold parseQuadhex at read
      split at read
      case h_1 => simp at read
      case h_2 c after taken =>
        split at read
        case h_2 => simp at read
        case h_1 hex isHex =>
          obtain ⟨digit, rfl, narrow, value⟩ := hex_value_of_digit isHex
          obtain ⟨digits, length, continued, rest⟩ := ih read
          refine ⟨digit :: digits, by rw [List.length_cons, length], ?_, ?_⟩
          · rw [hexWord, value]
            exact continued
          · rw [(getc_some taken).1, rest, Utf8.encode_cons_ascii narrow, List.cons_append]

theorem exists_char {code : Nat} (bounded : code < 0x110000)
    (scalar : ¬(0xd800 ≤ code ∧ code ≤ 0xdfff)) : ∃ c : Char, c.toNat = code := by
  have valid : code.isValidChar := by
    unfold Nat.isValidChar
    omega
  refine ⟨Char.ofNat code, ?_⟩
  rw [Char.ofNat, dif_pos valid]
  rfl

theorem quadhex_bounded {digits : List Char} {start word : Nat}
    (read : hexWord start digits = some word) : word < (start + 1) * 16 ^ digits.length := by
  induction digits generalizing start with
  | nil =>
      obtain rfl := Option.some.inj read
      simp
  | cons digit rest ih =>
      obtain ⟨value, digitRead, restRead⟩ := Option.bind_eq_some_iff.mp read
      have small : value < 16 := by
        have marks : '0'.toNat = 48 ∧ '9'.toNat = 57 ∧ 'A'.toNat = 65 ∧ 'F'.toNat = 70 ∧
          'a'.toNat = 97 ∧ 'f'.toNat = 102 := by decide
        unfold hexValue at digitRead
        split at digitRead
        · have := Option.some.inj digitRead
          omega
        split at digitRead
        · have := Option.some.inj digitRead
          omega
        split at digitRead
        · have := Option.some.inj digitRead
          omega
        · contradiction
      calc word < (start * 16 + value + 1) * 16 ^ rest.length := ih restRead
        _ ≤ ((start + 1) * 16) * 16 ^ rest.length := Nat.mul_le_mul_right _ (by omega)
        _ = (start + 1) * 16 ^ (digit :: rest).length := by
          rw [List.length_cons, Nat.pow_succ, Nat.mul_assoc, Nat.mul_comm 16]

theorem parse_trailing_split {leading joined : Nat} {input next : Input}
    (read : parseTrailing (0xd800 + leading) input = (some joined, next)) :
    ∃ (low : List Char) (trailing : Nat), low.length = 4 ∧
      hexWord 0 low = some (0xDC00 + trailing) ∧ trailing < 0x400 ∧
      joined = 0x10000 + leading * 0x400 + trailing ∧
      input.rest = encode ('\\' :: 'u' :: low) ++ next.rest := by
  unfold parseTrailing at read
  split at read
  case h_1 => simp at read
  case h_2 first afterFirst takenFirst =>
    split at read
    case isTrue => simp at read
    case isFalse isSlash =>
      split at read
      case h_1 => simp at read
      case h_2 second afterSecond takenSecond =>
        split at read
        case isTrue => simp at read
        case isFalse isLetter =>
          split at read
          case h_2 => simp at read
          case h_1 word afterWord takenWord =>
            split at read
            case isFalse => simp at read
            case isTrue half =>
              obtain ⟨same, rfl⟩ := Prod.mk.inj read
              obtain ⟨low, length, spelled, rest⟩ := parse_quadhex_split takenWord
              obtain ⟨trailing, rfl⟩ := Nat.exists_eq_add_of_le half.1
              have bounded : trailing < 0x400 := by omega
              refine ⟨low, trailing, length, spelled, bounded, ?_, ?_⟩
              · rw [← Option.some.inj same, join_surrogates bounded]
              · rw [(getc_some takenFirst).1, (getc_some takenSecond).1, rest,
                  not_not.mp isSlash, not_not.mp isLetter, Utf8.encode_cons_ascii (by decide),
                  Utf8.encode_cons_ascii (by decide)]
                rfl

theorem parse_codepoint_split {bytes : Bytes} {input next : Input}
    (read : parseCodepoint input = (some bytes, next)) :
    ∃ c spelled, CharText c ('\\' :: 'u' :: spelled) ∧ bytes = String.utf8EncodeChar c ∧
      input.rest = encode spelled ++ next.rest := by
  unfold parseCodepoint at read
  split at read
  case h_1 => simp at read
  case h_2 word afterWord takenWord =>
    obtain ⟨digits, length, spelled, rest⟩ := parse_quadhex_split takenWord
    have bounded := quadhex_bounded spelled
    rw [length] at bounded
    split at read
    case isFalse scalar =>
      obtain ⟨same, rfl⟩ := Prod.mk.inj read
      obtain ⟨c, rfl⟩ := exists_char (by omega) scalar
      exact ⟨c, digits, .unit length spelled, by rw [← Option.some.inj same, push_codepoint_char],
        rest⟩
    case isTrue surrogate =>
      split at read
      case isTrue => simp at read
      case isFalse high =>
        split at read
        case h_2 => simp at read
        case h_1 joined afterLow takenLow =>
          obtain ⟨same, rfl⟩ := Prod.mk.inj read
          obtain ⟨leading, rfl⟩ := Nat.exists_eq_add_of_le surrogate.1
          obtain ⟨low, trailing, lowLength, lowSpelled, lowBound, rfl, lowRest⟩ :=
            parse_trailing_split takenLow
          obtain ⟨c, isJoined⟩ := @exists_char (0x10000 + leading * 0x400 + trailing) (by omega)
            (by omega)
          refine ⟨c, digits ++ '\\' :: 'u' :: low,
            .pair length lowLength spelled lowSpelled (by omega) lowBound isJoined, ?_, ?_⟩
          · rw [← Option.some.inj same, ← isJoined, push_codepoint_char]
          · rw [rest, lowRest, Utf8.encode_append, List.append_assoc]

theorem unescape_table_listed {entry : UInt8 × UInt8} (listed : entry ∈ unescapeTable) :
    ∃ short ∈ JsonText.shortEscapes, entry = (ascii short.1, ascii short.2) ∧
      short.1.toNat < 0x80 ∧ short.2.toNat < 0x80 := by
  have table : unescapeTable =
      JsonText.shortEscapes.map fun short => (ascii short.1, ascii short.2) := rfl
  rw [table] at listed
  obtain ⟨short, isShort, rfl⟩ := List.mem_map.mp listed
  obtain ⟨-, narrowLetter, narrow⟩ := unescape_table_short short isShort
  exact ⟨short, isShort, rfl, narrowLetter, narrow⟩

theorem parse_escape_split {bytes : Bytes} {input next : Input}
    (read : parseEscape input = (some bytes, next)) :
    ∃ c spelled, CharText c ('\\' :: spelled) ∧ bytes = String.utf8EncodeChar c ∧
      input.rest = encode spelled ++ next.rest := by
  unfold parseEscape at read
  split at read
  case h_1 => simp at read
  case h_2 letter after taken =>
    split at read
    case h_1 value listed =>
      obtain ⟨same, rfl⟩ := Prod.mk.inj read
      obtain ⟨before, behind, table, -⟩ := List.lookup_eq_some_iff.mp listed
      have member : (letter, value) ∈ unescapeTable := by simp [table]
      obtain ⟨⟨shortLetter, c⟩, isShort, isEntry, narrowLetter, narrow⟩ :=
        unescape_table_listed member
      obtain ⟨rfl, rfl⟩ := Prod.mk.inj isEntry
      refine ⟨c, [shortLetter], .short isShort, ?_, ?_⟩
      · rw [← Option.some.inj same, Utf8.encode_ascii narrow]
      · rw [(getc_some taken).1, Utf8.encode_cons_ascii narrowLetter]
        rfl
    case h_2 =>
      split at read
      case isFalse => simp at read
      case isTrue isLetter =>
        obtain ⟨c, spelled, escaped, same, rest⟩ := parse_codepoint_split read
        refine ⟨c, 'u' :: spelled, escaped, same, ?_⟩
        rw [(getc_some taken).1, rest, isLetter, Utf8.encode_cons_ascii (by decide)]
        rfl

theorem parse_string_loop_split {fuel : Nat} {out result : Bytes} {input next : Input}
    (read : parseStringLoop fuel out input = .ok result next) :
    ∃ s body, result = out ++ s ∧ StringText s body ∧
      input.rest = body ++ ascii '"' :: next.rest := by
  induction fuel generalizing out input with
  | zero => simp [parseStringLoop] at read
  | succ fuel ih =>
      unfold parseStringLoop at read
      split at read
      case h_1 => simp at read
      case h_2 c after taken =>
        split at read
        case isTrue => simp at read
        case isFalse printable =>
          split at read
          case isTrue quote =>
            obtain ⟨rfl, rfl⟩ := Outcome.ok.inj read
            exact ⟨[], [], (List.append_nil _).symm, .nil, by rw [(getc_some taken).1, quote]; rfl⟩
          case isFalse notQuote =>
            split at read
            case isTrue slash =>
              split at read
              case h_2 => simp at read
              case h_1 bytes afterEscape escape =>
                obtain ⟨char, spelled, escaped, rfl, restEscape⟩ := parse_escape_split escape
                obtain ⟨s, body, rfl, others, rest⟩ := ih read
                refine ⟨_, _, List.append_assoc _ _ _, .escape escaped others, ?_⟩
                rw [(getc_some taken).1, restEscape, rest, slash, Utf8.encode_cons_ascii (by decide)]
                simp
            case isFalse notSlash =>
              obtain ⟨s, body, rfl, others, rest⟩ := ih read
              refine ⟨c :: s, c :: body, by simp,
                .plain ⟨UInt8.not_lt.mp printable, notQuote, notSlash⟩ others, ?_⟩
              rw [(getc_some taken).1, rest, List.cons_append]

theorem parse_string_split {s : Bytes} {input next : Input}
    (read : parseString input = .ok s next) :
    ∃ body, StringText s body ∧ input.rest = body ++ ascii '"' :: next.rest := by
  obtain ⟨read, body, rfl, spelled, rest⟩ := parse_string_loop_split read
  exact ⟨body, spelled, rest⟩

/-! ## Numbers -/

theorem number_char_narrow {byte : UInt8} (isNumber : isNumberChar byte = true) :
    byte.toNat < 0x80 := by
  have nine : (ascii '9').toNat = 57 := by decide
  simp only [isNumberChar, Bool.or_eq_true, Bool.and_eq_true, decide_eq_true_eq,
    UInt8.le_iff_toNat_le] at isNumber
  rcases isNumber with ((((digit | rfl) | rfl) | rfl) | rfl) | rfl
  · omega
  all_goals decide

theorem number_first : ∀ code < 0x80,
    ((ascii '0' ≤ UInt8.ofNat code ∧ UInt8.ofNat code ≤ ascii '9') ∨
      UInt8.ofNat code = ascii '-') →
    Char.ofNat code ∈ '-' :: decimalDigits ∧ isNumberChar (UInt8.ofNat code) = true := by
  decide

theorem parse_number_value_split {c : UInt8} {rest : Bytes} {value : Value} {input next : Input}
    (first : input.rest = c :: rest)
    (numeric : (ascii '0' ≤ c ∧ c ≤ ascii '9') ∨ c = ascii '-')
    (read : parseNumberValue input = .ok value next) :
    ∃ number text, value = .number number ∧ NumberText number text ∧
      input.rest = text.map ascii ++ next.rest ∧ EndsNumber next.rest := by
  obtain ⟨token, left⟩ := parse_number_rest input
  have narrow : c.toNat < 0x80 := by
    have bounds : (ascii '9').toNat = 57 ∧ (ascii '-').toNat = 45 := by decide
    rcases numeric with digit | rfl
    · have := UInt8.le_iff_toNat_le.mp digit.2
      omega
    · decide
  have mark := number_first c.toNat narrow
  rw [UInt8.ofNat_toNat] at mark
  obtain ⟨listed, isNumber⟩ := mark numeric
  unfold parseNumberValue at read
  generalize parseNumber input = parsed at token left read
  obtain ⟨numStr, after⟩ := parsed
  dsimp only at token left read
  split at read
  case isTrue => simp at read
  case isFalse =>
    split at read
    case h_2 => simp at read
    case h_1 number taken =>
      cases number with
      | none => simp [ofDouble] at read
      | some number =>
          obtain ⟨rfl, rfl⟩ := Outcome.ok.inj read
          have spelled : (numStr.map fun c => Char.ofNat c.toNat).map ascii = numStr := by
            rw [List.map_map]
            refine (List.map_congr_left fun byte member => ?_).trans (List.map_id _)
            rw [token] at member
            exact (Utf8.ascii_of_nat (number_char_narrow (List.mem_takeWhile_imp member))).2
          refine ⟨number, numStr.map fun c => Char.ofNat c.toNat, rfl, ?_, ?_, ?_⟩
          · apply number_text_of_strtod _ taken
            rw [token, first, List.takeWhile_cons_of_pos isNumber]
            exact ⟨_, _, rfl, listed⟩
          · rw [spelled, token, left, List.takeWhile_append_dropWhile]
          · intro other head
            rw [left] at head
            have ends := List.head?_dropWhile_not isNumberChar input.rest
            rw [head] at ends
            simpa using ends

/-! ## Values -/

theorem is_spaces_append {before behind : Bytes} (spacesBefore : IsSpaces before)
    (spacesBehind : IsSpaces behind) : IsSpaces (before ++ behind) := fun byte member =>
  (List.mem_append.mp member).elim (spacesBefore byte) (spacesBehind byte)

theorem spells_prepend_padded {value : Value} {blank text : Bytes} (spaces : IsSpaces blank)
    (spells : Spells text (.padded value)) : Spells (blank ++ text) (.padded value) := by
  cases spells with
  | padded spacesBefore spacesBehind inside =>
      rw [← List.append_assoc]
      exact .padded (is_spaces_append spaces spacesBefore) spacesBehind inside

theorem spells_prepend_items {items : List Value} {blank text : Bytes} (spaces : IsSpaces blank)
    (spells : Spells text (.items items)) : Spells (blank ++ text) (.items items) := by
  cases spells with
  | lastItem only => exact .lastItem (spells_prepend_padded spaces only)
  | item first others =>
      rw [← List.append_assoc]
      exact .item (spells_prepend_padded spaces first) others

theorem spells_prepend_entry {key : Bytes} {item : Value} {blank text : Bytes}
    (spaces : IsSpaces blank) (spells : Spells text (.entry key item)) :
    Spells (blank ++ text) (.entry key item) := by
  cases spells with
  | entry spacesBefore spelled spacesBehind inside =>
      rw [← List.append_assoc]
      exact .entry (is_spaces_append spaces spacesBefore) spelled spacesBehind inside

theorem spells_prepend_entries {entries : List (Bytes × Value)} {blank text : Bytes}
    (spaces : IsSpaces blank) (spells : Spells text (.entries entries)) :
    Spells (blank ++ text) (.entries entries) := by
  cases spells with
  | lastEntry only => exact .lastEntry (spells_prepend_entry spaces only)
  | moreEntries first others =>
      rw [← List.append_assoc]
      exact .moreEntries (spells_prepend_entry spaces first) others

/-- With this fuel, what the parser reads is a text of what it returns: a value
with white space before it, or what the loops read up to the closing bracket. -/
def ReadsTexts (fuel : Nat) : Prop :=
  (∀ {input value next}, parseValue fuel input = .ok value next →
    ∃ blank text, IsSpaces blank ∧ input.rest = blank ++ (text ++ next.rest) ∧
      Spells text (.value value) ∧ (∀ number, value = .number number → EndsNumber next.rest)) ∧
  (∀ {start input value next}, parseItems fuel start input = .ok value next →
    ∃ items text, value = .array (start ++ items) ∧ Spells text (.items items) ∧
      input.rest = text ++ ascii ']' :: next.rest) ∧
  (∀ {start input value next}, parseEntries fuel start input = .ok value next →
    ∃ entries text, value = .object (assigned start entries) ∧ Spells text (.entries entries) ∧
      input.rest = text ++ ascii '}' :: next.rest)

theorem parse_word_split {pattern : Bytes} {word value : Value} {input next : Input}
    (read : parseWord pattern word input = .ok value next) :
    value = word ∧ input.rest = pattern ++ next.rest := by
  unfold parseWord at read
  split at read
  case h_2 => simp at read
  case h_1 after matched =>
    obtain ⟨rfl, rfl⟩ := Outcome.ok.inj read
    exact ⟨rfl, match_pattern_split matched⟩

theorem parse_value_split_step {fuel : Nat} (readsTexts : ReadsTexts fuel) {input next : Input}
    {value : Value} (read : parseValue (fuel + 1) input = .ok value next) :
    ∃ blank text, IsSpaces blank ∧ input.rest = blank ++ (text ++ next.rest) ∧
      Spells text (.value value) ∧ (∀ number, value = .number number → EndsNumber next.rest) := by
  obtain ⟨-, ofItems, ofEntries⟩ := readsTexts
  obtain ⟨blank, spaces, skipped⟩ := skip_ws_split input
  unfold parseValue at read
  split at read
  case h_1 => simp at read
  case h_2 c after taken =>
    obtain ⟨split_, back⟩ := getc_some taken
    rw [split_] at skipped
    split at read
    case isTrue same =>
      obtain ⟨rfl, rest⟩ := parse_word_split read
      exact ⟨blank, _, spaces, by rw [skipped, rest, same]; rfl, .null, by simp⟩
    case isFalse =>
    split at read
    case isTrue same =>
      obtain ⟨rfl, rest⟩ := parse_word_split read
      exact ⟨blank, _, spaces, by rw [skipped, rest, same]; rfl, .false, by simp⟩
    case isFalse =>
    split at read
    case isTrue same =>
      obtain ⟨rfl, rest⟩ := parse_word_split read
      exact ⟨blank, _, spaces, by rw [skipped, rest, same]; rfl, .true, by simp⟩
    case isFalse =>
    split at read
    case isTrue same =>
      split at read
      case h_1 s afterString parsed =>
        obtain ⟨rfl, rfl⟩ := Outcome.ok.inj read
        obtain ⟨body, spelled, rest⟩ := parse_string_split parsed
        exact ⟨blank, _, spaces, by rw [skipped, rest, same]; simp, .string spelled, by simp⟩
      case h_2 => simp at read
      case h_3 => simp at read
      case h_4 => simp at read
    case isFalse =>
    split at read
    case isTrue same =>
      split at read
      case h_1 afterClose closed =>
        obtain ⟨rfl, rfl⟩ := Outcome.ok.inj read
        obtain ⟨inside, spacesInside, rest⟩ := expect_split closed
        exact ⟨blank, _, spaces, by rw [skipped, rest, same]; simp, .emptyArray spacesInside,
          by simp⟩
      case h_2 start notClosed =>
        obtain ⟨before, spacesBefore, rest⟩ := expect_false_split notClosed
        obtain ⟨items, text, rfl, spells, restItems⟩ := ofItems read
        exact ⟨blank, _, spaces, by rw [skipped, rest, restItems, same]; simp,
          .array (spells_prepend_items spacesBefore spells), by simp⟩
    case isFalse =>
    split at read
    case isTrue same =>
      split at read
      case h_1 afterClose closed =>
        obtain ⟨rfl, rfl⟩ := Outcome.ok.inj read
        obtain ⟨inside, spacesInside, rest⟩ := expect_split closed
        exact ⟨blank, _, spaces, by rw [skipped, rest, same]; simp, .emptyObject spacesInside,
          by simp⟩
      case h_2 start notClosed =>
        obtain ⟨before, spacesBefore, rest⟩ := expect_false_split notClosed
        obtain ⟨entries, text, rfl, spells, restEntries⟩ := ofEntries read
        exact ⟨blank, _, spaces, by rw [skipped, rest, restEntries, same]; simp,
          .object (spells_prepend_entries spacesBefore spells), by simp⟩
    case isFalse =>
    split at read
    case isTrue numeric =>
      obtain ⟨number, text, rfl, decimal, rest, ends⟩ :=
        parse_number_value_split (back.trans split_) numeric read
      refine ⟨blank, _, spaces, ?_, .number decimal, fun _ _ => ends⟩
      rw [skipped, ← rest, back, split_]
    case isFalse => simp at read

theorem parse_items_split_step {fuel : Nat} (readsTexts : ReadsTexts fuel) {start : List Value}
    {input next : Input} {value : Value}
    (read : parseItems (fuel + 1) start input = .ok value next) :
    ∃ items text, value = .array (start ++ items) ∧ Spells text (.items items) ∧
      input.rest = text ++ ascii ']' :: next.rest := by
  obtain ⟨ofValue, ofItems, -⟩ := readsTexts
  unfold parseItems at read
  split at read
  case h_1 item after parsed =>
    obtain ⟨before, text, spacesBefore, restItem, spells, -⟩ := ofValue parsed
    split at read
    case h_1 afterComma comma =>
      obtain ⟨behind, spacesBehind, restComma⟩ := expect_split comma
      obtain ⟨items, others, rfl, spellsOthers, rest⟩ := ofItems read
      refine ⟨item :: items, _, by simp,
        .item (.padded spacesBefore spacesBehind spells) spellsOthers, ?_⟩
      rw [restItem, restComma, rest]
      simp
    case h_2 afterItem noComma =>
      obtain ⟨behind, spacesBehind, restItemEnd⟩ := expect_false_split noComma
      split at read
      case h_1 afterClose closed =>
        obtain ⟨rfl, rfl⟩ := Outcome.ok.inj read
        obtain ⟨more, spacesMore, restClose⟩ := expect_split closed
        refine ⟨[item], _, rfl, .lastItem (.padded spacesBefore
          (is_spaces_append spacesBehind spacesMore) spells), ?_⟩
        rw [restItem, restItemEnd, restClose]
        simp
      case h_2 => simp at read
  case h_2 => simp at read
  case h_3 => simp at read
  case h_4 => simp at read

theorem parse_entries_split_step {fuel : Nat} (readsTexts : ReadsTexts fuel)
    {start : List (Bytes × Value)} {input next : Input} {value : Value}
    (read : parseEntries (fuel + 1) start input = .ok value next) :
    ∃ entries text, value = .object (assigned start entries) ∧ Spells text (.entries entries) ∧
      input.rest = text ++ ascii '}' :: next.rest := by
  obtain ⟨ofValue, -, ofEntries⟩ := readsTexts
  unfold parseEntries at read
  split at read
  case h_1 => simp at read
  case h_2 afterQuote quote =>
    obtain ⟨before, spacesBefore, restQuote⟩ := expect_split quote
    split at read
    case h_1 key afterKey readKey =>
      obtain ⟨body, spelled, restKey⟩ := parse_string_split readKey
      split at read
      case h_1 => simp at read
      case h_2 afterColon colon =>
        obtain ⟨between, spacesBetween, restColon⟩ := expect_split colon
        split at read
        case h_1 item after parsed =>
          obtain ⟨beforeItem, text, spacesItem, restItem, spells, -⟩ := ofValue parsed
          split at read
          case h_1 afterComma comma =>
            obtain ⟨behind, spacesBehind, restComma⟩ := expect_split comma
            obtain ⟨entries, others, rfl, spellsOthers, rest⟩ := ofEntries read
            refine ⟨(key, item) :: entries, _, rfl, .moreEntries (.entry spacesBefore spelled
              spacesBetween (.padded spacesItem spacesBehind spells)) spellsOthers, ?_⟩
            rw [restQuote, restKey, restColon, restItem, restComma, rest]
            simp
          case h_2 afterItem noComma =>
            obtain ⟨behind, spacesBehind, restItemEnd⟩ := expect_false_split noComma
            split at read
            case h_1 afterClose closed =>
              obtain ⟨rfl, rfl⟩ := Outcome.ok.inj read
              obtain ⟨more, spacesMore, restClose⟩ := expect_split closed
              refine ⟨[(key, item)], _, rfl, .lastEntry (.entry spacesBefore spelled spacesBetween
                (.padded spacesItem (is_spaces_append spacesBehind spacesMore) spells)), ?_⟩
              rw [restQuote, restKey, restColon, restItem, restItemEnd, restClose]
              simp
            case h_2 => simp at read
        case h_2 => simp at read
        case h_3 => simp at read
        case h_4 => simp at read
    case h_2 => simp at read
    case h_3 => simp at read
    case h_4 => simp at read

theorem reads_texts (fuel : Nat) : ReadsTexts fuel := by
  induction fuel with
  | zero =>
      refine ⟨fun read => ?_, fun read => ?_, fun read => ?_⟩
      · simp [parseValue] at read
      · simp [parseItems] at read
      · simp [parseEntries] at read
  | succ fuel ih =>
      exact ⟨fun read => parse_value_split_step ih read, fun read => parse_items_split_step ih read,
        fun read => parse_entries_split_step ih read⟩

theorem spells_of_parse {text : Bytes} {value : Value} (parsed : parse text = .value value) :
    ∃ blank spelled rest, text = blank ++ (spelled ++ rest) ∧ IsSpaces blank ∧
      Spells spelled (.value value) ∧ ∀ number, value = .number number → EndsNumber rest := by
  unfold parse at parsed
  split at parsed
  case h_1 result next read =>
    obtain rfl := Parsed.value.inj parsed
    obtain ⟨blank, spelled, spaces, split, spells, ends⟩ := (reads_texts _).1 read
    exact ⟨blank, spelled, next.rest, split, spaces, spells, ends⟩
  case h_2 => contradiction
  case h_3 => contradiction
  case h_4 => contradiction

/-- The parser returns a value on exactly the texts that begin with a text of it,
behind white space; a number must not go on in what follows. -/
theorem parse_value_iff {text : Bytes} {value : Value} :
    parse text = .value value ↔ ∃ blank spelled rest, text = blank ++ (spelled ++ rest) ∧
      IsSpaces blank ∧ Spells spelled (.value value) ∧
      ∀ number, value = .number number → EndsNumber rest := by
  constructor
  · exact spells_of_parse
  · rintro ⟨blank, spelled, rest, rfl, spaces, spells, ends⟩
    exact parse_of_spells spaces spells ends

end PyWebRTC.PicojsonAccepts
