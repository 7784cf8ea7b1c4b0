import PyWebRTC.PicojsonFuel

/-!
# Where the parser's cursor is

The parser counts a line feed when it steps past it. Each of its pieces leaves
the cursor at a place of the text, no earlier than it found it, with the line
feeds before that place counted.
-/

namespace PyWebRTC.PicojsonCursor

open PicojsonParse PicojsonValue
open Utf8 (ascii)

set_option autoImplicit false

variable {text : Bytes} {start : Nat}

/-- Where a cursor is in the text: `before` lies behind it, the consumed
character included, and the lines of `before` have been counted once the cursor
moves on. -/
def Behind (text : Bytes) (start : Nat) (input : Input) (before : Bytes) : Prop :=
  text = before ++ input.rest ∧ input.consumed.toList <:+ before ∧
    input.nextLine = start + before.count (ascii '\n')

def Placed (text : Bytes) (start : Nat) (input : Input) : Prop :=
  ∃ before, Behind text start input before

/-- A line feed that is consumed at a failure has a backslash before it. -/
def StopsAt (text : Bytes) (start : Nat) (input : Input) : Prop :=
  ∃ before, Behind text start input before ∧
    (input.consumed = some (ascii '\n') → [ascii '\\', ascii '\n'] <:+ before)

theorem next_line_of_none {input : Input} (none_ : input.consumed = none) :
    input.nextLine = input.line := by
  simp [Input.nextLine, none_]

/-! ## The cursor -/

theorem behind_getc_some {before : Bytes} {input next : Input} {c : UInt8}
    (behind : Behind text start input before) (read : getc input = (some c, next)) :
    Behind text start next (before ++ [c]) ∧ next.consumed = some c := by
  obtain ⟨split, -, lines⟩ := behind
  cases ahead : input.rest with
  | nil => simp [getc_nil ahead] at read
  | cons first rest =>
      rw [getc_cons ahead] at read
      obtain ⟨same, rfl⟩ := Prod.mk.inj read
      obtain rfl := Option.some.inj same
      refine ⟨⟨by simp [split, ahead], List.suffix_append _ _, ?_⟩, rfl⟩
      rw [List.count_append, ← Nat.add_assoc, ← lines, List.count_singleton]
      by_cases feed : first = ascii '\n'
      · simp [Input.nextLine, feed]
      · simp [Input.nextLine, feed]

theorem behind_getc_none {before : Bytes} {input next : Input}
    (behind : Behind text start input before) (read : getc input = (none, next)) :
    Behind text start next before ∧ next.consumed = none := by
  obtain ⟨split, -, lines⟩ := behind
  cases ahead : input.rest with
  | nil =>
      rw [getc_nil ahead] at read
      obtain ⟨-, rfl⟩ := Prod.mk.inj read
      refine ⟨⟨by simpa [ahead] using split, List.nil_suffix, ?_⟩, rfl⟩
      simpa [Input.nextLine] using lines
  | cons first rest => simp [getc_cons ahead] at read

theorem placed_getc {input next : Input} {read : Option UInt8}
    (placed : Placed text start input) (taken : getc input = (read, next)) :
    Placed text start next := by
  obtain ⟨before, behind⟩ := placed
  cases read with
  | none => exact ⟨before, (behind_getc_none behind taken).1⟩
  | some c => exact ⟨before ++ [c], (behind_getc_some behind taken).1⟩

theorem consumed_ungetc (input : Input) : (ungetc input).consumed = none := by
  unfold ungetc
  split
  case h_1 none_ => exact none_
  case h_2 => rfl

theorem placed_ungetc {input : Input} (placed : Placed text start input) :
    Placed text start (ungetc input) := by
  obtain ⟨before, split, last, lines⟩ := placed
  cases taken : input.consumed with
  | none =>
      have same : ungetc input = input := by simp [ungetc, taken]
      rw [same]
      exact ⟨before, split, last, lines⟩
  | some c =>
      rw [taken] at last
      obtain ⟨earlier, rfl⟩ := last
      refine ⟨earlier, ?_, ?_, ?_⟩
      · simpa [ungetc, taken] using split
      · rw [consumed_ungetc]
        exact List.nil_suffix
      · rw [next_line_of_none (consumed_ungetc input)]
        rw [Option.toList_some, List.count_append, List.count_singleton, Input.nextLine,
          taken] at lines
        by_cases feed : c = ascii '\n'
        · simp [feed] at lines
          simp [ungetc, taken]
          omega
        · simpa [feed, ungetc, taken] using lines

theorem stops_at_ungetc {input : Input} (placed : Placed text start input) :
    StopsAt text start (ungetc input) := by
  obtain ⟨before, behind⟩ := placed_ungetc placed
  exact ⟨before, behind, fun feed => by simp [consumed_ungetc] at feed⟩

theorem stops_at_of_ne {input : Input} (placed : Placed text start input)
    (noFeed : input.consumed ≠ some (ascii '\n')) : StopsAt text start input := by
  obtain ⟨before, behind⟩ := placed
  exact ⟨before, behind, fun feed => absurd feed noFeed⟩

theorem placed_skip_ws_from {rest : Bytes} {input : Input} (same : input.rest = rest)
    (placed : Placed text start input) : Placed text start (skipWsFrom input rest) := by
  induction rest generalizing input with
  | nil =>
      have whole : { input with rest := [] } = input := by rw [← same]
      rw [skipWsFrom, whole]
      exact placed_ungetc (placed_getc placed rfl)
  | cons c rest ih =>
      have whole : { input with rest := c :: rest } = input := by rw [← same]
      have next := placed_getc placed (getc_cons same)
      simp only [skipWsFrom, whole, getc_cons same]
      split
      · exact ih rfl next
      · exact placed_ungetc next

theorem placed_skip_ws {input : Input} (placed : Placed text start input) :
    Placed text start (skipWs input) :=
  placed_skip_ws_from rfl placed

theorem placed_expect {expected : UInt8} {input next : Input} {found : Bool}
    (placed : Placed text start input) (read : expect expected input = (found, next)) :
    Placed text start next ∧ (found = false → StopsAt text start next) := by
  have skipped := placed_skip_ws placed
  unfold expect at read
  split at read
  case h_1 c after taken =>
    have placedAfter := placed_getc skipped taken
    split at read
    · obtain ⟨rfl, rfl⟩ := Prod.mk.inj read
      exact ⟨placedAfter, by simp⟩
    · obtain ⟨rfl, rfl⟩ := Prod.mk.inj read
      exact ⟨placed_ungetc placedAfter, fun _ => stops_at_ungetc placedAfter⟩
  case h_2 after taken =>
    have placedAfter := placed_getc skipped taken
    obtain ⟨rfl, rfl⟩ := Prod.mk.inj read
    exact ⟨placed_ungetc placedAfter, fun _ => stops_at_ungetc placedAfter⟩

theorem placed_match_pattern {pattern : Bytes} {input next : Input} {found : Bool}
    (placed : Placed text start input) (read : matchPattern pattern input = (found, next)) :
    Placed text start next ∧ (found = false → StopsAt text start next) := by
  induction pattern generalizing input with
  | nil =>
      obtain ⟨rfl, rfl⟩ := Prod.mk.inj read
      exact ⟨placed, by simp⟩
  | cons expected pattern ih =>
      unfold matchPattern at read
      split at read
      case h_1 c after taken =>
        have placedAfter := placed_getc placed taken
        split at read
        · exact ih placedAfter read
        · obtain ⟨rfl, rfl⟩ := Prod.mk.inj read
          exact ⟨placed_ungetc placedAfter, fun _ => stops_at_ungetc placedAfter⟩
      case h_2 after taken =>
        have placedAfter := placed_getc placed taken
        obtain ⟨rfl, rfl⟩ := Prod.mk.inj read
        exact ⟨placed_ungetc placedAfter, fun _ => stops_at_ungetc placedAfter⟩

/-! ## Strings -/

theorem hex_digit_ne_line_feed {c : UInt8} {hex : Nat} (read : hexDigit c = some hex) :
    some c ≠ some (ascii '\n') := by
  intro same
  have noDigit : hexDigit (ascii '\n') = none := by decide
  simp [Option.some.inj same, noDigit] at read

/-- Neither after the digits nor where one is missing is the consumed character
a line feed, unless it was before. -/
theorem placed_parse_quadhex {left uniCh : Nat} {input next : Input}
    {word : Option Nat} (placed : Placed text start input)
    (noFeed : input.consumed ≠ some (ascii '\n'))
    (read : parseQuadhex left uniCh input = (word, next)) :
    Placed text start next ∧ next.consumed ≠ some (ascii '\n') := by
  induction left generalizing uniCh input with
  | zero =>
      obtain ⟨-, rfl⟩ := Prod.mk.inj read
      exact ⟨placed, noFeed⟩
  | succ left ih =>
      unfold parseQuadhex at read
      split at read
      case h_1 after taken =>
        obtain ⟨-, rfl⟩ := Prod.mk.inj read
        obtain ⟨before, behind⟩ := placed
        obtain ⟨behindAfter, atEnd⟩ := behind_getc_none behind taken
        exact ⟨⟨before, behindAfter⟩, by simp [atEnd]⟩
      case h_2 c after taken =>
        obtain ⟨before, behind⟩ := placed
        obtain ⟨behindAfter, consumed⟩ := behind_getc_some behind taken
        split at read
        case h_1 hex digit =>
          exact ih ⟨_, behindAfter⟩ (consumed ▸ hex_digit_ne_line_feed digit) read
        case h_2 =>
          obtain ⟨-, rfl⟩ := Prod.mk.inj read
          exact ⟨placed_ungetc ⟨_, behindAfter⟩, by simp [consumed_ungetc]⟩

theorem placed_parse_trailing {leading : Nat} {input next : Input}
    {joined : Option Nat} (placed : Placed text start input)
    (read : parseTrailing leading input = (joined, next)) :
    Placed text start next ∧ next.consumed ≠ some (ascii '\n') := by
  have back {input : Input} (placed : Placed text start input) :
      Placed text start (ungetc input) ∧ (ungetc input).consumed ≠ some (ascii '\n') :=
    ⟨placed_ungetc placed, by simp [consumed_ungetc]⟩
  unfold parseTrailing at read
  split at read
  case h_1 after taken =>
    obtain ⟨-, rfl⟩ := Prod.mk.inj read
    exact back (placed_getc placed taken)
  case h_2 first afterFirst takenFirst =>
    have placedFirst := placed_getc placed takenFirst
    split at read
    case isTrue =>
      obtain ⟨-, rfl⟩ := Prod.mk.inj read
      exact back placedFirst
    case isFalse =>
      split at read
      case h_1 after taken =>
        obtain ⟨-, rfl⟩ := Prod.mk.inj read
        exact back (placed_getc placedFirst taken)
      case h_2 second afterSecond takenSecond =>
        obtain ⟨before, behind⟩ := placedFirst
        obtain ⟨behindSecond, consumed⟩ := behind_getc_some behind takenSecond
        split at read
        case isTrue =>
          obtain ⟨-, rfl⟩ := Prod.mk.inj read
          exact back ⟨_, behindSecond⟩
        case isFalse isLetter =>
          have letter : second = ascii 'u' := not_not.mp isLetter
          have noFeed : afterSecond.consumed ≠ some (ascii '\n') := by
            rw [consumed, letter]
            decide
          split at read
          case h_1 word afterWord takenWord =>
            have placedWord := placed_parse_quadhex ⟨_, behindSecond⟩ noFeed takenWord
            split at read
            · obtain ⟨-, rfl⟩ := Prod.mk.inj read
              exact placedWord
            · obtain ⟨-, rfl⟩ := Prod.mk.inj read
              exact placedWord
          case h_2 afterWord takenWord =>
            obtain ⟨-, rfl⟩ := Prod.mk.inj read
            exact placed_parse_quadhex ⟨_, behindSecond⟩ noFeed takenWord

theorem placed_parse_codepoint {input next : Input} {bytes : Option Bytes}
    (placed : Placed text start input) (noFeed : input.consumed ≠ some (ascii '\n'))
    (read : parseCodepoint input = (bytes, next)) :
    Placed text start next ∧ next.consumed ≠ some (ascii '\n') := by
  unfold parseCodepoint at read
  split at read
  case h_1 after taken =>
    obtain ⟨-, rfl⟩ := Prod.mk.inj read
    exact placed_parse_quadhex placed noFeed taken
  case h_2 uniCh after taken =>
    have placedWord := placed_parse_quadhex placed noFeed taken
    split at read
    case isFalse =>
      obtain ⟨-, rfl⟩ := Prod.mk.inj read
      exact placedWord
    case isTrue =>
      split at read
      case isTrue =>
        obtain ⟨-, rfl⟩ := Prod.mk.inj read
        exact placedWord
      case isFalse =>
        split at read
        case h_1 joined afterTrailing takenTrailing =>
          obtain ⟨-, rfl⟩ := Prod.mk.inj read
          exact placed_parse_trailing placedWord.1 takenTrailing
        case h_2 afterTrailing takenTrailing =>
          obtain ⟨-, rfl⟩ := Prod.mk.inj read
          exact placed_parse_trailing placedWord.1 takenTrailing

theorem placed_parse_escape {input next : Input} {bytes : Option Bytes}
    (placed : Placed text start input) (slash : input.consumed = some (ascii '\\'))
    (read : parseEscape input = (bytes, next)) :
    Placed text start next ∧ StopsAt text start next := by
  obtain ⟨before, behind⟩ := placed
  obtain ⟨earlier, ends⟩ := behind.2.1
  rw [slash, Option.toList_some] at ends
  unfold parseEscape at read
  split at read
  case h_1 after taken =>
    obtain ⟨-, rfl⟩ := Prod.mk.inj read
    obtain ⟨behindAfter, atEnd⟩ := behind_getc_none behind taken
    exact ⟨⟨_, behindAfter⟩, stops_at_of_ne ⟨_, behindAfter⟩ (by simp [atEnd])⟩
  case h_2 c after taken =>
    obtain ⟨behindAfter, consumed⟩ := behind_getc_some behind taken
    have stops : StopsAt text start after := by
      refine ⟨before ++ [c], behindAfter, fun feed => ⟨earlier, ?_⟩⟩
      rw [consumed] at feed
      rw [← ends, Option.some.inj feed, List.append_assoc]
      rfl
    split at read
    case h_1 =>
      obtain ⟨-, rfl⟩ := Prod.mk.inj read
      exact ⟨⟨_, behindAfter⟩, stops⟩
    case h_2 =>
      split at read
      case isTrue isLetter =>
        have noFeed : after.consumed ≠ some (ascii '\n') := by
          rw [consumed, isLetter]
          decide
        obtain ⟨placedNext, noFeedNext⟩ := placed_parse_codepoint ⟨_, behindAfter⟩ noFeed read
        exact ⟨placedNext, stops_at_of_ne placedNext noFeedNext⟩
      case isFalse =>
        obtain ⟨-, rfl⟩ := Prod.mk.inj read
        exact ⟨⟨_, behindAfter⟩, stops⟩

/-- A piece of the parser leaves the cursor in the text, and where it fails the
cursor is as the message needs it. -/
def Keeps {Result : Type*} (text : Bytes) (start : Nat) : Outcome Result → Prop
  | .ok _ input => Placed text start input
  | .fail input => StopsAt text start input
  | .throw _ | .outOfFuel => True

theorem keeps_parse_string_loop {fuel : Nat} {out : Bytes} {input : Input}
    (placed : Placed text start input) : Keeps text start (parseStringLoop fuel out input) := by
  induction fuel generalizing out input with
  | zero => trivial
  | succ fuel ih =>
      unfold parseStringLoop
      split
      case h_1 next taken => exact stops_at_ungetc (placed_getc placed taken)
      case h_2 c next taken =>
        have placedNext := placed_getc placed taken
        split
        · exact stops_at_ungetc placedNext
        split
        · exact placedNext
        split
        case isTrue isSlash =>
          obtain ⟨before, behind⟩ := placed
          have slash := (behind_getc_some behind taken).2
          rw [isSlash] at slash
          split
          case h_1 bytes after escaped => exact ih (placed_parse_escape placedNext slash escaped).1
          case h_2 after escaped => exact (placed_parse_escape placedNext slash escaped).2
        case isFalse => exact ih placedNext

/-! ## Values -/

theorem placed_parse_number_from {numStr rest : Bytes} {input : Input}
    (same : input.rest = rest) (placed : Placed text start input) :
    Placed text start (parseNumberFrom numStr input rest).2 ∧
      (parseNumberFrom numStr input rest).2.consumed = none := by
  induction rest generalizing input numStr with
  | nil =>
      have whole : { input with rest := [] } = input := by rw [← same]
      rw [parseNumberFrom, whole]
      exact ⟨placed_ungetc (placed_getc placed rfl), consumed_ungetc _⟩
  | cons c rest ih =>
      have whole : { input with rest := c :: rest } = input := by rw [← same]
      have next := placed_getc placed (getc_cons same)
      simp only [parseNumberFrom, whole, getc_cons same]
      split
      · exact ih rfl next
      · exact ⟨placed_ungetc next, consumed_ungetc _⟩

theorem keeps_parse_number_value {input : Input} (placed : Placed text start input) :
    Keeps text start (parseNumberValue input) := by
  obtain ⟨placedNext, consumed⟩ :=
    @placed_parse_number_from text start [] input.rest input rfl placed
  have stops : StopsAt text start (parseNumber input).2 :=
    stops_at_of_ne placedNext (by rw [parseNumber, consumed]; simp)
  unfold parseNumberValue
  split
  case h_1 numStr next read =>
    have same : (parseNumber input).2 = next := by rw [read]
    rw [same] at stops
    split
    · exact stops
    split
    · split
      · exact same ▸ placedNext
      · trivial
    · exact stops

theorem keeps_parse_word {pattern : Bytes} {value : Value} {input : Input}
    (placed : Placed text start input) : Keeps text start (parseWord pattern value input) := by
  unfold parseWord
  split
  case h_1 next read => exact (placed_match_pattern placed read).1
  case h_2 next read => exact (placed_match_pattern placed read).2 rfl

def KeepsPlaces (text : Bytes) (start fuel : Nat) : Prop :=
  (∀ input, Placed text start input → Keeps text start (parseValue fuel input)) ∧
  (∀ items input, Placed text start input → Keeps text start (parseItems fuel items input)) ∧
  (∀ entries input, Placed text start input → Keeps text start (parseEntries fuel entries input))

/-- `parseValue` behind the first character of a value. -/
def parseValueFrom (fuel : Nat) (c : UInt8) (next : Input) : Outcome Value :=
  if c = ascii 'n' then parseWord [ascii 'u', ascii 'l', ascii 'l'] .null next
  else if c = ascii 'f' then
    parseWord [ascii 'a', ascii 'l', ascii 's', ascii 'e'] (.boolean false) next
  else if c = ascii 't' then
    parseWord [ascii 'r', ascii 'u', ascii 'e'] (.boolean true) next
  else if c = ascii '"' then
    match parseString next with
    | .ok bytes next => .ok (.string bytes) next
    | .fail next => .fail next
    | .throw exception => .throw exception
    | .outOfFuel => .outOfFuel
  else if c = ascii '[' then
    match expect (ascii ']') next with
    | (true, next) => .ok (.array []) next
    | (false, next) => parseItems fuel [] next
  else if c = ascii '{' then
    match expect (ascii '}') next with
    | (true, next) => .ok (.object []) next
    | (false, next) => parseEntries fuel [] next
  else if (ascii '0' ≤ c ∧ c ≤ ascii '9') ∨ c = ascii '-' then
    parseNumberValue (ungetc next)
  else .fail (ungetc next)

theorem parse_value_at_end {fuel : Nat} {input next : Input}
    (taken : getc (skipWs input) = (none, next)) :
    parseValue (fuel + 1) input = .fail (ungetc next) := by
  rw [parseValue, taken]

theorem parse_value_from {fuel : Nat} {c : UInt8} {input next : Input}
    (taken : getc (skipWs input) = (some c, next)) :
    parseValue (fuel + 1) input = parseValueFrom fuel c next := by
  rw [parseValue, taken]
  rfl

theorem keeps_parse_value_from {fuel : Nat} (keeps : KeepsPlaces text start fuel) {c : UInt8}
    {next : Input} (placed : Placed text start next) :
    Keeps text start (parseValueFrom fuel c next) := by
  obtain ⟨-, items, entries⟩ := keeps
  unfold parseValueFrom
  split
  · exact keeps_parse_word placed
  split
  · exact keeps_parse_word placed
  split
  · exact keeps_parse_word placed
  split
  · have keepsString : Keeps text start (parseString next) := keeps_parse_string_loop placed
    split
    case h_1 bytes after read =>
      rw [read] at keepsString
      exact keepsString
    case h_2 after read =>
      rw [read] at keepsString
      exact keepsString
    case h_3 => trivial
    case h_4 => trivial
  split
  · split
    case h_1 after read => exact (placed_expect placed read).1
    case h_2 after read => exact items [] after (placed_expect placed read).1
  split
  · split
    case h_1 after read => exact (placed_expect placed read).1
    case h_2 after read => exact entries [] after (placed_expect placed read).1
  split
  · exact keeps_parse_number_value (placed_ungetc placed)
  · exact stops_at_ungetc placed

theorem keeps_parse_value_step {fuel : Nat} (keeps : KeepsPlaces text start fuel)
    {input : Input} (placed : Placed text start input) :
    Keeps text start (parseValue (fuel + 1) input) := by
  have skipped := placed_skip_ws placed
  rcases taken : getc (skipWs input) with ⟨_ | c, next⟩
  · rw [parse_value_at_end taken]
    exact stops_at_ungetc (placed_getc skipped taken)
  · rw [parse_value_from taken]
    exact keeps_parse_value_from keeps (placed_getc skipped taken)

/-- A round of the loops of `parseItems` and `parseEntries`, from the value on. -/
def readElement (fuel : Nat) (close : UInt8) (more : Value → Input → Outcome Value)
    (whole : Value → Value) (input : Input) : Outcome Value :=
  match parseValue fuel input with
  | .ok item next =>
      match expect (ascii ',') next with
      | (true, next) => more item next
      | (false, next) =>
          match expect close next with
          | (true, next) => .ok (whole item) next
          | (false, next) => .fail next
  | .fail next => .fail next
  | .throw exception => .throw exception
  | .outOfFuel => .outOfFuel

theorem parse_items_from (fuel : Nat) (items : List Value) (input : Input) :
    parseItems (fuel + 1) items input =
      readElement fuel (ascii ']') (fun item => parseItems fuel (items ++ [item]))
        (fun item => .array (items ++ [item])) input := by
  rw [parseItems]
  rfl

/-- `parseEntries` behind the colon of an entry. -/
def parseEntriesFrom (fuel : Nat) (entries : List (Bytes × Value)) (key : Bytes) :
    Input → Outcome Value :=
  readElement fuel (ascii '}') (fun item => parseEntries fuel (assign key item entries))
    (fun item => .object (assign key item entries))

theorem parse_entries_from {fuel : Nat} {entries : List (Bytes × Value)} {key : Bytes}
    {input afterQuote afterKey afterColon : Input}
    (quote : expect (ascii '"') input = (true, afterQuote))
    (readKey : parseString afterQuote = .ok key afterKey)
    (colon : expect (ascii ':') afterKey = (true, afterColon)) :
    parseEntries (fuel + 1) entries input = parseEntriesFrom fuel entries key afterColon := by
  rw [parseEntries, quote]
  simp only [readKey, colon]
  rfl

theorem keeps_read_element {fuel : Nat} {close : UInt8}
    {more : Value → Input → Outcome Value} {whole : Value → Value} {input : Input}
    (keepsItem : Keeps text start (parseValue fuel input))
    (keepsMore : ∀ item next, Placed text start next → Keeps text start (more item next)) :
    Keeps text start (readElement fuel close more whole input) := by
  unfold readElement
  split
  case h_1 item next read =>
    rw [read] at keepsItem
    split
    case h_1 afterComma comma => exact keepsMore item _ (placed_expect keepsItem comma).1
    case h_2 afterComma noComma =>
      have placedComma := (placed_expect keepsItem noComma).1
      split
      case h_1 afterClose closes => exact (placed_expect placedComma closes).1
      case h_2 afterClose closes => exact (placed_expect placedComma closes).2 rfl
  case h_2 next read =>
    rw [read] at keepsItem
    exact keepsItem
  case h_3 => trivial
  case h_4 => trivial

theorem keeps_parse_items_step {fuel : Nat} (keeps : KeepsPlaces text start fuel)
    (items : List Value) {input : Input} (placed : Placed text start input) :
    Keeps text start (parseItems (fuel + 1) items input) := by
  obtain ⟨value, more, -⟩ := keeps
  rw [parse_items_from]
  exact keeps_read_element (value input placed) (fun item next => more _ next)

theorem keeps_parse_entries_from {fuel : Nat} (keeps : KeepsPlaces text start fuel)
    (entries : List (Bytes × Value)) (key : Bytes) {input : Input}
    (placed : Placed text start input) :
    Keeps text start (parseEntriesFrom fuel entries key input) := by
  obtain ⟨value, -, more⟩ := keeps
  exact keeps_read_element (value input placed) (fun item next => more _ next)

theorem keeps_parse_entries_step {fuel : Nat} (keeps : KeepsPlaces text start fuel)
    (entries : List (Bytes × Value)) {input : Input} (placed : Placed text start input) :
    Keeps text start (parseEntries (fuel + 1) entries input) := by
  unfold parseEntries
  split
  case h_1 next quote => exact (placed_expect placed quote).2 rfl
  case h_2 afterQuote quote =>
    have keepsKey : Keeps text start (parseString afterQuote) :=
      keeps_parse_string_loop (placed_expect placed quote).1
    split
    case h_1 key afterKey readKey =>
      rw [readKey] at keepsKey
      split
      case h_1 next colon => exact (placed_expect keepsKey colon).2 rfl
      case h_2 afterColon colon =>
        exact keeps_parse_entries_from keeps entries key (placed_expect keepsKey colon).1
    case h_2 next readKey =>
      rw [readKey] at keepsKey
      exact keepsKey
    case h_3 => trivial
    case h_4 => trivial

theorem keeps_places (text : Bytes) (start fuel : Nat) : KeepsPlaces text start fuel := by
  induction fuel with
  | zero => exact ⟨fun _ _ => trivial, fun _ _ _ => trivial, fun _ _ _ => trivial⟩
  | succ fuel ih =>
      exact ⟨fun _ => keeps_parse_value_step ih, fun items _ => keeps_parse_items_step ih items,
        fun entries _ => keeps_parse_entries_step ih entries⟩

end PyWebRTC.PicojsonCursor
