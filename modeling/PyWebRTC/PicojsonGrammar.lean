import PyWebRTC.PicojsonDecimal

/-!
# The texts that picojson takes for a value

The grammar of JSON on bytes, with all that the parser lets through: every byte
from the space on in a string, a number whose digits start with zeros or leave
out one side of the point, and a key that comes again. The parser reads every
text of the grammar as its value.
-/

namespace PyWebRTC.PicojsonGrammar

open DoubleRounding (Double)
open JsonText (CharText decimalDigits)
open PicojsonComplete PicojsonDecimal PicojsonFuel PicojsonParse PicojsonValue
open Utf8 (ascii)

set_option autoImplicit false

inductive StringText : Bytes → Bytes → Prop where
  | nil : StringText [] []
  | plain {byte : UInt8} {s body : Bytes} (plain : IsPlainByte byte)
      (others : StringText s body) : StringText (byte :: s) (byte :: body)
  | escape {c : Char} {spelled : List Char} {s body : Bytes}
      (escaped : CharText c ('\\' :: spelled)) (others : StringText s body) :
      StringText (String.utf8EncodeChar c ++ s) (Utf8.encode ('\\' :: spelled) ++ body)

/-! ## The grammar -/

def IsSpaces (blank : Bytes) : Prop := ∀ byte ∈ blank, isSpace byte = true

def assigned (start entries : List (Bytes × Value)) : List (Bytes × Value) :=
  entries.foldl (fun read entry => assign entry.1 entry.2 read) start

/-- What a piece of text can stand for. A padded value may have white space on
both sides. -/
inductive Phrase where
  | value (value : Value)
  | padded (value : Value)
  | items (items : List Value)
  | entry (key : Bytes) (item : Value)
  | entries (entries : List (Bytes × Value))

inductive Spells : Bytes → Phrase → Prop where
  | null : Spells [ascii 'n', ascii 'u', ascii 'l', ascii 'l'] (.value .null)
  | false : Spells [ascii 'f', ascii 'a', ascii 'l', ascii 's', ascii 'e']
      (.value (.boolean false))
  | true : Spells [ascii 't', ascii 'r', ascii 'u', ascii 'e'] (.value (.boolean true))
  | number {number : Double} {text : List Char} (decimal : NumberText number text) :
      Spells (text.map ascii) (.value (.number number))
  | string {s body : Bytes} (spelled : StringText s body) :
      Spells (ascii '"' :: (body ++ [ascii '"'])) (.value (.string s))
  | emptyArray {blank : Bytes} (spaces : IsSpaces blank) :
      Spells (ascii '[' :: (blank ++ [ascii ']'])) (.value (.array []))
  | array {items : List Value} {text : Bytes} (inside : Spells text (.items items)) :
      Spells (ascii '[' :: (text ++ [ascii ']'])) (.value (.array items))
  | emptyObject {blank : Bytes} (spaces : IsSpaces blank) :
      Spells (ascii '{' :: (blank ++ [ascii '}'])) (.value (.object []))
  | object {entries : List (Bytes × Value)} {text : Bytes}
      (inside : Spells text (.entries entries)) :
      Spells (ascii '{' :: (text ++ [ascii '}'])) (.value (.object (assigned [] entries)))
  | padded {value : Value} {before text behind : Bytes} (spacesBefore : IsSpaces before)
      (spacesBehind : IsSpaces behind) (inside : Spells text (.value value)) :
      Spells (before ++ (text ++ behind)) (.padded value)
  | lastItem {item : Value} {text : Bytes} (only : Spells text (.padded item)) :
      Spells text (.items [item])
  | item {item : Value} {items : List Value} {text rest : Bytes}
      (first : Spells text (.padded item)) (others : Spells rest (.items items)) :
      Spells (text ++ ascii ',' :: rest) (.items (item :: items))
  | entry {key body before behind text : Bytes} {item : Value} (spacesBefore : IsSpaces before)
      (spelled : StringText key body) (spacesBehind : IsSpaces behind)
      (inside : Spells text (.padded item)) :
      Spells (before ++ ascii '"' :: (body ++ ascii '"' :: (behind ++ ascii ':' :: text)))
        (.entry key item)
  | lastEntry {key : Bytes} {item : Value} {text : Bytes} (only : Spells text (.entry key item)) :
      Spells text (.entries [(key, item)])
  | moreEntries {key : Bytes} {item : Value} {entries : List (Bytes × Value)} {text rest : Bytes}
      (first : Spells text (.entry key item)) (others : Spells rest (.entries entries)) :
      Spells (text ++ ascii ',' :: rest) (.entries ((key, item) :: entries))

/-! ## Reading strings -/

theorem appends_string_text {s body after : Bytes} {input : Input} (spelled : StringText s body)
    (ahead : input.rest = body ++ after) :
    ∃ next, Appends s body.length input next ∧ next.rest = after := by
  induction spelled generalizing input with
  | nil => exact ⟨input, ⟨0, Nat.le_refl _, by simp⟩, ahead⟩
  | @plain byte s body plain others ih =>
      obtain ⟨middle, appendsFirst, restFirst⟩ := @appends_plain [byte] (body ++ after) input
        (by simpa using plain) ahead
      obtain ⟨next, appendsRest, restNext⟩ := ih restFirst
      refine ⟨next, ?_, restNext⟩
      rw [List.length_cons, Nat.add_comm]
      exact appends_trans appendsFirst appendsRest
  | escape escaped others ih =>
      rw [List.append_assoc] at ahead
      obtain ⟨middle, appendsFirst, restFirst⟩ := appends_char_text escaped ahead
      obtain ⟨next, appendsRest, restNext⟩ := ih restFirst
      refine ⟨next, ?_, restNext⟩
      rw [List.length_append]
      exact appends_trans appendsFirst appendsRest

theorem parse_string_text {s body after : Bytes} {input : Input} (spelled : StringText s body)
    (ahead : input.rest = body ++ ascii '"' :: after) :
    ∃ next, parseString input = .ok s next ∧ next.rest = after := by
  obtain ⟨middle, ⟨rounds, le, loop⟩, restMiddle⟩ := appends_string_text spelled ahead
  obtain ⟨next, quote, restNext⟩ := getc_ahead restMiddle
  obtain ⟨spare, total⟩ : ∃ spare, input.rest.length + 1 = (spare + 1) + rounds := by
    refine ⟨input.rest.length - rounds, ?_⟩
    simp only [ahead, List.length_append]
    omega
  refine ⟨next, ?_, restNext⟩
  rw [parseString, total, loop]
  simp only [parseStringLoop, quote]
  rw [if_neg (by decide), if_pos trivial, List.nil_append]

/-! ## Reading values -/

theorem is_spaces_nil : IsSpaces [] := by simp [IsSpaces]

theorem ahead_spaces {input : Input} {blank bytes : Bytes} (spaces : IsSpaces blank) :
    Ahead input (blank ++ bytes) ↔ Ahead input bytes := by
  unfold Ahead
  rw [List.dropWhile_append_of_pos spaces]

theorem ends_number_spaces {blank after : Bytes} (spaces : IsSpaces blank)
    (ends : EndsNumber after) : EndsNumber (blank ++ after) := by
  cases blank with
  | nil => exact ends
  | cons byte others =>
      have notNumber : isNumberChar byte = false := by
        have space := spaces byte (by simp)
        simp only [isSpace, Bool.or_eq_true, decide_eq_true_eq] at space
        rcases space with ((rfl | rfl) | rfl) | rfl <;> decide
      exact ends_number_mark notNumber

theorem starts_value_spaces {blank bytes : Bytes} (spaces : IsSpaces blank)
    (starts : StartsValue bytes) : StartsValue (blank ++ bytes) := by
  unfold StartsValue at starts ⊢
  rwa [List.dropWhile_append_of_pos spaces]

theorem starts_value_mark {mark : UInt8} {rest : Bytes} (visible : isSpace mark = false)
    (notBracket : mark ≠ ascii ']') (notBrace : mark ≠ ascii '}') : StartsValue (mark :: rest) :=
  ⟨mark, rest, List.dropWhile_cons_of_neg (by simp [visible]), notBracket, notBrace⟩

theorem number_mark : ∀ c ∈ '-' :: decimalDigits, isSpace (ascii c) = false ∧
    ascii c ≠ ascii ']' ∧ ascii c ≠ ascii '}' ∧ ascii c ≠ ascii 'n' ∧ ascii c ≠ ascii 'f' ∧
    ascii c ≠ ascii 't' ∧ ascii c ≠ ascii '"' ∧ ascii c ≠ ascii '[' ∧ ascii c ≠ ascii '{' ∧
    ((ascii '0' ≤ ascii c ∧ ascii c ≤ ascii '9') ∨ ascii c = ascii '-') := by
  decide

theorem starts_value_of_spells {text : Bytes} {phrase : Phrase} (spells : Spells text phrase)
    (after : Bytes) : StartsValue (text ++ after) := by
  induction spells generalizing after with
  | null | false | true | string | emptyArray | array | emptyObject | object =>
      exact starts_value_mark (by decide) (by decide) (by decide)
  | number decimal =>
      obtain ⟨first, rest, rfl, listed⟩ := number_text_cons decimal
      obtain ⟨visible, notBracket, notBrace, -⟩ := number_mark first listed
      exact starts_value_mark visible notBracket notBrace
  | padded spacesBefore spacesBehind inside ih =>
      rw [List.append_assoc, List.append_assoc]
      exact starts_value_spaces spacesBefore (ih _)
  | lastItem only ih | lastEntry only ih => exact ih after
  | item first others ihFirst ihOthers | moreEntries first others ihFirst ihOthers =>
      rw [List.append_assoc]
      exact ihFirst _
  | entry spacesBefore spelled spacesBehind inside ih =>
      rw [List.append_assoc]
      exact starts_value_spaces spacesBefore
        (starts_value_mark (by decide) (by decide) (by decide))

/-- The parser reads the value: with fuel for what is left, it ends before what
follows, up to white space. A number must not go on there. -/
def ReadsValue (text : Bytes) (value : Value) : Prop :=
  ∀ (fuel : Nat) (input : Input) (after : Bytes), Ahead input (text ++ after) →
    (∀ number, value = .number number → EndsNumber after) → 2 * input.rest.length + 1 ≤ fuel →
    ∃ next, parseValue fuel input = .ok value next ∧ Ahead next after

/-- What the loops read, up to the closing bracket, and what a round of the
object loop reads. -/
def Reads (text : Bytes) : Phrase → Prop
  | .value value | .padded value => ReadsValue text value
  | .items items => ∀ (fuel : Nat) (start : List Value) (input : Input) (after : Bytes),
      Ahead input (text ++ ascii ']' :: after) → 2 * input.rest.length + 2 ≤ fuel →
      ∃ next, parseItems fuel start input = .ok (.array (start ++ items)) next ∧ next.rest = after
  | .entry key item => ∀ (fuel : Nat) (input : Input) (after : Bytes),
      Ahead input (text ++ after) → (∀ number, item = .number number → EndsNumber after) →
      2 * input.rest.length + 1 ≤ fuel →
      ∃ afterQuote afterKey afterColon next, expect (ascii '"') input = (true, afterQuote) ∧
        parseString afterQuote = .ok key afterKey ∧
        expect (ascii ':') afterKey = (true, afterColon) ∧
        parseValue fuel afterColon = .ok item next ∧ Ahead next after ∧
        next.rest.length < input.rest.length
  | .entries entries => ∀ (fuel : Nat) (start : List (Bytes × Value)) (input : Input)
      (after : Bytes), Ahead input (text ++ ascii '}' :: after) →
      2 * input.rest.length + 2 ≤ fuel →
      ∃ next, parseEntries fuel start input = .ok (.object (assigned start entries)) next ∧
        next.rest = after

theorem reads_word {first : UInt8} {rest : Bytes} {value : Value} (mark : isSpace first = false)
    (dispatch : ∀ fuel input next, getc (skipWs input) = (some first, next) →
      parseValue (fuel + 1) input = parseWord rest value next) :
    ReadsValue (first :: rest) value := by
  intro fuel input after ahead ends enough
  obtain ⟨fuel, rfl⟩ := Nat.exists_eq_add_of_lt enough
  obtain ⟨middle, taken, aheadRest, -⟩ := getc_skip_ws mark ahead
  obtain ⟨next, matched, nextRest⟩ := match_pattern_ahead aheadRest
  refine ⟨next, ?_, ahead_of_rest nextRest⟩
  rw [dispatch _ _ _ taken]
  simp only [parseWord, matched]

theorem reads_number {number : Double} {text : List Char} (decimal : NumberText number text) :
    ReadsValue (text.map ascii) (.number number) := by
  intro fuel input after ahead ends enough
  obtain ⟨fuel, rfl⟩ := Nat.exists_eq_add_of_lt enough
  obtain ⟨c, rest, spelled, listed⟩ := number_text_cons decimal
  obtain ⟨mark, -, -, notN, notF, notT, notQuote, notBracket, notBrace, numeric⟩ :=
    number_mark c listed
  have split : text.map ascii ++ after = ascii c :: (rest.map ascii ++ after) := by
    rw [spelled, List.map_cons, List.cons_append]
  rw [split] at ahead
  obtain ⟨middle, taken, -, back⟩ := getc_skip_ws mark ahead
  obtain ⟨next, parsed, nextRest⟩ :=
    parse_number_value_text decimal (ends number rfl) (back.trans split.symm)
  refine ⟨next, ?_, ahead_of_rest nextRest⟩
  simp only [parseValue, taken]
  rw [if_neg notN, if_neg notF, if_neg notT, if_neg notQuote, if_neg notBracket, if_neg notBrace,
    if_pos numeric, parsed]

theorem reads_string {s body : Bytes} (spelled : StringText s body) :
    ReadsValue (ascii '"' :: (body ++ [ascii '"'])) (.string s) := by
  intro fuel input after ahead ends enough
  obtain ⟨fuel, rfl⟩ := Nat.exists_eq_add_of_lt enough
  rw [List.cons_append, List.append_assoc] at ahead
  obtain ⟨middle, taken, aheadRest, -⟩ := getc_skip_ws (by decide) ahead
  obtain ⟨next, parsed, nextRest⟩ := parse_string_text spelled aheadRest
  refine ⟨next, ?_, ahead_of_rest nextRest⟩
  simp only [parseValue, taken, parsed]
  rw [if_neg (by decide), if_neg (by decide), if_neg (by decide), if_pos trivial]

theorem reads_padded {value : Value} {before text behind : Bytes} (spacesBefore : IsSpaces before)
    (spacesBehind : IsSpaces behind) (reads : ReadsValue text value) :
    ReadsValue (before ++ (text ++ behind)) value := by
  intro fuel input after ahead ends enough
  rw [List.append_assoc, List.append_assoc, ahead_spaces spacesBefore] at ahead
  obtain ⟨next, parsed, aheadNext⟩ :=
    reads fuel input _ ahead (fun number same => ends_number_spaces spacesBehind (ends number same))
      enough
  exact ⟨next, parsed, (ahead_spaces spacesBehind).mp aheadNext⟩

theorem open_container {opening closing : UInt8} (mark : isSpace opening = false)
    {inside after : Bytes} {fuel : Nat} {input : Input}
    (ahead : Ahead input (opening :: (inside ++ [closing]) ++ after))
    (enough : 2 * input.rest.length + 1 ≤ fuel) :
    ∃ left middle, fuel = left + 1 ∧ getc (skipWs input) = (some opening, middle) ∧
      middle.rest = inside ++ closing :: after ∧ 2 * middle.rest.length + 2 ≤ left := by
  obtain ⟨left, rfl⟩ := Nat.exists_eq_add_one_of_ne_zero (show fuel ≠ 0 by omega)
  rw [List.cons_append, List.append_assoc] at ahead
  obtain ⟨middle, taken, aheadRest, -⟩ := getc_skip_ws mark ahead
  have shorter : middle.rest.length < input.rest.length :=
    (getc_shortens taken).trans_le (skip_ws_shortens input)
  exact ⟨left, middle, rfl, taken, aheadRest, by omega⟩

/-- The closing bracket does not come first: the loop starts. -/
theorem expect_close {text after : Bytes} {phrase : Phrase} (spells : Spells text phrase)
    {closing : UInt8} (isClosing : closing = ascii ']' ∨ closing = ascii '}') {input : Input}
    (rest : input.rest = text ++ after) :
    ∃ start, expect closing input = (false, start) ∧ Ahead start (text ++ after) ∧
      start.rest.length ≤ input.rest.length := by
  obtain ⟨c, others, first, notBracket, notBrace⟩ := starts_value_of_spells spells after
  have different : c ≠ closing := by
    rcases isClosing with rfl | rfl
    · exact notBracket
    · exact notBrace
  obtain ⟨start, read, ahead⟩ := expect_other first different (ahead_of_rest rest)
  exact ⟨start, read, ahead, by simpa using expect_shortens read⟩

theorem reads_empty_array {blank : Bytes} (spaces : IsSpaces blank) :
    ReadsValue (ascii '[' :: (blank ++ [ascii ']'])) (.array []) := by
  intro fuel input after ahead ends enough
  obtain ⟨left, middle, rfl, taken, rest, -⟩ := open_container (by decide) ahead enough
  obtain ⟨next, closed, nextRest⟩ :=
    expect_ahead (by decide) ((ahead_spaces spaces).mp (ahead_of_rest rest))
  refine ⟨next, ?_, ahead_of_rest nextRest⟩
  simp only [parseValue, taken, closed]
  rw [if_neg (by decide), if_neg (by decide), if_neg (by decide), if_neg (by decide),
    if_pos trivial]

theorem reads_array {items : List Value} {text : Bytes} (inside : Spells text (.items items))
    (reads : Reads text (.items items)) :
    ReadsValue (ascii '[' :: (text ++ [ascii ']'])) (.array items) := by
  intro fuel input after ahead ends enough
  obtain ⟨left, middle, rfl, taken, rest, enoughLeft⟩ := open_container (by decide) ahead enough
  obtain ⟨start, notClosed, aheadStart, le⟩ := expect_close inside (.inl rfl) rest
  obtain ⟨next, parsed, nextRest⟩ := reads left [] start after aheadStart (by omega)
  refine ⟨next, ?_, ahead_of_rest nextRest⟩
  simp only [parseValue, taken, notClosed]
  rw [if_neg (by decide), if_neg (by decide), if_neg (by decide), if_neg (by decide),
    if_pos trivial, parsed, List.nil_append]

theorem reads_empty_object {blank : Bytes} (spaces : IsSpaces blank) :
    ReadsValue (ascii '{' :: (blank ++ [ascii '}'])) (.object []) := by
  intro fuel input after ahead ends enough
  obtain ⟨left, middle, rfl, taken, rest, -⟩ := open_container (by decide) ahead enough
  obtain ⟨next, closed, nextRest⟩ :=
    expect_ahead (by decide) ((ahead_spaces spaces).mp (ahead_of_rest rest))
  refine ⟨next, ?_, ahead_of_rest nextRest⟩
  simp only [parseValue, taken, closed]
  rw [if_neg (by decide), if_neg (by decide), if_neg (by decide), if_neg (by decide),
    if_neg (by decide), if_pos trivial]

theorem reads_object {entries : List (Bytes × Value)} {text : Bytes}
    (inside : Spells text (.entries entries)) (reads : Reads text (.entries entries)) :
    ReadsValue (ascii '{' :: (text ++ [ascii '}'])) (.object (assigned [] entries)) := by
  intro fuel input after ahead ends enough
  obtain ⟨left, middle, rfl, taken, rest, enoughLeft⟩ := open_container (by decide) ahead enough
  obtain ⟨start, notClosed, aheadStart, le⟩ := expect_close inside (.inr rfl) rest
  obtain ⟨next, parsed, nextRest⟩ := reads left [] start after aheadStart (by omega)
  refine ⟨next, ?_, ahead_of_rest nextRest⟩
  simp only [parseValue, taken, notClosed]
  rw [if_neg (by decide), if_neg (by decide), if_neg (by decide), if_neg (by decide),
    if_neg (by decide), if_pos trivial, parsed]

theorem expect_closing {closing : UInt8} (mark : isSpace closing = false)
    (different : closing ≠ ascii ',') {input : Input} {after : Bytes}
    (ahead : Ahead input (closing :: after)) :
    ∃ middle next, expect (ascii ',') input = (false, middle) ∧
      expect closing middle = (true, next) ∧ next.rest = after := by
  obtain ⟨middle, noComma, aheadClose⟩ :=
    expect_other (List.dropWhile_cons_of_neg (by simp [mark])) different ahead
  obtain ⟨next, closed, nextRest⟩ := expect_ahead mark aheadClose
  exact ⟨middle, next, noComma, closed, nextRest⟩

theorem reads_last_item {item : Value} {text : Bytes} (reads : ReadsValue text item) :
    Reads text (.items [item]) := by
  intro fuel start input after ahead enough
  obtain ⟨left, rfl⟩ := Nat.exists_eq_add_one_of_ne_zero (show fuel ≠ 0 by omega)
  obtain ⟨middle, parsed, aheadMiddle⟩ := reads left input _ ahead
    (fun _ _ => ends_number_mark (by decide)) (by omega)
  obtain ⟨afterItem, next, noComma, closed, nextRest⟩ :=
    expect_closing (by decide) (by decide) aheadMiddle
  refine ⟨next, ?_, nextRest⟩
  simp only [parseItems, parsed, noComma, closed]

theorem reads_item {item : Value} {items : List Value} {text rest : Bytes}
    (reads : ReadsValue text item) (others : Reads rest (.items items)) :
    Reads (text ++ ascii ',' :: rest) (.items (item :: items)) := by
  intro fuel start input after ahead enough
  obtain ⟨left, rfl⟩ := Nat.exists_eq_add_one_of_ne_zero (show fuel ≠ 0 by omega)
  rw [List.append_assoc, List.cons_append] at ahead
  obtain ⟨middle, parsed, aheadMiddle⟩ := reads left input _ ahead
    (fun _ _ => ends_number_mark (by decide)) (by omega)
  have shorter := parse_value_shortens (by omega) parsed
  obtain ⟨afterComma, comma, restComma⟩ := expect_ahead (by decide) aheadMiddle
  have commaShortens := expect_shortens comma
  obtain ⟨next, parsedRest, nextRest⟩ := others left (start ++ [item]) afterComma after
    (ahead_of_rest restComma) (by omega)
  refine ⟨next, ?_, nextRest⟩
  simp only [parseItems, parsed, comma, parsedRest, List.append_assoc, List.singleton_append]

theorem reads_entry {key body before behind text : Bytes} {item : Value}
    (spacesBefore : IsSpaces before) (spelled : StringText key body)
    (spacesBehind : IsSpaces behind) (reads : ReadsValue text item) :
    Reads (before ++ ascii '"' :: (body ++ ascii '"' :: (behind ++ ascii ':' :: text)))
      (.entry key item) := by
  intro fuel input after ahead ends enough
  simp only [List.append_assoc, List.cons_append] at ahead
  rw [ahead_spaces spacesBefore] at ahead
  obtain ⟨afterQuote, quote, restQuote⟩ := expect_ahead (by decide) ahead
  have quoteShortens := expect_shortens quote
  obtain ⟨afterKey, keyParsed, restKey⟩ := parse_string_text spelled restQuote
  have keyAdvances := parse_string_advances afterQuote
  rw [keyParsed] at keyAdvances
  change afterKey.rest.length < afterQuote.rest.length at keyAdvances
  obtain ⟨afterColon, colon, restColon⟩ :=
    expect_ahead (by decide) ((ahead_spaces spacesBehind).mp (ahead_of_rest restKey))
  have colonShortens := expect_shortens colon
  obtain ⟨next, parsed, aheadNext⟩ := reads fuel afterColon after (ahead_of_rest restColon) ends
    (by omega)
  have shorter := parse_value_shortens (by omega) parsed
  exact ⟨afterQuote, afterKey, afterColon, next, quote, keyParsed, colon, parsed, aheadNext,
    by omega⟩

theorem reads_last_entry {key : Bytes} {item : Value} {text : Bytes}
    (reads : Reads text (.entry key item)) : Reads text (.entries [(key, item)]) := by
  intro fuel start input after ahead enough
  obtain ⟨left, rfl⟩ := Nat.exists_eq_add_one_of_ne_zero (show fuel ≠ 0 by omega)
  obtain ⟨afterQuote, afterKey, afterColon, middle, quote, keyParsed, colon, parsed, aheadMiddle,
    -⟩ := reads left input _ ahead (fun _ _ => ends_number_mark (by decide)) (by omega)
  obtain ⟨afterItem, next, noComma, closed, nextRest⟩ :=
    expect_closing (by decide) (by decide) aheadMiddle
  refine ⟨next, ?_, nextRest⟩
  simp only [parseEntries, quote, keyParsed, colon, parsed, noComma, closed, assigned,
    List.foldl_cons, List.foldl_nil]

theorem reads_more_entries {key : Bytes} {item : Value} {entries : List (Bytes × Value)}
    {text rest : Bytes} (reads : Reads text (.entry key item))
    (others : Reads rest (.entries entries)) :
    Reads (text ++ ascii ',' :: rest) (.entries ((key, item) :: entries)) := by
  intro fuel start input after ahead enough
  obtain ⟨left, rfl⟩ := Nat.exists_eq_add_one_of_ne_zero (show fuel ≠ 0 by omega)
  rw [List.append_assoc, List.cons_append] at ahead
  obtain ⟨afterQuote, afterKey, afterColon, middle, quote, keyParsed, colon, parsed, aheadMiddle,
    shorter⟩ := reads left input _ ahead (fun _ _ => ends_number_mark (by decide)) (by omega)
  obtain ⟨afterComma, comma, restComma⟩ := expect_ahead (by decide) aheadMiddle
  have commaShortens := expect_shortens comma
  obtain ⟨next, parsedRest, nextRest⟩ := others left (assign key item start) afterComma after
    (ahead_of_rest restComma) (by omega)
  refine ⟨next, ?_, nextRest⟩
  simp only [parseEntries, quote, keyParsed, colon, parsed, comma, parsedRest, assigned,
    List.foldl_cons]

/-- The parser reads every text of the grammar. -/
theorem reads_of_spells {text : Bytes} {phrase : Phrase} (spells : Spells text phrase) :
    Reads text phrase := by
  induction spells with
  | null =>
      refine reads_word (by decide) fun fuel input next taken => ?_
      simp only [parseValue, taken]
      rw [if_pos trivial]
  | false =>
      refine reads_word (by decide) fun fuel input next taken => ?_
      simp only [parseValue, taken]
      rw [if_neg (by decide), if_pos trivial]
  | true =>
      refine reads_word (by decide) fun fuel input next taken => ?_
      simp only [parseValue, taken]
      rw [if_neg (by decide), if_neg (by decide), if_pos trivial]
  | number decimal => exact reads_number decimal
  | string spelled => exact reads_string spelled
  | emptyArray spaces => exact reads_empty_array spaces
  | array inside ih => exact reads_array inside ih
  | emptyObject spaces => exact reads_empty_object spaces
  | object inside ih => exact reads_object inside ih
  | padded spacesBefore spacesBehind inside ih => exact reads_padded spacesBefore spacesBehind ih
  | lastItem only ih => exact reads_last_item ih
  | item first others ihFirst ihOthers => exact reads_item ihFirst ihOthers
  | entry spacesBefore spelled spacesBehind inside ih =>
      exact reads_entry spacesBefore spelled spacesBehind ih
  | lastEntry only ih => exact reads_last_entry ih
  | moreEntries first others ihFirst ihOthers => exact reads_more_entries ihFirst ihOthers

/-- White space and a text of the value may stand before anything that a number
does not go on in. -/
theorem parse_of_spells {blank text rest : Bytes} {value : Value} (spaces : IsSpaces blank)
    (spells : Spells text (.value value))
    (ends : ∀ number, value = .number number → EndsNumber rest) :
    parse (blank ++ (text ++ rest)) = .value value := by
  have ahead : Ahead ⟨none, blank ++ (text ++ rest), 1⟩ (text ++ rest) :=
    (ahead_spaces spaces).mp (ahead_of_rest rfl)
  obtain ⟨next, parsed, -⟩ := reads_of_spells spells _ _ _ ahead ends (Nat.le_succ _)
  simp only [parse, parsed]

end PyWebRTC.PicojsonGrammar
