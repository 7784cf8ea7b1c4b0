import PyWebRTC.PicojsonParse

/-!
# picojson's parser ends

Every loop of the parser takes at least one character in each round, so that
the fuel `parse` gives is enough for every text.
-/

namespace PyWebRTC.PicojsonFuel

open PicojsonParse PicojsonValue
open Utf8 (ascii)

set_option autoImplicit false

/-- A piece of the parser ends, and where it succeeds fewer characters are left
than before. -/
def Advances {Result : Type*} (before : Nat) : Outcome Result → Prop
  | .ok _ input => input.rest.length < before
  | .fail _ | .throw _ => True
  | .outOfFuel => False

theorem advances_mono {Result : Type*} {outcome : Outcome Result} {low high : Nat}
    (le : low ≤ high) (advances : Advances low outcome) : Advances high outcome := by
  cases outcome with
  | ok result input => exact Nat.lt_of_lt_of_le advances le
  | fail | throw | outOfFuel => exact advances

theorem getc_shortens {input next : Input} {c : UInt8} (read : getc input = (some c, next)) :
    next.rest.length < input.rest.length := by
  rw [(getc_some read).1, List.length_cons]
  exact Nat.lt_succ_self _

theorem skip_ws_shortens (input : Input) : (skipWs input).rest.length ≤ input.rest.length := by
  rw [skip_ws_rest]
  exact (List.dropWhile_sublist isSpace).length_le

theorem parse_quadhex_shortens {left uniCh word : Nat} {input next : Input}
    (read : parseQuadhex left uniCh input = (some word, next)) :
    next.rest.length ≤ input.rest.length := by
  induction left generalizing uniCh input with
  | zero =>
      obtain ⟨-, rfl⟩ := Prod.mk.inj read
      exact Nat.le_refl _
  | succ left ih =>
      simp only [parseQuadhex] at read
      split at read
      case h_1 => simp at read
      case h_2 c after taken =>
        have shorter := getc_shortens taken
        split at read
        · have := ih read
          omega
        · simp at read

theorem parse_trailing_shortens {leading joined : Nat} {input next : Input}
    (read : parseTrailing leading input = (some joined, next)) :
    next.rest.length ≤ input.rest.length := by
  unfold parseTrailing at read
  split at read
  case h_1 => simp at read
  case h_2 first afterFirst takenFirst =>
    split at read
    case isTrue => simp at read
    case isFalse =>
      split at read
      case h_1 => simp at read
      case h_2 second afterSecond takenSecond =>
        have shorterFirst := getc_shortens takenFirst
        have shorterSecond := getc_shortens takenSecond
        split at read
        case isTrue => simp at read
        case isFalse =>
          split at read
          case h_2 => simp at read
          case h_1 word afterWord takenWord =>
            have shorterWord := parse_quadhex_shortens takenWord
            split at read
            · obtain ⟨-, rfl⟩ := Prod.mk.inj read
              omega
            · simp at read

theorem parse_codepoint_shortens {bytes : Bytes} {input next : Input}
    (read : parseCodepoint input = (some bytes, next)) :
    next.rest.length ≤ input.rest.length := by
  unfold parseCodepoint at read
  split at read
  case h_1 => simp at read
  case h_2 uniCh after taken =>
    have shorter := parse_quadhex_shortens taken
    split at read
    case isFalse =>
      obtain ⟨-, rfl⟩ := Prod.mk.inj read
      exact shorter
    case isTrue =>
      split at read
      case isTrue => simp at read
      case isFalse =>
        split at read
        case h_2 => simp at read
        case h_1 joined afterTrailing takenTrailing =>
          obtain ⟨-, rfl⟩ := Prod.mk.inj read
          exact (parse_trailing_shortens takenTrailing).trans shorter

theorem parse_escape_shortens {bytes : Bytes} {input next : Input}
    (read : parseEscape input = (some bytes, next)) :
    next.rest.length < input.rest.length := by
  unfold parseEscape at read
  split at read
  case h_1 => simp at read
  case h_2 c after taken =>
    have shorter := getc_shortens taken
    split at read
    case h_1 =>
      obtain ⟨-, rfl⟩ := Prod.mk.inj read
      exact shorter
    case h_2 =>
      split at read
      · exact (parse_codepoint_shortens read).trans_lt shorter
      · simp at read

theorem parse_string_loop_advances {fuel : Nat} {out : Bytes} {input : Input}
    (enough : input.rest.length < fuel) :
    Advances input.rest.length (parseStringLoop fuel out input) := by
  induction fuel generalizing out input with
  | zero => exact absurd enough (Nat.not_lt_zero _)
  | succ fuel ih =>
      unfold parseStringLoop
      split
      case h_1 => trivial
      case h_2 c next taken =>
        have shorter := getc_shortens taken
        split
        · trivial
        split
        · exact shorter
        split
        case isTrue =>
          split
          case h_1 bytes after escaped =>
            have escapeShorter := parse_escape_shortens escaped
            exact advances_mono (by omega) (ih (by omega))
          case h_2 => trivial
        case isFalse => exact advances_mono (by omega) (ih (by omega))

theorem parse_string_advances (input : Input) :
    Advances input.rest.length (parseString input) :=
  parse_string_loop_advances (Nat.lt_succ_self _)

theorem parse_number_from_rest (numStr : Bytes) (input : Input) (rest : Bytes) :
    (parseNumberFrom numStr input rest).1 = numStr ++ rest.takeWhile isNumberChar ∧
      (parseNumberFrom numStr input rest).2.rest = rest.dropWhile isNumberChar := by
  induction rest generalizing numStr input with
  | nil => simp [parseNumberFrom, getc, ungetc]
  | cons c rest ih =>
      simp only [parseNumberFrom, List.takeWhile_cons, List.dropWhile_cons]
      split
      · simpa using ih (numStr ++ [c]) _
      · simp [getc, ungetc]

theorem parse_number_rest (input : Input) :
    (parseNumber input).1 = input.rest.takeWhile isNumberChar ∧
      (parseNumber input).2.rest = input.rest.dropWhile isNumberChar := by
  exact parse_number_from_rest [] input input.rest

theorem parse_number_value_advances (input : Input) :
    Advances input.rest.length (parseNumberValue input) := by
  obtain ⟨token, left⟩ := parse_number_rest input
  have total : (input.rest.takeWhile isNumberChar).length +
      (input.rest.dropWhile isNumberChar).length = input.rest.length := by
    rw [← List.length_append, List.takeWhile_append_dropWhile]
  unfold parseNumberValue
  cases read : parseNumber input with
  | mk numStr next =>
      rw [read] at token left
      dsimp only at token left ⊢
      split
      case isTrue => trivial
      case isFalse nonempty =>
        have taken : 0 < numStr.length := by
          rw [List.length_pos_iff]
          simpa using nonempty
        have shorter : next.rest.length < input.rest.length := by
          rw [token] at taken
          rw [left]
          omega
        split
        · split
          · exact shorter
          · trivial
        · trivial

theorem parse_word_advances {pattern : Bytes} {value : Value} {input : Input} {before : Nat}
    (shorter : input.rest.length < before) : Advances before (parseWord pattern value input) := by
  have matched {left : Bytes} {input next : Input}
      (read : matchPattern left input = (true, next)) : next.rest.length ≤ input.rest.length := by
    induction left generalizing input with
    | nil =>
        obtain ⟨-, rfl⟩ := Prod.mk.inj read
        exact Nat.le_refl _
    | cons expected left ih =>
        simp only [matchPattern] at read
        split at read
        case h_2 => simp at read
        case h_1 c after taken =>
          split at read
          · exact (ih read).trans (getc_shortens taken).le
          · simp at read
  unfold parseWord
  split
  case h_1 next read => exact (matched read).trans_lt shorter
  case h_2 => trivial

/-- What the fuel is enough for: two for each character, and one or two for the
call itself. -/
def FuelSuffices (fuel : Nat) : Prop :=
  (∀ input : Input, 2 * input.rest.length + 1 ≤ fuel →
    Advances input.rest.length (parseValue fuel input)) ∧
  (∀ (items : List Value) (input : Input), 2 * input.rest.length + 2 ≤ fuel →
    Advances input.rest.length (parseItems fuel items input)) ∧
  (∀ (entries : List (Bytes × Value)) (input : Input), 2 * input.rest.length + 2 ≤ fuel →
    Advances input.rest.length (parseEntries fuel entries input))

theorem parse_value_advances_step {fuel : Nat} (suffices_ : FuelSuffices fuel) (input : Input)
    (enough : 2 * input.rest.length + 1 ≤ fuel + 1) :
    Advances input.rest.length (parseValue (fuel + 1) input) := by
  obtain ⟨-, items, entries⟩ := suffices_
  have skipped := skip_ws_shortens input
  unfold parseValue
  split
  case h_1 => trivial
  case h_2 c next taken =>
    have shorter : next.rest.length < input.rest.length :=
      (getc_shortens taken).trans_le skipped
    split
    · exact parse_word_advances shorter
    split
    · exact parse_word_advances shorter
    split
    · exact parse_word_advances shorter
    split
    · have advances := parse_string_advances next
      split
      case h_1 bytes after read =>
        rw [read] at advances
        exact Nat.lt_trans advances shorter
      case h_2 => trivial
      case h_3 => trivial
      case h_4 read => simp [read, Advances] at advances
    split
    · split
      case h_1 after read =>
        have := expect_shortens read
        exact Nat.lt_of_le_of_lt (by omega) shorter
      case h_2 after read =>
        have := expect_shortens read
        exact advances_mono (by omega) (items [] after (by omega))
    split
    · split
      case h_1 after read =>
        have := expect_shortens read
        exact Nat.lt_of_le_of_lt (by omega) shorter
      case h_2 after read =>
        have := expect_shortens read
        exact advances_mono (by omega) (entries [] after (by omega))
    split
    · have back : (ungetc next).rest.length ≤ input.rest.length := by
        rw [(getc_some taken).2]
        exact skipped
      exact advances_mono back (parse_number_value_advances (ungetc next))
    · trivial

theorem parse_items_advances_step {fuel : Nat} (suffices_ : FuelSuffices fuel)
    (items : List Value) (input : Input) (enough : 2 * input.rest.length + 2 ≤ fuel + 1) :
    Advances input.rest.length (parseItems (fuel + 1) items input) := by
  obtain ⟨value, more, -⟩ := suffices_
  have advances := value input (by omega)
  unfold parseItems
  split
  case h_1 item next read =>
    rw [read] at advances
    simp only [Advances] at advances
    split
    case h_1 afterComma comma =>
      have := expect_shortens comma
      exact advances_mono (by omega) (more _ afterComma (by omega))
    case h_2 afterComma noComma =>
      have := expect_shortens noComma
      split
      case h_1 afterClose close =>
        have := expect_shortens close
        simp only [Advances]
        omega
      case h_2 => trivial
  case h_2 => trivial
  case h_3 => trivial
  case h_4 read => simp [read, Advances] at advances

theorem parse_entries_advances_step {fuel : Nat} (suffices_ : FuelSuffices fuel)
    (entries : List (Bytes × Value)) (input : Input)
    (enough : 2 * input.rest.length + 2 ≤ fuel + 1) :
    Advances input.rest.length (parseEntries (fuel + 1) entries input) := by
  obtain ⟨value, -, more⟩ := suffices_
  unfold parseEntries
  split
  case h_1 => trivial
  case h_2 afterQuote quote =>
    have := expect_shortens quote
    have keyAdvances := parse_string_advances afterQuote
    split
    case h_1 key afterKey readKey =>
      rw [readKey] at keyAdvances
      simp only [Advances] at keyAdvances
      split
      case h_1 => trivial
      case h_2 afterColon colon =>
        have := expect_shortens colon
        have advances := value afterColon (by omega)
        split
        case h_1 item next read =>
          rw [read] at advances
          simp only [Advances] at advances
          split
          case h_1 afterComma comma =>
            have := expect_shortens comma
            exact advances_mono (by omega) (more _ afterComma (by omega))
          case h_2 afterComma noComma =>
            have := expect_shortens noComma
            split
            case h_1 afterClose close =>
              have := expect_shortens close
              simp only [Advances]
              omega
            case h_2 => trivial
        case h_2 => trivial
        case h_3 => trivial
        case h_4 read => simp [read, Advances] at advances
    case h_2 => trivial
    case h_3 => trivial
    case h_4 readKey => simp [readKey, Advances] at keyAdvances

theorem fuel_suffices (fuel : Nat) : FuelSuffices fuel := by
  induction fuel with
  | zero => exact ⟨fun _ enough => by omega, fun _ _ enough => by omega, fun _ _ enough => by omega⟩
  | succ fuel ih =>
      exact ⟨parse_value_advances_step ih, parse_items_advances_step ih,
        parse_entries_advances_step ih⟩

/-- The parser ends on every text. -/
theorem parse_ne_out_of_fuel (text : Bytes) : parse text ≠ .outOfFuel := by
  have advances := (fuel_suffices (2 * text.length + 2)).1 ⟨none, text, 1⟩ (by simp)
  unfold parse
  split <;> simp_all [Advances]

end PyWebRTC.PicojsonFuel
