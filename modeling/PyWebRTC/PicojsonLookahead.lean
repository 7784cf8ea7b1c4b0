import PyWebRTC.PicojsonCursor

/-!
# How far the parser looks

The parser reads on with one character of push-back. In a text that goes on
differently behind the place to which it has looked, each of its pieces ends in
the same way, and with its cursor at the same place.
-/

namespace PyWebRTC.PicojsonLookahead

open PicojsonCursor PicojsonFuel PicojsonParse PicojsonValue
open Utf8 (ascii)

set_option autoImplicit false

variable {tail other : Bytes}

/-! ## A text that goes on differently -/

/-- What the parser may still read: the consumed character can be pushed back. -/
def pending (input : Input) : Bytes := input.consumed.toList ++ input.rest

/-- The cursor has looked at nothing of `tail`. -/
def ShortOf (tail : Bytes) (input : Input) : Prop :=
  ∃ first known, pending input = first :: known ++ tail

/-- The same cursor in a text with `other` in the place of `tail`. -/
def withTail (tail other : Bytes) (input : Input) : Input :=
  { input with rest := input.rest.take (input.rest.length - tail.length) ++ other }

theorem with_tail_of_rest {input : Input} {known : Bytes} (split : input.rest = known ++ tail) :
    withTail tail other input = { input with rest := known ++ other } := by
  simp [withTail, split]

theorem placed_self (input : Input) : Placed (pending input) input.line input := by
  refine ⟨input.consumed.toList, rfl, List.suffix_refl _, ?_⟩
  cases taken : input.consumed with
  | none => simp [Input.nextLine, taken]
  | some c => by_cases feed : c = ascii '\n' <;> simp [Input.nextLine, taken, feed]

/-- The cursor only moves on, so it was short of the tail before. -/
theorem short_of_earlier {input next : Input} {start : Nat}
    (placed : Placed (pending input) start next) (short : ShortOf tail next) :
    ShortOf tail input := by
  obtain ⟨before, split, ⟨earlier, ends⟩, -⟩ := placed
  obtain ⟨first, known, left⟩ := short
  have whole : pending input = earlier ++ pending next := by
    rw [split, ← ends, pending, List.append_assoc]
  rw [left] at whole
  cases earlier with
  | nil => exact ⟨first, known, whole⟩
  | cons head earlier => exact ⟨head, earlier ++ first :: known, by simpa using whole⟩

theorem short_of_stop {input next : Input} {start : Nat}
    (stops : StopsAt (pending input) start next) (short : ShortOf tail next) :
    ShortOf tail input := by
  obtain ⟨before, behind, -⟩ := stops
  exact short_of_earlier ⟨before, behind⟩ short

theorem pending_ungetc (input : Input) : pending (ungetc input) = pending input := by
  cases taken : input.consumed <;> simp [pending, ungetc, taken]

theorem short_of_ungetc {input : Input} (short : ShortOf tail (ungetc input)) :
    ShortOf tail input := by
  rwa [ShortOf, pending_ungetc] at short

theorem not_short_at_end {input next : Input} (read : getc input = (none, next)) :
    ¬ShortOf tail next := by
  rintro ⟨first, known, left⟩
  have atEnd := (getc_none read).1
  rw [getc_nil atEnd] at read
  obtain ⟨-, rfl⟩ := Prod.mk.inj read
  simp [pending] at left

theorem next_of_getc {input next : Input} {c : UInt8} (read : getc input = (some c, next)) :
    ∃ rest, input.rest = c :: rest ∧ next = ⟨some c, rest, input.nextLine⟩ := by
  have ahead := (getc_some read).1
  rw [getc_cons ahead] at read
  exact ⟨next.rest, ahead, (Prod.mk.inj read).2.symm⟩

theorem getc_with_tail {input next : Input} {c : UInt8} (read : getc input = (some c, next))
    (short : ShortOf tail next) :
    getc (withTail tail other input) = (some c, withTail tail other next) ∧
      (withTail tail other input).rest = c :: (withTail tail other next).rest := by
  obtain ⟨rest, ahead, rfl⟩ := next_of_getc read
  obtain ⟨first, known, left⟩ := short
  obtain rfl : rest = known ++ tail := (List.cons.inj left).2
  have split : input.rest = (c :: known) ++ tail := ahead
  rw [with_tail_of_rest split, with_tail_of_rest rfl]
  exact ⟨rfl, rfl⟩

theorem ungetc_with_tail {input next : Input} {c : UInt8} (read : getc input = (some c, next))
    (short : ShortOf tail next) :
    ungetc (withTail tail other next) = withTail tail other (ungetc next) := by
  obtain ⟨rest, ahead, rfl⟩ := next_of_getc read
  obtain ⟨first, known, left⟩ := short
  obtain rfl : rest = known ++ tail := (List.cons.inj left).2
  have back : (ungetc ⟨some c, known ++ tail, input.nextLine⟩).rest = (c :: known) ++ tail := rfl
  rw [with_tail_of_rest rfl, with_tail_of_rest back]
  rfl

theorem skip_ws_from_with_tail {input : Input} {rest : Bytes} (same : input.rest = rest)
    (short : ShortOf tail (skipWsFrom input rest)) :
    skipWsFrom (withTail tail other input) (withTail tail other input).rest =
      withTail tail other (skipWsFrom input rest) := by
  induction rest generalizing input with
  | nil =>
      have whole : { input with rest := [] } = input := by rw [← same]
      rw [skipWsFrom, whole] at short
      exact absurd (short_of_ungetc short) (not_short_at_end (by rw [getc_nil same]))
  | cons c rest ih =>
      have whole : { input with rest := c :: rest } = input := by rw [← same]
      have taken := getc_cons same
      rw [skipWsFrom, whole, taken] at short ⊢
      split at short
      case isTrue space =>
        have shortNext := short_of_earlier (placed_skip_ws_from rfl (placed_self _)) short
        obtain ⟨read, split⟩ := @getc_with_tail tail other _ _ _ taken shortNext
        rw [split, skipWsFrom, ← split, read, if_pos space, if_pos space]
        exact ih rfl short
      case isFalse visible =>
        have shortNext := short_of_ungetc short
        obtain ⟨read, split⟩ := @getc_with_tail tail other _ _ _ taken shortNext
        rw [split, skipWsFrom, ← split, read, if_neg visible, if_neg visible]
        exact ungetc_with_tail taken shortNext

theorem skip_ws_with_tail {input : Input} (short : ShortOf tail (skipWs input)) :
    skipWs (withTail tail other input) = withTail tail other (skipWs input) :=
  skip_ws_from_with_tail rfl short

theorem getc_skip_ws_with_tail {input next : Input} {c : UInt8}
    (read : getc (skipWs input) = (some c, next)) (short : ShortOf tail next) :
    getc (skipWs (withTail tail other input)) = (some c, withTail tail other next) := by
  have skipped : ShortOf tail (skipWs input) :=
    short_of_earlier (placed_getc (placed_self _) read) short
  rw [skip_ws_with_tail skipped]
  exact (getc_with_tail read short).1

theorem expect_with_tail {expected : UInt8} {input next : Input} {found : Bool}
    (read : expect expected input = (found, next)) (short : ShortOf tail next) :
    expect expected (withTail tail other input) = (found, withTail tail other next) := by
  unfold expect at read ⊢
  split at read
  case h_1 c after taken =>
    split at read
    case isTrue same =>
      obtain ⟨rfl, rfl⟩ := Prod.mk.inj read
      simp only [getc_skip_ws_with_tail taken short, if_pos same]
    case isFalse different =>
      obtain ⟨rfl, rfl⟩ := Prod.mk.inj read
      have shortAfter := short_of_ungetc short
      simp only [getc_skip_ws_with_tail taken shortAfter, if_neg different,
        ungetc_with_tail taken shortAfter]
  case h_2 after taken =>
    obtain ⟨-, rfl⟩ := Prod.mk.inj read
    exact absurd (short_of_ungetc short) (not_short_at_end taken)

theorem match_pattern_with_tail {pattern : Bytes} {input next : Input} {found : Bool}
    (read : matchPattern pattern input = (found, next)) (short : ShortOf tail next) :
    matchPattern pattern (withTail tail other input) = (found, withTail tail other next) := by
  induction pattern generalizing input with
  | nil =>
      obtain ⟨rfl, rfl⟩ := Prod.mk.inj read
      rfl
  | cons expected pattern ih =>
      unfold matchPattern at read ⊢
      split at read
      case h_1 c after taken =>
        split at read
        case isTrue same =>
          have shortAfter := short_of_earlier (placed_match_pattern (placed_self _) read).1 short
          simp only [(getc_with_tail taken shortAfter).1, if_pos same]
          exact ih read
        case isFalse different =>
          obtain ⟨rfl, rfl⟩ := Prod.mk.inj read
          have shortAfter := short_of_ungetc short
          simp only [(getc_with_tail taken shortAfter).1, if_neg different,
            ungetc_with_tail taken shortAfter]
      case h_2 after taken =>
        obtain ⟨-, rfl⟩ := Prod.mk.inj read
        exact absurd (short_of_ungetc short) (not_short_at_end taken)

/-! ## Strings -/

theorem consumed_of_getc {input next : Input} {c : UInt8} (read : getc input = (some c, next)) :
    next.consumed = some c := by
  obtain ⟨rest, -, rfl⟩ := next_of_getc read
  rfl

theorem parse_quadhex_with_tail {left uniCh : Nat} {input next : Input} {word : Option Nat}
    (read : parseQuadhex left uniCh input = (word, next)) (short : ShortOf tail next) :
    parseQuadhex left uniCh (withTail tail other input) = (word, withTail tail other next) := by
  induction left generalizing uniCh input with
  | zero =>
      obtain ⟨rfl, rfl⟩ := Prod.mk.inj read
      rfl
  | succ left ih =>
      unfold parseQuadhex at read ⊢
      split at read
      case h_1 after taken =>
        obtain ⟨-, rfl⟩ := Prod.mk.inj read
        exact absurd short (not_short_at_end taken)
      case h_2 c after taken =>
        split at read
        case h_1 hex digit =>
          have noFeed := consumed_of_getc taken ▸ hex_digit_ne_line_feed digit
          have shortAfter :=
            short_of_earlier (placed_parse_quadhex (placed_self _) noFeed read).1 short
          simp only [(getc_with_tail taken shortAfter).1, digit]
          exact ih read
        case h_2 noDigit =>
          obtain ⟨rfl, rfl⟩ := Prod.mk.inj read
          have shortAfter := short_of_ungetc short
          simp only [(getc_with_tail taken shortAfter).1, noDigit,
            ungetc_with_tail taken shortAfter]

theorem parse_trailing_with_tail {leading : Nat} {input next : Input} {joined : Option Nat}
    (read : parseTrailing leading input = (joined, next)) (short : ShortOf tail next) :
    parseTrailing leading (withTail tail other input) = (joined, withTail tail other next) := by
  unfold parseTrailing at read ⊢
  split at read
  case h_1 after taken =>
    obtain ⟨-, rfl⟩ := Prod.mk.inj read
    exact absurd (short_of_ungetc short) (not_short_at_end taken)
  case h_2 first afterFirst takenFirst =>
    split at read
    case isTrue noSlash =>
      obtain ⟨rfl, rfl⟩ := Prod.mk.inj read
      have shortFirst := short_of_ungetc short
      simp only [(getc_with_tail takenFirst shortFirst).1, if_pos noSlash,
        ungetc_with_tail takenFirst shortFirst]
    case isFalse slash =>
      split at read
      case h_1 after taken =>
        obtain ⟨-, rfl⟩ := Prod.mk.inj read
        exact absurd (short_of_ungetc short) (not_short_at_end taken)
      case h_2 second afterSecond takenSecond =>
        have shortFirst (shortSecond : ShortOf tail afterSecond) : ShortOf tail afterFirst :=
          short_of_earlier (placed_getc (placed_self _) takenSecond) shortSecond
        split at read
        case isTrue noLetter =>
          obtain ⟨rfl, rfl⟩ := Prod.mk.inj read
          have shortSecond := short_of_ungetc short
          simp only [(getc_with_tail takenFirst (shortFirst shortSecond)).1, if_neg slash,
            (getc_with_tail takenSecond shortSecond).1, if_pos noLetter,
            ungetc_with_tail takenSecond shortSecond]
        case isFalse isLetter =>
          have noFeed : afterSecond.consumed ≠ some (ascii '\n') := by
            rw [consumed_of_getc takenSecond, not_not.mp isLetter]
            decide
          have shortSecond {word : Option Nat} {afterWord : Input}
              (takenWord : parseQuadhex 4 0 afterSecond = (word, afterWord))
              (shortWord : ShortOf tail afterWord) : ShortOf tail afterSecond :=
            short_of_earlier (placed_parse_quadhex (placed_self _) noFeed takenWord).1 shortWord
          split at read
          case h_1 word afterWord takenWord =>
            have same : afterWord = next := by split at read <;> exact (Prod.mk.inj read).2
            subst same
            have second := shortSecond takenWord short
            simp only [(getc_with_tail takenFirst (shortFirst second)).1, if_neg slash,
              (getc_with_tail takenSecond second).1, if_neg isLetter,
              parse_quadhex_with_tail takenWord short]
            split at read
            case isTrue trailing =>
              obtain ⟨rfl, -⟩ := Prod.mk.inj read
              exact if_pos trailing
            case isFalse noTrailing =>
              obtain ⟨rfl, -⟩ := Prod.mk.inj read
              exact if_neg noTrailing
          case h_2 afterWord takenWord =>
            obtain ⟨rfl, rfl⟩ := Prod.mk.inj read
            have second := shortSecond takenWord short
            simp only [(getc_with_tail takenFirst (shortFirst second)).1, if_neg slash,
              (getc_with_tail takenSecond second).1, if_neg isLetter,
              parse_quadhex_with_tail takenWord short]

theorem parse_codepoint_with_tail {input next : Input} {bytes : Option Bytes}
    (read : parseCodepoint input = (bytes, next)) (short : ShortOf tail next) :
    parseCodepoint (withTail tail other input) = (bytes, withTail tail other next) := by
  unfold parseCodepoint at read ⊢
  split at read
  case h_1 after taken =>
    obtain ⟨rfl, rfl⟩ := Prod.mk.inj read
    simp only [parse_quadhex_with_tail taken short]
  case h_2 uniCh after taken =>
    split at read
    case isFalse single =>
      obtain ⟨rfl, rfl⟩ := Prod.mk.inj read
      simp only [parse_quadhex_with_tail taken short, if_neg single]
    case isTrue surrogate =>
      split at read
      case isTrue trailing =>
        obtain ⟨rfl, rfl⟩ := Prod.mk.inj read
        simp only [parse_quadhex_with_tail taken short, if_pos surrogate, if_pos trailing]
      case isFalse leading =>
        have shortAfter {joined : Option Nat} {afterTrailing : Input}
            (takenTrailing : parseTrailing uniCh after = (joined, afterTrailing))
            (shortTrailing : ShortOf tail afterTrailing) : ShortOf tail after :=
          short_of_earlier (placed_parse_trailing (placed_self _) takenTrailing).1 shortTrailing
        split at read
        case h_1 joined afterTrailing takenTrailing =>
          obtain ⟨rfl, rfl⟩ := Prod.mk.inj read
          simp only [parse_quadhex_with_tail taken (shortAfter takenTrailing short),
            if_pos surrogate, if_neg leading, parse_trailing_with_tail takenTrailing short]
        case h_2 afterTrailing takenTrailing =>
          obtain ⟨rfl, rfl⟩ := Prod.mk.inj read
          simp only [parse_quadhex_with_tail taken (shortAfter takenTrailing short),
            if_pos surrogate, if_neg leading, parse_trailing_with_tail takenTrailing short]

theorem parse_escape_with_tail {input next : Input} {bytes : Option Bytes}
    (read : parseEscape input = (bytes, next)) (short : ShortOf tail next) :
    parseEscape (withTail tail other input) = (bytes, withTail tail other next) := by
  unfold parseEscape at read ⊢
  split at read
  case h_1 after taken =>
    obtain ⟨-, rfl⟩ := Prod.mk.inj read
    exact absurd short (not_short_at_end taken)
  case h_2 c after taken =>
    split at read
    case h_1 value listed =>
      obtain ⟨rfl, rfl⟩ := Prod.mk.inj read
      simp only [(getc_with_tail taken short).1, listed]
    case h_2 unlisted =>
      split at read
      case isTrue isLetter =>
        have noFeed : after.consumed ≠ some (ascii '\n') := by
          rw [consumed_of_getc taken, isLetter]
          decide
        have shortAfter :=
          short_of_earlier (placed_parse_codepoint (placed_self _) noFeed read).1 short
        simp only [(getc_with_tail taken shortAfter).1, unlisted, if_pos isLetter,
          parse_codepoint_with_tail read short]
      case isFalse noLetter =>
        obtain ⟨rfl, rfl⟩ := Prod.mk.inj read
        simp only [(getc_with_tail taken short).1, unlisted, if_neg noLetter]

/-- In the text that goes on differently a piece of the parser ends in the same
way, unless it has looked at the tail or the fuel does not last. -/
def Follows {Result : Type*} (tail other : Bytes) (outcome changed : Outcome Result) : Prop :=
  match outcome with
  | .ok result next =>
      ShortOf tail next → changed = .ok result (withTail tail other next) ∨ changed = .outOfFuel
  | .fail next =>
      ShortOf tail next → changed = .fail (withTail tail other next) ∨ changed = .outOfFuel
  | .throw _ | .outOfFuel => True

theorem follows_out_of_fuel {Result : Type*} (outcome : Outcome Result) :
    Follows tail other outcome .outOfFuel := by
  cases outcome with
  | ok | fail => exact fun _ => .inr rfl
  | throw | outOfFuel => trivial

/-- What a piece starts with it ends behind. -/
theorem follows_of_short {Result : Type*} {input : Input} {outcome changed : Outcome Result}
    (keeps : Keeps (pending input) input.line outcome)
    (follows : ShortOf tail input → Follows tail other outcome changed) :
    Follows tail other outcome changed := by
  cases outcome with
  | ok result next => exact fun short => follows (short_of_earlier keeps short) short
  | fail next => exact fun short => follows (short_of_stop keeps short) short
  | throw | outOfFuel => trivial

theorem follows_parse_string_loop {fuel : Nat} (changedFuel : Nat) {out : Bytes} {input : Input} :
    Follows tail other (parseStringLoop fuel out input)
      (parseStringLoop changedFuel out (withTail tail other input)) := by
  induction fuel generalizing changedFuel out input with
  | zero => trivial
  | succ fuel ih =>
      cases changedFuel with
      | zero => exact follows_out_of_fuel _
      | succ changedFuel =>
          unfold parseStringLoop
          split
          case h_1 next taken =>
            exact fun short => absurd (short_of_ungetc short) (not_short_at_end taken)
          case h_2 c next taken =>
            split
            case isTrue control =>
              intro short
              have shortNext := short_of_ungetc short
              simp only [(getc_with_tail taken shortNext).1, if_pos control,
                ungetc_with_tail taken shortNext, true_or]
            case isFalse printable =>
              split
              case isTrue quote =>
                intro short
                simp only [(getc_with_tail taken short).1, if_neg printable, if_pos quote, true_or]
              case isFalse noQuote =>
                split
                case isTrue slash =>
                  have consumed := consumed_of_getc taken
                  rw [slash] at consumed
                  split
                  case h_1 bytes after escaped =>
                    refine follows_of_short (keeps_parse_string_loop (placed_self after)) ?_
                    intro shortAfter
                    have shortNext :=
                      short_of_earlier (placed_parse_escape (placed_self _) consumed escaped).1
                        shortAfter
                    simp only [(getc_with_tail taken shortNext).1, if_neg printable,
                      if_neg noQuote, if_pos slash, parse_escape_with_tail escaped shortAfter]
                    exact ih changedFuel
                  case h_2 after escaped =>
                    intro short
                    have shortNext :=
                      short_of_earlier (placed_parse_escape (placed_self _) consumed escaped).1
                        short
                    simp only [(getc_with_tail taken shortNext).1, if_neg printable,
                      if_neg noQuote, if_pos slash, parse_escape_with_tail escaped short, true_or]
                case isFalse noSlash =>
                  refine follows_of_short (keeps_parse_string_loop (placed_self next)) ?_
                  intro shortNext
                  simp only [(getc_with_tail taken shortNext).1, if_neg printable, if_neg noQuote,
                    if_neg noSlash]
                  exact ih changedFuel

theorem keeps_parse_string (input : Input) :
    Keeps (pending input) input.line (parseString input) :=
  keeps_parse_string_loop (placed_self input)

theorem follows_parse_string (input : Input) :
    Follows tail other (parseString input) (parseString (withTail tail other input)) :=
  follows_parse_string_loop _

theorem parse_string_ne_out_of_fuel (input : Input) : parseString input ≠ .outOfFuel := by
  intro gone
  have advances := parse_string_advances input
  rwa [gone] at advances

/-! ## Values -/

theorem parse_number_from_with_tail {numStr rest : Bytes} {input : Input}
    (same : input.rest = rest) (short : ShortOf tail (parseNumberFrom numStr input rest).2) :
    parseNumberFrom numStr (withTail tail other input) (withTail tail other input).rest =
      ((parseNumberFrom numStr input rest).1,
        withTail tail other (parseNumberFrom numStr input rest).2) := by
  induction rest generalizing input numStr with
  | nil =>
      have whole : { input with rest := [] } = input := by rw [← same]
      rw [parseNumberFrom, whole] at short
      exact absurd (short_of_ungetc short) (not_short_at_end (by rw [getc_nil same]))
  | cons c rest ih =>
      have whole : { input with rest := c :: rest } = input := by rw [← same]
      have taken := getc_cons same
      rw [parseNumberFrom, whole, taken] at short ⊢
      dsimp only at short ⊢
      split at short
      case isTrue number =>
        have shortNext :=
          short_of_earlier (placed_parse_number_from rfl (placed_self _)).1 short
        obtain ⟨read, split⟩ := @getc_with_tail tail other _ _ _ taken shortNext
        rw [split, parseNumberFrom, ← split, read, if_pos number]
        simp only [if_pos number]
        exact ih rfl short
      case isFalse noNumber =>
        have shortNext := short_of_ungetc short
        obtain ⟨read, split⟩ := @getc_with_tail tail other _ _ _ taken shortNext
        rw [split, parseNumberFrom, ← split, read, if_neg noNumber]
        simp only [if_neg noNumber, ungetc_with_tail taken shortNext]

theorem follows_parse_number_value (input : Input) :
    Follows tail other (parseNumberValue input)
      (parseNumberValue (withTail tail other input)) := by
  have changed (short : ShortOf tail (parseNumber input).2) :
      parseNumber (withTail tail other input) =
        ((parseNumber input).1, withTail tail other (parseNumber input).2) :=
    parse_number_from_with_tail rfl short
  unfold parseNumberValue
  split
  case h_1 numStr next read =>
    rw [read] at changed
    split
    case isTrue empty =>
      intro short
      simp only [changed short, if_pos empty, true_or]
    case isFalse nonempty =>
      split
      case h_1 number numeral =>
        split
        case h_1 value finite =>
          intro short
          simp only [changed short, if_neg nonempty, numeral, finite, true_or]
        case h_2 => trivial
      case h_2 number c left numeral =>
        intro short
        simp only [changed short, if_neg nonempty, numeral, true_or]

theorem follows_parse_word {pattern : Bytes} {value : Value} (input : Input) :
    Follows tail other (parseWord pattern value input)
      (parseWord pattern value (withTail tail other input)) := by
  unfold parseWord
  split
  case h_1 next read =>
    intro short
    simp only [match_pattern_with_tail read short, true_or]
  case h_2 next read =>
    intro short
    simp only [match_pattern_with_tail read short, true_or]

def FollowsTexts (tail other : Bytes) (fuel : Nat) : Prop :=
  (∀ changedFuel input, Follows tail other (parseValue fuel input)
    (parseValue changedFuel (withTail tail other input))) ∧
  (∀ changedFuel items input, Follows tail other (parseItems fuel items input)
    (parseItems changedFuel items (withTail tail other input))) ∧
  (∀ changedFuel entries input, Follows tail other (parseEntries fuel entries input)
    (parseEntries changedFuel entries (withTail tail other input)))

theorem keeps_parse_items (fuel : Nat) (items : List Value) (input : Input) :
    Keeps (pending input) input.line (parseItems fuel items input) :=
  (keeps_places _ _ fuel).2.1 items input (placed_self input)

theorem keeps_parse_entries (fuel : Nat) (entries : List (Bytes × Value)) (input : Input) :
    Keeps (pending input) input.line (parseEntries fuel entries input) :=
  (keeps_places _ _ fuel).2.2 entries input (placed_self input)

theorem short_of_expect {expected : UInt8} {input next : Input} {found : Bool}
    (read : expect expected input = (found, next)) (short : ShortOf tail next) :
    ShortOf tail input :=
  short_of_earlier (placed_expect (placed_self input) read).1 short

theorem follows_parse_value_from {fuel : Nat} (followsTexts : FollowsTexts tail other fuel)
    (changedFuel : Nat) {c : UInt8} {input next : Input} (taken : getc input = (some c, next))
    (shortNext : ShortOf tail next) :
    Follows tail other (parseValueFrom fuel c next)
      (parseValueFrom changedFuel c (withTail tail other next)) := by
  obtain ⟨-, items, entries⟩ := followsTexts
  have pushedBack : ungetc (withTail tail other next) = withTail tail other (ungetc next) :=
    ungetc_with_tail taken shortNext
  unfold parseValueFrom
  split
  · exact follows_parse_word next
  split
  · exact follows_parse_word next
  split
  · exact follows_parse_word next
  split
  · have followsString := @follows_parse_string tail other next
    have ends := parse_string_ne_out_of_fuel (withTail tail other next)
    cases read : parseString next with
    | ok bytes after | fail after =>
        rw [read] at followsString
        intro short
        exact .inl (by rw [(followsString short).resolve_right ends])
    | throw | outOfFuel => trivial
  split
  · split
    case h_1 after closes =>
      intro short
      exact .inl (by rw [expect_with_tail closes short])
    case h_2 after opens =>
      refine follows_of_short (keeps_parse_items fuel [] after) fun short => ?_
      rw [expect_with_tail opens short]
      exact items changedFuel [] after
  split
  · split
    case h_1 after closes =>
      intro short
      exact .inl (by rw [expect_with_tail closes short])
    case h_2 after opens =>
      refine follows_of_short (keeps_parse_entries fuel [] after) fun short => ?_
      rw [expect_with_tail opens short]
      exact entries changedFuel [] after
  split
  · rw [pushedBack]
    exact follows_parse_number_value (ungetc next)
  · exact fun _ => .inl (by rw [pushedBack])

theorem follows_parse_value_step {fuel : Nat} (followsTexts : FollowsTexts tail other fuel)
    (changedFuel : Nat) (input : Input) :
    Follows tail other (parseValue (fuel + 1) input)
      (parseValue changedFuel (withTail tail other input)) := by
  cases changedFuel with
  | zero => exact follows_out_of_fuel _
  | succ changedFuel =>
      rcases taken : getc (skipWs input) with ⟨_ | c, next⟩
      · rw [parse_value_at_end taken]
        exact fun short => absurd (short_of_ungetc short) (not_short_at_end taken)
      · rw [parse_value_from taken]
        refine follows_of_short
          (keeps_parse_value_from (keeps_places _ _ fuel) (placed_self next)) fun short => ?_
        rw [parse_value_from (getc_skip_ws_with_tail taken short)]
        exact follows_parse_value_from followsTexts changedFuel taken short

theorem follows_read_element {fuel changedFuel : Nat} {close : UInt8}
    {more changedMore : Value → Input → Outcome Value} {whole : Value → Value} {input : Input}
    (followsItem : Follows tail other (parseValue fuel input)
      (parseValue changedFuel (withTail tail other input)))
    (keepsMore : ∀ item next, Keeps (pending next) next.line (more item next))
    (followsMore : ∀ item next, Follows tail other (more item next)
      (changedMore item (withTail tail other next))) :
    Follows tail other (readElement fuel close more whole input)
      (readElement changedFuel close changedMore whole (withTail tail other input)) := by
  unfold readElement
  by_cases gone : parseValue changedFuel (withTail tail other input) = .outOfFuel
  · rw [gone]
    exact follows_out_of_fuel _
  cases read : parseValue fuel input with
  | ok item next =>
      rw [read] at followsItem
      have changed (short : ShortOf tail next) := (followsItem short).resolve_right gone
      dsimp only
      split
      case h_1 afterComma comma =>
        refine follows_of_short (keepsMore item afterComma) fun short => ?_
        simp only [changed (short_of_expect comma short), expect_with_tail comma short]
        exact followsMore item afterComma
      case h_2 afterComma noComma =>
        split
        case h_1 afterClose closes =>
          intro short
          have shortComma := short_of_expect closes short
          simp only [changed (short_of_expect noComma shortComma),
            expect_with_tail noComma shortComma, expect_with_tail closes short, true_or]
        case h_2 afterClose closes =>
          intro short
          have shortComma := short_of_expect closes short
          simp only [changed (short_of_expect noComma shortComma),
            expect_with_tail noComma shortComma, expect_with_tail closes short, true_or]
  | fail next =>
      rw [read] at followsItem
      intro short
      exact .inl (by rw [(followsItem short).resolve_right gone])
  | throw | outOfFuel => trivial

theorem follows_parse_items_step {fuel : Nat} (followsTexts : FollowsTexts tail other fuel)
    (changedFuel : Nat) (items : List Value) (input : Input) :
    Follows tail other (parseItems (fuel + 1) items input)
      (parseItems changedFuel items (withTail tail other input)) := by
  obtain ⟨values, more, -⟩ := followsTexts
  cases changedFuel with
  | zero => exact follows_out_of_fuel _
  | succ changedFuel =>
      rw [parse_items_from, parse_items_from]
      exact follows_read_element (values changedFuel input)
        (fun item next => keeps_parse_items fuel _ next)
        (fun item next => more changedFuel _ next)

theorem follows_parse_entries_from {fuel : Nat} (followsTexts : FollowsTexts tail other fuel)
    (changedFuel : Nat) (entries : List (Bytes × Value)) (key : Bytes) (input : Input) :
    Follows tail other (parseEntriesFrom fuel entries key input)
      (parseEntriesFrom changedFuel entries key (withTail tail other input)) := by
  obtain ⟨values, -, more⟩ := followsTexts
  exact follows_read_element (values changedFuel input)
    (fun item next => keeps_parse_entries fuel _ next)
    (fun item next => more changedFuel _ next)

theorem follows_parse_entries_step {fuel : Nat} (followsTexts : FollowsTexts tail other fuel)
    (changedFuel : Nat) (entries : List (Bytes × Value)) (input : Input) :
    Follows tail other (parseEntries (fuel + 1) entries input)
      (parseEntries changedFuel entries (withTail tail other input)) := by
  cases changedFuel with
  | zero => exact follows_out_of_fuel _
  | succ changedFuel =>
      rcases quote : expect (ascii '"') input with ⟨_ | _, afterQuote⟩
      · rw [parseEntries, quote]
        intro short
        exact .inl (by rw [parseEntries, expect_with_tail quote short])
      have keepsKey := keeps_parse_string afterQuote
      have followsKey := @follows_parse_string tail other afterQuote
      have keyEnds := parse_string_ne_out_of_fuel (withTail tail other afterQuote)
      cases readKey : parseString afterQuote with
      | ok key afterKey =>
          rw [readKey] at keepsKey followsKey
          -- both texts up to the colon
          have changedKey (short : ShortOf tail afterKey) :
              expect (ascii '"') (withTail tail other input) =
                  (true, withTail tail other afterQuote) ∧
                parseString (withTail tail other afterQuote) =
                  .ok key (withTail tail other afterKey) :=
            ⟨expect_with_tail quote (short_of_earlier keepsKey short),
              (followsKey short).resolve_right keyEnds⟩
          rcases colon : expect (ascii ':') afterKey with ⟨_ | _, afterColon⟩
          · simp only [parseEntries, quote, readKey, colon]
            intro short
            obtain ⟨quoted, sameKey⟩ := changedKey (short_of_expect colon short)
            simp only [quoted, sameKey, expect_with_tail colon short, true_or]
          · rw [parse_entries_from quote readKey colon]
            refine follows_of_short (keeps_parse_entries_from (keeps_places _ _ fuel) entries key
              (placed_self afterColon)) fun short => ?_
            obtain ⟨quoted, sameKey⟩ := changedKey (short_of_expect colon short)
            rw [parse_entries_from quoted sameKey (expect_with_tail colon short)]
            exact follows_parse_entries_from followsTexts changedFuel entries key afterColon
      | fail next =>
          rw [readKey] at keepsKey followsKey
          simp only [parseEntries, quote, readKey]
          intro short
          simp only [expect_with_tail quote (short_of_stop keepsKey short),
            (followsKey short).resolve_right keyEnds, true_or]
      | throw | outOfFuel =>
          simp only [parseEntries, quote, readKey]
          trivial

theorem follows_texts (tail other : Bytes) (fuel : Nat) : FollowsTexts tail other fuel := by
  induction fuel with
  | zero => exact ⟨fun _ _ => trivial, fun _ _ _ => trivial, fun _ _ _ => trivial⟩
  | succ fuel ih =>
      exact ⟨follows_parse_value_step ih, follows_parse_items_step ih,
        follows_parse_entries_step ih⟩

end PyWebRTC.PicojsonLookahead
