import PyWebRTC.PicojsonLookahead

/-!
# The line of a syntax error

The number in the message of a syntax error is that of the line it quotes. The
exception is a line feed behind a backslash: it has been read but not stepped
past, and the next line is quoted. What follows the first quoted character has no
part in the failure.
-/

namespace PyWebRTC.PicojsonErrorLine

open PicojsonCursor PicojsonFuel PicojsonLookahead PicojsonParse PicojsonValue
open Utf8 (ascii)

set_option autoImplicit false

/-- The message quotes the rest of the line less its control characters. -/
def messageAt (line : Nat) (after : Bytes) : Bytes :=
  Utf8.encode "syntax error at line ".toList ++ (Nat.toDigits 10 line).map ascii ++
    Utf8.encode " near: ".toList ++ (after.takeWhile (· ≠ ascii '\n')).filter (ascii ' ' ≤ ·)

/-- Where a text fails: the parser stops with `before` behind its cursor, the
message has the number and the rest of the line there, and what follows the next
character plays no part. -/
structure FailsAt (text err : Bytes) (input : Input) (before : Bytes) : Prop where
  stops : parseValue (2 * text.length + 2) ⟨none, text, 1⟩ = .fail input
  place : text = before ++ input.rest
  message : err = messageAt input.line input.rest
  counted : input.line + (if input.consumed = some (ascii '\n') then 1 else 0) =
    1 + before.count (ascii '\n')
  escaped : input.consumed = some (ascii '\n') → [ascii '\\', ascii '\n'] <:+ before
  unread : ∀ first rest other, input.rest = first :: rest →
    parse (before ++ first :: other) = .error (messageAt input.line (first :: other))

theorem parse_of_fail {text : Bytes} {input : Input}
    (stops : parseValue (2 * text.length + 2) ⟨none, text, 1⟩ = .fail input) :
    parse text = .error (messageAt input.line input.rest) := by
  rw [parse, stops]
  rfl

theorem parse_with_tail {before tail : Bytes} {first : UInt8} {input : Input}
    (stops : parseValue (2 * (before ++ first :: tail).length + 2)
      ⟨none, before ++ first :: tail, 1⟩ = .fail input)
    (ahead : input.rest = first :: tail) (other : Bytes) :
    parse (before ++ first :: other) = .error (messageAt input.line (first :: other)) := by
  have short : ShortOf tail input := by
    cases taken : input.consumed with
    | none => exact ⟨first, [], by simp [pending, taken, ahead]⟩
    | some c => exact ⟨c, [first], by simp [pending, taken, ahead]⟩
  have changed : withTail tail other ⟨none, before ++ first :: tail, 1⟩ =
      ⟨none, before ++ first :: other, 1⟩ := by
    have split : (Input.mk none (before ++ first :: tail) 1).rest = (before ++ [first]) ++ tail := by
      simp
    rw [with_tail_of_rest split]
    simp
  have changedInput : (withTail tail other input).rest = first :: other := by
    have split : input.rest = [first] ++ tail := ahead
    rw [with_tail_of_rest split]
    rfl
  have follows := (follows_texts tail other (2 * (before ++ first :: tail).length + 2)).1
    (2 * (before ++ first :: other).length + 2) ⟨none, before ++ first :: tail, 1⟩
  rw [stops, changed] at follows
  rcases follows short with same | gone
  · rw [parse_of_fail same, changedInput]
    rfl
  · refine absurd ?_ (parse_ne_out_of_fuel (before ++ first :: other))
    rw [parse, gone]

/-- A syntax error names the line of the place it quotes, except behind an
escaped line feed, where it names the line before. -/
theorem parse_error_line {text err : Bytes} (failed : parse text = .error err) :
    ∃ input before, FailsAt text err input before := by
  have keeps := (keeps_places text 1 (2 * text.length + 2)).1 ⟨none, text, 1⟩
    ⟨[], rfl, List.nil_suffix, rfl⟩
  cases stops : parseValue (2 * text.length + 2) ⟨none, text, 1⟩ with
  | ok | throw | outOfFuel => simp [parse, stops] at failed
  | fail input =>
      rw [stops] at keeps
      obtain ⟨before, ⟨place, -, lines⟩, escaped⟩ := keeps
      refine ⟨input, before, stops, place, ?_, ?_, escaped, ?_⟩
      · exact Parsed.error.inj (failed.symm.trans (parse_of_fail stops))
      · rw [← lines, Input.nextLine]
        split <;> rfl
      · intro first rest other ahead
        rw [ahead] at place
        subst place
        exact parse_with_tail stops ahead other

def misplacedBrace : Bytes := Utf8.encode "[\n\x7d".toList

theorem misplaced_brace_error_line :
    ∃ input before, FailsAt misplacedBrace
      (Utf8.encode "syntax error at line 2 near: \x7d".toList) input before :=
  parse_error_line rfl

end PyWebRTC.PicojsonErrorLine
