import PyWebRTC.PicojsonComplete
import PyWebRTC.PicojsonNumber

/-!
# The decimals that `strtod` takes whole

A decimal may start with zeros, end with its point, and have no digits before
the point where it has a sign. The number case of the parser reads every such
text, rounded, and nothing else.
-/

namespace PyWebRTC.PicojsonDecimal

open DoubleRounding (Double)
open JsonText (decimalDigits mem_decimal_digits)
open PicojsonComplete (EndsNumber take_while_ends_number)
open PicojsonFuel (parse_number_rest)
open PicojsonNumber (signText split_sign_text take_digits)
open PicojsonParse
open PicojsonValue (Bytes)
open Utf8 (ascii)

set_option autoImplicit false

inductive FractionText : List Char → List Char → Prop where
  | absent : FractionText [] []
  | written {digits : List Char} (isDigits : ∀ c ∈ digits, c.isDigit = true) :
      FractionText digits ('.' :: digits)

inductive ExponentText : Int → List Char → Prop where
  | absent : ExponentText 0 []
  | positive {mark : Char} {sign digits : List Char} (isMark : mark = 'e' ∨ mark = 'E')
      (isSign : sign = [] ∨ sign = ['+']) (nonempty : digits ≠ [])
      (isDigits : ∀ c ∈ digits, c.isDigit = true) :
      ExponentText (Nat.ofDigitChars 10 digits 0) (mark :: (sign ++ digits))
  | negative {mark : Char} {digits : List Char} (isMark : mark = 'e' ∨ mark = 'E')
      (nonempty : digits ≠ []) (isDigits : ∀ c ∈ digits, c.isDigit = true) :
      ExponentText (-(Nat.ofDigitChars 10 digits 0 : Int)) (mark :: '-' :: digits)

/-- A decimal and the number it is rounded to. It has a digit before the point
unless it has a sign, and some digit in any case. -/
inductive NumberText : Double → List Char → Prop where
  | intro {negative : Bool} {whole fraction point tail : List Char} {exponent : Int}
      {number : Double} (wholeDigits : ∀ c ∈ whole, c.isDigit = true)
      (behindPoint : FractionText fraction point) (power : ExponentText exponent tail)
      (starts : negative = true ∨ whole ≠ []) (nonempty : whole ++ fraction ≠ [])
      (rounded : scaleByTen negative (Nat.ofDigitChars 10 (whole ++ fraction) 0)
        (exponent - fraction.length) = some number) :
      NumberText number (signText negative ++ (whole ++ (point ++ tail)))

theorem exponent_text_head {exponent : Int} {tail : List Char} (power : ExponentText exponent tail) :
    ∀ c ∈ tail.head?, c = 'e' ∨ c = 'E' := by
  intro c first
  cases power with
  | absent => contradiction
  | positive isMark | negative isMark => exact Option.some.inj first ▸ isMark

theorem exponent_part_exponent_text {exponent : Int} {tail : List Char}
    (power : ExponentText exponent tail) : exponentPart tail = (exponent, []) := by
  cases power with
  | absent => rfl
  | @positive mark sign digits isMark isSign nonempty isDigits =>
      have split : splitSign (sign ++ digits) = (false, digits) := by
        rcases isSign with rfl | rfl
        · apply split_sign_text false
          exact fun c first => isDigits c (List.mem_of_mem_head? first)
        · rfl
      simp only [exponentPart, split, List.takeWhile_eq_self_iff.mpr isDigits,
        List.dropWhile_eq_nil_iff.mpr isDigits]
      rw [if_pos ⟨isMark, nonempty⟩]
      rfl
  | negative isMark nonempty isDigits =>
      simp only [exponentPart, splitSign, List.takeWhile_eq_self_iff.mpr isDigits,
        List.dropWhile_eq_nil_iff.mpr isDigits]
      rw [if_pos ⟨isMark, nonempty⟩]
      rfl

theorem strtod_number_text {number : Double} {text : List Char}
    (decimal : NumberText number text) : strtod text = (some number, []) := by
  obtain ⟨wholeDigits, behindPoint, power, starts, nonempty, rounded⟩ := decimal
  rename_i negative whole fraction point tail exponent
  have marks : ∀ c ∈ ['e', 'E'], c.isDigit = false ∧ c ≠ '.' := by decide
  have endsFraction : ∀ c ∈ tail.head?, c.isDigit = false ∧ c ≠ '.' := fun c first =>
    marks c (by simpa using exponent_text_head power c first)
  have endsWhole : ∀ c ∈ (point ++ tail).head?, c.isDigit = false := by
    cases behindPoint with
    | absent => exact fun c first => (endsFraction c first).1
    | written isDigits =>
        intro c first
        obtain rfl := Option.some.inj first
        rfl
  have split : splitSign (signText negative ++ (whole ++ (point ++ tail))) =
      (negative, whole ++ (point ++ tail)) := by
    cases negative with
    | true => rfl
    | false =>
        obtain ⟨first, others, rfl⟩ := List.exists_cons_of_ne_nil (starts.resolve_left (by simp))
        apply split_sign_text false
        intro c head
        exact wholeDigits c (by simp_all)
  obtain ⟨taken, dropped⟩ := take_digits wholeDigits endsWhole
  cases behindPoint with
  | absent =>
      have noPoint : ∀ rest, tail ≠ '.' :: rest := by
        rintro rest rfl
        exact (endsFraction '.' rfl).2 rfl
      rw [List.nil_append] at split taken dropped ⊢
      simp only [strtod, split, taken, dropped]
      rw [if_neg nonempty, exponent_part_exponent_text power, rounded]
  | written isDigits =>
      obtain ⟨takenFraction, droppedFraction⟩ :=
        take_digits isDigits fun c first => (endsFraction c first).1
      rw [List.cons_append] at split taken dropped ⊢
      simp only [strtod, split, taken, dropped, takenFraction, droppedFraction]
      rw [if_neg nonempty, exponent_part_exponent_text power, rounded]

theorem split_sign_cases (text : List Char) :
    (text = '-' :: (splitSign text).2 ∧ (splitSign text).1 = true) ∨
      (∃ sign, (sign = [] ∨ sign = ['+']) ∧ text = sign ++ (splitSign text).2 ∧
        (splitSign text).1 = false) := by
  unfold splitSign
  split
  case h_1 rest => exact .inl ⟨rfl, rfl⟩
  case h_2 rest => exact .inr ⟨['+'], .inr rfl, rfl, rfl⟩
  case h_3 => exact .inr ⟨[], .inl rfl, rfl, rfl⟩

theorem exponent_text_of_part {exponent : Int} {tail : List Char}
    (read : exponentPart tail = (exponent, [])) : ExponentText exponent tail := by
  cases tail with
  | nil =>
      obtain rfl : 0 = exponent := (Prod.mk.inj read).1
      exact .absent
  | cons mark rest =>
      have signed := split_sign_cases rest
      simp only [exponentPart] at read
      generalize splitSign rest = parts at signed read
      obtain ⟨negative, unsigned⟩ := parts
      dsimp only at signed read
      split at read
      case isFalse => simp at read
      case isTrue found =>
        obtain ⟨isMark, nonempty⟩ := found
        obtain ⟨value, atEnd⟩ := Prod.mk.inj read
        have isDigits := List.dropWhile_eq_nil_iff.mp atEnd
        rw [List.takeWhile_eq_self_iff.mpr isDigits] at nonempty value
        rcases signed with ⟨rfl, rfl⟩ | ⟨sign, isSign, rfl, rfl⟩
        · obtain rfl := value
          exact .negative isMark nonempty isDigits
        · obtain rfl := value
          exact .positive isMark isSign nonempty isDigits

/-- What `strtod` takes whole is a decimal, if it starts as the parser has it. -/
theorem number_text_of_strtod {number : Double} {text : List Char}
    (starts : ∃ first rest, text = first :: rest ∧ first ∈ '-' :: decimalDigits)
    (read : strtod text = (some number, [])) : NumberText number text := by
  obtain ⟨first, others, nonempty, listed⟩ := starts
  obtain ⟨negative, unsigned, split, same, begins⟩ : ∃ negative unsigned,
      splitSign text = (negative, unsigned) ∧ text = signText negative ++ unsigned ∧
        (negative = true ∨ unsigned.takeWhile Char.isDigit ≠ []) := by
    rcases List.mem_cons.mp listed with rfl | inDigits
    · exact ⟨true, others, by rw [nonempty, splitSign], nonempty, .inl rfl⟩
    · have digits : ∀ c ∈ decimalDigits, c.isDigit = true := by decide
      have digit := digits first inDigits
      refine ⟨false, text, ?_, rfl, .inr ?_⟩
      · apply split_sign_text false
        rw [nonempty]
        exact fun c head => Option.some.inj head ▸ digit
      · rw [nonempty, List.takeWhile_cons_of_pos digit]
        exact List.cons_ne_nil _ _
  have wholeDigits : ∀ c ∈ unsigned.takeWhile Char.isDigit, c.isDigit = true :=
    fun c member => List.mem_takeWhile_imp member
  have unsignedSplit : unsigned.takeWhile Char.isDigit ++ unsigned.dropWhile Char.isDigit =
      unsigned := List.takeWhile_append_dropWhile
  by_cases pointed : ∃ rest, unsigned.dropWhile Char.isDigit = '.' :: rest
  · obtain ⟨rest, behindWhole⟩ := pointed
    simp only [strtod, split, behindWhole] at read
    split at read
    case isTrue =>
      obtain ⟨-, atEnd⟩ := Prod.mk.inj read
      exact absurd (nonempty.symm.trans atEnd) (List.cons_ne_nil _ _)
    case isFalse someDigit =>
      obtain ⟨rounded, tailRead⟩ := Prod.mk.inj read
      have power := exponent_text_of_part (Prod.ext rfl tailRead)
      have decimal := NumberText.intro wholeDigits
        (.written fun c member => List.mem_takeWhile_imp member) power begins someDigit rounded
      rwa [List.cons_append, List.takeWhile_append_dropWhile, ← behindWhole, unsignedSplit,
        ← same] at decimal
  · have noPoint : ∀ rest, unsigned.dropWhile Char.isDigit ≠ '.' :: rest :=
      fun rest behindWhole => pointed ⟨rest, behindWhole⟩
    simp only [strtod, split] at read
    split at read
    case isTrue =>
      obtain ⟨-, atEnd⟩ := Prod.mk.inj read
      exact absurd (nonempty.symm.trans atEnd) (List.cons_ne_nil _ _)
    case isFalse someDigit =>
      obtain ⟨rounded, tailRead⟩ := Prod.mk.inj read
      have power := exponent_text_of_part (Prod.ext rfl tailRead)
      have decimal := NumberText.intro wholeDigits .absent power begins someDigit rounded
      rwa [List.nil_append, unsignedSplit, ← same] at decimal

def numberMarks : List Char := '-' :: '+' :: '.' :: 'e' :: 'E' :: decimalDigits

theorem mem_number_text {number : Double} {text : List Char} (decimal : NumberText number text)
    {c : Char} (member : c ∈ text) : c ∈ numberMarks := by
  obtain ⟨wholeDigits, behindPoint, power, -, -, -⟩ := decimal
  rename_i negative whole fraction point tail exponent
  have digit {c : Char} (isDigit : c.isDigit = true) : c ∈ numberMarks := by
    simp [numberMarks, mem_decimal_digits isDigit]
  have mark {c : Char} (isMark : c = 'e' ∨ c = 'E') : c ∈ numberMarks := by
    rcases isMark with rfl | rfl <;> decide
  have inSign : c ∈ signText negative → c ∈ numberMarks := by
    cases negative with
    | true =>
        intro inSign
        rw [List.mem_singleton.mp inSign]
        decide
    | false => exact fun inSign => absurd inSign List.not_mem_nil
  have inPoint : c ∈ point → c ∈ numberMarks := by
    cases behindPoint with
    | absent => simp
    | written isDigits =>
        intro inPoint
        rcases List.mem_cons.mp inPoint with rfl | inDigits
        · decide
        · exact digit (isDigits c inDigits)
  have inTail : c ∈ tail → c ∈ numberMarks := by
    cases power with
    | absent => simp
    | positive isMark isSign nonempty isDigits =>
        intro inTail
        rcases List.mem_cons.mp inTail with rfl | inTail
        · exact mark isMark
        rcases List.mem_append.mp inTail with inSign | inDigits
        · rcases isSign with rfl | rfl
          · exact absurd inSign List.not_mem_nil
          · rw [List.mem_singleton.mp inSign]
            decide
        · exact digit (isDigits c inDigits)
    | negative isMark nonempty isDigits =>
        intro inTail
        rcases List.mem_cons.mp inTail with rfl | inTail
        · exact mark isMark
        rcases List.mem_cons.mp inTail with rfl | inDigits
        · decide
        · exact digit (isDigits c inDigits)
  simp only [List.mem_append] at member
  rcases member with member | member | member | member
  · exact inSign member
  · exact digit (wholeDigits c member)
  · exact inPoint member
  · exact inTail member

theorem number_text_cons {number : Double} {text : List Char} (decimal : NumberText number text) :
    ∃ first rest, text = first :: rest ∧ first ∈ '-' :: decimalDigits := by
  obtain ⟨wholeDigits, -, -, starts, -, -⟩ := decimal
  rename_i negative whole fraction point tail exponent
  cases negative with
  | true => exact ⟨'-', _, rfl, List.mem_cons_self⟩
  | false =>
      obtain ⟨first, others, rfl⟩ := List.exists_cons_of_ne_nil (starts.resolve_left (by simp))
      exact ⟨first, _, rfl,
        List.mem_cons_of_mem _ (mem_decimal_digits (wholeDigits first (by simp)))⟩

/-- The number case of the parser on a decimal that ends where it must. -/
theorem parse_number_value_text {number : Double} {text : List Char} {input : Input}
    {after : Bytes} (decimal : NumberText number text) (ends : EndsNumber after)
    (ahead : input.rest = text.map ascii ++ after) :
    ∃ next, parseNumberValue input = .ok (.number number) next ∧ next.rest = after := by
  have chars : ∀ c ∈ numberMarks, isNumberChar (ascii c) = true ∧
      Char.ofNat (ascii c).toNat = c := by decide
  have token : ∀ byte ∈ text.map ascii, isNumberChar byte = true := by
    intro byte member
    obtain ⟨c, listed, rfl⟩ := List.mem_map.mp member
    exact (chars c (mem_number_text decimal listed)).1
  have back : (text.map ascii).map (fun c => Char.ofNat c.toNat) = text := by
    rw [List.map_map]
    exact (List.map_congr_left fun c member => (chars c (mem_number_text decimal member)).2).trans
      (List.map_id _)
  have nonempty : ¬(text.map ascii).isEmpty = true := by
    obtain ⟨first, rest, spelled, -⟩ := number_text_cons decimal
    simp [spelled]
  obtain ⟨numStr, left⟩ := parse_number_rest input
  rw [ahead, List.takeWhile_append_of_pos token, (take_while_ends_number ends).1,
    List.append_nil] at numStr
  rw [ahead, List.dropWhile_append_of_pos token, (take_while_ends_number ends).2] at left
  have read : parseNumber input = (text.map ascii, (parseNumber input).2) := by
    rw [← numStr]
  refine ⟨(parseNumber input).2, ?_, left⟩
  unfold parseNumberValue
  rw [read]
  dsimp only
  rw [if_neg nonempty, back, strtod_number_text decimal]
  rfl

end PyWebRTC.PicojsonDecimal
