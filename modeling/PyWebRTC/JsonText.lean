import PyWebRTC.Utf8

/-!
JSON values and the texts that denote them. A text is a list of Unicode scalar
values; `Denotes` is the grammar, with free white space, every spelling of a
character, canonical integers and objects whose keys are distinct. Numbers
other than integers are left out.
-/

namespace PyWebRTC.JsonText

set_option autoImplicit false

/-- A fact about listed characters is decided on the list, and not on all
characters. -/
instance (priority := 2000) decidableListed {p : Char → Prop} [DecidablePred p]
    (listed : List Char) : Decidable (∀ c ∈ listed, p c) :=
  List.decidableBAll p listed

inductive Json where
  | null
  | bool (value : Bool)
  | int (value : Int)
  | str (text : List Char)
  | list (items : List Json)
  | dict (entries : List (List Char × Json))

/-- The value under a key; an absent key and a value that is no object have
none. -/
def Json.item (key : List Char) : Json → Option Json
  | .dict entries => entries.lookup key
  | _ => none

def IsBlankChar (c : Char) : Prop := c = ' ' ∨ c = '\t' ∨ c = '\n' ∨ c = '\r'

instance (c : Char) : Decidable (IsBlankChar c) := inferInstanceAs (Decidable (_ ∨ _))

def IsBlank (text : List Char) : Prop := ∀ c ∈ text, IsBlankChar c

/-- The letter after the backslash and the character it stands for. -/
def shortEscapes : List (Char × Char) :=
  [('"', '"'), ('\\', '\\'), ('/', '/'), ('b', '\x08'), ('f', '\x0c'), ('n', '\n'), ('r', '\r'),
    ('t', '\t')]

def hexValue (digit : Char) : Option Nat :=
  if '0'.toNat ≤ digit.toNat ∧ digit.toNat ≤ '9'.toNat then some (digit.toNat - '0'.toNat)
  else if 'A'.toNat ≤ digit.toNat ∧ digit.toNat ≤ 'F'.toNat then
    some (digit.toNat - 'A'.toNat + 10)
  else if 'a'.toNat ≤ digit.toNat ∧ digit.toNat ≤ 'f'.toNat then
    some (digit.toNat - 'a'.toNat + 10)
  else none

def hexWord : Nat → List Char → Option Nat
  | word, [] => some word
  | word, digit :: rest => (hexValue digit).bind fun value => hexWord (word * 16 + value) rest

/-- The spellings of one character inside a string. -/
inductive CharText : Char → List Char → Prop where
  | plain {c : Char} (printable : 0x20 ≤ c.toNat) (notQuote : c ≠ '"')
      (notBackslash : c ≠ '\\') : CharText c [c]
  | short {c letter : Char} (listed : (letter, c) ∈ shortEscapes) : CharText c ['\\', letter]
  | unit {c : Char} {digits : List Char} (four : digits.length = 4)
      (word : hexWord 0 digits = some c.toNat) : CharText c ('\\' :: 'u' :: digits)
  | pair {c : Char} {high low : List Char} {leading trailing : Nat} (fourHigh : high.length = 4)
      (fourLow : low.length = 4) (highWord : hexWord 0 high = some (0xD800 + leading))
      (lowWord : hexWord 0 low = some (0xDC00 + trailing)) (leadingBound : leading < 0x400)
      (trailingBound : trailing < 0x400)
      (joined : c.toNat = 0x10000 + leading * 0x400 + trailing) :
      CharText c ('\\' :: 'u' :: high ++ '\\' :: 'u' :: low)

inductive StringBody : List Char → List Char → Prop where
  | nil : StringBody [] []
  | cons {c : Char} {spelled rest body : List Char} (first : CharText c spelled)
      (others : StringBody rest body) : StringBody (c :: rest) (spelled ++ body)

def quoted (body : List Char) : List Char := '"' :: body ++ ['"']

def intText (value : Int) : List Char :=
  if value < 0 then '-' :: Nat.toDigits 10 value.natAbs else Nat.toDigits 10 value.natAbs

inductive Part where
  | value (json : Json)
  | elements (items : List Json)
  | entry (key : List Char) (json : Json)
  | members (entries : List (List Char × Json))

inductive Denotes : List Char → Part → Prop where
  | null : Denotes ['n', 'u', 'l', 'l'] (.value .null)
  | true : Denotes ['t', 'r', 'u', 'e'] (.value (.bool true))
  | false : Denotes ['f', 'a', 'l', 's', 'e'] (.value (.bool false))
  | int (value : Int) : Denotes (intText value) (.value (.int value))
  | str {text body : List Char} (spelled : StringBody text body) :
      Denotes (quoted body) (.value (.str text))
  | emptyList {blank : List Char} (isBlank : IsBlank blank) :
      Denotes ('[' :: blank ++ [']']) (.value (.list []))
  | list {items : List Json} {text : List Char} (inside : Denotes text (.elements items)) :
      Denotes ('[' :: text ++ [']']) (.value (.list items))
  | emptyDict {blank : List Char} (isBlank : IsBlank blank) :
      Denotes ('{' :: blank ++ ['}']) (.value (.dict []))
  | dict {entries : List (List Char × Json)} {text : List Char}
      (inside : Denotes text (.members entries)) (distinct : (entries.map Prod.fst).Nodup) :
      Denotes ('{' :: text ++ ['}']) (.value (.dict entries))
  | padded {json : Json} {before text after : List Char} (isBlankBefore : IsBlank before)
      (isBlankAfter : IsBlank after) (inside : Denotes text (.value json)) :
      Denotes (before ++ text ++ after) (.value json)
  | lastElement {json : Json} {text : List Char} (only : Denotes text (.value json)) :
      Denotes text (.elements [json])
  | element {json : Json} {items : List Json} {text rest : List Char}
      (first : Denotes text (.value json)) (others : Denotes rest (.elements items)) :
      Denotes (text ++ ',' :: rest) (.elements (json :: items))
  | entry {key body before between text : List Char} {json : Json}
      (isBlankBefore : IsBlank before) (spelled : StringBody key body)
      (isBlankBetween : IsBlank between) (inside : Denotes text (.value json)) :
      Denotes (before ++ quoted body ++ between ++ ':' :: text) (.entry key json)
  | lastMember {key : List Char} {json : Json} {text : List Char}
      (only : Denotes text (.entry key json)) : Denotes text (.members [(key, json)])
  | member {key : List Char} {json : Json} {entries : List (List Char × Json)}
      {text rest : List Char} (first : Denotes text (.entry key json))
      (others : Denotes rest (.members entries)) :
      Denotes (text ++ ',' :: rest) (.members ((key, json) :: entries))

def DenotesValue (text : List Char) (json : Json) : Prop := Denotes text (.value json)

def HasText (json : Json) : Prop := ∃ text, DenotesValue text json

theorem is_blank_nil : IsBlank [] := fun _ member => absurd member List.not_mem_nil

theorem is_blank_append {left right : List Char} (isBlankLeft : IsBlank left)
    (isBlankRight : IsBlank right) : IsBlank (left ++ right) := by
  intro c member
  exact (List.mem_append.mp member).elim (isBlankLeft c) (isBlankRight c)

/-! ## White space around a text -/

theorem denotes_append_blank {text blank : List Char} {part : Part} (denotes : Denotes text part)
    (isBlank : IsBlank blank) : Denotes (text ++ blank) part := by
  have padding {json : Json} {text : List Char} (inside : Denotes text (.value json)) :
      Denotes (text ++ blank) (.value json) := .padded is_blank_nil isBlank inside
  induction denotes with
  | null => exact padding .null
  | true => exact padding .true
  | false => exact padding .false
  | int value => exact padding (.int value)
  | str spelled => exact padding (.str spelled)
  | emptyList isBlankInside => exact padding (.emptyList isBlankInside)
  | list inside => exact padding (.list inside)
  | emptyDict isBlankInside => exact padding (.emptyDict isBlankInside)
  | dict inside distinct => exact padding (.dict inside distinct)
  | padded isBlankBefore isBlankAfter inside =>
      exact padding (.padded isBlankBefore isBlankAfter inside)
  | lastElement only ih => exact .lastElement ih
  | element first others _ ih =>
      rw [List.append_assoc, List.cons_append]
      exact .element first ih
  | entry isBlankBefore spelled isBlankBetween inside ih =>
      rw [List.append_assoc, List.cons_append]
      exact .entry isBlankBefore spelled isBlankBetween ih
  | lastMember only ih => exact .lastMember ih
  | member first others _ ih =>
      rw [List.append_assoc, List.cons_append]
      exact .member first ih

theorem denotes_prepend_blank {text blank : List Char} {part : Part} (denotes : Denotes text part)
    (isBlank : IsBlank blank) : Denotes (blank ++ text) part := by
  have padding {json : Json} {text : List Char} (inside : Denotes text (.value json)) :
      Denotes (blank ++ text) (.value json) := by
    simpa using Denotes.padded isBlank is_blank_nil inside
  induction denotes with
  | null => exact padding .null
  | true => exact padding .true
  | false => exact padding .false
  | int value => exact padding (.int value)
  | str spelled => exact padding (.str spelled)
  | emptyList isBlankInside => exact padding (.emptyList isBlankInside)
  | list inside => exact padding (.list inside)
  | emptyDict isBlankInside => exact padding (.emptyDict isBlankInside)
  | dict inside distinct => exact padding (.dict inside distinct)
  | padded isBlankBefore isBlankAfter inside =>
      exact padding (.padded isBlankBefore isBlankAfter inside)
  | lastElement only ih => exact .lastElement ih
  | element first others ih _ =>
      rw [← List.append_assoc]
      exact .element ih others
  | entry isBlankBefore spelled isBlankBetween inside ih =>
      simpa using Denotes.entry (is_blank_append isBlank isBlankBefore) spelled isBlankBetween inside
  | lastMember only ih => exact .lastMember ih
  | member first others ih _ =>
      rw [← List.append_assoc]
      exact .member ih others

/-! ## The characters of an integer -/

def decimalDigits : List Char := ['0', '1', '2', '3', '4', '5', '6', '7', '8', '9']

theorem mem_decimal_digits {c : Char} (digit : c.isDigit = true) : c ∈ decimalDigits := by
  obtain ⟨low, high⟩ := Char.isDigit_iff_toNat.mp digit
  have listed : ∀ code ≤ '9'.toNat, '0'.toNat ≤ code → Char.ofNat code ∈ decimalDigits := by
    decide
  simpa using listed c.toNat high low

theorem mem_to_digits {n : Nat} {c : Char} (member : c ∈ Nat.toDigits 10 n) :
    c ∈ decimalDigits :=
  mem_decimal_digits (Nat.isDigit_of_mem_toDigits (by decide) (by decide) member)

theorem mem_int_text {value : Int} {c : Char} (member : c ∈ intText value) :
    c ∈ '-' :: decimalDigits := by
  unfold intText at member
  split at member
  · obtain rfl | digit := List.mem_cons.mp member
    · simp
    · exact List.mem_cons_of_mem _ (mem_to_digits digit)
  · exact List.mem_cons_of_mem _ (mem_to_digits member)

theorem int_text_ne_nil (value : Int) : intText value ≠ [] := by
  unfold intText
  split
  · exact List.cons_ne_nil _ _
  · exact Nat.toDigits_ne_nil

theorem int_text_narrow {value : Int} {c : Char} (member : c ∈ intText value) :
    c.toNat < 0x80 := by
  have narrow : ∀ c ∈ '-' :: decimalDigits, c.toNat < 0x80 := by decide
  exact narrow c (mem_int_text member)

/-! ## The escape of a word -/

def unicodeEscape (word : Nat) : List Char :=
  ['\\', 'u', Nat.digitChar (word / 4096 % 16), Nat.digitChar (word / 256 % 16),
    Nat.digitChar (word / 16 % 16), Nat.digitChar (word % 16)]

theorem hex_value_digit_char : ∀ value < 16, hexValue (Nat.digitChar value) = some value := by
  decide

theorem digit_char_narrow : ∀ value < 16, (Nat.digitChar value).toNat < 0x80 := by
  decide

theorem hex_word_unicode_escape {word : Nat} (bounded : word < 0x10000) :
    hexWord 0 [Nat.digitChar (word / 4096 % 16), Nat.digitChar (word / 256 % 16),
      Nat.digitChar (word / 16 % 16), Nat.digitChar (word % 16)] = some word := by
  have digit (value : Nat) : hexValue (Nat.digitChar (value % 16)) = some (value % 16) :=
    hex_value_digit_char _ (Nat.mod_lt _ (by decide))
  simp only [hexWord, digit, Option.bind_some]
  congr 1
  omega

theorem unicode_escape_narrow {word : Nat} {c : Char} (member : c ∈ unicodeEscape word) :
    c.toNat < 0x80 := by
  simp only [unicodeEscape, List.mem_cons, List.not_mem_nil, or_false] at member
  rcases member with rfl | rfl | rfl | rfl | rfl | rfl
  · decide
  · decide
  all_goals exact digit_char_narrow _ (Nat.mod_lt _ (by decide))

/-! ## Characters that no text holds -/

theorem hex_value_null : hexValue '\x00' = none := by decide

theorem null_not_mem_of_hex_word {digits : List Char} {start word : Nat}
    (read : hexWord start digits = some word) : '\x00' ∉ digits := by
  induction digits generalizing start with
  | nil => exact List.not_mem_nil
  | cons digit rest ih =>
      obtain ⟨value, digitRead, restRead⟩ := Option.bind_eq_some_iff.mp read
      rw [List.mem_cons, not_or]
      refine ⟨?_, ih restRead⟩
      rintro rfl
      simp [hex_value_null] at digitRead

theorem null_not_mem_char_text {c : Char} {spelled : List Char} (text : CharText c spelled) :
    '\x00' ∉ spelled := by
  cases text with
  | plain printable notQuote notBackslash =>
      rw [List.mem_singleton]
      rintro rfl
      exact absurd printable (by decide)
  | short listed =>
      rw [List.mem_cons, List.mem_singleton, not_or]
      refine ⟨by decide, ?_⟩
      rintro rfl
      exact absurd listed (by simp [shortEscapes])
  | unit four word => simp [null_not_mem_of_hex_word word]
  | pair fourHigh fourLow highWord lowWord leadingBound trailingBound joined =>
      simp [null_not_mem_of_hex_word highWord, null_not_mem_of_hex_word lowWord]

theorem null_not_mem_string_body {text body : List Char} (spelled : StringBody text body) :
    '\x00' ∉ body := by
  induction spelled with
  | nil => exact List.not_mem_nil
  | cons first others ih => simp [null_not_mem_char_text first, ih]

theorem null_not_mem_blank {blank : List Char} (isBlank : IsBlank blank) : '\x00' ∉ blank :=
  fun member => absurd (isBlank _ member) (by decide)

/-- A text has its null characters escaped. -/
theorem null_not_mem_of_denotes {text : List Char} {part : Part} (denotes : Denotes text part) :
    '\x00' ∉ text := by
  induction denotes with
  | null | true | false => decide
  | int value =>
      intro member
      exact absurd (mem_int_text member) (by decide)
  | str spelled => simp [quoted, null_not_mem_string_body spelled]
  | emptyList isBlank | emptyDict isBlank => simp [null_not_mem_blank isBlank]
  | list inside ih => simp [ih]
  | dict inside distinct ih => simp [ih]
  | padded isBlankBefore isBlankAfter inside ih =>
      simp [ih, null_not_mem_blank isBlankBefore, null_not_mem_blank isBlankAfter]
  | lastElement only ih => exact ih
  | element first others ihFirst ihOthers => simp [ihFirst, ihOthers]
  | entry isBlankBefore spelled isBlankBetween inside ih =>
      simp [ih, quoted, null_not_mem_string_body spelled, null_not_mem_blank isBlankBefore,
        null_not_mem_blank isBlankBetween]
  | lastMember only ih => exact ih
  | member first others ihFirst ihOthers => simp [ihFirst, ihOthers]

end PyWebRTC.JsonText
