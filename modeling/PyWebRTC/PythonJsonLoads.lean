import Mathlib.Data.List.TakeWhile
import PyWebRTC.PythonJson

/-!
# The reader of Python's `json` module

`loads` by recursive descent, and the codec that it forms with `dumps`. The
recursion runs on fuel, which the length of the text bounds.
-/

namespace PyWebRTC.PythonJsonLoads

open JsonText
open PythonJson (Codec dumps writes_of_denotes)

set_option autoImplicit false

def skipBlank (text : List Char) : List Char := text.dropWhile fun c => decide (IsBlankChar c)

def readWord : List Char → Option (Nat × List Char)
  | a :: b :: c :: d :: rest => (hexWord 0 [a, b, c, d]).map fun word => (word, rest)
  | _ => none

def charOf (code : Nat) : Option Char :=
  if code.isValidChar then some (Char.ofNat code) else none

/-- The digits of a unicode escape, and those of its second half. -/
def readUnicode (text : List Char) : Option (Char × List Char) := do
  let (word, rest) ← readWord text
  if 0xD800 ≤ word ∧ word < 0xDC00 then
    match rest with
    | '\\' :: 'u' :: rest => do
        let (second, rest) ← readWord rest
        if 0xDC00 ≤ second ∧ second < 0xE000 then
          let c ← charOf (0x10000 + (word - 0xD800) * 0x400 + (second - 0xDC00))
          some (c, rest)
        else none
    | _ => none
  else
    let c ← charOf word
    some (c, rest)

def readEscape : List Char → Option (Char × List Char)
  | [] => none
  | letter :: rest =>
      if letter = 'u' then readUnicode rest
      else (shortEscapes.lookup letter).map fun c => (c, rest)

def readChar : List Char → Option (Char × List Char)
  | [] => none
  | c :: rest =>
      if c = '\\' then readEscape rest
      else if 0x20 ≤ c.toNat then some (c, rest)
      else none

def readString : Nat → List Char → Option (List Char × List Char)
  | 0, _ => none
  | fuel + 1, input =>
      match input with
      | '"' :: rest => some ([], rest)
      | _ => do
          let (c, rest) ← readChar input
          let (text, rest) ← readString fuel rest
          some (c :: text, rest)

def splitMinus : List Char → Bool × List Char
  | '-' :: rest => (true, rest)
  | text => (false, text)

/-- An integer has no leading zero. -/
def readInt (input : List Char) : Option (Json × List Char) :=
  let (negative, unsigned) := splitMinus input
  let digits := unsigned.takeWhile Char.isDigit
  let magnitude := Nat.ofDigitChars 10 digits 0
  if Nat.toDigits 10 magnitude = digits then
    some (.int (if negative then -magnitude else magnitude), unsigned.dropWhile Char.isDigit)
  else none

def readLiteral (letters : List Char) (json : Json) (input : List Char) :
    Option (Json × List Char) :=
  if letters <+: input then some (json, input.drop letters.length) else none

def readClosing (bracket : Char) (json : Json) (input : List Char) : Option (Json × List Char) :=
  match skipBlank input with
  | [] => none
  | c :: rest => if c = bracket then some (json, rest) else none

def setItem (key : List Char) (json : Json) : List (List Char × Json) → List (List Char × Json)
  | [] => [(key, json)]
  | (firstKey, first) :: rest =>
      if key = firstKey then (key, json) :: rest else (firstKey, first) :: setItem key json rest

def dictOf (entries : List (List Char × Json)) : Json :=
  .dict (entries.foldl (fun dict entry => setItem entry.1 entry.2 dict) [])

mutual

def readValue : Nat → List Char → Option (Json × List Char)
  | 0, _ => none
  | fuel + 1, input =>
      match skipBlank input with
      | [] => none
      | first :: rest =>
          if first = '"' then do
            let (text, rest) ← readString rest.length rest
            some (.str text, rest)
          else if first = '[' then
            ((readElements fuel rest).map fun read => (.list read.1, read.2)).or
              (readClosing ']' (.list []) rest)
          else if first = '{' then
            ((readMembers fuel rest).map fun read => (dictOf read.1, read.2)).or
              (readClosing '}' (.dict []) rest)
          else if first = 'n' then readLiteral ['u', 'l', 'l'] .null rest
          else if first = 't' then readLiteral ['r', 'u', 'e'] (.bool true) rest
          else if first = 'f' then readLiteral ['a', 'l', 's', 'e'] (.bool false) rest
          else readInt (first :: rest)

def readElements : Nat → List Char → Option (List Json × List Char)
  | 0, _ => none
  | fuel + 1, input => do
      let (json, rest) ← readValue fuel input
      match skipBlank rest with
      | ']' :: rest => some ([json], rest)
      | ',' :: rest => do
          let (items, rest) ← readElements fuel rest
          some (json :: items, rest)
      | _ => none

def readMembers : Nat → List Char → Option (List (List Char × Json) × List Char)
  | 0, _ => none
  | fuel + 1, input => do
      let (entry, rest) ← readEntry fuel input
      match skipBlank rest with
      | '}' :: rest => some ([entry], rest)
      | ',' :: rest => do
          let (entries, rest) ← readMembers fuel rest
          some (entry :: entries, rest)
      | _ => none

def readEntry : Nat → List Char → Option ((List Char × Json) × List Char)
  | 0, _ => none
  | fuel + 1, input =>
      match skipBlank input with
      | '"' :: rest => do
          let (key, rest) ← readString rest.length rest
          match skipBlank rest with
          | ':' :: rest => do
              let (json, rest) ← readValue fuel rest
              some ((key, json), rest)
          | _ => none
      | _ => none

end

def loads (text : List Char) : Option Json := do
  let (json, rest) ← readValue (text.length + 1) text
  if skipBlank rest = [] then some json else none

/-! ## The reader reads every text -/

theorem skip_blank_append {blank : List Char} (isBlank : IsBlank blank) (text : List Char) :
    skipBlank (blank ++ text) = skipBlank text :=
  List.dropWhile_append_of_pos fun c member => decide_eq_true (isBlank c member)

theorem skip_blank_mark {mark : Char} (isMark : ¬IsBlankChar mark) (rest : List Char) :
    skipBlank (mark :: rest) = mark :: rest :=
  List.dropWhile_cons_of_neg (by simpa using isMark)

theorem read_word {digits : List Char} {word : Nat} (four : digits.length = 4)
    (read : hexWord 0 digits = some word) (after : List Char) :
    readWord (digits ++ after) = some (word, after) := by
  match digits, four with
  | [a, b, c, d], _ => simp [readWord, read]

theorem char_of_to_nat (c : Char) : charOf c.toNat = some c := by
  have valid : c.toNat.isValidChar := c.valid
  rw [charOf, if_pos valid, Char.ofNat_toNat]

theorem short_escapes_lookup : ∀ short ∈ shortEscapes,
    short.1 ≠ 'u' ∧ shortEscapes.lookup short.1 = some short.2 := by
  decide

theorem read_char_text {c : Char} {spelled : List Char} (text : CharText c spelled)
    (after : List Char) : readChar (spelled ++ after) = some (c, after) := by
  cases text with
  | plain printable notQuote notBackslash =>
      simp [readChar, notBackslash, printable]
  | @short letter listed =>
      obtain ⟨notUnicode, found⟩ := short_escapes_lookup (letter, c) listed
      simp [readChar, readEscape, notUnicode, found]
  | @unit digits four word =>
      have valid : c.toNat < 0xD800 ∨ 0xDFFF < c.toNat ∧ c.toNat < 0x110000 := c.valid
      have single : ¬(0xD800 ≤ c.toNat ∧ c.toNat < 0xDC00) := by omega
      simp [readChar, readEscape, readUnicode, read_word four word, single, char_of_to_nat]
  | @pair high low leading trailing fourHigh fourLow highWord lowWord leadingBound trailingBound
      joined =>
      have isHigh : 0xD800 ≤ 0xD800 + leading ∧ 0xD800 + leading < 0xDC00 := by omega
      have isLow : 0xDC00 ≤ 0xDC00 + trailing ∧ 0xDC00 + trailing < 0xE000 := by omega
      have join : 0x10000 + (0xD800 + leading - 0xD800) * 0x400 + (0xDC00 + trailing - 0xDC00) =
          c.toNat := by omega
      simp only [List.cons_append, List.append_assoc, readChar, readEscape, readUnicode,
        read_word fourHigh highWord, read_word fourLow lowWord, Option.bind_eq_bind,
        Option.bind_some, isHigh, isLow, join, char_of_to_nat, and_self, if_true]

theorem char_text_not_quote {c : Char} {spelled : List Char} (text : CharText c spelled) :
    ∃ first rest, spelled = first :: rest ∧ first ≠ '"' := by
  cases text with
  | plain printable notQuote notBackslash => exact ⟨c, [], rfl, notQuote⟩
  | short listed => exact ⟨'\\', _, rfl, by decide⟩
  | unit four word => exact ⟨'\\', _, rfl, by decide⟩
  | pair => exact ⟨'\\', _, rfl, by decide⟩

theorem read_string_body {text body : List Char} (spelled : StringBody text body) (fuel : Nat)
    (after : List Char) (enough : body.length < fuel) :
    readString fuel (body ++ '"' :: after) = some (text, after) := by
  induction spelled generalizing fuel with
  | nil =>
      obtain ⟨fuel, rfl⟩ := Nat.exists_eq_add_one_of_ne_zero (Nat.ne_of_gt enough)
      rfl
  | @cons c spelled rest body first others ih =>
      obtain ⟨mark, tail, rfl, notQuote⟩ := char_text_not_quote first
      obtain ⟨fuel, rfl⟩ := Nat.exists_eq_add_one_of_ne_zero (Nat.ne_zero_of_lt enough)
      have readFirst := read_char_text first (body ++ '"' :: after)
      have readRest := ih fuel (by simp at enough; omega)
      rw [List.append_assoc, List.cons_append, readString]
      · rw [List.cons_append] at readFirst
        simp [readFirst, readRest]
      · exact fun _ same => notQuote (List.cons.inj same).1

def EndsInt (after : List Char) : Prop := ∀ c ∈ after.head?, c.isDigit = false

theorem split_minus_int_text (value : Int) (after : List Char) :
    splitMinus (intText value ++ after) =
      (decide (value < 0), Nat.toDigits 10 value.natAbs ++ after) := by
  unfold intText
  split
  case isTrue negative => simp [splitMinus, negative]
  case isFalse nonnegative =>
    have digits (c : Char) : c ∈ Nat.toDigits 10 value.natAbs → c ∈ decimalDigits := mem_to_digits
    cases spelled : Nat.toDigits 10 value.natAbs with
    | nil => exact absurd spelled Nat.toDigits_ne_nil
    | cons first rest =>
        have notMinus : first ≠ '-' := by
          rintro rfl
          exact absurd (digits '-' (by simp [spelled])) (by decide)
        unfold splitMinus
        split
        case h_1 => simp_all
        case h_2 => simp [nonnegative]

theorem read_int_text (value : Int) {after : List Char} (ends : EndsInt after) :
    readInt (intText value ++ after) = some (.int value, after) := by
  have digits : ∀ c ∈ Nat.toDigits 10 value.natAbs, c.isDigit = true := fun _ member =>
    Nat.isDigit_of_mem_toDigits (by decide) (by decide) member
  have stops : after.takeWhile Char.isDigit = [] ∧ after.dropWhile Char.isDigit = after := by
    cases after with
    | nil => simp
    | cons c rest => simp [ends c rfl]
  simp only [readInt, split_minus_int_text, List.takeWhile_append_of_pos digits,
    List.dropWhile_append_of_pos digits, stops, List.append_nil, Nat.ofDigitChars_ten_toDigits]
  by_cases negative : value < 0
  · have magnitude : -(value.natAbs : Int) = value := by omega
    simp only [negative, decide_true, if_true, magnitude]
  · have magnitude : (value.natAbs : Int) = value := by omega
    simp only [negative, decide_false, Bool.false_eq_true, if_false, if_true, magnitude]

theorem set_item_new {key : List Char} {json : Json} {entries : List (List Char × Json)}
    (fresh : key ∉ entries.map Prod.fst) : setItem key json entries = entries ++ [(key, json)] := by
  induction entries with
  | nil => rfl
  | cons first rest ih =>
      simp only [List.map_cons, List.mem_cons, not_or] at fresh
      rw [setItem, if_neg fresh.1, ih fresh.2, List.cons_append]

theorem dict_of_distinct {entries : List (List Char × Json)}
    (distinct : (entries.map Prod.fst).Nodup) : dictOf entries = .dict entries := by
  have assigned : ∀ rest done : List (List Char × Json), ((done ++ rest).map Prod.fst).Nodup →
      rest.foldl (fun dict entry => setItem entry.1 entry.2 dict) done = done ++ rest := by
    intro rest
    induction rest with
    | nil => simp
    | cons entry rest ih =>
        intro done distinct
        have fresh : entry.1 ∉ done.map Prod.fst := by
          rw [List.map_append, List.nodup_append] at distinct
          intro member
          exact distinct.2.2 entry.1 member entry.1 (by simp) rfl
        rw [List.foldl_cons, set_item_new fresh, ih]
        · simp
        · simpa using distinct
  rw [dictOf, assigned entries [] distinct, List.nil_append]

/-- The reader returns the value or the entry and stops, up to white space,
behind it; elements and members it reads with the bracket that closes them. -/
def Reads (text : List Char) : Part → Prop
  | .value json => ∀ fuel after, text.length < fuel → EndsInt after →
      ∃ rest, readValue fuel (text ++ after) = some (json, rest) ∧ skipBlank rest = skipBlank after
  | .elements items => ∀ fuel after, text.length + 1 < fuel →
      readElements fuel (text ++ ']' :: after) = some (items, after)
  | .entry key json => ∀ fuel after, text.length < fuel → EndsInt after →
      ∃ rest, readEntry fuel (text ++ after) = some ((key, json), rest) ∧
        skipBlank rest = skipBlank after
  | .members entries => ∀ fuel after, text.length + 1 < fuel →
      readMembers fuel (text ++ '}' :: after) = some (entries, after)

theorem ends_int_blank {blank after : List Char} (isBlank : IsBlank blank)
    (ends : EndsInt after) : EndsInt (blank ++ after) := by
  cases blank with
  | nil => exact ends
  | cons first rest =>
      intro c head
      obtain rfl := Option.some.inj head
      rcases isBlank first (by simp) with rfl | rfl | rfl | rfl <;> rfl

theorem ends_int_mark {mark : Char} (isMark : mark.isDigit = false) (rest : List Char) :
    EndsInt (mark :: rest) := by
  intro c head
  obtain rfl := Option.some.inj head
  exact isMark

theorem read_value_blank {blank : List Char} (isBlank : IsBlank blank) (fuel : Nat)
    (text : List Char) : readValue fuel (blank ++ text) = readValue fuel text := by
  cases fuel with
  | zero => rfl
  | succ fuel => rw [readValue, readValue, skip_blank_append isBlank]

/-- A closing bracket starts no value. -/
theorem read_value_closing {bracket : Char} (closing : bracket = ']' ∨ bracket = '}')
    (fuel : Nat) (after : List Char) : readValue fuel (bracket :: after) = none := by
  cases fuel with
  | zero => rfl
  | succ fuel =>
      have empty : (bracket :: after).takeWhile Char.isDigit = [] := by
        rcases closing with rfl | rfl <;> rfl
      rcases closing with rfl | rfl <;>
        simp [readValue, skip_blank_mark, IsBlankChar, readInt, splitMinus, empty]

theorem reads_literal {first : Char} {letters : List Char} {json : Json}
    (dispatch : ∀ fuel after, readValue (fuel + 1) (first :: after) =
      readLiteral letters json after) : Reads (first :: letters) (.value json) := by
  intro fuel after enough ends
  obtain ⟨fuel, rfl⟩ := Nat.exists_eq_add_one_of_ne_zero (Nat.ne_zero_of_lt enough)
  refine ⟨after, ?_, rfl⟩
  rw [List.cons_append, dispatch, readLiteral, if_pos (List.prefix_append _ _),
    List.drop_left]

theorem reads_int (value : Int) : Reads (intText value) (.value (.int value)) := by
  intro fuel after enough ends
  obtain ⟨fuel, rfl⟩ := Nat.exists_eq_add_one_of_ne_zero (Nat.ne_zero_of_lt enough)
  refine ⟨after, ?_, rfl⟩
  have readText := read_int_text value ends
  cases spelled : intText value with
  | nil => exact absurd spelled (int_text_ne_nil value)
  | cons first rest =>
      have other : ∀ c ∈ '-' :: decimalDigits, ¬IsBlankChar c ∧ c ≠ '"' ∧ c ≠ '[' ∧ c ≠ '{' ∧
          c ≠ 'n' ∧ c ≠ 't' ∧ c ≠ 'f' := by decide
      have member : first ∈ intText value := by simp [spelled]
      obtain ⟨isMark, others⟩ := other first (mem_int_text member)
      rw [spelled, List.cons_append] at readText
      rw [List.cons_append, readValue, skip_blank_mark isMark]
      simp only [others, if_false, readText]

theorem reads_str {text body : List Char} (spelled : StringBody text body) :
    Reads (quoted body) (.value (.str text)) := by
  intro fuel after enough ends
  obtain ⟨fuel, rfl⟩ := Nat.exists_eq_add_one_of_ne_zero (Nat.ne_zero_of_lt enough)
  refine ⟨after, ?_, rfl⟩
  have readText := read_string_body spelled (body ++ '"' :: after).length after (by simp)
  have assoc : quoted body ++ after = '"' :: (body ++ '"' :: after) := by simp [quoted]
  rw [assoc, readValue, skip_blank_mark (by decide)]
  simp only [if_true, readText]
  rfl

theorem read_closing_blank {blank : List Char} (isBlank : IsBlank blank) {bracket : Char}
    (isMark : ¬IsBlankChar bracket) (json : Json) (after : List Char) :
    readClosing bracket json (blank ++ bracket :: after) = some (json, after) := by
  simp [readClosing, skip_blank_append isBlank, skip_blank_mark isMark]

theorem reads_empty_list {blank : List Char} (isBlank : IsBlank blank) :
    Reads ('[' :: blank ++ [']']) (.value (.list [])) := by
  intro fuel after enough ends
  obtain ⟨fuel, rfl⟩ := Nat.exists_eq_add_one_of_ne_zero (Nat.ne_zero_of_lt enough)
  refine ⟨after, ?_, rfl⟩
  have noElements : readElements fuel (blank ++ ']' :: after) = none := by
    cases fuel with
    | zero => rfl
    | succ fuel =>
        rw [readElements, read_value_blank isBlank, read_value_closing (.inl rfl)]
        rfl
  have assoc : '[' :: blank ++ [']'] ++ after = '[' :: (blank ++ ']' :: after) := by simp
  rw [assoc, readValue, skip_blank_mark (by decide)]
  simp [noElements, read_closing_blank isBlank, IsBlankChar]

theorem reads_empty_dict {blank : List Char} (isBlank : IsBlank blank) :
    Reads ('{' :: blank ++ ['}']) (.value (.dict [])) := by
  intro fuel after enough ends
  obtain ⟨fuel, rfl⟩ := Nat.exists_eq_add_one_of_ne_zero (Nat.ne_zero_of_lt enough)
  refine ⟨after, ?_, rfl⟩
  have noEntry (fuel : Nat) : readEntry fuel (blank ++ '}' :: after) = none := by
    cases fuel with
    | zero => rfl
    | succ fuel => simp [readEntry, skip_blank_append isBlank, skip_blank_mark, IsBlankChar]
  have noMembers : readMembers fuel (blank ++ '}' :: after) = none := by
    cases fuel with
    | zero => rfl
    | succ fuel =>
        rw [readMembers, noEntry]
        rfl
  have assoc : '{' :: blank ++ ['}'] ++ after = '{' :: (blank ++ '}' :: after) := by simp
  rw [assoc, readValue, skip_blank_mark (by decide)]
  simp [noMembers, read_closing_blank isBlank, IsBlankChar]

theorem reads_list {items : List Json} {text : List Char} (inside : Reads text (.elements items)) :
    Reads ('[' :: text ++ [']']) (.value (.list items)) := by
  intro fuel after enough ends
  obtain ⟨fuel, rfl⟩ := Nat.exists_eq_add_one_of_ne_zero (Nat.ne_zero_of_lt enough)
  refine ⟨after, ?_, rfl⟩
  have readInside := inside fuel after (by simp at enough; omega)
  have assoc : '[' :: text ++ [']'] ++ after = '[' :: (text ++ ']' :: after) := by simp
  rw [assoc, readValue, skip_blank_mark (by decide)]
  simp [readInside]

theorem reads_dict {entries : List (List Char × Json)} {text : List Char}
    (inside : Reads text (.members entries)) (distinct : (entries.map Prod.fst).Nodup) :
    Reads ('{' :: text ++ ['}']) (.value (.dict entries)) := by
  intro fuel after enough ends
  obtain ⟨fuel, rfl⟩ := Nat.exists_eq_add_one_of_ne_zero (Nat.ne_zero_of_lt enough)
  refine ⟨after, ?_, rfl⟩
  have readInside := inside fuel after (by simp at enough; omega)
  have assoc : '{' :: text ++ ['}'] ++ after = '{' :: (text ++ '}' :: after) := by simp
  rw [assoc, readValue, skip_blank_mark (by decide)]
  simp [readInside, dict_of_distinct distinct]

theorem reads_padded {json : Json} {before text blank : List Char} (isBlankBefore : IsBlank before)
    (isBlankAfter : IsBlank blank) (inside : Reads text (.value json)) :
    Reads (before ++ text ++ blank) (.value json) := by
  intro fuel after enough ends
  have shorter : text.length < fuel := by simp at enough; omega
  obtain ⟨rest, read, skipped⟩ :=
    inside fuel (blank ++ after) shorter (ends_int_blank isBlankAfter ends)
  refine ⟨rest, ?_, skipped.trans (skip_blank_append isBlankAfter after)⟩
  rw [List.append_assoc, List.append_assoc, read_value_blank isBlankBefore, read]

theorem skip_blank_to_mark {rest after : List Char} {mark : Char} (isMark : ¬IsBlankChar mark)
    (skipped : skipBlank rest = skipBlank (mark :: after)) : skipBlank rest = mark :: after :=
  skipped.trans (skip_blank_mark isMark after)

theorem reads_last_element {json : Json} {text : List Char} (only : Reads text (.value json)) :
    Reads text (.elements [json]) := by
  intro fuel after enough
  obtain ⟨fuel, rfl⟩ := Nat.exists_eq_add_one_of_ne_zero (Nat.ne_zero_of_lt enough)
  obtain ⟨rest, read, skipped⟩ :=
    only fuel (']' :: after) (by omega) (ends_int_mark (by decide) after)
  simp [readElements, read, skip_blank_to_mark (by decide) skipped]

theorem reads_element {json : Json} {items : List Json} {text others : List Char}
    (first : Reads text (.value json)) (more : Reads others (.elements items)) :
    Reads (text ++ ',' :: others) (.elements (json :: items)) := by
  intro fuel after enough
  obtain ⟨fuel, rfl⟩ := Nat.exists_eq_add_one_of_ne_zero (Nat.ne_zero_of_lt enough)
  simp only [List.length_append, List.length_cons] at enough
  obtain ⟨rest, read, skipped⟩ := first fuel (',' :: (others ++ ']' :: after)) (by omega)
    (ends_int_mark (by decide) _)
  have readMore := more fuel after (by omega)
  simp [readElements, read, skip_blank_to_mark (by decide) skipped, readMore]

theorem reads_entry {key body before between text : List Char} {json : Json}
    (isBlankBefore : IsBlank before) (spelled : StringBody key body)
    (isBlankBetween : IsBlank between) (inside : Reads text (.value json)) :
    Reads (before ++ quoted body ++ between ++ ':' :: text) (.entry key json) := by
  intro fuel after enough ends
  obtain ⟨fuel, rfl⟩ := Nat.exists_eq_add_one_of_ne_zero (Nat.ne_zero_of_lt enough)
  simp only [List.length_append, List.length_cons] at enough
  obtain ⟨rest, read, skipped⟩ := inside fuel after (by omega) ends
  refine ⟨rest, ?_, skipped⟩
  have readKey := read_string_body spelled (body ++ '"' :: (between ++ ':' :: (text ++ after))).length
    (between ++ ':' :: (text ++ after)) (by simp)
  have assoc : before ++ quoted body ++ between ++ ':' :: text ++ after =
      before ++ '"' :: (body ++ '"' :: (between ++ ':' :: (text ++ after))) := by simp [quoted]
  rw [assoc, readEntry, skip_blank_append isBlankBefore, skip_blank_mark (by decide)]
  simp only [readKey, Option.bind_eq_bind, Option.bind_some, skip_blank_append isBlankBetween]
  rw [skip_blank_mark (by decide)]
  simp [read]

theorem reads_last_member {key : List Char} {json : Json} {text : List Char}
    (only : Reads text (.entry key json)) : Reads text (.members [(key, json)]) := by
  intro fuel after enough
  obtain ⟨fuel, rfl⟩ := Nat.exists_eq_add_one_of_ne_zero (Nat.ne_zero_of_lt enough)
  obtain ⟨rest, read, skipped⟩ :=
    only fuel ('}' :: after) (by omega) (ends_int_mark (by decide) after)
  simp [readMembers, read, skip_blank_to_mark (by decide) skipped]

theorem reads_member {key : List Char} {json : Json} {entries : List (List Char × Json)}
    {text others : List Char} (first : Reads text (.entry key json))
    (more : Reads others (.members entries)) :
    Reads (text ++ ',' :: others) (.members ((key, json) :: entries)) := by
  intro fuel after enough
  obtain ⟨fuel, rfl⟩ := Nat.exists_eq_add_one_of_ne_zero (Nat.ne_zero_of_lt enough)
  simp only [List.length_append, List.length_cons] at enough
  obtain ⟨rest, read, skipped⟩ := first fuel (',' :: (others ++ '}' :: after)) (by omega)
    (ends_int_mark (by decide) _)
  have readMore := more fuel after (by omega)
  simp [readMembers, read, skip_blank_to_mark (by decide) skipped, readMore]

theorem reads_of_denotes {text : List Char} {part : Part} (denotes : Denotes text part) :
    Reads text part := by
  induction denotes with
  | null | true | false =>
      refine reads_literal fun fuel after => ?_
      rw [readValue, skip_blank_mark (by decide)]
      simp
  | int value => exact reads_int value
  | str spelled => exact reads_str spelled
  | emptyList isBlank => exact reads_empty_list isBlank
  | list inside ih => exact reads_list ih
  | emptyDict isBlank => exact reads_empty_dict isBlank
  | dict inside distinct ih => exact reads_dict ih distinct
  | padded isBlankBefore isBlankAfter inside ih => exact reads_padded isBlankBefore isBlankAfter ih
  | lastElement only ih => exact reads_last_element ih
  | element first others ihFirst ihOthers => exact reads_element ihFirst ihOthers
  | entry isBlankBefore spelled isBlankBetween inside ih =>
      exact reads_entry isBlankBefore spelled isBlankBetween ih
  | lastMember only ih => exact reads_last_member ih
  | member first others ihFirst ihOthers => exact reads_member ihFirst ihOthers

theorem loads_of_denotes {text : List Char} {json : Json} (denotes : DenotesValue text json) :
    loads text = some json := by
  obtain ⟨rest, read, skipped⟩ := reads_of_denotes denotes (text.length + 1) []
    (Nat.lt_succ_self _) (by simp [EndsInt])
  rw [List.append_nil] at read
  have done : skipBlank rest = [] := skipped
  simp [loads, read, done]

example : (loads "[ 01]".toList).isNone = true := by decide

/-- The module with its default arguments. -/
def standard : Codec where
  loads := loads
  dumps := dumps
  loads_denotes := fun _ _ => loads_of_denotes
  dumps_denotes := fun _ ⟨_, denotes⟩ => writes_of_denotes denotes

end PyWebRTC.PythonJsonLoads
