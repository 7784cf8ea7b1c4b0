import PyWebRTC.PicojsonValue

/-!
# picojson's parser

`_parse` and its helpers over a cursor with one character of push-back. The
mutual recursion of values, array items and object entries runs on fuel, as
does the loop over a string.
-/

namespace PyWebRTC.PicojsonParse

open DoubleRounding (Double roundRatio)
open PicojsonValue
open Utf8 (ascii)

set_option autoImplicit false

/-! ## The cursor -/

/-- `input`: `consumed` is the character at `cur_` once `getc` has returned it,
and `rest` is what follows. -/
structure Input where
  consumed : Option UInt8
  rest : Bytes
  line : Nat

def Input.nextLine (input : Input) : Nat :=
  if input.consumed = some (ascii '\n') then input.line + 1 else input.line

def getc (input : Input) : Option UInt8 × Input :=
  match input.rest with
  | [] => (none, ⟨none, [], input.nextLine⟩)
  | c :: rest => (some c, ⟨some c, rest, input.nextLine⟩)

def ungetc (input : Input) : Input :=
  match input.consumed with
  | none => input
  | some c => ⟨none, c :: input.rest, input.line⟩

def isSpace (c : UInt8) : Bool :=
  c = ascii ' ' || c = ascii '\t' || c = ascii '\n' || c = ascii '\r'

/-- The loop of `skip_ws`, on the characters that are left. -/
def skipWsFrom (input : Input) : Bytes → Input
  | [] => ungetc (getc { input with rest := [] }).2
  | c :: rest =>
      let next := (getc { input with rest := c :: rest }).2
      if isSpace c then skipWsFrom next rest else ungetc next

def skipWs (input : Input) : Input := skipWsFrom input input.rest

def expect (expected : UInt8) (input : Input) : Bool × Input :=
  match getc (skipWs input) with
  | (some c, next) => if c = expected then (true, next) else (false, ungetc next)
  | (none, next) => (false, ungetc next)

def matchPattern : Bytes → Input → Bool × Input
  | [], input => (true, input)
  | expected :: pattern, input =>
      match getc input with
      | (some c, next) =>
          if c = expected then matchPattern pattern next else (false, ungetc next)
      | (none, next) => (false, ungetc next)

theorem getc_cons {input : Input} {c : UInt8} {rest : Bytes} (ahead : input.rest = c :: rest) :
    getc input = (some c, ⟨some c, rest, input.nextLine⟩) := by
  simp [getc, ahead]

theorem getc_ahead {input : Input} {c : UInt8} {rest : Bytes} (ahead : input.rest = c :: rest) :
    ∃ next, getc input = (some c, next) ∧ next.rest = rest :=
  ⟨_, getc_cons ahead, rfl⟩

theorem getc_nil {input : Input} (atEnd : input.rest = []) :
    getc input = (none, ⟨none, [], input.nextLine⟩) := by
  simp [getc, atEnd]

theorem getc_some {input next : Input} {c : UInt8} (read : getc input = (some c, next)) :
    input.rest = c :: next.rest ∧ (ungetc next).rest = input.rest := by
  cases ahead : input.rest with
  | nil => simp [getc_nil ahead] at read
  | cons first rest =>
      rw [getc_cons ahead] at read
      obtain ⟨same, rfl⟩ := Prod.mk.inj read
      simp [ungetc, Option.some.inj same]

theorem getc_none {input next : Input} (read : getc input = (none, next)) :
    input.rest = [] ∧ next.rest = [] ∧ ungetc next = next := by
  cases ahead : input.rest with
  | nil =>
      rw [getc_nil ahead] at read
      obtain ⟨-, rfl⟩ := Prod.mk.inj read
      simp [ungetc]
  | cons first rest => simp [getc_cons ahead] at read

theorem skip_ws_from_rest (input : Input) (rest : Bytes) :
    (skipWsFrom input rest).rest = rest.dropWhile isSpace := by
  induction rest generalizing input with
  | nil => simp [skipWsFrom, getc, ungetc]
  | cons c rest ih =>
      simp only [skipWsFrom, List.dropWhile_cons]
      split
      · exact ih _
      · simp [getc, ungetc]

theorem skip_ws_rest (input : Input) : (skipWs input).rest = input.rest.dropWhile isSpace :=
  skip_ws_from_rest input input.rest

theorem expect_true {expected : UInt8} {input : Input} {rest : Bytes}
    (ahead : input.rest.dropWhile isSpace = expected :: rest) :
    ∃ next, expect expected input = (true, next) ∧ next.rest = rest := by
  rw [← skip_ws_rest] at ahead
  refine ⟨⟨some expected, rest, (skipWs input).nextLine⟩, ?_, rfl⟩
  rw [expect, getc_cons ahead]
  exact if_pos rfl

theorem expect_false {expected : UInt8} {input : Input}
    (ahead : (input.rest.dropWhile isSpace).head? ≠ some expected) :
    ∃ next, expect expected input = (false, next) ∧
      next.rest = input.rest.dropWhile isSpace := by
  rw [← skip_ws_rest] at ahead ⊢
  unfold expect
  cases read : getc (skipWs input) with
  | mk taken next =>
      cases taken with
      | none =>
          obtain ⟨atEnd, nextAtEnd, same⟩ := getc_none read
          exact ⟨_, rfl, by rw [same, nextAtEnd, atEnd]⟩
      | some c =>
          obtain ⟨split, back⟩ := getc_some read
          have different : c ≠ expected := by
            rintro rfl
            simp [split] at ahead
          exact ⟨_, if_neg different, back⟩

theorem expect_shortens {expected : UInt8} {input next : Input} {found : Bool}
    (read : expect expected input = (found, next)) :
    next.rest.length + found.toNat ≤ input.rest.length := by
  have skipped : (input.rest.dropWhile isSpace).length ≤ input.rest.length :=
    (List.dropWhile_sublist isSpace).length_le
  by_cases ahead : (input.rest.dropWhile isSpace).head? = some expected
  · obtain ⟨rest, split⟩ := List.head?_eq_some_iff.mp ahead
    obtain ⟨after, same, afterRest⟩ := expect_true split
    obtain ⟨rfl, rfl⟩ := Prod.mk.inj (same.symm.trans read)
    rw [split, List.length_cons] at skipped
    simp [afterRest]
    omega
  · obtain ⟨after, same, afterRest⟩ := expect_false ahead
    obtain ⟨rfl, rfl⟩ := Prod.mk.inj (same.symm.trans read)
    simpa [afterRest] using skipped

/-! ## Strings -/

/-- How a piece of the parser ends: with a result, with a failure at a place,
with an exception, or, in the model only, without fuel. -/
inductive Outcome (Result : Type*) where
  | ok (result : Result) (input : Input)
  | fail (input : Input)
  | throw (exception : Exception)
  | outOfFuel

def hexDigit (c : UInt8) : Option Nat :=
  if ascii '0' ≤ c ∧ c ≤ ascii '9' then some (c.toNat - '0'.toNat)
  else if ascii 'A' ≤ c ∧ c ≤ ascii 'F' then some (c.toNat - 'A'.toNat + 10)
  else if ascii 'a' ≤ c ∧ c ≤ ascii 'f' then some (c.toNat - 'a'.toNat + 10)
  else none

/-- `_parse_quadhex`, with the number of digits that are left to read. -/
def parseQuadhex : Nat → Nat → Input → Option Nat × Input
  | 0, uniCh, input => (some uniCh, input)
  | left + 1, uniCh, input =>
      match getc input with
      | (none, next) => (none, next)
      | (some c, next) =>
          match hexDigit c with
          | some hex => parseQuadhex left (uniCh * 16 + hex) next
          | none => (none, ungetc next)

def pushCodepoint (uniCh : Nat) : Bytes :=
  if uniCh < 0x80 then [UInt8.ofNat uniCh]
  else if uniCh < 0x800 then
    [UInt8.ofNat (0xc0 ||| uniCh >>> 6), UInt8.ofNat (0x80 ||| uniCh &&& 0x3f)]
  else if uniCh < 0x10000 then
    [UInt8.ofNat (0xe0 ||| uniCh >>> 12), UInt8.ofNat (0x80 ||| uniCh >>> 6 &&& 0x3f),
      UInt8.ofNat (0x80 ||| uniCh &&& 0x3f)]
  else
    [UInt8.ofNat (0xf0 ||| uniCh >>> 18), UInt8.ofNat (0x80 ||| uniCh >>> 12 &&& 0x3f),
      UInt8.ofNat (0x80 ||| uniCh >>> 6 &&& 0x3f), UInt8.ofNat (0x80 ||| uniCh &&& 0x3f)]

/-- The second half of a surrogate pair, after the first one. -/
def parseTrailing (leading : Nat) (input : Input) : Option Nat × Input :=
  match getc input with
  | (none, next) => (none, ungetc next)
  | (some c, next) =>
      if c ≠ ascii '\\' then (none, ungetc next)
      else
        match getc next with
        | (none, next) => (none, ungetc next)
        | (some c, next) =>
            if c ≠ ascii 'u' then (none, ungetc next)
            else
              match parseQuadhex 4 0 next with
              | (some second, next) =>
                  if 0xdc00 ≤ second ∧ second ≤ 0xdfff then
                    (some (((leading - 0xd800) <<< 10 ||| (second - 0xdc00) &&& 0x3ff) + 0x10000),
                      next)
                  else (none, next)
              | (none, next) => (none, next)

def parseCodepoint (input : Input) : Option Bytes × Input :=
  match parseQuadhex 4 0 input with
  | (none, next) => (none, next)
  | (some uniCh, next) =>
      if 0xd800 ≤ uniCh ∧ uniCh ≤ 0xdfff then
        if 0xdc00 ≤ uniCh then (none, next)
        else
          match parseTrailing uniCh next with
          | (some joined, next) => (some (pushCodepoint joined), next)
          | (none, next) => (none, next)
      else (some (pushCodepoint uniCh), next)

def unescapeTable : List (UInt8 × UInt8) :=
  [(ascii '"', ascii '"'), (ascii '\\', ascii '\\'), (ascii '/', ascii '/'),
    (ascii 'b', ascii '\x08'), (ascii 'f', ascii '\x0c'), (ascii 'n', ascii '\n'),
    (ascii 'r', ascii '\r'), (ascii 't', ascii '\t')]

def parseEscape (input : Input) : Option Bytes × Input :=
  match getc input with
  | (none, next) => (none, next)
  | (some c, next) =>
      match unescapeTable.lookup c with
      | some value => (some [value], next)
      | none => if c = ascii 'u' then parseCodepoint next else (none, next)

def parseStringLoop : Nat → Bytes → Input → Outcome Bytes
  | 0, _, _ => .outOfFuel
  | fuel + 1, out, input =>
      match getc input with
      | (none, next) => .fail (ungetc next)
      | (some c, next) =>
          if c < ascii ' ' then .fail (ungetc next)
          else if c = ascii '"' then .ok out next
          else if c = ascii '\\' then
            match parseEscape next with
            | (some bytes, next) => parseStringLoop fuel (out ++ bytes) next
            | (none, next) => .fail next
          else parseStringLoop fuel (out ++ [c]) next

def parseString (input : Input) : Outcome Bytes :=
  parseStringLoop (input.rest.length + 1) [] input

/-! ## Numbers -/

def isNumberChar (c : UInt8) : Bool :=
  (ascii '0' ≤ c && c ≤ ascii '9') || c = ascii '+' || c = ascii '-' || c = ascii 'e' ||
    c = ascii 'E' || c = ascii '.'

def parseNumberFrom (numStr : Bytes) (input : Input) : Bytes → Bytes × Input
  | [] => (numStr, ungetc (getc { input with rest := [] }).2)
  | c :: rest =>
      let next := (getc { input with rest := c :: rest }).2
      if isNumberChar c then parseNumberFrom (numStr ++ [c]) next rest else (numStr, ungetc next)

def parseNumber (input : Input) : Bytes × Input := parseNumberFrom [] input input.rest

def splitSign : List Char → Bool × List Char
  | '-' :: rest => (true, rest)
  | '+' :: rest => (false, rest)
  | rest => (false, rest)

/-- The exponent of `strtod`'s subject and what follows it. -/
def exponentPart (text : List Char) : Int × List Char :=
  match text with
  | mark :: rest =>
      let (negative, unsigned) := splitSign rest
      let digits := unsigned.takeWhile Char.isDigit
      if (mark = 'e' ∨ mark = 'E') ∧ digits ≠ [] then
        let value : Int := Nat.ofDigitChars 10 digits 0
        (if negative then -value else value, unsigned.dropWhile Char.isDigit)
      else (0, text)
  | [] => (0, [])

/-- `±digits * 10 ^ exponent`, rounded; `none` is infinite. -/
def scaleByTen (negative : Bool) (digits : Nat) (exponent : Int) : Option Double :=
  roundRatio negative (digits * 10 ^ exponent.toNat) (10 ^ (-exponent).toNat)

/-- `strtod` on a decimal text in the C locale: the number and what is left
behind it. -/
def strtod (text : List Char) : Option Double × List Char :=
  let (negative, unsigned) := splitSign text
  let whole := unsigned.takeWhile Char.isDigit
  let afterWhole := unsigned.dropWhile Char.isDigit
  let (fraction, afterFraction) :=
    match afterWhole with
    | '.' :: rest => (rest.takeWhile Char.isDigit, rest.dropWhile Char.isDigit)
    | rest => ([], rest)
  if whole ++ fraction = [] then (some (DoubleRounding.zero false), text)
  else
    let (exponent, rest) := exponentPart afterFraction
    (scaleByTen negative (Nat.ofDigitChars 10 (whole ++ fraction) 0) (exponent - fraction.length),
      rest)

/-- The number case of `_parse`, from the first character on. -/
def parseNumberValue (input : Input) : Outcome Value :=
  match parseNumber input with
  | (numStr, next) =>
      if numStr.isEmpty then .fail next
      else
        match strtod (numStr.map fun c => Char.ofNat c.toNat) with
        | (number, []) =>
            match ofDouble number with
            | .ok value => .ok value next
            | .error exception => .throw exception
        | (_, _ :: _) => .fail next

/-! ## Values -/

/-- The three literals of `_parse`, from the second character on. -/
def parseWord (pattern : Bytes) (value : Value) (input : Input) : Outcome Value :=
  match matchPattern pattern input with
  | (true, next) => .ok value next
  | (false, next) => .fail next

mutual

def parseValue : Nat → Input → Outcome Value
  | 0, _ => .outOfFuel
  | fuel + 1, input =>
      match getc (skipWs input) with
      | (none, next) => .fail (ungetc next)
      | (some c, next) =>
          if c = ascii 'n' then parseWord [ascii 'u', ascii 'l', ascii 'l'] .null next
          else if c = ascii 'f' then
            parseWord [ascii 'a', ascii 'l', ascii 's', ascii 'e'] (.boolean false) next
          else if c = ascii 't' then
            parseWord [ascii 'r', ascii 'u', ascii 'e'] (.boolean true) next
          else if c = ascii '"' then
            match parseString next with
            | .ok bytes next => .ok (.string bytes) next
            | .fail next => .fail next
            | .throw exception => .throw exception
            | .outOfFuel => .outOfFuel
          else if c = ascii '[' then
            match expect (ascii ']') next with
            | (true, next) => .ok (.array []) next
            | (false, next) => parseItems fuel [] next
          else if c = ascii '{' then
            match expect (ascii '}') next with
            | (true, next) => .ok (.object []) next
            | (false, next) => parseEntries fuel [] next
          else if (ascii '0' ≤ c ∧ c ≤ ascii '9') ∨ c = ascii '-' then
            parseNumberValue (ungetc next)
          else .fail (ungetc next)

/-- The loop of `_parse_array`, with the items read so far. -/
def parseItems : Nat → List Value → Input → Outcome Value
  | 0, _, _ => .outOfFuel
  | fuel + 1, items, input =>
      match parseValue fuel input with
      | .ok item next =>
          match expect (ascii ',') next with
          | (true, next) => parseItems fuel (items ++ [item]) next
          | (false, next) =>
              match expect (ascii ']') next with
              | (true, next) => .ok (.array (items ++ [item])) next
              | (false, next) => .fail next
      | .fail next => .fail next
      | .throw exception => .throw exception
      | .outOfFuel => .outOfFuel

/-- The loop of `_parse_object`, with the entries read so far. -/
def parseEntries : Nat → List (Bytes × Value) → Input → Outcome Value
  | 0, _, _ => .outOfFuel
  | fuel + 1, entries, input =>
      match expect (ascii '"') input with
      | (false, next) => .fail next
      | (true, next) =>
          match parseString next with
          | .ok key next =>
              match expect (ascii ':') next with
              | (false, next) => .fail next
              | (true, next) =>
                  match parseValue fuel next with
                  | .ok item next =>
                      match expect (ascii ',') next with
                      | (true, next) => parseEntries fuel (assign key item entries) next
                      | (false, next) =>
                          match expect (ascii '}') next with
                          | (true, next) => .ok (.object (assign key item entries)) next
                          | (false, next) => .fail next
                  | .fail next => .fail next
                  | .throw exception => .throw exception
                  | .outOfFuel => .outOfFuel
          | .fail next => .fail next
          | .throw exception => .throw exception
          | .outOfFuel => .outOfFuel

end

/-- The line that `_parse` quotes: the characters from the place of the failure
to the end of the line, less control characters. -/
def nearText (input : Input) : Bytes :=
  (input.rest.takeWhile (· ≠ ascii '\n')).filter (ascii ' ' ≤ ·)

/-- `syntax error at line %d near: ` and the rest of the line. -/
def syntaxError (input : Input) : Bytes :=
  Utf8.encode "syntax error at line ".toList ++ (Nat.toDigits 10 input.line).map ascii ++
    Utf8.encode " near: ".toList ++ nearText input

inductive Parsed where
  | value (result : Value)
  | error (err : Bytes)
  | thrown (exception : Exception)
  | outOfFuel

/-- `picojson::parse`; what follows the value is not looked at. -/
def parse (text : Bytes) : Parsed :=
  match parseValue (2 * text.length + 2) ⟨none, text, 1⟩ with
  | .ok result _ => .value result
  | .fail input => .error (syntaxError input)
  | .throw exception => .thrown exception
  | .outOfFuel => .outOfFuel

end PyWebRTC.PicojsonParse
