import Mathlib.Data.Nat.Log
import PyWebRTC.JsonText
import PyWebRTC.PicojsonValue

/-!
# picojson's serializer

`value::_serialize` writes one text into one buffer; here each piece returns
what it appends. The indentation is the source's, with `none` for its -1.
-/

namespace PyWebRTC.PicojsonSerialize

open DoubleRounding (Double divideHalfEven magnitude truncatedMagnitude isIntegral)
open JsonText (unicodeEscape)
open PicojsonValue
open Utf8 (ascii)

set_option autoImplicit false

/-! ## Numbers -/

/-- `%.f` of an integral number. -/
def formatInteger (number : Double) : List Char :=
  (if number.negative then ['-'] else []) ++ Nat.toDigits 10 (truncatedMagnitude number)

def decimalExponent (p q : Nat) : Int :=
  if q ≤ p then (Nat.log 10 (p / q) : Int) else -(Nat.clog 10 ((q + p - 1) / p) : Int)

/-- Seventeen significant digits of `p / q`, as an integer, and the power of
ten of the first. -/
def significand17 (p q : Nat) : Nat × Int :=
  let exponent := decimalExponent p q
  let digits := divideHalfEven (p * 10 ^ (16 - exponent).toNat) (q * 10 ^ (exponent - 16).toNat)
  if digits = 10 ^ 17 then (10 ^ 16, exponent + 1) else (digits, exponent)

def stripTrailingZeros (digits : List Char) : List Char :=
  (digits.reverse.dropWhile (· = '0')).reverse

def withFraction (whole fraction : List Char) : List Char :=
  match stripTrailingZeros fraction with
  | [] => whole
  | kept => whole ++ '.' :: kept

/-- `%.17g` of a number other than zero. -/
def formatGeneral (number : Double) : List Char :=
  let (significand, exponent) := significand17 (magnitude number).1 (magnitude number).2
  let digits := Nat.toDigits 10 significand
  let sign := if number.negative then ['-'] else []
  if exponent < -4 ∨ 17 ≤ exponent then
    let power := Nat.toDigits 10 exponent.natAbs
    sign ++ withFraction (digits.take 1) (digits.drop 1) ++
      ['e', if exponent < 0 then '-' else '+'] ++
      List.replicate (2 - power.length) '0' ++ power
  else if exponent < 0 then
    sign ++ withFraction ['0'] (List.replicate (-exponent - 1).toNat '0' ++ digits)
  else
    sign ++ withFraction (digits.take (exponent.toNat + 1)) (digits.drop (exponent.toNat + 1))

def formatNumber (number : Double) : List Char :=
  if truncatedMagnitude number < 2 ^ 53 ∧ isIntegral number then formatInteger number
  else formatGeneral number

/-! ## Strings -/

def escapeTable : List (UInt8 × List Char) :=
  [(ascii '"', ['\\', '"']), (ascii '\\', ['\\', '\\']), (ascii '/', ['\\', '/']),
    (ascii '\x08', ['\\', 'b']), (ascii '\x0c', ['\\', 'f']), (ascii '\n', ['\\', 'n']),
    (ascii '\r', ['\\', 'r']), (ascii '\t', ['\\', 't'])]

def serializeStrChar (c : UInt8) : Bytes :=
  match escapeTable.lookup c with
  | some sym => sym.map ascii
  | none =>
      if c.toNat < 0x20 ∨ c.toNat = 0x7f then (unicodeEscape c.toNat).map ascii
      else [c]

def serializeStr (s : Bytes) : Bytes :=
  ascii '"' :: s.flatMap serializeStrChar ++ [ascii '"']

/-! ## Values -/

def indentWidth : Nat := 2

/-- `_indent`, which is called only where the indentation is not -1. -/
def lineIndent : Option Nat → Bytes
  | none => []
  | some indent => ascii '\n' :: List.replicate (indent * indentWidth) (ascii ' ')

/-- What goes before an element: a comma unless it is the first, and a new
line. -/
def separator (indent : Option Nat) (first : Bool) : Bytes :=
  (if first then [] else [ascii ',']) ++ lineIndent indent

mutual

/-- `_serialize`, less the line feed it ends the outermost value with. -/
def serializeInner (indent : Option Nat) : Value → Bytes
  | .null => [ascii 'n', ascii 'u', ascii 'l', ascii 'l']
  | .boolean true => [ascii 't', ascii 'r', ascii 'u', ascii 'e']
  | .boolean false => [ascii 'f', ascii 'a', ascii 'l', ascii 's', ascii 'e']
  | .number number => (formatNumber number).map ascii
  | .string s => serializeStr s
  | .array items =>
      ascii '[' :: serializeItems (indent.map (· + 1)) true items ++
        (if items.isEmpty then [] else lineIndent indent) ++ [ascii ']']
  | .object entries =>
      ascii '{' :: serializeEntries (indent.map (· + 1)) true entries ++
        (if entries.isEmpty then [] else lineIndent indent) ++ [ascii '}']

def serializeItems (indent : Option Nat) (first : Bool) : List Value → Bytes
  | [] => []
  | item :: rest =>
      separator indent first ++ serializeInner indent item ++ serializeItems indent false rest

def serializeEntries (indent : Option Nat) (first : Bool) : List (Bytes × Value) → Bytes
  | [] => []
  | entry :: rest =>
      separator indent first ++ serializeEntry indent entry ++ serializeEntries indent false rest

def serializeEntry (indent : Option Nat) : Bytes × Value → Bytes
  | (key, item) =>
      serializeStr key ++ ascii ':' :: (if indent.isSome then [ascii ' '] else []) ++
        serializeInner indent item

end

def serialize (value : Value) (prettify : Bool) : Bytes :=
  if prettify then serializeInner (some 0) value ++ [ascii '\n'] else serializeInner none value

end PyWebRTC.PicojsonSerialize
