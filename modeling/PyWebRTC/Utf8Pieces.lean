import PyWebRTC.Utf8

/-!
Where UTF-8 can be cut. An ASCII byte is no part of a longer character, so bytes
around it are UTF-8 together if and only if they are on both sides. What begins
and ends in ASCII is a piece: a sequence of pieces is UTF-8 if and only if each
of them is.
-/

namespace PyWebRTC.Utf8Pieces

open Utf8

set_option autoImplicit false

def Narrow (bytes : List UInt8) : Prop := ∀ byte ∈ bytes, byte.toNat < 0x80

theorem is_utf8_nil : IsUtf8 [] := is_utf8_encode []

theorem is_utf8_append {left right : List UInt8} (validLeft : IsUtf8 left)
    (validRight : IsUtf8 right) : IsUtf8 (left ++ right) := by
  rw [← encode_text_of validLeft, ← encode_text_of validRight, ← encode_append]
  exact is_utf8_encode _

theorem is_utf8_singleton {byte : UInt8} (narrow : byte.toNat < 0x80) : IsUtf8 [byte] := by
  obtain ⟨code, same⟩ := ascii_of_nat narrow
  rw [← same, ← encode_ascii (by omega)]
  simpa [encode] using is_utf8_encode [Char.ofNat byte.toNat]

/-- The characters before an ASCII byte end there. -/
theorem is_utf8_of_encode_eq {byte : UInt8} (narrow : byte.toNat < 0x80) {text : List Char}
    {before after : List UInt8} (split : encode text = before ++ byte :: after) :
    IsUtf8 before ∧ IsUtf8 after := by
  induction text generalizing before with
  | nil => simp at split
  | cons first rest ih =>
      rw [encode_cons] at split
      rcases List.append_eq_append_iff.mp split with
        ⟨between, rfl, others⟩ | ⟨ending, firstSplit, behind⟩
      · obtain ⟨validBetween, validAfter⟩ := ih others
        refine ⟨is_utf8_append ?_ validBetween, validAfter⟩
        simpa [encode] using is_utf8_encode [first]
      · cases ending with
        | nil =>
            rw [List.append_nil] at firstSplit
            obtain ⟨-, validAfter⟩ := @ih [] behind.symm
            refine ⟨?_, validAfter⟩
            rw [← firstSplit]
            simpa [encode] using is_utf8_encode [first]
        | cons mark ending =>
            obtain ⟨rfl, rfl⟩ := List.cons.inj behind
            by_cases narrowFirst : first.toNat < 0x80
            · rw [encode_ascii narrowFirst] at firstSplit
              obtain ⟨rfl, one⟩ := (List.append_eq_singleton_iff.mp firstSplit.symm).resolve_right
                (by simp)
              obtain ⟨rfl, rfl⟩ := List.cons.inj one
              exact ⟨is_utf8_nil, is_utf8_encode rest⟩
            · have wide := le_of_mem_encode (Nat.le_of_not_lt narrowFirst)
                (show byte ∈ String.utf8EncodeChar first by simp [firstSplit])
              omega

theorem is_utf8_append_cons_iff {byte : UInt8} (narrow : byte.toNat < 0x80)
    (before after : List UInt8) :
    IsUtf8 (before ++ byte :: after) ↔ IsUtf8 before ∧ IsUtf8 after := by
  constructor
  · intro valid
    exact is_utf8_of_encode_eq narrow (encode_text_of valid)
  · rintro ⟨validBefore, validAfter⟩
    exact is_utf8_append validBefore (is_utf8_append (is_utf8_singleton narrow) validAfter)

/-! ## Pieces -/

/-- Wherever the piece stands, it is cut off on both sides; it is UTF-8 itself
under the condition. -/
def Piece (bytes : List UInt8) (valid : Prop) : Prop :=
  ∀ before after,
    IsUtf8 (before ++ bytes ++ after) ↔ IsUtf8 before ∧ valid ∧ IsUtf8 after

theorem piece_cons {byte : UInt8} {rest : List UInt8} (narrow : byte.toNat < 0x80)
    (narrowRest : Narrow rest) : Piece (byte :: rest) True := by
  induction rest generalizing byte with
  | nil =>
      intro before after
      rw [List.append_assoc, List.singleton_append, is_utf8_append_cons_iff narrow, true_and]
  | cons second rest ih =>
      intro before after
      have narrowSecond := narrowRest second (by simp)
      have others := ih narrowSecond (fun other member => narrowRest other (by simp [member])) []
        after
      rw [List.append_assoc, List.cons_append, is_utf8_append_cons_iff narrow]
      simpa [is_utf8_nil] using fun _ => others

theorem piece_of_narrow {bytes : List UInt8} (nonempty : bytes ≠ []) (narrow : Narrow bytes) :
    Piece bytes True := by
  obtain ⟨byte, rest, rfl⟩ := List.exists_cons_of_ne_nil nonempty
  exact piece_cons (narrow byte (by simp)) fun other member => narrow other (by simp [member])

theorem piece_append {left right : List UInt8} {validLeft validRight : Prop}
    (pieceLeft : Piece left validLeft) (pieceRight : Piece right validRight) :
    Piece (left ++ right) (validLeft ∧ validRight) := by
  intro before after
  rw [← List.append_assoc, pieceRight, ← List.append_nil (before ++ left), pieceLeft]
  simp only [is_utf8_nil, and_true, and_assoc]

theorem piece_congr {bytes : List UInt8} {valid condition : Prop} (piece : Piece bytes valid)
    (same : valid ↔ condition) : Piece bytes condition := by
  rwa [← propext same]

theorem piece_append_narrow {bytes ending : List UInt8} {valid : Prop} (piece : Piece bytes valid)
    (narrow : Narrow ending) : Piece (bytes ++ ending) valid := by
  by_cases empty : ending = []
  · rwa [empty, List.append_nil]
  · exact piece_congr (piece_append piece (piece_of_narrow empty narrow)) (by simp)

theorem piece_between {opening closing : UInt8} (narrowOpening : opening.toNat < 0x80)
    (narrowClosing : closing.toNat < 0x80) (bytes : List UInt8) :
    Piece (opening :: bytes ++ [closing]) (IsUtf8 bytes) := by
  intro before after
  have shape : before ++ (opening :: bytes ++ [closing]) ++ after =
      before ++ opening :: (bytes ++ closing :: after) := by simp
  rw [shape, is_utf8_append_cons_iff narrowOpening, is_utf8_append_cons_iff narrowClosing]

theorem piece_is_utf8 {bytes : List UInt8} {valid : Prop} (piece : Piece bytes valid) :
    IsUtf8 bytes ↔ valid := by
  simpa [is_utf8_nil] using piece [] []

/-! ## Rewriting ASCII -/

/-- Writing ASCII characters in other ones, and nothing else, is no matter for
UTF-8. -/
theorem is_utf8_flat_map_iff {rewritten : UInt8 → List UInt8}
    (keeps : ∀ byte, 0x80 ≤ byte.toNat → rewritten byte = [byte])
    (writes : ∀ byte, byte.toNat < 0x80 → rewritten byte ≠ [] ∧ Narrow (rewritten byte))
    (bytes : List UInt8) : IsUtf8 (bytes.flatMap rewritten) ↔ IsUtf8 bytes := by
  have behind : ∀ before, IsUtf8 (before ++ bytes.flatMap rewritten) ↔ IsUtf8 (before ++ bytes) := by
    induction bytes with
    | nil => simp
    | cons byte rest ih =>
        intro before
        rw [List.flatMap_cons]
        by_cases narrow : byte.toNat < 0x80
        · obtain ⟨nonempty, narrowWritten⟩ := writes byte narrow
          have written := piece_of_narrow nonempty narrowWritten before (rest.flatMap rewritten)
          have others := ih []
          rw [List.nil_append, List.nil_append] at others
          rw [← List.append_assoc, written, is_utf8_append_cons_iff narrow, true_and, others]
        · have others := ih (before ++ [byte])
          rw [keeps byte (Nat.le_of_not_lt narrow)]
          simpa using others
  simpa using behind []

end PyWebRTC.Utf8Pieces
