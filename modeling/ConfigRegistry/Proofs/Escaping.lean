import ConfigRegistry.Json.Scan

set_option autoImplicit false

/-!
Texts between quotes. Main statements: an escaped text is scanned up to its closing quote, and its value is the text.
-/
namespace ConfigRegistry.Json

open Text (toBytes)

-- The bytes that have no escape of their own but a number.
def isNumbered (byte : UInt8) : Bool :=
  byte < 32 && byte != 8 && byte != 9 && byte != 10 && byte != 12 && byte != 13

def pieceOf (byte : UInt8) : Piece := if isNumbered byte then .unit byte.toNat else .byte byte

theorem hex_unit_low (n : Nat) (small : n < 32) : hexUnit? 48 48 (hexByte (n / 16)) (hexByte (n % 16)) = some n := by
  have every : ∀ n < 32, hexUnit? 48 48 (hexByte (n / 16)) (hexByte (n % 16)) = some n := by decide
  exact every n small

-- The ways in which a byte is escaped.
theorem escape_cases (byte : UInt8) :
    (∃ mark, isNumbered byte = false ∧ escapeByte byte = [92, mark] ∧ mark ≠ 117 ∧ shortEscape? mark = some byte) ∨
      (isNumbered byte = true ∧ byte.toNat < 32 ∧
        escapeByte byte = [92, 117, 48, 48, hexByte (byte.toNat / 16), hexByte (byte.toNat % 16)]) ∨
      (isNumbered byte = false ∧ escapeByte byte = [byte] ∧ byte ≠ 34 ∧ byte ≠ 92 ∧ ¬ byte < 32) := by
  by_cases quote : byte = 34
  · subst byte
    exact .inl ⟨34, by decide⟩
  by_cases backslash : byte = 92
  · subst byte
    exact .inl ⟨92, by decide⟩
  by_cases backspace : byte = 8
  · subst byte
    exact .inl ⟨98, by decide⟩
  by_cases tab : byte = 9
  · subst byte
    exact .inl ⟨116, by decide⟩
  by_cases newline : byte = 10
  · subst byte
    exact .inl ⟨110, by decide⟩
  by_cases feed : byte = 12
  · subst byte
    exact .inl ⟨102, by decide⟩
  by_cases carriage : byte = 13
  · subst byte
    exact .inl ⟨114, by decide⟩
  by_cases control : byte < 32
  · refine .inr (.inl ⟨?_, UInt8.lt_iff_toNat_lt.mp control, ?_⟩)
    · simp [isNumbered, control, backspace, tab, newline, feed, carriage]
    · simp [escapeByte, quote, backslash, backspace, tab, newline, feed, carriage, control]
  · refine .inr (.inr ⟨?_, ?_, quote, backslash, control⟩)
    · simp [isNumbered, control]
    · simp [escapeByte, quote, backslash, backspace, tab, newline, feed, carriage, control]

theorem scan_text_byte (byte : UInt8) (out rest : Bytes) :
    scanText out (escapeByte byte ++ rest) = scanText ((escapeByte byte).reverse ++ out) rest := by
  rcases escape_cases byte with
    ⟨mark, _, escaped, letter, short⟩ | ⟨_, small, escaped⟩ | ⟨_, escaped, quote, backslash, high⟩
  · rw [escaped]
    show scanText out (92 :: mark :: rest) = _
    rw [scanText, short]
    · rfl
    · intro a b c d more same
      exact absurd same letter
  · rw [escaped]
    show scanText out (92 :: 117 :: 48 :: 48 :: hexByte (byte.toNat / 16) :: hexByte (byte.toNat % 16) :: rest) = _
    rw [scanText, hex_unit_low _ small]
    rfl
  · rw [escaped]
    show scanText out (byte :: rest) = _
    rw [scanText]
    · simp [high, backslash]
    · exact quote
    · intro a b c d more same
      exact absurd same backslash
    · intro mark more same
      exact absurd same backslash

theorem scan_text_escaped (bytes out rest : Bytes) :
    scanText out (escape bytes ++ 34 :: rest) = some (out.reverse ++ escape bytes, rest) := by
  induction bytes generalizing out with
  | nil => simp [escape, scanText]
  | cons byte bytes ih =>
      have split : escape (byte :: bytes) = escapeByte byte ++ escape bytes := List.flatMap_cons
      rw [split, List.append_assoc, scan_text_byte, ih]
      simp

theorem pieces_byte (byte : UInt8) (out : List Piece) (rest : Bytes) :
    pieces out (escapeByte byte ++ rest) = pieces (pieceOf byte :: out) rest := by
  rcases escape_cases byte with
    ⟨mark, plain, escaped, letter, short⟩ | ⟨numbered, small, escaped⟩ | ⟨plain, escaped, quote, backslash, high⟩
  · rw [escaped, pieceOf, plain]
    show pieces out (92 :: mark :: rest) = _
    rw [pieces, short]
    · rfl
    · intro a b c d more same
      exact absurd same letter
  · rw [escaped, pieceOf, numbered]
    show pieces out (92 :: 117 :: 48 :: 48 :: hexByte (byte.toNat / 16) :: hexByte (byte.toNat % 16) :: rest) = _
    rw [pieces, hex_unit_low _ small]
    rfl
  · rw [escaped, pieceOf, plain]
    show pieces out (byte :: rest) = _
    rw [pieces]
    · rfl
    · intro a b c d more same
      exact absurd same backslash
    · intro mark more same
      exact absurd same backslash

theorem pieces_escaped (bytes : Bytes) (out : List Piece) :
    pieces out (escape bytes) = some (out.reverse ++ bytes.map pieceOf) := by
  induction bytes generalizing out with
  | nil => simp [escape, pieces]
  | cons byte bytes ih =>
      have split : escape (byte :: bytes) = escapeByte byte ++ escape bytes := List.flatMap_cons
      rw [split, pieces_byte, ih]
      simp

theorem encode_low (n : Nat) (small : n < 32) : String.utf8EncodeChar (Char.ofNat n) = [UInt8.ofNat n] := by
  have every : ∀ n < 32, String.utf8EncodeChar (Char.ofNat n) = [UInt8.ofNat n] := by decide
  exact every n small

theorem join_piece (byte : UInt8) (out : Bytes) (rest : List Piece) :
    joinPieces out (pieceOf byte :: rest) = joinPieces (byte :: out) rest := by
  by_cases numbered : isNumbered byte = true
  · have small : byte.toNat < 32 := by
      simp only [isNumbered, Bool.and_eq_true, decide_eq_true_eq] at numbered
      exact UInt8.lt_iff_toNat_lt.mp numbered.1.1.1.1.1
    have leading : isLeading byte.toNat = false := by
      simp only [isLeading, Bool.and_eq_false_iff, decide_eq_false_iff_not]
      omega
    have trailing : isTrailing byte.toNat = false := by
      simp only [isTrailing, Bool.and_eq_false_iff, decide_eq_false_iff_not]
      omega
    rw [pieceOf, if_pos numbered]
    cases rest with
    | nil => simp [joinPieces, leading, trailing, encode_low _ small]
    | cons piece rest => cases piece <;> simp [joinPieces, leading, trailing, encode_low _ small]
  · rw [pieceOf, if_neg numbered, joinPieces]

theorem join_pieces (bytes out : Bytes) : joinPieces out (bytes.map pieceOf) = some (out.reverse ++ bytes) := by
  induction bytes generalizing out with
  | nil => simp [joinPieces]
  | cons byte bytes ih =>
      rw [List.map_cons, join_piece, ih]
      simp

theorem read_escaped (text : String) : readText? (escape (toBytes text)) = some text := by
  simp [readText?, pieces_escaped, join_pieces, Text.of_bytes_to_bytes]

end ConfigRegistry.Json
