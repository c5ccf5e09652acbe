import ConfigRegistry.Text.Base64

set_option autoImplicit false

/-!
Main statements: reading the padded standard form of some bytes gives these bytes, and no other text is read as them.
-/
namespace ConfigRegistry.Text.Base64

theorem value_symbol {n : Nat} (small : n < 64) : standard.value? (standard.symbol n) = some n := by
  have every : ∀ n < 64, standard.value? (standard.symbol n) = some n := by decide
  exact every n small

theorem symbol_not_padding {n : Nat} (small : n < 64) : standard.symbol n ≠ '=' := by
  have every : ∀ n < 64, standard.symbol n ≠ '=' := by decide
  exact every n small

theorem byte_of_nat {n : Nat} {byte : UInt8} (same : n = byte.toNat) : UInt8.ofNat n = byte := by
  rw [same, UInt8.ofNat_toNat]

theorem write_groups_onto (alphabet : Alphabet) (out : List Char) (bytes : Bytes) :
    writeGroups alphabet out bytes = writeGroups alphabet [] bytes ++ out := by
  match bytes with
  | [] => rfl
  | [a] => simp [writeGroups]
  | [a, b] => simp [writeGroups]
  | a :: b :: c :: rest =>
      simp only [writeGroups]
      rw [write_groups_onto alphabet (_ :: _ :: _ :: _ :: out) rest, write_groups_onto alphabet [_, _, _, _] rest]
      simp
termination_by bytes.length

section Groups

variable (a b c : UInt8) (out : Bytes)

theorem read_full_group (rest : List Char) (n : Nat) (number : n = a.toNat * 65536 + b.toNat * 256 + c.toNat) :
    readGroups standard out (standard.symbol (n / 262144) :: standard.symbol (n / 4096 % 64) ::
      standard.symbol (n / 64 % 64) :: standard.symbol (n % 64) :: rest) =
        readGroups standard (c :: b :: a :: out) rest := by
  have boundA := a.toNat_lt
  have boundB := b.toNat_lt
  have boundC := c.toNat_lt
  have first : n / 262144 < 64 := by omega
  have second : n / 4096 % 64 < 64 := by omega
  have third : n / 64 % 64 < 64 := by omega
  have fourth : n % 64 < 64 := by omega
  rw [readGroups]
  · simp only [value_symbol first, value_symbol second, value_symbol third, value_symbol fourth]
    have byteA : UInt8.ofNat (n / 262144 * 4 + n / 4096 % 64 / 16) = a := byte_of_nat (by omega)
    have byteB : UInt8.ofNat (n / 4096 % 64 % 16 * 16 + n / 64 % 64 / 4) = b := byte_of_nat (by omega)
    have byteC : UInt8.ofNat (n / 64 % 64 % 4 * 64 + n % 64) = c := byte_of_nat (by omega)
    rw [byteA, byteB, byteC]
  · intro third_padding
    exact absurd third_padding (symbol_not_padding third)
  · intro fourth_padding
    exact absurd fourth_padding (symbol_not_padding fourth)

theorem read_two (n : Nat) (number : n = a.toNat * 256 + b.toNat) :
    readGroups standard out [standard.symbol (n / 1024), standard.symbol (n / 16 % 64),
      standard.symbol (n % 16 * 4), '='] = some (out.reverse ++ [a, b]) := by
  have boundA := a.toNat_lt
  have boundB := b.toNat_lt
  have first : n / 1024 < 64 := by omega
  have second : n / 16 % 64 < 64 := by omega
  have third : n % 16 * 4 < 64 := by omega
  rw [readGroups]
  · have whole : n % 16 * 4 % 4 = 0 := by omega
    have byteA : UInt8.ofNat (n / 1024 * 4 + n / 16 % 64 / 16) = a := byte_of_nat (by omega)
    have byteB : UInt8.ofNat (n / 16 % 64 % 16 * 16 + n % 16 * 4 / 4) = b := byte_of_nat (by omega)
    simp only [value_symbol first, value_symbol second, value_symbol third, Option.bind_eq_bind, Option.bind_some,
      if_pos whole, byteA, byteB]
    simp
  · intro third_padding
    exact absurd third_padding (symbol_not_padding third)

theorem read_one :
    readGroups standard out [standard.symbol (a.toNat / 4), standard.symbol (a.toNat % 4 * 16), '=', '='] =
      some (out.reverse ++ [a]) := by
  have boundA := a.toNat_lt
  have first : a.toNat / 4 < 64 := by omega
  have second : a.toNat % 4 * 16 < 64 := by omega
  have whole : a.toNat % 4 * 16 % 16 = 0 := by omega
  have byteA : UInt8.ofNat (a.toNat / 4 * 4 + a.toNat % 4 * 16 / 16) = a := byte_of_nat (by omega)
  rw [readGroups]
  simp only [value_symbol first, value_symbol second, Option.bind_eq_bind, Option.bind_some, if_pos whole, byteA]
  simp

end Groups

theorem read_written (bytes out : Bytes) :
    readGroups standard out (writeGroups standard [] bytes).reverse = some (out.reverse ++ bytes) := by
  match bytes with
  | [] => simp [writeGroups, readGroups]
  | [a] => exact read_one a out
  | [a, b] => exact read_two a b out _ rfl
  | a :: b :: c :: rest =>
      rw [writeGroups, write_groups_onto]
      simp only [List.reverse_append, List.reverse_cons, List.reverse_nil, List.nil_append, List.cons_append]
      rw [read_full_group a b c out _ _ rfl, read_written rest]
      simp
termination_by bytes.length

theorem decode_encode (bytes : Bytes) : decode? (encode standard bytes) = some bytes := by
  rw [decode?, encode, String.toList_ofList]
  exact read_written bytes []

theorem letter_of_offset {c : Char} {n low : Nat} (above : low ≤ c.toNat) (offset : n = c.toNat - low) :
    Char.ofNat (low + n) = c := by
  rw [offset, Nat.add_sub_cancel' above, Char.ofNat_toNat]

theorem symbol_value {c : Char} {n : Nat} (found : standard.value? c = some n) : n < 64 ∧ standard.symbol n = c := by
  have bounds (low high : Char) (between : (low ≤ c && c ≤ high) = true) :
      low.toNat ≤ c.toNat ∧ c.toNat ≤ high.toNat := by
    simpa [Char.le_def, UInt32.le_iff_toNat_le] using between
  rw [Alphabet.value?] at found
  by_cases upper : ('A' ≤ c && c ≤ 'Z') = true
  · rw [if_pos upper, Option.some.injEq] at found
    have range := bounds 'A' 'Z' upper
    simp only [Char.reduceToNat] at range
    have small : n < 26 := by omega
    rw [Alphabet.symbol, if_pos small]
    exact ⟨by omega, letter_of_offset range.1 found.symm⟩
  rw [if_neg upper] at found
  by_cases lower : ('a' ≤ c && c ≤ 'z') = true
  · rw [if_pos lower, Option.some.injEq] at found
    have range := bounds 'a' 'z' lower
    simp only [Char.reduceToNat] at range
    rw [Alphabet.symbol, if_neg (by omega), if_pos (by omega)]
    exact ⟨by omega, letter_of_offset range.1 (by omega)⟩
  rw [if_neg lower] at found
  by_cases digit : ('0' ≤ c && c ≤ '9') = true
  · rw [if_pos digit, Option.some.injEq] at found
    have range := bounds '0' '9' digit
    simp only [Char.reduceToNat] at range
    rw [Alphabet.symbol, if_neg (by omega), if_neg (by omega), if_pos (by omega)]
    exact ⟨by omega, letter_of_offset range.1 (by omega)⟩
  rw [if_neg digit] at found
  by_cases plus : c = standard.symbol62
  · rw [if_pos plus, Option.some.injEq] at found
    subst found
    exact ⟨by decide, plus.symm⟩
  rw [if_neg plus] at found
  by_cases slash : c = standard.symbol63
  · rw [if_pos slash, Option.some.injEq] at found
    subst found
    exact ⟨by decide, slash.symm⟩
  · rw [if_neg slash] at found
    exact nomatch found

theorem symbol_at {c : Char} {n value : Nat} (found : standard.value? c = some value) (same : n = value) :
    standard.symbol n = c := same ▸ (symbol_value found).2

section Reading

variable {w x y z : Char} {a b c d : Nat} (first : standard.value? w = some a) (second : standard.value? x = some b)
include first second

theorem one_written (whole : b % 16 = 0) :
    (writeGroups standard [] [UInt8.ofNat (a * 4 + b / 16)]).reverse = [w, x, '=', '='] := by
  obtain ⟨boundA, -⟩ := symbol_value first
  obtain ⟨boundB, -⟩ := symbol_value second
  have symbolA : standard.symbol ((a * 4 + b / 16) / 4) = w := symbol_at first (by omega)
  have symbolB : standard.symbol ((a * 4 + b / 16) % 4 * 16) = x := symbol_at second (by omega)
  have byteA : a * 4 + b / 16 < 256 := by omega
  rw [writeGroups, UInt8.toNat_ofNat_of_lt' byteA, symbolA, symbolB]
  rfl

theorem two_written (third : standard.value? y = some c) (whole : c % 4 = 0) :
    (writeGroups standard [] [UInt8.ofNat (a * 4 + b / 16), UInt8.ofNat (b % 16 * 16 + c / 4)]).reverse =
      [w, x, y, '='] := by
  obtain ⟨boundA, -⟩ := symbol_value first
  obtain ⟨boundB, -⟩ := symbol_value second
  obtain ⟨boundC, -⟩ := symbol_value third
  obtain ⟨n, number⟩ : ∃ n, (a * 4 + b / 16) * 256 + (b % 16 * 16 + c / 4) = n := ⟨_, rfl⟩
  have symbolA : standard.symbol (n / 1024) = w := symbol_at first (by omega)
  have symbolB : standard.symbol (n / 16 % 64) = x := symbol_at second (by omega)
  have symbolC : standard.symbol (n % 16 * 4) = y := symbol_at third (by omega)
  have byteA : a * 4 + b / 16 < 256 := by omega
  have byteB : b % 16 * 16 + c / 4 < 256 := by omega
  rw [writeGroups, UInt8.toNat_ofNat_of_lt' byteA, UInt8.toNat_ofNat_of_lt' byteB, number, symbolA, symbolB, symbolC]
  rfl

theorem full_written (third : standard.value? y = some c) (fourth : standard.value? z = some d) (rest : Bytes) :
    (writeGroups standard [] (UInt8.ofNat (a * 4 + b / 16) :: UInt8.ofNat (b % 16 * 16 + c / 4) ::
      UInt8.ofNat (c % 4 * 64 + d) :: rest)).reverse = w :: x :: y :: z :: (writeGroups standard [] rest).reverse := by
  obtain ⟨boundA, -⟩ := symbol_value first
  obtain ⟨boundB, -⟩ := symbol_value second
  obtain ⟨boundC, -⟩ := symbol_value third
  obtain ⟨boundD, -⟩ := symbol_value fourth
  obtain ⟨n, number⟩ : ∃ n, (a * 4 + b / 16) * 65536 + (b % 16 * 16 + c / 4) * 256 + (c % 4 * 64 + d) = n := ⟨_, rfl⟩
  have symbolA : standard.symbol (n / 262144) = w := symbol_at first (by omega)
  have symbolB : standard.symbol (n / 4096 % 64) = x := symbol_at second (by omega)
  have symbolC : standard.symbol (n / 64 % 64) = y := symbol_at third (by omega)
  have symbolD : standard.symbol (n % 64) = z := symbol_at fourth (by omega)
  have byteA : a * 4 + b / 16 < 256 := by omega
  have byteB : b % 16 * 16 + c / 4 < 256 := by omega
  have byteC : c % 4 * 64 + d < 256 := by omega
  rw [writeGroups, UInt8.toNat_ofNat_of_lt' byteA, UInt8.toNat_ofNat_of_lt' byteB, UInt8.toNat_ofNat_of_lt' byteC,
    number, symbolA, symbolB, symbolC, symbolD, write_groups_onto]
  simp

end Reading

-- The bytes that a text is read as are written as that text: no two texts are read alike.
theorem written_read {text : List Char} {out bytes : Bytes} (read : readGroups standard out text = some bytes) :
    ∃ rest, bytes = out.reverse ++ rest ∧ (writeGroups standard [] rest).reverse = text := by
  fun_induction readGroups standard out text with
  | case1 out =>
      cases read
      exact ⟨[], by simp, rfl⟩
  | case2 out w x =>
      simp only [Option.bind_eq_bind, Option.bind_eq_some_iff, Option.ite_none_right_eq_some, Option.some.injEq] at read
      obtain ⟨a, first, b, second, whole, rfl⟩ := read
      exact ⟨_, List.reverse_cons, one_written first second whole⟩
  | case3 out w x y open_ =>
      simp only [Option.bind_eq_bind, Option.bind_eq_some_iff, Option.ite_none_right_eq_some, Option.some.injEq] at read
      obtain ⟨a, first, b, second, c, third, whole, rfl⟩ := read
      exact ⟨_, by simp, two_written first second third whole⟩
  | case4 out w x y z rest _ _ a b c d fourth third second first ih =>
      obtain ⟨later, rfl, written⟩ := ih read
      refine ⟨_, ?_, (full_written first second third fourth later).trans (by rw [written])⟩
      simp
  | case5 => exact nomatch read
  | case6 => exact nomatch read

theorem encode_decode {text : String} {bytes : Bytes} (read : decode? text = some bytes) :
    encode standard bytes = text := by
  obtain ⟨rest, rfl, written⟩ := written_read read
  simp [encode, written]

end ConfigRegistry.Text.Base64
