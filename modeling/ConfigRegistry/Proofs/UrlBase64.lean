import ConfigRegistry.Proofs.Base64

set_option autoImplicit false

/-!
Main statement: bytes that differ have different unpadded forms in the alphabet for keys.
-/
namespace ConfigRegistry.Text.Base64

theorem url_value_symbol {n : Nat} (small : n < 64) : urlSafe.value? (urlSafe.symbol n) = some n := by
  have every : ∀ n < 64, urlSafe.value? (urlSafe.symbol n) = some n := by decide
  exact every n small

theorem url_symbol_injective {m n : Nat} (left : m < 64) (right : n < 64) (same : urlSafe.symbol m = urlSafe.symbol n) :
    m = n := by
  have read := congrArg urlSafe.value? same
  rw [url_value_symbol left, url_value_symbol right] at read
  exact Option.some.inj read

-- The symbols that some bytes are written in, the first one first.
def urlSymbols (bytes : Bytes) : List Char := (writeGroups urlSafe [] bytes).reverse

section Groups

variable (a b c : UInt8)

theorem url_symbols_one : urlSymbols [a] = [urlSafe.symbol (a.toNat / 4), urlSafe.symbol (a.toNat % 4 * 16)] := rfl

theorem url_symbols_two {n : Nat} (number : n = a.toNat * 256 + b.toNat) :
    urlSymbols [a, b] = [urlSafe.symbol (n / 1024), urlSafe.symbol (n / 16 % 64), urlSafe.symbol (n % 16 * 4)] := by
  subst number
  rfl

theorem url_symbols_full {n : Nat} (number : n = a.toNat * 65536 + b.toNat * 256 + c.toNat) (rest : Bytes) :
    urlSymbols (a :: b :: c :: rest) = urlSafe.symbol (n / 262144) :: urlSafe.symbol (n / 4096 % 64) ::
      urlSafe.symbol (n / 64 % 64) :: urlSafe.symbol (n % 64) :: urlSymbols rest := by
  subst number
  rw [urlSymbols, writeGroups, write_groups_onto]
  simp [urlSymbols]

theorem length_url_symbols (bytes : Bytes) : (urlSymbols bytes).length = (bytes.length * 4 + 2) / 3 := by
  match bytes with
  | [] => rfl
  | [a] => simp [url_symbols_one]
  | [a, b] => simp [url_symbols_two a b rfl]
  | a :: b :: c :: rest =>
      rw [url_symbols_full a b c rfl]
      simp only [List.length_cons, length_url_symbols rest]
      omega
termination_by bytes.length

end Groups

theorem same_one {a b : UInt8} (same : urlSymbols [a] = urlSymbols [b]) : a = b := by
  rw [url_symbols_one, url_symbols_one] at same
  simp only [List.cons.injEq, and_true] at same
  obtain ⟨high, low⟩ := same
  have boundA := a.toNat_lt
  have boundB := b.toNat_lt
  have first := url_symbol_injective (by omega) (by omega) high
  have second := url_symbol_injective (by omega) (by omega) low
  exact UInt8.toNat_inj.mp (by omega)

theorem same_two {a b c d : UInt8} (same : urlSymbols [a, b] = urlSymbols [c, d]) : a = c ∧ b = d := by
  have boundA := a.toNat_lt
  have boundB := b.toNat_lt
  have boundC := c.toNat_lt
  have boundD := d.toNat_lt
  rw [url_symbols_two a b rfl, url_symbols_two c d rfl] at same
  simp only [List.cons.injEq, and_true] at same
  obtain ⟨high, middle, low⟩ := same
  have first := url_symbol_injective (by omega) (by omega) high
  have second := url_symbol_injective (by omega) (by omega) middle
  have third := url_symbol_injective (by omega) (by omega) low
  exact ⟨UInt8.toNat_inj.mp (by omega), UInt8.toNat_inj.mp (by omega)⟩

theorem same_full {a b c d e f : UInt8} {rest more : Bytes}
    (same : urlSymbols (a :: b :: c :: rest) = urlSymbols (d :: e :: f :: more)) :
    (a = d ∧ b = e ∧ c = f) ∧ urlSymbols rest = urlSymbols more := by
  have boundA := a.toNat_lt
  have boundB := b.toNat_lt
  have boundC := c.toNat_lt
  have boundD := d.toNat_lt
  have boundE := e.toNat_lt
  have boundF := f.toNat_lt
  rw [url_symbols_full a b c rfl, url_symbols_full d e f rfl] at same
  simp only [List.cons.injEq] at same
  obtain ⟨one, two, three, four, tails⟩ := same
  have first := url_symbol_injective (by omega) (by omega) one
  have second := url_symbol_injective (by omega) (by omega) two
  have third := url_symbol_injective (by omega) (by omega) three
  have fourth := url_symbol_injective (by omega) (by omega) four
  exact ⟨⟨UInt8.toNat_inj.mp (by omega), UInt8.toNat_inj.mp (by omega), UInt8.toNat_inj.mp (by omega)⟩, tails⟩

theorem url_symbols_injective {left right : Bytes} (lengths : left.length = right.length)
    (same : urlSymbols left = urlSymbols right) : left = right := by
  match left, right with
  | [], [] => rfl
  | [a], [b] => rw [same_one same]
  | [a, b], [c, d] =>
      obtain ⟨rfl, rfl⟩ := same_two same
      rfl
  | a :: b :: c :: rest, d :: e :: f :: more =>
      obtain ⟨⟨rfl, rfl, rfl⟩, tails⟩ := same_full same
      rw [url_symbols_injective (by simpa using lengths) tails]
  | [], _ :: _ => simp at lengths
  | _ :: _, [] => simp at lengths
  | [_], _ :: _ :: _ => simp at lengths
  | _ :: _ :: _, [_] => simp at lengths
  | [_, _], _ :: _ :: _ :: _ => simp at lengths
  | _ :: _ :: _ :: _, [_, _] => simp at lengths
termination_by left.length

theorem encode_url_injective {left right : Bytes} (same : encode urlSafe left = encode urlSafe right) :
    left = right := by
  have symbols : urlSymbols left = urlSymbols right := String.ofList_inj.mp same
  have lengths := congrArg List.length symbols
  rw [length_url_symbols, length_url_symbols] at lengths
  exact url_symbols_injective (by omega) symbols

end ConfigRegistry.Text.Base64
