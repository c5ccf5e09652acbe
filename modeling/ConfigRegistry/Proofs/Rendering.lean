import ConfigRegistry.Json.Numeral
import ConfigRegistry.Proofs.Escaping

set_option autoImplicit false

/-!
Tokens that are written and cut apart again. Main statements: the bytes of well-formed tokens are scanned into these
tokens, and the literal of a natural number of 64 bits stands for that number.
-/
namespace ConfigRegistry.Json

open Text (toBytes)

def Digits (bytes : Bytes) : Prop := bytes ≠ [] ∧ ∀ byte ∈ bytes, isDigit byte = true

def IsMark (mark : Bytes) : Prop :=
  ∃ letter sign, (letter = 101 ∨ letter = 69) ∧ mark = letter :: sign ∧ (sign = [] ∨ sign = [43] ∨ sign = [45])

structure Literal.Written (literal : Literal) : Prop where
  whole : Digits literal.whole
  leading : literal.whole.head? = some 48 → literal.whole.length = 1
  fraction : ∀ digits, literal.fraction = some digits → Digits digits
  power : ∀ mark digits, literal.power = some (mark, digits) → IsMark mark ∧ Digits digits

-- A number ends where none of these bytes can go on with it.
def Breaks (rest : Bytes) : Prop :=
  ∀ byte more, rest = byte :: more → isDigit byte = false ∧ byte ≠ 46 ∧ byte ≠ 101 ∧ byte ≠ 69

def Token.isNumber : Token → Bool
  | .number _ => true
  | _ => false

def Token.Sound : Token → Prop
  | .number literal => literal.Written
  | .text raw => ∃ bytes, raw = escape bytes
  | .broken => False
  | _ => True

-- Two numbers in a row would run into each other.
def Readable : List Token → Prop
  | [] => True
  | token :: rest =>
      token.Sound ∧ (∀ next more, rest = next :: more → (token.isNumber && next.isNumber) = false) ∧ Readable rest

section Numbers

theorem take_digits {digits rest : Bytes} (valid : Digits digits)
    (ends : ∀ byte more, rest = byte :: more → isDigit byte = false) :
    (digits ++ rest).takeWhile isDigit = digits ∧ (digits ++ rest).dropWhile isDigit = rest := by
  have stop : rest.takeWhile isDigit = [] ∧ rest.dropWhile isDigit = rest := by
    cases rest with
    | nil => exact ⟨rfl, rfl⟩
    | cons byte more => simp [ends byte more rfl]
  rw [List.takeWhile_append_of_pos valid.2, List.dropWhile_append_of_pos valid.2, stop.1, stop.2]
  simp

theorem is_empty_digits {digits : Bytes} (valid : Digits digits) : digits.isEmpty = false := by
  simpa using valid.1

theorem scan_power_digits {mark digits rest : Bytes} (valid : Digits digits) (ends : Breaks rest) :
    scanPowerDigits mark (digits ++ rest) = some (some (mark, digits), rest) := by
  have cut := take_digits valid fun byte more same => (ends byte more same).1
  simp [scanPowerDigits, cut, valid.1]

theorem scan_power_none {rest : Bytes} (ends : Breaks rest) : scanPower rest = some (none, rest) := by
  cases rest with
  | nil => rfl
  | cons byte more =>
      have other := ends byte more rfl
      simp [scanPower, other]

theorem digit_not_sign {byte : UInt8} (digit : isDigit byte = true) : byte ≠ 43 ∧ byte ≠ 45 := by
  constructor <;> rintro rfl <;> exact nomatch digit

theorem scan_power_some {mark digits rest : Bytes} (marked : IsMark mark) (valid : Digits digits) (ends : Breaks rest) :
    scanPower (mark ++ digits ++ rest) = some (some (mark, digits), rest) := by
  obtain ⟨letter, sign, either, rfl, signs⟩ := marked
  have scanned : ∀ mark, scanPowerDigits mark (digits ++ rest) = some (some (mark, digits), rest) := fun mark =>
    scan_power_digits valid ends
  rcases signs with rfl | rfl | rfl
  · obtain ⟨nonempty, all⟩ := valid
    cases digits with
    | nil => exact absurd rfl nonempty
    | cons digit digits =>
        have unsigned := digit_not_sign (all digit List.mem_cons_self)
        simp only [List.cons_append, List.nil_append] at scanned ⊢
        rcases either with rfl | rfl <;> simp [scanPower, unsigned, scanned]
  · rcases either with rfl | rfl <;> simp [scanPower, scanned]
  · rcases either with rfl | rfl <;> simp [scanPower, scanned]

def powerBytes : Option (Bytes × Bytes) → Bytes
  | none => []
  | some (mark, digits) => mark ++ digits

def fractionBytes : Option Bytes → Bytes
  | none => []
  | some digits => 46 :: digits

theorem scan_power_bytes {power : Option (Bytes × Bytes)} {rest : Bytes}
    (valid : ∀ mark digits, power = some (mark, digits) → IsMark mark ∧ Digits digits) (ends : Breaks rest) :
    scanPower (powerBytes power ++ rest) = some (power, rest) := by
  cases power with
  | none => exact scan_power_none ends
  | some found =>
      obtain ⟨mark, digits⟩ := found
      obtain ⟨marked, digital⟩ := valid mark digits rfl
      exact scan_power_some marked digital ends

theorem power_not_digit {power : Option (Bytes × Bytes)} {rest : Bytes}
    (valid : ∀ mark digits, power = some (mark, digits) → IsMark mark ∧ Digits digits) (ends : Breaks rest)
    (byte : UInt8) (more : Bytes) (same : powerBytes power ++ rest = byte :: more) :
    isDigit byte = false ∧ byte ≠ 46 := by
  cases power with
  | none =>
      have other := ends byte more same
      exact ⟨other.1, other.2.1⟩
  | some found =>
      obtain ⟨mark, digits⟩ := found
      obtain ⟨letter, sign, either, rfl, _⟩ := (valid mark digits rfl).1
      obtain ⟨rfl, _⟩ := List.cons.inj same
      rcases either with rfl | rfl <;> decide

theorem scan_fraction_bytes {fraction : Option Bytes} {rest : Bytes}
    (valid : ∀ digits, fraction = some digits → Digits digits)
    (ends : ∀ byte more, rest = byte :: more → isDigit byte = false ∧ byte ≠ 46) :
    scanFraction (fractionBytes fraction ++ rest) = some (fraction, rest) := by
  cases fraction with
  | none =>
      show scanFraction rest = _
      rw [scanFraction]
      intro more same
      exact (ends 46 more same).2 rfl
  | some digits =>
      have cut := take_digits (valid digits rfl) fun byte more same => (ends byte more same).1
      have nonempty := (valid digits rfl).1
      show scanFraction (46 :: (digits ++ rest)) = _
      simp [scanFraction, cut, nonempty]

theorem fraction_not_digit (fraction : Option Bytes) {rest : Bytes}
    (ends : ∀ byte more, rest = byte :: more → isDigit byte = false ∧ byte ≠ 46) (byte : UInt8) (more : Bytes)
    (same : fractionBytes fraction ++ rest = byte :: more) : isDigit byte = false := by
  cases fraction with
  | none => exact (ends byte more same).1
  | some digits =>
      obtain ⟨rfl, _⟩ := List.cons.inj same
      rfl

def unsignedBytes (literal : Literal) : Bytes :=
  literal.whole ++ fractionBytes literal.fraction ++ powerBytes literal.power

theorem literal_bytes (literal : Literal) :
    literal.bytes = (if literal.negative then [45] else []) ++ unsignedBytes literal := by
  obtain ⟨negative, whole, fraction, power⟩ := literal
  cases fraction <;> cases power <;> simp [Literal.bytes, unsignedBytes, fractionBytes, powerBytes]

theorem scan_unsigned {literal : Literal} {rest : Bytes} (written : literal.Written) (ends : Breaks rest) :
    scanUnsigned literal.negative (unsignedBytes literal ++ rest) = some (literal, rest) := by
  have afterPower := power_not_digit written.power ends
  have cut := take_digits written.whole (fraction_not_digit literal.fraction afterPower)
  have fraction := scan_fraction_bytes written.fraction afterPower
  have power := scan_power_bytes written.power ends
  have whole := is_empty_digits written.whole
  have leading : (literal.whole.head? = some 48 && literal.whole.length ≠ 1) = false := by
    simpa using written.leading
  simp only [unsignedBytes, List.append_assoc, scanUnsigned, cut, whole, Bool.false_or]
  rw [if_neg (by simpa using leading), fraction]
  simp only [bind, Option.bind, power]
  rfl

end Numbers

section Scanning

-- What the first byte of a token must be for the token to be scanned from it.
def Scans (token : Token) (rest : Bytes) : Prop :=
  ∃ byte more, token.bytes ++ rest = byte :: more ∧ isSpace byte = false ∧ scanToken byte more = some (token, rest)

theorem digit_token {byte : UInt8} (digit : isDigit byte = true) (more : Bytes) :
    isSpace byte = false ∧ scanToken byte more =
      (scanUnsigned false (byte :: more)).map fun found => (.number found.1, found.2) := by
  have different : ∀ other : UInt8, isDigit other = false → byte ≠ other := by
    rintro other none rfl
    exact nomatch digit.symm.trans none
  constructor
  · simp [isSpace, different 32 rfl, different 10 rfl, different 13 rfl, different 9 rfl]
  · simp [scanToken, different 123 rfl, different 125 rfl, different 91 rfl, different 93 rfl, different 58 rfl,
      different 44 rfl, different 34 rfl, different 110 rfl, different 116 rfl, different 102 rfl, different 45 rfl,
      digit]

theorem number_scans {literal : Literal} {rest : Bytes} (written : literal.Written) (ends : Breaks rest) :
    Scans (.number literal) rest := by
  have scanned := scan_unsigned written ends
  have split : (Token.number literal).bytes ++ rest =
      (if literal.negative then [45] else []) ++ (unsignedBytes literal ++ rest) := by
    rw [Token.bytes, literal_bytes, List.append_assoc]
  cases negative : literal.negative with
  | true =>
      rw [negative] at scanned
      exact ⟨45, unsignedBytes literal ++ rest, by simp [split, negative], rfl, by simp [scanToken, scanned]⟩
  | false =>
      rw [negative] at scanned
      obtain ⟨nonempty, digital⟩ := written.whole
      cases whole : literal.whole with
      | nil => exact absurd whole nonempty
      | cons digit digits =>
          have first : unsignedBytes literal ++ rest =
              digit :: (digits ++ fractionBytes literal.fraction ++ powerBytes literal.power ++ rest) := by
            simp [unsignedBytes, whole]
          obtain ⟨visible, token⟩ := digit_token (digital digit (by simp [whole]))
            (digits ++ fractionBytes literal.fraction ++ powerBytes literal.power ++ rest)
          refine ⟨digit, _, ?_, visible, token.trans ?_⟩
          · simp [split, negative, first]
          · rw [← first, scanned]
            rfl

theorem token_scans {token : Token} {rest : Bytes} (sound : token.Sound)
    (ends : token.isNumber = true → Breaks rest) : Scans token rest := by
  cases token with
  | number literal => exact number_scans sound (ends rfl)
  | text raw =>
      obtain ⟨bytes, rfl⟩ := sound
      have scanned := scan_text_escaped bytes [] rest
      refine ⟨34, escape bytes ++ 34 :: rest, by simp [Token.bytes], rfl, ?_⟩
      simp [scanToken, scanned]
  | boolean value => cases value <;> exact ⟨_, _, rfl, rfl, by simp [scanToken, scanWord]⟩
  | null => exact ⟨_, _, rfl, rfl, by simp [scanToken, scanWord]⟩
  | broken => exact sound.elim
  | openObject => exact ⟨_, _, rfl, rfl, rfl⟩
  | closeObject => exact ⟨_, _, rfl, rfl, rfl⟩
  | openArray => exact ⟨_, _, rfl, rfl, rfl⟩
  | closeArray => exact ⟨_, _, rfl, rfl, rfl⟩
  | colon => exact ⟨_, _, rfl, rfl, rfl⟩
  | comma => exact ⟨_, _, rfl, rfl, rfl⟩

theorem token_breaks {token : Token} (sound : token.Sound) (other : token.isNumber = false) (rest : Bytes) :
    Breaks (token.bytes ++ rest) := by
  intro byte more same
  cases token with
  | number literal => exact nomatch other
  | broken => exact sound.elim
  | boolean value =>
      cases value <;>
        · obtain ⟨rfl, _⟩ := List.cons.inj same
          decide
  | _ =>
      obtain ⟨rfl, _⟩ := List.cons.inj same
      decide

theorem readable_breaks {tokens : List Token} (readable : Readable tokens)
    (other : ∀ next more, tokens = next :: more → next.isNumber = false) : Breaks (render tokens) := by
  cases tokens with
  | nil => exact fun _ _ same => nomatch same
  | cons token rest => exact token_breaks readable.1 (other token rest rfl) _

theorem scan_up_to {tokens : List Token} (readable : Readable tokens) (fuel : Nat)
    (enough : (render tokens).length ≤ fuel) : scanUpTo fuel (render tokens) = tokens := by
  induction tokens generalizing fuel with
  | nil => cases fuel <;> rfl
  | cons token rest ih =>
      obtain ⟨sound, apart, readable⟩ := readable
      have split : render (token :: rest) = token.bytes ++ render rest := List.flatMap_cons
      have ends : token.isNumber = true → Breaks (render rest) := fun number =>
        readable_breaks readable fun next more same => by simpa [number] using apart next more same
      obtain ⟨byte, more, bytes, visible, scanned⟩ := token_scans sound ends
      -- The token takes a byte at least, so what is left has fuel enough.
      have shorter : (render rest).length ≤ more.length := by
        have total := congrArg List.length bytes
        have first : 0 < token.bytes.length := by
          cases token with
          | number literal =>
              have nonempty := List.length_pos_iff.mpr sound.whole.1
              simp only [Token.bytes, literal_bytes, unsignedBytes, List.length_append]
              omega
          | broken => exact sound.elim
          | boolean value => cases value <;> exact Nat.succ_pos _
          | _ => exact Nat.succ_pos _
        simp only [List.length_append, List.length_cons] at total
        omega
      rw [split, bytes] at enough ⊢
      cases fuel with
      | zero => exact nomatch enough
      | succ fuel =>
          have next := ih readable fuel (by simp at enough; omega)
          simp [scanUpTo, visible, scanned, next]

theorem scan_render {tokens : List Token} (readable : Readable tokens) : scan (render tokens) = tokens :=
  scan_up_to readable _ (Nat.le_refl _)

end Scanning

section Naturals

theorem digit_bounds {c : Char} (digit : c.isDigit = true) : 48 ≤ c.toNat ∧ c.toNat ≤ 57 := by
  simp only [Char.isDigit, Bool.and_eq_true, decide_eq_true_eq] at digit
  exact digit

theorem encode_ascii {c : Char} (small : c.toNat ≤ 127) : String.utf8EncodeChar c = [UInt8.ofNat c.toNat] :=
  if_pos small

theorem ascii_bytes {chars : List Char} (small : ∀ c ∈ chars, c.toNat ≤ 127) :
    toBytes (String.ofList chars) = chars.map fun c => UInt8.ofNat c.toNat := by
  have encoded : toBytes (String.ofList chars) = chars.flatMap String.utf8EncodeChar := by
    simp [toBytes, List.utf8Encode]
  rw [encoded]
  clear encoded
  induction chars with
  | nil => rfl
  | cons c chars ih =>
      rw [List.flatMap_cons, encode_ascii (small c List.mem_cons_self), List.map_cons,
        ih fun other found => small other (List.mem_cons_of_mem _ found)]
      rfl

theorem digit_byte {c : Char} (digit : c.isDigit = true) :
    isDigit (UInt8.ofNat c.toNat) = true ∧ digitValue (UInt8.ofNat c.toNat) = c.toNat - 48 := by
  obtain ⟨low, high⟩ := digit_bounds digit
  have value : (UInt8.ofNat c.toNat).toNat = c.toNat := by
    rw [UInt8.toNat_ofNat']
    omega
  constructor
  · simp only [isDigit, Bool.and_eq_true, decide_eq_true_eq, UInt8.le_iff_toNat_le, value]
    exact ⟨low, high⟩
  · rw [digitValue, value]

theorem of_nat_bytes (n : Nat) :
    (Literal.ofNat n).whole = (Nat.toDigits 10 n).map fun c => UInt8.ofNat c.toNat := by
  rw [Literal.ofNat, Nat.toString_eq_ofList_toDigits]
  refine ascii_bytes fun c found => ?_
  have bounds := digit_bounds (Nat.isDigit_of_mem_toDigits (by decide) (by decide) found)
  omega

theorem digit_char_zero {m : Nat} (small : m < 10) (zero : m.digitChar = '0') : m = 0 := by
  have every : ∀ m < 10, m.digitChar = '0' → m = 0 := by decide
  exact every m small zero

theorem leading_zero (n : Nat) (leading : (Nat.toDigits 10 n).head? = some '0') : n = 0 := by
  induction n using Nat.base_induction 10 (by decide) with
  | single m small =>
      rw [Nat.toDigits_of_lt_base small] at leading
      exact digit_char_zero small (Option.some.inj leading)
  | digit m k small positive ih =>
      have front : (Nat.toDigits 10 m).head? = some '0' := by
        cases digits : Nat.toDigits 10 m with
        | nil => exact absurd digits Nat.toDigits_ne_nil
        | cons c rest =>
            rwa [← Nat.toDigits_append_toDigits (by decide) positive small, digits] at leading
      exact absurd (ih front) (Nat.ne_of_gt positive)

theorem of_nat_written (n : Nat) : (Literal.ofNat n).Written := by
  constructor
  · rw [of_nat_bytes]
    refine ⟨by simp [Nat.toDigits_ne_nil], fun byte found => ?_⟩
    obtain ⟨c, mem, rfl⟩ := List.mem_map.mp found
    exact (digit_byte (Nat.isDigit_of_mem_toDigits (by decide) (by decide) mem)).1
  · intro leading
    rw [of_nat_bytes] at leading ⊢
    suffices zero : n = 0 by
      subst n
      rfl
    obtain ⟨c, first, byte⟩ : ∃ c, (Nat.toDigits 10 n).head? = some c ∧ UInt8.ofNat c.toNat = 48 := by
      simpa using leading
    have digital := Nat.isDigit_of_mem_toDigits (b := 10) (by decide) (by decide) (List.mem_of_mem_head? first)
    have value := (digit_byte digital).2
    have bounds := digit_bounds digital
    have code : c.toNat = '0'.toNat := by
      rw [byte] at value
      have : digitValue 48 = 0 := rfl
      have : '0'.toNat = 48 := rfl
      omega
    rw [Char.toNat_inj.mp code] at first
    exact leading_zero n first
  · exact fun _ same => nomatch same
  · exact fun _ _ same => nomatch same

theorem take_all_digits (chars : List Char) (digital : ∀ c ∈ chars, c.isDigit = true) (start : Nat)
    (small : Nat.ofDigitChars 10 chars start < wordBound) :
    takeDigits start (chars.map fun c => UInt8.ofNat c.toNat) = (Nat.ofDigitChars 10 chars start, 0) := by
  induction chars generalizing start with
  | nil => rfl
  | cons c chars ih =>
      have value := (digit_byte (digital c List.mem_cons_self)).2
      rw [Nat.ofDigitChars_cons] at small ⊢
      have next : 10 * start + (c.toNat - 48) < wordBound := by
        refine Nat.lt_of_le_of_lt ?_ small
        rw [Nat.ofDigitChars_eq_ofDigitChars_zero]
        exact Nat.le_trans (Nat.le_mul_of_pos_left _ (Nat.pow_pos (by decide))) (Nat.le_add_right _ _)
      rw [List.map_cons, takeDigits, value, Nat.mul_comm start, if_pos next]
      exact ih (fun other found => digital other (List.mem_cons_of_mem _ found)) _ small

theorem numeral_of_nat {n : Nat} (small : n < wordBound) : (Literal.ofNat n).numeral? = some (.natural n) := by
  have taken := take_all_digits (Nat.toDigits 10 n)
    (fun c found => Nat.isDigit_of_mem_toDigits (by decide) (by decide) found) 0 (by simpa using small)
  rw [Nat.ofDigitChars_ten_toDigits, ← of_nat_bytes] at taken
  rw [Literal.numeral?, taken]
  rfl

end Naturals
end ConfigRegistry.Json
