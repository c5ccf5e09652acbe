import ConfigRegistry.Proofs.Paths

set_option autoImplicit false

/-!
Texts in queries. Main statement: the lenient reading of UTF-8 gives every text back, so every text can be sent as
the value of a parameter.
-/
namespace ConfigRegistry.Text

section Characters

variable {lead low high byte : UInt8} {count n : Nat} {tail rest : Bytes} {c : Char}

theorem tail_run_whole (first : low ≤ byte ∧ byte ≤ high) (others : ∀ other ∈ tail, 0x80 ≤ other ∧ other ≤ 0xBF) :
    tailRun (tail.length + 1) low high (byte :: (tail ++ rest)) = byte :: tail := by
  induction tail generalizing low high byte with
  | nil => simp [tailRun, first]
  | cons other tail ih =>
      obtain ⟨next, later⟩ := List.forall_mem_cons.mp others
      rw [List.length_cons, tailRun, if_pos (by simp [first]), List.cons_append, ih next later]

-- The bits of the code that a lead byte holds when so many bytes follow it.
def leadBits (count : Nat) : Nat := if count = 1 then 32 else if count = 2 then 16 else 8

-- Whether so many bytes may follow a lead byte, the first of them this one.
def Leads (count lead byte : Nat) : Prop :=
  128 ≤ byte ∧ byte ≤ 191 ∧
    (count = 1 ∧ 194 ≤ lead ∧ lead ≤ 223 ∨
      count = 2 ∧ 224 ≤ lead ∧ lead ≤ 239 ∧ (lead = 224 → 160 ≤ byte) ∧ (lead = 237 → byte ≤ 159) ∨
      count = 3 ∧ 240 ≤ lead ∧ lead ≤ 244 ∧ (lead = 240 → 144 ≤ byte) ∧ (lead = 244 → byte ≤ 143))

theorem tail_shape_leads (leads : Leads count lead.toNat byte.toNat) :
    ∃ low high, tailShape lead = some (count, low, high) ∧ low ≤ byte ∧ byte ≤ high := by
  obtain ⟨least, most, shapes⟩ := leads
  have equal (n : UInt8) : lead = n ↔ lead.toNat = n.toNat := UInt8.toNat_inj.symm
  simp only [tailShape, Bool.and_eq_true, decide_eq_true_eq, beq_iff_eq, UInt8.le_iff_toNat_le, equal]
  simp only [UInt8.reduceToNat]
  rcases shapes with ⟨rfl, more, less⟩ | ⟨rfl, more, less, above, below⟩ | ⟨rfl, more, less, above, below⟩
  all_goals
    split_ifs
    all_goals first
      | omega
      | exact ⟨_, _, rfl, by simp; omega, by simp; omega⟩

theorem next_char_leads {first second : Nat} (leads : Leads (tail.length + 1) first second)
    (same : lead.toNat = first) (next : byte.toNat = second) (others : ∀ other ∈ tail, 0x80 ≤ other ∧ other ≤ 0xBF)
    (code : tail.foldl (fun code byte => code * 64 + byte.toNat % 64)
      (first % leadBits (tail.length + 1) * 64 + second % 64) = n) :
    nextChar lead (byte :: (tail ++ rest)) = (Char.ofNat n, tail.length + 1) := by
  subst same next
  obtain ⟨low, high, shape, bounds⟩ := tail_shape_leads leads
  have big : ¬ lead < 0x80 := by
    obtain ⟨-, -, shapes⟩ := leads
    rw [UInt8.lt_iff_toNat_lt]
    simp
    omega
  have bits : (if tail.length + 1 = 1 then lead.toNat % 32 else if tail.length + 1 = 2 then lead.toNat % 16
      else lead.toNat % 8) = lead.toNat % leadBits (tail.length + 1) := by
    rw [leadBits]
    split
    · rfl
    · split <;> rfl
  rw [nextChar, if_neg big, shape]
  change (if (tailRun (tail.length + 1) low high (byte :: (tail ++ rest))).length = tail.length + 1 then _ else _) = _
  rw [tail_run_whole bounds others, if_pos List.length_cons]
  change (Char.ofNat ((byte :: tail).foldl _ (if tail.length + 1 = 1 then _ else _)), _) = _
  rw [bits, List.foldl_cons, code]

theorem small_byte (small : n < 256) : (UInt8.ofNat n).toNat = n := by
  rw [UInt8.toNat_ofNat', Nat.mod_eq_of_lt small]

theorem continues (n : Nat) : 0x80 ≤ UInt8.ofNat (n % 64 + 128) ∧ UInt8.ofNat (n % 64 + 128) ≤ 0xBF := by
  simp only [UInt8.le_iff_toNat_le, small_byte (show n % 64 + 128 < 256 by omega)]
  constructor
  · simp
  · simp
    omega

theorem next_char_encoded (c : Char) (rest : Bytes) : ∃ lead tail, String.utf8EncodeChar c = lead :: tail ∧
    nextChar lead (tail ++ rest) = (c, tail.length) := by
  have valid : c.val.toNat < 55296 ∨ 57343 < c.val.toNat ∧ c.val.toNat < 1114112 := c.valid
  have same : Char.ofNat c.val.toNat = c := Char.ofNat_toNat c
  rw [String.utf8EncodeChar]
  generalize c.val.toNat = v at valid same ⊢
  subst same
  have more (n : Nat) : (UInt8.ofNat (n % 64 + 128)).toNat = n % 64 + 128 := small_byte (by omega)
  split_ifs with one two three
  · refine ⟨_, [], rfl, ?_⟩
    have small : UInt8.ofNat v < 0x80 := by
      rw [UInt8.lt_iff_toNat_lt, small_byte (by omega)]
      simp
      omega
    rw [nextChar, if_pos small, small_byte (by omega)]
    rfl
  · refine ⟨_, _, rfl, ?_⟩
    change nextChar _ (_ :: ([] ++ rest)) = (_, ([] : Bytes).length + 1)
    refine next_char_leads ?_ (small_byte (by omega)) (more v) (fun _ none => (nomatch none)) ?_
    · exact ⟨by omega, by omega, .inl ⟨rfl, by omega, by omega⟩⟩
    · simp only [List.foldl_nil, List.length_nil, leadBits, if_pos]
      omega
  · refine ⟨_, _, rfl, ?_⟩
    change nextChar _ (_ :: ([_] ++ rest)) = (_, [_].length + 1)
    refine next_char_leads ?_ (small_byte (by omega)) (more (v / 64)) (List.forall_mem_singleton.mpr (continues v)) ?_
    · exact ⟨by omega, by omega, .inr (.inl ⟨rfl, by omega, by omega, by omega, by omega⟩)⟩
    · simp only [List.foldl_cons, List.foldl_nil, List.length_singleton, leadBits, more]
      simp
      omega
  · refine ⟨_, _, rfl, ?_⟩
    change nextChar _ (_ :: ([_, _] ++ rest)) = (_, [_, _].length + 1)
    refine next_char_leads ?_ (small_byte (by omega)) (more (v / 4096))
      (List.forall_mem_cons.mpr ⟨continues (v / 64), List.forall_mem_singleton.mpr (continues v)⟩) ?_
    · exact ⟨by omega, by omega, .inr (.inr ⟨rfl, by omega, by omega, by omega, by omega⟩)⟩
    · simp only [List.foldl_cons, List.foldl_nil, List.length_cons, List.length_nil, leadBits, more]
      simp
      omega

theorem lossy_chars_encoded (acc chars : List Char) :
    lossyChars acc (chars.flatMap String.utf8EncodeChar) = acc.reverse ++ chars := by
  induction chars generalizing acc with
  | nil => simp [lossyChars]
  | cons c rest ih =>
      obtain ⟨lead, tail, encoded, reads⟩ := next_char_encoded c (rest.flatMap String.utf8EncodeChar)
      rw [List.flatMap_cons, encoded, List.cons_append, lossyChars, reads]
      dsimp only
      rw [List.drop_left, ih]
      simp

theorem to_bytes_chars (chars : List Char) : toBytes (String.ofList chars) = chars.flatMap String.utf8EncodeChar := by
  simp [toBytes, List.utf8Encode]

theorem lossy_whole (text : String) : ofBytesLossy (toBytes text) = text := by
  rw [← String.ofList_toList (s := text), ofBytesLossy, to_bytes_chars, lossy_chars_encoded, List.reverse_nil,
    List.nil_append]

end Characters

section Queries

variable {byte : UInt8} {bytes : Bytes}

def hexByte (n : Nat) : UInt8 := UInt8.ofNat (if n < 10 then 48 + n else 55 + n)

-- Every byte as a percent sign and two hexadecimal digits.
def percentEncode (bytes : Bytes) : Bytes :=
  bytes.flatMap fun byte => [37, hexByte (byte.toNat / 16), hexByte (byte.toNat % 16)]

theorem hex_byte_value : ∀ n < 16, hexValue? (hexByte n) = some n := by decide

theorem percent_decode_encode (bytes : Bytes) : percentDecode (percentEncode bytes) = bytes := by
  induction bytes with
  | nil => rfl
  | cons byte rest ih =>
      have small := byte.toNat_lt
      have high := hex_byte_value (byte.toNat / 16) (by omega)
      have low := hex_byte_value (byte.toNat % 16) (by omega)
      have whole : byte.toNat / 16 * 16 + byte.toNat % 16 = byte.toNat := by omega
      rw [percentEncode, List.flatMap_cons]
      change percentDecode (37 :: hexByte (byte.toNat / 16) :: hexByte (byte.toNat % 16) :: percentEncode rest) = _
      rw [percentDecode, high, low]
      dsimp only
      rw [whole, UInt8.ofNat_toNat, ih]

theorem hex_byte_plain : ∀ n < 16, hexByte n ≠ 38 ∧ hexByte n ≠ 43 := by decide

theorem percent_encode_plain (among : byte ∈ percentEncode bytes) : byte ≠ 38 ∧ byte ≠ 43 := by
  obtain ⟨source, -, inside⟩ := List.mem_flatMap.mp among
  have small := source.toNat_lt
  simp only [List.mem_cons, List.not_mem_nil, or_false] at inside
  rcases inside with rfl | rfl | rfl
  · decide
  · exact hex_byte_plain _ (by omega)
  · exact hex_byte_plain _ (by omega)

theorem form_text_reads {text : String} (unspaced : (43 : UInt8) ∉ bytes)
    (decodes : percentDecode bytes = toBytes text) : formText bytes = text := by
  have kept : ∀ byte ∈ bytes, (if byte = 43 then 32 else byte) = id byte :=
    fun byte among => if_neg (ne_of_mem_of_not_mem among unspaced)
  have same : bytes.map (fun byte => if byte = 43 then 32 else byte) = bytes :=
    (List.map_congr_left kept).trans (List.map_id bytes)
  rw [formText, same, decodes, lossy_whole]

-- A query with one parameter, spelled out whole.
def labelsQuery (text : String) : Bytes := toBytes "labels=" ++ percentEncode (toBytes text)

theorem form_pairs_labels (text : String) : formPairs (labelsQuery text) = [("labels", text)] := by
  have name : toBytes "labels=" = [108, 97, 98, 101, 108, 115, 61] := by decide
  have plain : ∀ piece ∈ [labelsQuery text], (38 : UInt8) ∉ piece := by
    refine List.forall_mem_singleton.mpr fun among => ?_
    rw [labelsQuery, name, List.mem_append] at among
    rcases among with inside | encoded
    · exact absurd inside (by decide)
    · exact (percent_encode_plain encoded).1 rfl
  have split : splitAtByte 38 (labelsQuery text) = [labelsQuery text] := by
    rw [split_at_byte_eq, ← List.splitOn_intercalate 38 plain (by simp), List.intercalate_singleton]
  have word : formText [108, 97, 98, 101, 108, 115] = "labels" :=
    form_text_reads (by decide) (percent_decode_plain (by decide))
  have value : formText (percentEncode (toBytes text)) = text :=
    form_text_reads (fun among => (percent_encode_plain among).2 rfl) (percent_decode_encode _)
  rw [formPairs, split, labelsQuery, name]
  change [(formText [108, 97, 98, 101, 108, 115], formText (percentEncode (toBytes text)))] = _
  rw [word, value]

end Queries
end ConfigRegistry.Text

namespace ConfigRegistry.Order

theorem labels_of_query (text : String) : labelsOf (some (Text.labelsQuery text)) = .ok (some text) := by
  rw [labelsOf, Option.getD_some, Text.form_pairs_labels]
  rfl

end ConfigRegistry.Order
