set_option autoImplicit false

/-!
Byte strings and their reading as UTF-8 text, strict and lossy.
Main statement: reading back the bytes of a text gives the text.
-/
namespace ConfigRegistry

abbrev Bytes := List UInt8

namespace Text

def toBytes (text : String) : Bytes := text.toUTF8.data.toList

def ofBytes? (bytes : Bytes) : Option String := String.fromUTF8? ⟨bytes.toArray⟩

theorem of_bytes_to_bytes (text : String) : ofBytes? (toBytes text) = some text := by
  have same : (⟨(toBytes text).toArray⟩ : ByteArray) = text.toByteArray := by
    simp [toBytes, String.toUTF8]
  unfold ofBytes?
  rw [same]
  rw [String.fromUTF8?, dif_pos text.isValidUTF8]
  rfl

theorem to_bytes_of_bytes {bytes : Bytes} {text : String} (read : ofBytes? bytes = some text) :
    toBytes text = bytes := by
  simp only [ofBytes?, String.fromUTF8?] at read
  split at read
  · cases read
    simp [toBytes, String.fromUTF8]
  · simp at read

theorem to_bytes_injective {a b : String} (same : toBytes a = toBytes b) : a = b := by
  have read := congrArg ofBytes? same
  simpa [of_bytes_to_bytes] using read

theorem to_bytes_append (first second : String) : toBytes (first ++ second) = toBytes first ++ toBytes second := by
  simp [toBytes]

-- How many bytes follow a lead byte, and the range of the first of them.
def tailShape (lead : UInt8) : Option (Nat × UInt8 × UInt8) :=
  if 0xC2 ≤ lead && lead ≤ 0xDF then some (1, 0x80, 0xBF)
  else if lead == 0xE0 then some (2, 0xA0, 0xBF)
  else if lead == 0xED then some (2, 0x80, 0x9F)
  else if 0xE1 ≤ lead && lead ≤ 0xEF then some (2, 0x80, 0xBF)
  else if lead == 0xF0 then some (3, 0x90, 0xBF)
  else if 0xF1 ≤ lead && lead ≤ 0xF3 then some (3, 0x80, 0xBF)
  else if lead == 0xF4 then some (3, 0x80, 0x8F)
  else none

def tailRun : Nat → UInt8 → UInt8 → Bytes → Bytes
  | 0, _, _, _ => []
  | _ + 1, _, _, [] => []
  | count + 1, low, high, byte :: rest =>
      if low ≤ byte && byte ≤ high then byte :: tailRun count 0x80 0xBF rest else []

def replacement : Char := Char.ofNat 0xFFFD

-- The character that begins with `lead`, and how many of the bytes after it belong to it. A broken sequence is one
-- replacement character for as much of it as could have been right.
def nextChar (lead : UInt8) (rest : Bytes) : Char × Nat :=
  if lead < 0x80 then (Char.ofNat lead.toNat, 0)
  else match tailShape lead with
    | none => (replacement, 0)
    | some (count, low, high) =>
        let tail := tailRun count low high rest
        if tail.length = count then
          let start := if count = 1 then lead.toNat % 32 else if count = 2 then lead.toNat % 16 else lead.toNat % 8
          (Char.ofNat (tail.foldl (fun code byte => code * 64 + byte.toNat % 64) start), count)
        else (replacement, tail.length)

def lossyChars (acc : List Char) : Bytes → List Char
  | [] => acc.reverse
  | lead :: rest =>
      let found := nextChar lead rest
      lossyChars (found.1 :: acc) (rest.drop found.2)
termination_by bytes => bytes.length
decreasing_by simp only [List.length_cons, List.length_drop]; omega

def ofBytesLossy (bytes : Bytes) : String := String.ofList (lossyChars [] bytes)

end Text
end ConfigRegistry
