import ConfigRegistry.Number.Whole
import ConfigRegistry.Text.Blank
import ConfigRegistry.Text.Quoted

set_option autoImplicit false

/-!
Internet addresses with their ports: how they are read and shown.
-/
namespace ConfigRegistry.Net

open Number (digits?)
open Text (splitAtChar hexDigits)

inductive Host where
  | v4 (a b c d : UInt8)
  | v6 (groups : Vector UInt16 8)
deriving DecidableEq, Repr

structure Address where
  host : Host
  port : UInt16
  zone : UInt32 := 0
deriving DecidableEq, Repr

def octet? (chars : List Char) : Option UInt8 :=
  if 3 < chars.length || (chars.head? = some '0' && chars.length ≠ 1) then none
  else ((digits? chars).filter fun n => n < UInt8.size).map UInt8.ofNat

def quad? (chars : List Char) : Option (UInt8 × UInt8 × UInt8 × UInt8) :=
  match splitAtChar '.' chars with
  | [a, b, c, d] => do return (← octet? a, ← octet? b, ← octet? c, ← octet? d)
  | _ => none

def hexDigit? (c : Char) : Option Nat :=
  if '0' ≤ c && c ≤ '9' then some (c.toNat - 48)
  else if 'a' ≤ c && c ≤ 'f' then some (c.toNat - 87)
  else if 'A' ≤ c && c ≤ 'F' then some (c.toNat - 55)
  else none

-- Four digits at most, which a group has room for.
def group? (chars : List Char) : Option UInt16 :=
  if chars.isEmpty || 4 < chars.length then none
  else (chars.foldlM (fun n c => (hexDigit? c).map (n * 16 + ·)) 0).map UInt16.ofNat

def pairGroup (high low : UInt8) : UInt16 := high.toUInt16 * 256 + low.toUInt16

-- Groups between colons; the last piece may be four octets, which make two groups.
def groups? : List (List Char) → Option (List UInt16)
  | [] => some []
  | [last] =>
      if last.contains '.' then (quad? last).map fun (a, b, c, d) => [pairGroup a b, pairGroup c d]
      else (group? last).map fun n => [n]
  | piece :: rest => do
      let n ← group? piece
      let more ← groups? rest
      return n :: more

def splitGap : List Char → Option (List Char × List Char)
  | ':' :: ':' :: rest => some ([], rest)
  | c :: rest => (splitGap rest).map fun (before, after) => (c :: before, after)
  | [] => none

def side? (chars : List Char) : Option (List UInt16) :=
  if chars.isEmpty then some [] else groups? (splitAtChar ':' chars)

def eight? (groups : List UInt16) : Option (Vector UInt16 8) :=
  if length : groups.length = 8 then some ⟨groups.toArray, length⟩ else none

-- Eight groups, or fewer with one double colon for the zeros left out. Octets stand only at the end.
def v6? (chars : List Char) : Option (Vector UInt16 8) :=
  match splitGap chars with
  | none => (groups? (splitAtChar ':' chars)).bind eight?
  | some (before, after) => do
      if before.contains '.' then none
      let head ← side? before
      let tail ← side? after
      if head.length + tail.length ≤ 7 then
        eight? (head ++ List.replicate (8 - head.length - tail.length) 0 ++ tail)
      else none

def port? (chars : List Char) : Option UInt16 := ((digits? chars).filter fun n => n < UInt16.size).map UInt16.ofNat

def zone? (chars : List Char) : Option UInt32 := ((digits? chars).filter fun n => n < UInt32.size).map UInt32.ofNat

def Address.parse? (text : String) : Option Address :=
  match text.toList with
  | '[' :: rest => do
      let inside := rest.takeWhile fun c => c ≠ ']'
      let port ← match rest.dropWhile fun c => c ≠ ']' with
        | ']' :: ':' :: digits => port? digits
        | _ => none
      let groups ← v6? (inside.takeWhile fun c => c ≠ '%')
      match inside.dropWhile fun c => c ≠ '%' with
      | [] => return ⟨.v6 groups, port, 0⟩
      | _ :: digits => do
          let zone ← zone? digits
          return ⟨.v6 groups, port, zone⟩
  | chars => do
      let (a, b, c, d) ← quad? (chars.takeWhile fun c => c ≠ ':')
      match chars.dropWhile fun c => c ≠ ':' with
      | ':' :: digits => do
          let port ← port? digits
          return ⟨.v4 a b c d, port, 0⟩
      | _ => none

def quadText (a b c d : UInt8) : String :=
  toString a ++ "." ++ toString b ++ "." ++ toString c ++ "." ++ toString d

def groupsText (groups : List UInt16) : String :=
  ":".intercalate (groups.map fun group => String.ofList (hexDigits group.toNat))

def zeroRun (groups : List UInt16) : Nat := (groups.takeWhile fun group => group = 0).length

-- Where the longest run of zeros begins and how long it is; of equal runs the first.
def longestZeros (groups : List UInt16) : Nat × Nat :=
  (List.range groups.length).foldl
    (fun best start => if best.2 < zeroRun (groups.drop start) then (start, zeroRun (groups.drop start)) else best)
    (0, 0)

def v6Text : List UInt16 → String
  -- Groups that stand for octets are shown as octets.
  | [0, 0, 0, 0, 0, 65535, x, y] =>
      "::ffff:" ++ quadText (x / 256).toUInt8 x.toUInt8 (y / 256).toUInt8 y.toUInt8
  | groups =>
      let (start, length) := longestZeros groups
      if 1 < length then groupsText (groups.take start) ++ "::" ++ groupsText (groups.drop (start + length))
      else groupsText groups

def Host.text : Host → String
  | .v4 a b c d => quadText a b c d
  | .v6 groups => v6Text groups.toList

def Address.text (address : Address) : String :=
  match address.host with
  | .v4 .. => address.host.text ++ ":" ++ toString address.port
  | .v6 .. =>
      "[" ++ address.host.text ++ (if address.zone = 0 then "" else "%" ++ toString address.zone) ++ "]:" ++
        toString address.port

end ConfigRegistry.Net
