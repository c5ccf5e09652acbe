import ConfigRegistry.Text.Bytes
import ConfigRegistry.Text.Quoted
import ConfigRegistry.Text.Percent

set_option autoImplicit false

/-!
The tokens of JSON and their bytes. A text keeps its escapes until a value of it is asked for, so a text that
nobody reads need not be sound.
-/
namespace ConfigRegistry.Json

open Text (toBytes ofBytes? hexDigit hexValue?)

structure Literal where
  negative : Bool
  whole : Bytes
  fraction : Option Bytes
  power : Option (Bytes × Bytes)
deriving DecidableEq, Repr

inductive Token where
  | openObject
  | closeObject
  | openArray
  | closeArray
  | colon
  | comma
  | null
  | boolean (value : Bool)
  | number (literal : Literal)
  | text (raw : Bytes)
  | broken
deriving DecidableEq, Repr

def Literal.ofNat (n : Nat) : Literal := ⟨false, toBytes (toString n), none, none⟩

def Literal.bytes (literal : Literal) : Bytes :=
  (if literal.negative then [45] else []) ++ literal.whole ++
    (match literal.fraction with | none => [] | some digits => 46 :: digits) ++
    (match literal.power with | none => [] | some (mark, digits) => mark ++ digits)

def hexByte (n : Nat) : UInt8 := if n < 10 then UInt8.ofNat (48 + n) else UInt8.ofNat (87 + n)

def escapeByte (byte : UInt8) : Bytes :=
  if byte = 34 then [92, 34]
  else if byte = 92 then [92, 92]
  else if byte = 8 then [92, 98]
  else if byte = 9 then [92, 116]
  else if byte = 10 then [92, 110]
  else if byte = 12 then [92, 102]
  else if byte = 13 then [92, 114]
  else if byte < 32 then [92, 117, 48, 48, hexByte (byte.toNat / 16), hexByte (byte.toNat % 16)]
  else [byte]

def escape (bytes : Bytes) : Bytes := bytes.flatMap escapeByte

def Token.ofText (text : String) : Token := .text (escape (toBytes text))

def Token.ofNat (n : Nat) : Token := .number (Literal.ofNat n)

def shortEscape? (byte : UInt8) : Option UInt8 :=
  if byte = 34 || byte = 92 || byte = 47 then some byte
  else if byte = 98 then some 8
  else if byte = 102 then some 12
  else if byte = 110 then some 10
  else if byte = 114 then some 13
  else if byte = 116 then some 9
  else none

inductive Piece where
  | byte (value : UInt8)
  | unit (value : Nat)
deriving DecidableEq, Repr

def hexUnit? (a b c d : UInt8) : Option Nat := do
  let w ← hexValue? a
  let x ← hexValue? b
  let y ← hexValue? c
  let z ← hexValue? d
  return ((w * 16 + x) * 16 + y) * 16 + z

-- Resolves the escapes, onto `out`, which is reversed.
def pieces (out : List Piece) : Bytes → Option (List Piece)
  | [] => some out.reverse
  | 92 :: 117 :: a :: b :: c :: d :: rest =>
      match hexUnit? a b c d with
      | some n => pieces (.unit n :: out) rest
      | none => none
  | 92 :: mark :: rest =>
      match shortEscape? mark with
      | some byte => pieces (.byte byte :: out) rest
      | none => none
  | byte :: rest => pieces (.byte byte :: out) rest

def isLeading (unit : Nat) : Bool := 0xD800 ≤ unit && unit < 0xDC00
def isTrailing (unit : Nat) : Bool := 0xDC00 ≤ unit && unit < 0xE000

-- Joins surrogate pairs, onto `out`, which is reversed; half a pair is refused.
def joinPieces (out : Bytes) : List Piece → Option Bytes
  | [] => some out.reverse
  | .byte byte :: rest => joinPieces (byte :: out) rest
  | .unit n :: .unit m :: rest =>
      if isLeading n then
        if isTrailing m then
          let c := Char.ofNat (0x10000 + (n - 0xD800) * 0x400 + (m - 0xDC00))
          joinPieces ((String.utf8EncodeChar c).reverse ++ out) rest
        else none
      else if isTrailing n then none
      else joinPieces ((String.utf8EncodeChar (Char.ofNat n)).reverse ++ out) (.unit m :: rest)
  | .unit n :: rest =>
      if isLeading n || isTrailing n then none
      else joinPieces ((String.utf8EncodeChar (Char.ofNat n)).reverse ++ out) rest

def readText? (raw : Bytes) : Option String :=
  (pieces [] raw).bind fun found => (joinPieces [] found).bind ofBytes?

def Token.bytes : Token → Bytes
  | .openObject => [123]
  | .closeObject => [125]
  | .openArray => [91]
  | .closeArray => [93]
  | .colon => [58]
  | .comma => [44]
  | .null => [110, 117, 108, 108]
  | .boolean true => [116, 114, 117, 101]
  | .boolean false => [102, 97, 108, 115, 101]
  | .number literal => literal.bytes
  | .text raw => 34 :: raw ++ [34]
  | .broken => []

def render (tokens : List Token) : Bytes := tokens.flatMap Token.bytes

def separated : List (List Token) → List Token
  | [] => []
  | [only] => only
  | first :: rest => first ++ .comma :: separated rest

def array (items : List (List Token)) : List Token := .openArray :: separated items ++ [.closeArray]

def object (members : List (String × List Token)) : List Token :=
  .openObject :: separated (members.map fun member => .ofText member.1 :: .colon :: member.2) ++ [.closeObject]

end ConfigRegistry.Json
