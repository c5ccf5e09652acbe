import ConfigRegistry.Store.Remote

set_option autoImplicit false

/-!
Commands and replies as they travel over a connection, in lines and in texts of any bytes whose length goes before
them; and a call over a connection, from the command that is written to the reply that is read.
-/
namespace ConfigRegistry.Store

open Text (toBytes ofBytes?)

namespace Wire

def lineEnd : Bytes := [13, 10]

-- What stands before the end of the first line, and what comes after it.
def line? : Bytes → Option (Bytes × Bytes)
  | [] => none
  | byte :: rest =>
      if byte = 13 ∧ rest.head? = some 10 then some ([], rest.tail)
      else (line? rest).map fun found => (byte :: found.1, found.2)

def natural? (digits : List Char) : Option Nat :=
  if digits ≠ [] ∧ digits.all Char.isDigit then some (Nat.ofDigitChars 10 digits 0) else none

def number? (line : Bytes) : Option Int :=
  (ofBytes? line).bind fun text => match text.toList with
    | '-' :: digits => (natural? digits).map Int.negOfNat
    | digits => (natural? digits).map Int.ofNat

-- A text of any bytes, and what comes after the end of its last line.
def text? (length : Nat) (bytes : Bytes) : Option (Bytes × Bytes) :=
  if (bytes.drop length).take 2 = lineEnd then some (bytes.take length, bytes.drop (length + 2)) else none

def many? {α : Type} (one : Bytes → Option (α × Bytes)) : Nat → Bytes → Option (List α × Bytes)
  | 0, bytes => some ([], bytes)
  | count + 1, bytes => (one bytes).bind fun first =>
      (many? one count first.2).map fun others => (first.1 :: others.1, others.2)

-- A mark, and then a number on the rest of its line.
def counted? (mark : Char) (bytes : Bytes) : Option (Int × Bytes) :=
  if bytes.head? = some mark.toUInt8 then
    (line? bytes.tail).bind fun line => (number? line.1).map fun number => (number, line.2)
  else none

def word? (bytes : Bytes) : Option (Bytes × Bytes) :=
  (counted? '$' bytes).bind fun length => text? length.1.toNat length.2

def command? (bytes : Bytes) : Option (List Bytes × Bytes) :=
  (counted? '*' bytes).bind fun count => many? word? count.1.toNat count.2

-- A client's reading of a reply, and what comes after it.
abbrev Reader := Bytes → Option (Reply × Bytes)

-- What a reply says, by its mark, the rest of its first line, and what comes after that line. A negative length
-- stands for nothing at all.
def content? (item : Reader) (mark : UInt8) (line rest : Bytes) : Option (Reply × Bytes) :=
  if mark = '+'.toUInt8 then (ofBytes? line).map fun text => (.status text, rest)
  else if mark = '-'.toUInt8 then (ofBytes? line).map fun text => (.error text, rest)
  else if mark = ':'.toUInt8 then (number? line).map fun value => (.integer value, rest)
  else if mark = '$'.toUInt8 then (number? line).bind fun length =>
    if length < 0 then some (.nil, rest)
    else (text? length.toNat rest).map fun found => (.bulk found.1, found.2)
  else if mark = '*'.toUInt8 then (number? line).bind fun count =>
    if count < 0 then some (.nil, rest)
    else (many? item count.toNat rest).map fun found => (.array found.1, found.2)
  else none

-- Arrays lie within arrays up to a depth.
def reply? : Nat → Reader
  | 0, _ => none
  | _ + 1, [] => none
  | depth + 1, mark :: rest => (line? rest).bind fun line => content? (reply? depth) mark line.1 line.2

def lineOf (text : String) : Bytes := toBytes text ++ lineEnd

mutual

def written : Reply → Bytes
  | .status text => lineOf ("+" ++ text)
  | .error text => lineOf ("-" ++ text)
  | .integer value => lineOf (":" ++ toString value)
  | .bulk value => lineOf ("$" ++ toString value.length) ++ value ++ lineEnd
  | .nil => lineOf "$-1"
  | .array items => lineOf ("*" ++ toString items.length) ++ allWritten items

def allWritten : List Reply → Bytes
  | [] => []
  | first :: others => written first ++ allWritten others

end

end Wire

-- The server reads a command off the connection, carries it out and writes its reply.
def Database.serve (database : Database) (received : Bytes) : Bytes × Database :=
  match Wire.command? received with
  | some (words, _) => (Wire.written (database.execute words).1, (database.execute words).2)
  | none => (Wire.written (.error "ERR Protocol error"), database)

namespace Remote

-- What the client makes of all that ever comes back. Where that is no whole reply, the connection is broken.
def hear (read : Wire.Reader) (call : Call) (received : Bytes) : Except StoreFailure call.Answer :=
  match read received with
  | some (reply, _) => interpret call reply
  | none => failure call "the connection is broken"

def ask (read : Wire.Reader) (database : Database) (call : Call) : Except StoreFailure call.Answer × Database :=
  let served := database.serve (wire (command call))
  (hear read call served.1, served.2)

end Remote
end ConfigRegistry.Store
