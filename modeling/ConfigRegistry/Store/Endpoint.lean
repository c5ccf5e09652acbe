import ConfigRegistry.Failure
import ConfigRegistry.Net.Address
import ConfigRegistry.Text.Blank

set_option autoImplicit false

/-!
Where a remote store listens, as given by a URL, and what becomes of an attempt to reach it.
-/
namespace ConfigRegistry.Store

open Number (digits?)

structure Endpoint where
  host : String
  port : UInt16
deriving DecidableEq, Repr

def defaultPort : UInt16 := 6379

def isHostChar (c : Char) : Bool := c.toNat > 32 && c.toNat ≠ 127 && !"#/<>?@[\\]^|%:".toList.contains c

def isDatabasePath (path : List Char) : Bool :=
  let number := Text.trimWhere (fun c => c = '/') path
  let digits := match number with
    | '+' :: rest => rest
    | '-' :: rest => rest
    | chars => chars
  number.isEmpty || ((digits? digits).filter fun n => n < Nat.pow 2 63).isSome

def splitHost (chars : List Char) : Option (List Char × List Char) :=
  match chars with
  | '[' :: rest =>
      let inside := rest.takeWhile fun c => c ≠ ']'
      if (Net.v6? inside).isSome && inside.length < rest.length then some (inside, rest.drop (inside.length + 1))
      else none
  | _ =>
      let host := chars.takeWhile fun c => c ≠ ':'
      if !host.isEmpty && host.all isHostChar then some (host, chars.drop host.length) else none

def Endpoint.ofUrl? (url : String) : Option Endpoint := do
  let rest ← if url.startsWith "redis://" then some (url.toList.drop 8) else none
  let authority := rest.takeWhile fun c => c ≠ '/' && c ≠ '?' && c ≠ '#'
  let path := (rest.drop authority.length).takeWhile fun c => c ≠ '?' && c ≠ '#'
  let place := (authority.reverse.takeWhile fun c => c ≠ '@').reverse
  let (host, after) ← splitHost place
  let port ← match after with
    | [] => some defaultPort
    | [':'] => some defaultPort
    | ':' :: digits => Net.port? digits
    | _ => none
  if isDatabasePath path then some ⟨String.ofList host, port⟩ else none

structure SystemFault where
  code : Nat
  kind : String
  message : String
deriving DecidableEq, Repr

def SystemFault.text (fault : SystemFault) : String := fault.message ++ " (os error " ++ toString fault.code ++ ")"

def SystemFault.details (fault : SystemFault) : String :=
  "Os \x7b code: " ++ toString fault.code ++ ", kind: " ++ fault.kind ++ ", message: " ++
    Text.quoted fault.message ++ " \x7d"

def networkUnreachable : SystemFault := ⟨101, "NetworkUnreachable", "Network is unreachable"⟩

def connect (dial : Endpoint → Option SystemFault) (url : String) : Except StoreFailure Endpoint :=
  match Endpoint.ofUrl? url with
  | none => .error (.unavailable "Failed to create Redis client: the URL names no store")
  | some endpoint =>
      match dial endpoint with
      | some fault => .error (.unavailable ("Failed to connect to Redis: " ++ fault.text))
      | none => .ok endpoint

end ConfigRegistry.Store
