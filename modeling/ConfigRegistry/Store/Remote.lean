import ConfigRegistry.Store.Call
import ConfigRegistry.Number.Whole
import ConfigRegistry.KeyMap

set_option autoImplicit false

/-!
The store that keeps its values in a database server: each call is one command, and the server's reply is its
answer. The server itself is here too, as far as its commands are used.
-/
namespace ConfigRegistry.Store

open Text (toBytes ofBytes?)

inductive Reply where
  | status (text : String)
  | error (text : String)
  | integer (value : Int)
  | bulk (value : Bytes)
  | nil
  | array (items : List Reply)

namespace Remote

def backend : String := "redis"

def command : Call → List Bytes
  | .get key => [toBytes "GET", toBytes key]
  | .create key value => [toBytes "SET", toBytes key, value, toBytes "NX"]
  | .put key value => [toBytes "SET", toBytes key, value]
  | .delete key => [toBytes "DEL", toBytes key]
  | .ping => [toBytes "PING"]

def commandName : Call → String
  | .get _ => "GET"
  | .create .. => "SET NX"
  | .put .. => "SET"
  | .delete _ => "DEL"
  | .ping => "Ping"

def wire (words : List Bytes) : Bytes :=
  toBytes ("*" ++ toString words.length ++ "\r\n") ++
    words.flatMap fun word => toBytes ("$" ++ toString word.length ++ "\r\n") ++ word ++ [13, 10]

def failure {α : Type} (call : Call) (reason : String) : Except StoreFailure α :=
  .error (.unavailable (commandName call ++ " failed: " ++ reason))

def replyText? : Reply → Option String
  | .status text => some text
  | .bulk value => ofBytes? value
  | _ => none

def replyNumber? : Reply → Option Int
  | .integer value => some value
  | .status text => text.toInt?
  | .bulk value => (ofBytes? value).bind String.toInt?
  | _ => none

def interpret (call : Call) (reply : Reply) : Except StoreFailure call.Answer :=
  match reply with
  | .error text => failure call text
  | reply =>
      match call with
      | .get _ => match reply with
          | .nil => .ok none
          | .bulk value => .ok (some value)
          | _ => failure call "the reply is no value"
      | .create .. => match reply with
          | .nil => .ok false
          | reply => match replyText? reply with
              | some _ => .ok true
              | none => failure call "the reply is no text"
      | .put .. => .ok ()
      | .delete _ => match replyNumber? reply with
          | some count => .ok (decide (0 < count))
          | none => failure call "the reply is no number"
      | .ping => match replyText? reply with
          | some _ => .ok ()
          | none => failure call "the reply is no text"

end Remote

-- A database server: values under keys of any bytes, here in the order in which they were written.
abbrev Database := List (Bytes × Bytes)

namespace Database

def get? (database : Database) (key : Bytes) : Option Bytes := database.lookup key

def erase (database : Database) (key : Bytes) : Database := database.filter fun entry => entry.1 != key

def set (database : Database) (key value : Bytes) : Database := (key, value) :: database.erase key

def execute (database : Database) (words : List Bytes) : Reply × Database :=
  match words with
  | [name] => if name = toBytes "PING" then (.status "PONG", database) else (.error "ERR unknown command", database)
  | [name, key] =>
      if name = toBytes "GET" then ((database.get? key).elim .nil .bulk, database)
      else if name = toBytes "DEL" then
        (.integer (if (database.get? key).isSome then 1 else 0), database.erase key)
      else (.error "ERR unknown command", database)
  | [name, key, value] =>
      if name = toBytes "SET" then (.status "OK", database.set key value) else (.error "ERR unknown command", database)
  | [name, key, value, option] =>
      if name = toBytes "SET" && option = toBytes "NX" then
        if (database.get? key).isSome then (.nil, database) else (.status "OK", database.set key value)
      else (.error "ERR syntax error", database)
  | _ => (.error "ERR unknown command", database)

end Database
end ConfigRegistry.Store
