import ConfigRegistry.Session.Machine
import ConfigRegistry.Session.Reply

set_option autoImplicit false

/-!
The commands of a session.
-/
namespace ConfigRegistry.Session

open Http (Request)
open Store (Call)

inductive Command where
  | call (call : Call)
  | isEmpty
  | fault (fault : Fault)
  | unhold
  | createConfiguration (json : Bytes)
  | createGroup (json : Bytes)
  | updateGroup (json : Bytes)
  | getConfiguration (name version : String)
  | deleteConfiguration (name version : String)
  | getGroup (name version : String)
  | deleteGroup (name version : String)
  | storeKey (key : String)
  | bodyLimit
  -- The ownership is kept under a name, or else dropped at once.
  | claim (key : Option String) (name : Option String)
  | settle (name : String) (answer : Dedup.Answer)
  | free (name : String)
  | leave (name : String)
  -- Dropped where no task can be started to delete the record.
  | forget (name : String)
  | handle (name : String) (reply : Reply)
  | debug (name : String)
  | serve (key : Option String) (reply : Reply) (name : Option String)
  | request (request : Request) (reply : Reply) (name : Option String)
  | finish (name : String)
  | abort (name : String)
  | poll (name : String)
  | enter (identity : String)
  | evict (ttl : Throttle.Span)
  | startSweep (ttl : Throttle.Span)
  | stopSweep
  -- Milliseconds with every timer on the way.
  | sleep (milliseconds : Nat)
  -- Milliseconds in one jump.
  | advance (milliseconds : Nat)

end ConfigRegistry.Session
