import ConfigRegistry.Session.Command
import ConfigRegistry.Throttle.Sweep

set_option autoImplicit false

/-!
A session: one memory store, desk, gate and service on a clock that moves only when told to.
-/
namespace ConfigRegistry

open Catalog (Configuration Group)
open Http (Request Response)
open Session
open Throttle (Gate Sweep)
open Work (Job Process)

structure Session where
  desk : Dedup.Desk
  gate : Gate Float
  -- Whether requests go to handlers that do as told instead of to the service.
  scripted : Bool := false
  machine : Machine := {}
  sweep : Option Sweep := none
  elapsed : Nat := 0
  owned : KeyMap String := .empty
  running : KeyMap Nat := .empty

namespace Session

def now (session : Session) : Throttle.Instant := session.elapsed * Throttle.millisecond

def settled (session : Session) (machine : Machine) : Session :=
  let ran := machine.run
  { session with machine := ran.tidy (session.running.entries.map Prod.snd) }

def answerOf : Except String Product → Answer
  | .ok (.answer answer) => answer
  | .ok _ => .nothing
  | .error message => .panicked message

def runProcess (session : Session) (process : Process Answer) : Answer × Session :=
  let (number, spawned) := session.machine.spawn (process.map .answer)
  let ran := spawned.run
  (((ran.outcome? number).map answerOf).getD .nothing,
    { session with machine := ran.tidy (session.running.entries.map Prod.snd) })

def launch (session : Session) (name : Option String) (process : Process Answer) : Answer × Session :=
  match name with
  | none => session.runProcess process
  | some name =>
      let (number, spawned) := session.machine.spawn (process.map .answer)
      (.started, { session with running := session.running.insert name number }.settled spawned)

def orStoreFailure {α : Type} (answer : α → Answer) : Except StoreFailure α → Answer
  | .ok value => answer value
  | .error failure => .storeFailure failure

def orServiceFailure {α : Type} (answer : α → Answer) : Except ServiceFailure α → Answer
  | .ok value => answer value
  | .error failure => .serviceFailure failure

def callAnswer : (call : Store.Call) → call.Answer → Answer
  | .get _, value => value.elim .nothing .stored
  | .create .., written => .flag written
  | .put .., _ => .ok
  | .delete _, existed => .flag existed
  | .ping, _ => .ok

def runJob {α : Type} (session : Session) (answer : α → Answer) (job : Job (Except ServiceFailure α)) :
    Answer × Session :=
  session.runProcess (job.process.map (orServiceFailure answer))

def withItem {α : Type} (session : Session) (decoder : Json.Decoder α) (json : Bytes)
    (job : α → Job (Except ServiceFailure Unit)) : Answer × Session :=
  match decoder.whole json with
  | .error failure => (.jsonFailure failure, session)
  | .ok item => session.runJob (fun _ => .ok) (job item)

def withOwned (session : Session) (name : String) (process : String → Process Answer) : Answer × Session :=
  match session.owned.get? name with
  | none => (.notOwned, session)
  | some storeKey => { session with owned := session.owned.erase name }.runProcess (process storeKey)

def abandoning (key : Option String) (answer : Answer) : Process Answer :=
  match key with
  | some key => .abandon key (.done answer)
  | none => .done answer

def claim (session : Session) (key name : Option String) : Answer × Session :=
  let dropped (storeKey : String) : Option String := match name with
    | none => some storeKey
    | some name => session.owned.get? name
  let (answer, after) := session.runProcess <| (session.desk.claim key).bind fun
    | .error failure => .done (.storeFailure failure)
    | .ok (.owned storeKey) => abandoning (dropped storeKey) (.claimed (.owned storeKey))
    | .ok other => .done (.claimed other)
  match answer, name with
  | .claimed (.owned storeKey), some name => (answer, { after with owned := after.owned.insert name storeKey })
  | _, _ => (answer, after)

def ownershipText (storeKey : String) : String :=
  "Ownership \x7b store: " ++ Text.quoted Store.Memory.backend ++ ", store_key: " ++ Text.quoted storeKey ++
    ", settled: false \x7d"

def receive (session : Session) (request : Request) (reply : Reply) : Gate Float × Process Response :=
  let clock : Service.Clock := { now := session.now }
  if session.scripted then
    if (Http.Target.parse request.target).segments = [Text.toBytes "orders"] then
      let (gate, process) := Service.pass session.desk session.gate clock request (reply.responding request)
      (gate, Service.caught process)
    else (session.gate, .done (.empty 404))
  else Service.receive session.desk session.gate clock request

def collect (session : Session) (name : String) (number : Nat) : Answer × Session :=
  let forgotten := { session with running := session.running.erase name }
  match session.machine.outcome? number with
  | some outcome => (answerOf outcome, forgotten.settled session.machine)
  | none => (.nothing, forgotten)

def abort (session : Session) (name : String) : Answer × Session :=
  match session.running.get? name with
  | none => (.notStarted, session)
  | some number =>
      match session.machine.outcome? number with
      | some _ => session.collect name number
      | none =>
          (.cancelled, { session with running := session.running.erase name }.settled
            (session.machine.cancel number))

def finish (session : Session) (name : String) : Answer × Session :=
  match session.running.get? name with
  | none => (.notStarted, session)
  | some number => (session.settled (session.machine.letGo number)).collect name number

def moveTo (session : Session) (elapsed : Nat)
    (serve : Sweep → Gate Float → Throttle.Instant → Option Sweep × Gate Float) : Answer × Session :=
  let moved := { session with elapsed }
  match session.sweep with
  | none => (.count elapsed, moved)
  | some sweep =>
      let (sweep, gate) := serve sweep session.gate moved.now
      (.count elapsed, { moved with sweep, gate })

def step (session : Session) : Command → Answer × Session
  | .call call => session.runProcess ((Process.call call).map (orStoreFailure (callAnswer call)))
  | .isEmpty => (.flag session.machine.memory.isEmpty, session)
  | .fault fault =>
      let others := session.machine.faults.filter fun other => other.operation != fault.operation
      (.nothing, { session with machine := { session.machine with faults := fault :: others } })
  | .unhold => (.nothing, session.settled session.machine.unhold)
  | .createConfiguration json => session.withItem Configuration.decoder json Configuration.create
  | .createGroup json => session.withItem Group.decoder json Group.create
  | .updateGroup json => session.withItem Group.decoder json Group.update
  | .getConfiguration name version =>
      session.runJob (fun found => .item found.encode) (Configuration.fetch name version)
  | .deleteConfiguration name version => session.runJob (fun _ => .ok) (Catalog.Kind.configuration.delete name version)
  | .getGroup name version => session.runJob (fun found => .item found.encode) (Group.fetch name version)
  | .deleteGroup name version => session.runJob (fun _ => .ok) (Catalog.Kind.group.delete name version)
  | .storeKey key => (.text (session.desk.storeKey key), session)
  | .bodyLimit => (.count session.desk.bodyLimit, session)
  | .claim key name => session.claim key name
  | .settle name answer => session.withOwned name fun storeKey =>
      (Dedup.Ownership.settle storeKey answer).map (orStoreFailure fun _ => .ok)
  | .free name => session.withOwned name fun storeKey =>
      (Dedup.Ownership.free storeKey).map (orStoreFailure fun _ => .ok)
  | .leave name => session.withOwned name fun storeKey => (Dedup.Ownership.leave storeKey).map fun _ => .nothing
  | .forget name => session.withOwned name fun _ => .done .nothing
  | .handle name reply => session.withOwned name fun storeKey =>
      (Dedup.Ownership.handle storeKey id reply.answering).map (orServiceFailure .handled)
  | .debug name => ((session.owned.get? name).elim .nothing fun storeKey => .text (ownershipText storeKey), session)
  | .serve key reply name =>
      session.launch name ((session.desk.serve key id reply.answering).map (orServiceFailure .served))
  | .request request reply name =>
      let (gate, process) := session.receive request reply
      { session with gate }.launch name (process.map .response)
  | .finish name => session.finish name
  | .abort name => session.abort name
  | .poll name => match session.running.get? name with
      | none => (.nothing, session)
      | some number => (.flag (session.machine.outcome? number).isSome, session)
  | .enter identity =>
      let (admitted, gate) := session.gate.enter identity session.now
      (.flag admitted, { session with gate })
  | .evict ttl =>
      let (count, gate) := session.gate.evict session.now ttl
      (.count count, { session with gate })
  | .startSweep ttl => (.nothing, { session with sweep := Sweep.start? session.now ttl })
  | .stopSweep => (.nothing, { session with sweep := none })
  | .sleep milliseconds =>
      session.moveTo (session.elapsed + milliseconds) fun sweep gate now => (sweep.elapse gate now).map some id
  | .advance milliseconds => session.moveTo (session.elapsed + milliseconds) Sweep.attend

def callsSince (session : Session) (count : Nat) : List String :=
  (session.machine.log.take (session.machine.log.length - count)).reverse

end Session
end ConfigRegistry
