import ConfigRegistry.Proofs.Peer
import ConfigRegistry.Proofs.Wire
import ConfigRegistry.Proofs.World

set_option autoImplicit false

/-!
The remote store beside the one in memory. Main statement: a database server that starts out empty gives over its
connection the same answers as the memory and holds the same values, call by call and under tasks that take their
steps in any order; and a call that is answered by an error, or whose reply does not come back whole, fails.
-/
namespace ConfigRegistry.Store

open Text (toBytes ofBytes? of_bytes_to_bytes to_bytes_of_bytes)
open Concurrent (Exchange)

namespace Database

-- The memory's keys as bytes with the memory's values, and no other key.
def Copies (database : Database) (memory : Memory) : Prop :=
  ∀ key, database.get? key = (ofBytes? key).bind memory.get?

section Copies

variable {database : Database} {memory : Memory}

theorem copies_holds (copies : database.Copies memory) : database.Holds memory := by
  intro key
  rw [copies, of_bytes_to_bytes, Option.bind_some]

theorem copies_empty : Copies [] .empty := by
  intro key
  cases ofBytes? key <;> rfl

-- No call comes near a key that is no text.
theorem nameless_kept (call : Call) {key : Bytes} (nameless : ofBytes? key = none) :
    (database.execute (Remote.command call)).2.get? key = database.get? key := by
  have other (text : String) : toBytes text ≠ key := by
    intro same
    rw [← same, of_bytes_to_bytes] at nameless
    exact nomatch nameless
  cases call with
  | get name => rfl
  | create name value =>
      change (if (database.get? (toBytes name)).isSome then ((.nil, database) : Reply × Database)
        else (.status "OK", database.set (toBytes name) value)).2.get? key = _
      by_cases taken : (database.get? (toBytes name)).isSome = true
      · rw [if_pos taken]
      · rw [if_neg taken]
        exact (get_set database _ value key).trans (if_neg (other name))
  | put name value => exact (get_set database _ value key).trans (if_neg (other name))
  | delete name => exact (get_erase database _ key).trans (if_neg (other name))
  | ping => rfl

theorem command_copies (copies : database.Copies memory) (call : Call) :
    (database.execute (Remote.command call)).2.Copies (memory.perform call).2 := by
  intro key
  cases name : ofBytes? key with
  | none =>
      rw [nameless_kept call name, copies, name]
      rfl
  | some text =>
      rw [← to_bytes_of_bytes name]
      exact (command_performs (copies_holds copies) call).2 text

end Copies

theorem command_plain (database : Database) (call : Call) :
    Wire.Plain (database.execute (Remote.command call)).1 := by
  cases call with
  | get key =>
      change Wire.Plain ((database.get? (toBytes key)).elim .nil .bulk)
      cases database.get? (toBytes key) <;> exact trivial
  | create key value =>
      change Wire.Plain (if (database.get? (toBytes key)).isSome then ((.nil, database) : Reply × Database)
        else (.status "OK", database.set (toBytes key) value)).1
      by_cases taken : (database.get? (toBytes key)).isSome = true
      · rw [if_pos taken]
        exact trivial
      · rw [if_neg taken]
        exact (by decide : 13 ∉ toBytes "OK")
  | put key value => exact (by decide : 13 ∉ toBytes "OK")
  | delete key => exact trivial
  | ping => exact (by decide : 13 ∉ toBytes "PONG")

theorem serve_command (database : Database) (call : Call) :
    database.serve (Remote.wire (Remote.command call)) =
      (Wire.written (database.execute (Remote.command call)).1, (database.execute (Remote.command call)).2) := by
  rw [serve, Wire.command_read]

end Database

def Memory.converse : Memory → List Call → List Exchange × Memory
  | memory, [] => ([], memory)
  | memory, call :: calls =>
      let later := Memory.converse (memory.perform call).2 calls
      (⟨call, .ok (memory.perform call).1⟩ :: later.1, later.2)

def Remote.converse (read : Wire.Reader) : Database → List Call → List Exchange × Database
  | database, [] => ([], database)
  | database, call :: calls =>
      let later := Remote.converse read (Remote.ask read database call).2 calls
      (⟨call, (Remote.ask read database call).1⟩ :: later.1, later.2)

namespace Remote

variable {read : Wire.Reader} {database : Database} {memory : Memory}

theorem hear_plain (faithful : Wire.Faithful read) (call : Call) {reply : Reply} (plain : Wire.Plain reply)
    (rest : Bytes) : hear read call (Wire.written reply ++ rest) = interpret call reply := by
  rw [hear, faithful.whole reply plain]

theorem hear_broken (faithful : Wire.Faithful read) (call : Call) {reply : Reply} (plain : Wire.Plain reply)
    {part : Bytes} (begins : part <+: Wire.written reply) (short : part ≠ Wire.written reply) :
    hear read call part = failure call "the connection is broken" := by
  rw [hear, faithful.broken reply plain part begins short]

theorem ask_performs (faithful : Wire.Faithful read) (copies : database.Copies memory) (call : Call) :
    (ask read database call).1 = .ok (memory.perform call).1 ∧
      (ask read database call).2.Copies (memory.perform call).2 := by
  rw [ask, Database.serve_command]
  constructor
  · have heard := hear_plain faithful call (database.command_plain call) []
    rw [List.append_nil] at heard
    exact heard.trans (Database.command_performs (Database.copies_holds copies) call).1
  · exact Database.command_copies copies call

theorem converse_refines (faithful : Wire.Faithful read) (copies : database.Copies memory) (calls : List Call) :
    (converse read database calls).1 = (memory.converse calls).1 ∧
      (converse read database calls).2.Copies (memory.converse calls).2 := by
  induction calls generalizing database memory with
  | nil => exact ⟨rfl, copies⟩
  | cons call calls ih =>
      obtain ⟨answer, after⟩ := ask_performs faithful copies call
      obtain ⟨same, left⟩ := ih after
      rw [converse, Memory.converse, answer, same]
      exact ⟨rfl, left⟩

end Remote
end ConfigRegistry.Store

namespace ConfigRegistry.Concurrent

open Store (Call Outcome Memory Database Remote.ask Remote.hear Remote.commandName)
open Store.Wire (Reader Faithful Plain written)
open Work (Process)
open Session (Product)

def Unanswered : Conduct := fun _ _ _ _ => False

-- One step of one task over a server. The world's own memory has no part in it.
inductive ServedStep (read : Reader) (program : Process Product → Prop) (database : Database) (world : World) :
    Event → Database → World → Prop where
  | own {event : Event} {after : World} (step : Step Unanswered program world event after) :
      ServedStep read program database world event database after
  | call {number : Nat} {role : Role} {guard : Option String} {call : Call}
      {next : Outcome call.Answer → Process Product}
      (present : world.tasks number = some ⟨role, .active (.ask guard call next)⟩) :
      ServedStep read program database world (.called number role call (outcomeOf (Remote.ask read database call).1))
        (Remote.ask read database call).2
        (world.put number ⟨role, .active (next (outcomeOf (Remote.ask read database call).1))⟩)

inductive ServedRun (read : Reader) (program : Process Product → Prop) (database : Database) (start : World) :
    List Event → Database → World → Prop where
  | start : ServedRun read program database start [] database start
  | step {events : List Event} {middle after : Database} {world later : World} {event : Event}
      (earlier : ServedRun read program database start events middle world)
      (last : ServedStep read program middle world event after later) :
      ServedRun read program database start (event :: events) after later

section Steps

variable {read : Reader} {program : Process Product → Prop} {world after : World} {event : Event}

theorem unanswered_elsewhere (step : Step Unanswered program world event after) (memory : Memory) :
    Step Faultless program { world with memory } event { after with memory } := by
  cases step with
  | begin free admitted => exact .begin free admitted
  | call present allowed => exact allowed.elim
  | wait present => exact .wait present
  | fresh id present => exact .fresh id present
  | start present => exact .start present
  | settle present free => exact .settle present free
  | abandon present free => exact .abandon present free
  | lose present => exact .lose present
  | resume present ended ending => exact .resume present ended ending
  | cancel present left => exact .cancel present left

theorem served_step (faithful : Faithful read) {database left : Database}
    (step : ServedStep read program database world event left after) {memory : Memory}
    (copies : database.Copies memory) :
    ∃ later, left.Copies later ∧ Step Faultless program { world with memory } event { after with memory := later } := by
  cases step with
  | own step => exact ⟨memory, copies, unanswered_elsewhere step memory⟩
  | call present =>
      rename_i number role guard call next
      obtain ⟨answer, kept⟩ := Store.Remote.ask_performs faithful copies call
      rw [answer]
      exact ⟨_, kept, .call present .answered⟩

theorem faultless_step (faithful : Faithful read) (step : Step Faultless program world event after)
    {database : Database} (copies : database.Copies world.memory) (memory : Memory) :
    ∃ left, left.Copies after.memory ∧
      ServedStep read program database { world with memory } event left { after with memory } := by
  cases step with
  | begin free admitted => exact ⟨database, copies, .own (.begin free admitted)⟩
  | call present allowed =>
      rename_i number role guard call next outcome later
      cases allowed with
      | answered =>
          obtain ⟨answer, kept⟩ := Store.Remote.ask_performs faithful copies call
          have served : ServedStep read program database { world with memory } _ _ _ := .call present
          rw [answer] at served
          exact ⟨_, kept, served⟩
  | wait present => exact ⟨database, copies, .own (.wait present)⟩
  | fresh id present => exact ⟨database, copies, .own (.fresh id present)⟩
  | start present => exact ⟨database, copies, .own (.start present)⟩
  | settle present free => exact ⟨database, copies, .own (.settle present free)⟩
  | abandon present free => exact ⟨database, copies, .own (.abandon present free)⟩
  | lose present => exact ⟨database, copies, .own (.lose present)⟩
  | resume present ended ending => exact ⟨database, copies, .own (.resume present ended ending)⟩
  | cancel present left => exact ⟨database, copies, .own (.cancel present left)⟩

end Steps

section Runs

variable {read : Reader} {program : Process Product → Prop} {start world : World} {events : List Event}

theorem served_run (faithful : Faithful read) {database left : Database}
    (run : ServedRun read program database start events left world) (copies : database.Copies start.memory) :
    ∃ memory, left.Copies memory ∧ Run Faultless program start events { world with memory } := by
  induction run with
  | start => exact ⟨start.memory, copies, .start⟩
  | step earlier last ih =>
      obtain ⟨memory, still, run⟩ := ih
      obtain ⟨later, kept, step⟩ := served_step faithful last still
      exact ⟨later, kept, .step run step⟩

theorem faultless_run (faithful : Faithful read) (run : Run Faultless program start events world) {database : Database}
    (copies : database.Copies start.memory) :
    ∃ left, left.Copies world.memory ∧
      ServedRun read program database start events left { world with memory := start.memory } := by
  induction run with
  | start => exact ⟨database, copies, .start⟩
  | step earlier last ih =>
      obtain ⟨middle, still, run⟩ := ih
      obtain ⟨left, kept, step⟩ := faultless_step faithful last still start.memory
      exact ⟨left, kept, .step run step⟩

end Runs

-- The lists of calls are all there are, so the values agree after each call; and the programs are those of any
-- coordinator and any repository.
theorem remote_store_refines_memory (read : Reader) (faithful : Faithful read) (program : Process Product → Prop) :
    (∀ calls, (Store.Remote.converse read [] calls).1 = (Store.Memory.converse .empty calls).1 ∧
      (Store.Remote.converse read [] calls).2.Copies (Store.Memory.converse .empty calls).2) ∧
    (∀ call text rest, 13 ∉ Text.toBytes text → Remote.hear read call (written (.error text) ++ rest) =
      .error (.unavailable (Remote.commandName call ++ " failed: " ++ text))) ∧
    (∀ call reply part, Plain reply → part <+: written reply → part ≠ written reply → Remote.hear read call part =
      .error (.unavailable (Remote.commandName call ++ " failed: " ++ "the connection is broken"))) ∧
    (∀ events database tasks, ServedRun read program [] (.idle .empty) events database ⟨.empty, tasks⟩ →
      ∃ memory, database.Copies memory ∧ Run Faultless program (.idle .empty) events ⟨memory, tasks⟩) ∧
    ∀ events memory tasks, Run Faultless program (.idle .empty) events ⟨memory, tasks⟩ →
      ∃ database, database.Copies memory ∧
        ServedRun read program [] (.idle .empty) events database ⟨.empty, tasks⟩ := by
  refine ⟨Store.Remote.converse_refines faithful Database.copies_empty, ?_, ?_, ?_, ?_⟩
  · intro call text rest plain
    have bare : Plain (.error text) := plain
    exact Store.Remote.hear_plain faithful call bare rest
  · intro call reply part plain begins short
    exact Store.Remote.hear_broken faithful call plain begins short
  · intro events database tasks run
    exact served_run faithful run Database.copies_empty
  · intro events memory tasks run
    exact faultless_run faithful run Database.copies_empty

-- A lost race, an empty value, a value with the ends of lines in it, and what is not there.
def raceCalls : List Call :=
  [.get "k", .create "k" [1, 13, 10], .create "k" [2], .get "k", .put "k" [], .get "k", .delete "k", .delete "k",
    .get "k", .ping]

theorem remote_race_refines_memory :
    let read := Store.Wire.reply? 100
    (Store.Remote.converse read [] raceCalls).1 =
        [⟨.get "k", .ok none⟩, ⟨.create "k" [1, 13, 10], .ok true⟩, ⟨.create "k" [2], .ok false⟩,
          ⟨.get "k", .ok (some [1, 13, 10])⟩, ⟨.put "k" [], .ok ()⟩, ⟨.get "k", .ok (some [])⟩,
          ⟨.delete "k", .ok true⟩, ⟨.delete "k", .ok false⟩, ⟨.get "k", .ok none⟩, ⟨.ping, .ok ()⟩] ∧
      Remote.hear read (.create "k" [2]) (Text.toBytes "-OOM\r\n") = .error (.unavailable "SET NX failed: OOM") ∧
      Remote.hear read (.get "k") (Text.toBytes "$2\r\n-1") =
        .error (.unavailable "GET failed: the connection is broken") := by
  intro read
  obtain ⟨conversations, errors, cuts, -⟩ :=
    remote_store_refines_memory read (Store.Wire.reply_faithful 99) fun _ => True
  constructor
  · exact (conversations raceCalls).1.trans rfl
  constructor
  · exact errors (.create "k" [2]) "OOM" [] (by decide)
  · exact cuts (.get "k") (.bulk [45, 49]) _ trivial (by decide) (by decide)

end ConfigRegistry.Concurrent
