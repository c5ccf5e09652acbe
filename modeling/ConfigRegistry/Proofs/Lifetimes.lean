import ConfigRegistry.Proofs.Filing
import ConfigRegistry.Proofs.Sweeps
import ConfigRegistry.Service.Startup

set_option autoImplicit false

/-!
How long a sweep lives. Main statement: with a time to live that the settings' check accepts, a sweep whose first tick
the clock can show runs until it is stopped, as long as the clock can show the tick after the present one, and no
eviction fails. The longest time to live that can be set is accepted, and no sweep ever starts with it.
-/
namespace ConfigRegistry.Throttle

theorem rounded_mono {earlier later : Instant} (ordered : earlier ≤ later) : earlier.rounded ≤ later.rounded := by
  have whole := Int.ediv_le_ediv (c := (millisecond : Int)) (by decide) (Int.neg_le_neg ordered)
  rw [Instant.rounded, Instant.rounded]
  exact Int.mul_le_mul_of_nonneg_right (Int.neg_le_neg whole) (by decide)

theorem le_rounded (instant : Instant) : instant ≤ instant.rounded := by
  have whole : -instant / (millisecond : Int) * (millisecond : Int) ≤ -instant := Int.ediv_mul_le _ (by decide)
  rw [Instant.rounded]
  linarith

theorem Sweep.start_none_iff {start : Instant} {ttl : Span} :
    Sweep.start? start ttl = none ↔ ttl = 0 ∨ Instant.bound ≤ start + ttl := by
  simp [Sweep.start?, or_iff_not_imp_left]

namespace Gate

variable {α : Type} {gate : Gate α} {now : Instant} {ttl : Span}

-- Nobody was seen before a cutoff that the clock cannot show, so that an eviction may leave everybody there.
theorem evict_exact
    (shown : ∀ identity bucket, gate.buckets.get? identity = some bucket → bucket.seenAt.Shown) (now : Instant)
    (ttl : Span) : gate.evict now ttl = gate.drop (some (now - ttl)) := by
  rw [evict, Instant.before?]
  split
  · rfl
  · rename_i early
    have kept : (gate.buckets.filter fun _ bucket => !bucket.isIdle (now - ttl)) = gate.buckets := by
      apply KeyMap.eq_of_get
      intro identity
      rw [KeyMap.get_filter]
      cases found : gate.buckets.get? identity with
      | none => rfl
      | some bucket =>
          have seen := (shown identity bucket found).1
          have awake : bucket.isIdle (now - ttl) = false := decide_eq_false (by linarith)
          rw [Option.filter_some, awake]
          rfl
    rw [drop, drop, kept, Nat.sub_self]

theorem run_exact [Amount α] (rate : α) (burst : Nat) {deeds : List Deed} (shown : ∀ deed ∈ deeds, deed.now.Shown)
    (now : Instant) (ttl : Span) :
    (Gate.run { rate, burst } deeds).evict now ttl = (Gate.run { rate, burst } deeds).drop (some (now - ttl)) := by
  refine evict_exact (fun identity bucket found => ?_) now ttl
  exact shown _ (last_entry_mem (dated_run rate burst deeds identity bucket found))

end Gate

namespace Swept

section Lives

variable {α : Type} [Amount α]

-- As `step` and `run`, with the end of the clock.
def live (swept : Swept α) : Event → Swept α
  | .tick now =>
      match swept.sweep with
      | none => swept
      | some sweep => ⟨(sweep.attend swept.gate now).2, (sweep.attend swept.gate now).1⟩
  | event => swept.step event

def life (swept : Swept α) (events : List Event) : Swept α := events.foldl live swept

end Lives

variable {α : Type} [Amount α] {ttl : Span} {start now later : Instant} {swept : Swept α} {events : List Event}

theorem live_step {event : Event} (spans : ∀ sweep, swept.sweep = some sweep → sweep.ttl = ttl)
    (room : event.now + ttl < Instant.bound) : swept.live event = swept.step event := by
  cases event with
  | deed deed => rfl
  | stop now => rfl
  | tick now =>
      rw [live, step]
      cases running : swept.sweep with
      | none => rfl
      | some sweep =>
          have short : ¬ Instant.bound ≤ now + sweep.ttl := not_le.mpr (spans sweep running ▸ room)
          have served : sweep.attend swept.gate now =
              (some (sweep.serve swept.gate now).1, (sweep.serve swept.gate now).2) :=
            if_neg fun late => short late.2.2
          simp only [served]

theorem life_run (paced : ∀ sweep, swept.sweep = some sweep → Paced ttl start now sweep swept.gate)
    (order : InOrder now events later) (room : later + ttl < Instant.bound) : swept.life events = swept.run events := by
  induction events generalizing now swept with
  | nil => rfl
  | cons event events ih =>
      obtain ⟨since, upto, rest⟩ := in_order_cons order
      have same : swept.live event = swept.step event :=
        live_step (fun sweep running => (paced sweep running).span) (by linarith)
      change (swept.live event).life events = (swept.step event).run events
      rw [same]
      exact ih (paced_step paced since) rest

theorem unstopped_run (running : swept.sweep.isSome = true) (unstopped : ∀ stopped, .stop stopped ∉ events) :
    (swept.run events).sweep.isSome = true := by
  induction events generalizing swept with
  | nil => exact running
  | cons event events ih =>
      have still : (swept.step event).sweep.isSome = true := by
        cases event with
        | deed deed => exact running
        | tick now =>
            obtain ⟨sweep, there⟩ := Option.isSome_iff_exists.mp running
            rw [step, there]
            rfl
        | stop now => exact absurd List.mem_cons_self (unstopped now)
      exact ih still fun stopped among => unstopped stopped (List.mem_cons_of_mem _ among)

-- A sweep that nobody stops is there, its timer goes off within a time to live, and it evicts then.
theorem life_goes_on (running : swept.sweep.isSome = true)
    (paced : ∀ sweep, swept.sweep = some sweep → Paced ttl start now sweep swept.gate)
    (order : InOrder now events later) (past : now ≤ later) (room : later + ttl < Instant.bound)
    (unstopped : ∀ stopped, .stop stopped ∉ events) :
    ∃ sweep, (swept.life events).sweep = some sweep ∧ sweep.ttl = ttl ∧ sweep.dueAt ≤ Instant.rounded (later + ttl) ∧
      ∀ tick, sweep.dueAt ≤ tick → tick + ttl < Instant.bound →
        ((swept.life events).live (.tick tick)).gate = ((swept.life events).gate.evict tick ttl).2 := by
  rw [life_run paced order room]
  obtain ⟨sweep, there⟩ := Option.isSome_iff_exists.mp (unstopped_run running unstopped)
  have pace := paced_run paced order past sweep there
  refine ⟨sweep, there, pace.span, rounded_mono pace.next, fun tick due room => ?_⟩
  have spans : ∀ other, (swept.run events).sweep = some other → other.ttl = ttl := by
    intro other found
    cases there.symm.trans found
    exact pace.span
  have same : (swept.run events).live (.tick tick) = (swept.run events).step (.tick tick) := live_step spans room
  rw [same, step, there]
  change (sweep.serve (swept.run events).gate tick).2 = _
  rw [Sweep.serve, if_pos due, pace.span]

end Swept
end ConfigRegistry.Throttle

namespace ConfigRegistry.Settings

open Catalog (unit_bind_ok)

variable {settings : Settings}

theorem check_iff : settings.check = .ok () ↔
    checkRedisUrl settings.redisUrl = .ok () ∧ checkRate settings.ratePerSecond settings.burst = .ok () ∧
      checkTtl settings.idleTtlSeconds = .ok () ∧ checkBodyLimit settings.bodyLimit = .ok () ∧
      checkKeyScope settings.keyScope = .ok () ∧ checkLogLevel settings.logLevel = .ok () := by
  rw [check, unit_bind_ok, unit_bind_ok, unit_bind_ok, unit_bind_ok, unit_bind_ok]

theorem accepted_span (accepted : settings.check = .ok ()) : settings.idleSpan ≠ 0 := by
  have positive : settings.idleTtlSeconds ≠ 0 := by
    intro zero
    have passed := (check_iff.mp accepted).2.2.1
    rw [checkTtl, if_pos zero] at passed
    cases passed
  rw [idleSpan]
  omega

-- An environment that has nothing but a time to live, and the settings that it gives.
def ttlOnly (seconds name : String) : Option String := if name = "RATE_LIMIT_IDLE_TTL_SECS" then some seconds else none

def ofTtl (idleTtlSeconds : Nat) : Settings where
  bindAddress := ⟨.v4 127 0 0 1, 8080, 0⟩
  redisUrl := ""
  keyScope := "idempotency"
  ratePerSecond := 10.0
  burst := 20
  idleTtlSeconds
  bodyLimit := 1048576
  logLevel := "info"

theorem of_ttl_accepted {idleTtlSeconds : Nat} (positive : idleTtlSeconds ≠ 0) :
    (ofTtl idleTtlSeconds).check = .ok () := by
  have rate : checkRate 10.0 20 = .ok () := (if_neg (by decide)).trans (if_neg (by decide))
  have scope : checkKeyScope "idempotency" = .ok () := rfl
  have level : checkLogLevel "info" = .ok () := if_pos (by decide +kernel)
  exact check_iff.mpr ⟨rfl, rate, if_neg positive, rfl, scope, level⟩

end ConfigRegistry.Settings

namespace ConfigRegistry.Service

open Throttle

theorem accepted_ttl_sweeps {α : Type} [Amount α] (started : Started) (accepted : started.settings.check = .ok ()) :
    let ttl := started.settings.idleSpan
    (∀ start, Instant.bound ≤ start + ttl → started.sweep? start = none) ∧
    (∀ (gate : Gate α) start events now, start ≤ now → Swept.InOrder start events now →
      (∀ stopped, .stop stopped ∉ events) → Instant.rounded (now + ttl) < Instant.bound →
      let watched := Swept.life ⟨gate, started.sweep? start⟩ events
      ∃ sweep, watched.sweep = some sweep ∧ sweep.ttl = ttl ∧ sweep.dueAt ≤ Instant.rounded (now + ttl) ∧
        ∀ tick, sweep.dueAt ≤ tick → tick + ttl < Instant.bound →
          (watched.live (.tick tick)).gate = (watched.gate.evict tick ttl).2) ∧
    ∀ (rate : α) burst deeds, (∀ deed ∈ deeds, deed.now.Shown) → ∀ now span,
      let gate := Gate.run { rate, burst } deeds
      gate.evict now span = gate.drop (now.before? span) ∧
        gate.drop (now.before? span) = gate.drop (some (now - span)) := by
  intro ttl
  have positive : ttl ≠ 0 := Settings.accepted_span accepted
  refine ⟨fun start late => Sweep.start_none_iff.mpr (.inr late), ?_,
    fun rate burst deeds shown now span => ⟨rfl, Gate.run_exact rate burst shown now span⟩⟩
  intro gate start events now past order unstopped room
  have upto : now + ttl < Instant.bound := (le_rounded _).trans_lt room
  have running : (started.sweep? start).isSome = true := by
    refine Option.isSome_iff_ne_none.mpr fun none => ?_
    rcases Sweep.start_none_iff.mp none with zero | late
    · exact positive zero
    · linarith
  exact Swept.life_goes_on running (fun sweep begun => Swept.paced_start begun gate) order past upto unstopped

-- A sweep of one second whose second tick is late drops an identity all the same. The last second of the clock is too
-- short for the sweep, and a span of thousands of years evicts nobody.
theorem accepted_ttl_sweeps_late :
    let settings := Settings.ofTtl 1
    let gate : Gate Rat := { rate := 10, burst := 20 }
    let started : Started := ⟨settings, .memory, ⟨"idempotency", 1048576⟩, { rate := 10.0, burst := 20 }⟩
    let events : List Swept.Event := [.deed (.enter "a" 500000000), .tick 1000000000]
    let watched := Swept.life ⟨gate, started.sweep? 0⟩ events
    let entered := gate.run [.enter "a" 0]
    let ages : Span := 18446744073709551615000000000
    settings.check = .ok () ∧ Instant.bound ≤ Instant.bound - 1000000000 + settings.idleSpan ∧
      started.sweep? (Instant.bound - 1000000000) = none ∧
      Swept.InOrder 0 events 1000000000 ∧ (∀ stopped, .stop stopped ∉ events) ∧
      Instant.rounded (1000000000 + settings.idleSpan) < Instant.bound ∧
      (∃ sweep, watched.sweep = some sweep ∧ sweep.dueAt ≤ 2000000000) ∧
      (watched.live (.tick 2700000000)).gate = (watched.gate.evict 2700000000 settings.idleSpan).2 ∧
      (watched.gate.tracks "a" = true ∧ (watched.gate.evict 2700000000 settings.idleSpan).2.tracks "a" = false) ∧
      Instant.before? 0 ages = none ∧ entered.evict 0 ages = (0, entered) ∧
      entered.drop (some (0 - ages)) = (0, entered) := by
  intro settings gate started events watched entered ages
  have accepted : settings.check = .ok () := Settings.of_ttl_accepted (by decide)
  have late : Instant.bound ≤ Instant.bound - 1000000000 + settings.idleSpan := by decide
  have order : Swept.InOrder 0 events 1000000000 := ⟨by decide, by decide⟩
  have unstopped : ∀ stopped, .stop stopped ∉ events := by simp [events]
  have room : Instant.rounded (1000000000 + settings.idleSpan) < Instant.bound := by decide
  have early : Instant.before? 0 ages = none := by decide
  obtain ⟨refused, alive, checked⟩ := @accepted_ttl_sweeps Rat _ started accepted
  obtain ⟨sweep, there, -, due, served⟩ := alive gate 0 events 1000000000 (by decide) order unstopped room
  have soon : sweep.dueAt ≤ 2000000000 := due.trans (by decide)
  have evicted := served 2700000000 (soon.trans (by decide)) (by decide)
  have dropped : watched.gate.tracks "a" = true ∧
      (watched.gate.evict 2700000000 settings.idleSpan).2.tracks "a" = false := by
    decide +kernel
  obtain ⟨spared, exactly⟩ := checked 10 20 [.enter "a" 0] (by decide) 0 ages
  rw [early] at spared exactly
  exact ⟨accepted, late, refused _ late, order, unstopped, room, ⟨sweep, there, soon⟩, evicted, dropped, early, spared,
    exactly.symm⟩

-- The greatest number of seconds that can be read is accepted, and the service starts without a sweep at any time.
theorem longest_ttl_never_sweeps :
    ∃ started, start (fun _ => none) (Settings.ttlOnly "18446744073709551615") [] = .ok started ∧
      started.settings.check = .ok () ∧ ∀ now, 0 ≤ now → started.sweep? now = none := by
  have loaded : Settings.load (Settings.ttlOnly "18446744073709551615") [] =
      .ok (Settings.ofTtl 18446744073709551615) := by
    rfl
  have accepted : (Settings.ofTtl 18446744073709551615).check = .ok () := Settings.of_ttl_accepted (by decide)
  have long : Instant.bound ≤ ((Settings.ofTtl 18446744073709551615).idleSpan : Int) := by decide
  refine ⟨⟨Settings.ofTtl 18446744073709551615, .memory, Dedup.Desk.ofScope "idempotency" 1048576,
    { rate := 10.0, burst := 20 }⟩, ?_, accepted, fun now since => ?_⟩
  · rw [start, loaded]
    change ((Settings.ofTtl 18446744073709551615).check.mapError StartFailure.service >>= _) = _
    rw [accepted]
    rfl
  · exact Sweep.start_none_iff.mpr (.inr (long.trans (le_add_of_nonneg_left since)))

end ConfigRegistry.Service
