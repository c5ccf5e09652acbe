import Mathlib.Data.Set.Card
import ConfigRegistry.Throttle.Sweep
import ConfigRegistry.Proofs.Sightings

set_option autoImplicit false

/-!
The span of time whose identities a gate tracks. Main statement: right after a sweep they are those that entered within
the time to live, a sweep in the background keeps them within twice that, and one that was stopped drops nobody.
-/
namespace ConfigRegistry.Throttle

namespace Gate

-- Deeds in the order of their times up to now, whose evictions have one time to live.
structure Steady (ttl : Span) (deeds : List Deed) (now : Instant) : Prop where
  ordered : deeds.Pairwise fun first second => first.now ≤ second.now
  past : ∀ deed ∈ deeds, deed.now ≤ now
  spans : ∀ other span, .evict other span ∈ deeds → span = ttl

section Windows

variable {ttl : Span} {now : Instant} {deeds : List Deed} {deed : Deed} {identity : String} {seen other : Instant}

theorem steady_init (steady : Steady ttl (deeds ++ [deed]) now) : Steady ttl deeds deed.now ∧ deed.now ≤ now := by
  obtain ⟨ordered, -, apart⟩ := List.pairwise_append.mp steady.ordered
  refine ⟨⟨ordered, fun other among => apart other among deed (by simp), fun other span among => ?_⟩, ?_⟩
  · exact steady.spans other span (by simp [among])
  · exact steady.past deed (by simp)

theorem last_entry_latest (ordered : deeds.Pairwise fun first second => first.now ≤ second.now)
    (last : LastEntry identity deeds seen) (entered : .enter identity other ∈ deeds) : other ≤ seen := by
  obtain ⟨front, back, rfl, none⟩ := last
  rcases List.mem_append.mp entered with before | after
  · exact (List.pairwise_append.mp ordered).2.2 _ before _ List.mem_cons_self
  · rcases List.mem_cons.mp after with same | later
    · exact (Deed.enter.inj same).2.le
    · exact absurd later (none other)

theorem dropped_iff {α : Type} {gate : Gate α} :
    gate.tracks identity = true ∧ (gate.evict now ttl).2.tracks identity = false ↔
      ∃ bucket, gate.buckets.get? identity = some bucket ∧ ¬ Spares now ttl bucket.seenAt := by
  rw [← Bool.not_eq_true, tracks_iff, tracks_iff]
  simp only [evict_kept]
  constructor
  · rintro ⟨⟨bucket, there⟩, gone⟩
    exact ⟨bucket, there, fun spared => gone ⟨bucket, there, spared⟩⟩
  · rintro ⟨bucket, there, idle⟩
    refine ⟨⟨bucket, there⟩, ?_⟩
    rintro ⟨other, there', spared⟩
    cases there.symm.trans there'
    exact idle spared

theorem evict_count {α : Type} (gate : Gate α) (now : Instant) (ttl : Span) : (gate.evict now ttl).1 =
    {identity | gate.tracks identity = true ∧ (gate.evict now ttl).2.tracks identity = false}.ncard := by
  cases shown : now.before? ttl with
  | none =>
      have same : gate.evict now ttl = (0, gate) := by rw [evict, shown, drop]
      simp [same]
  | some cutoff =>
      let idle := gate.buckets.entries.filter fun entry => entry.2.isIdle cutoff
      have apart : (idle.map Prod.fst).Nodup := gate.buckets.keys_nodup.sublist (List.filter_sublist.map _)
      have dropped : {identity | gate.tracks identity = true ∧ (gate.evict now ttl).2.tracks identity = false} =
          ((idle.map Prod.fst).toFinset : Set String) := by
        ext identity
        rw [Set.mem_ofPred_eq, dropped_iff]
        simp [idle, KeyMap.get_iff_mem, Spares, shown, Bucket.isIdle]
      rw [dropped, Set.ncard_coe_finset, List.toFinset_card_of_nodup apart, List.length_map, evict, shown]
      change gate.buckets.entries.length - (gate.buckets.entries.filter fun entry => !entry.2.isIdle cutoff).length = _
      rw [List.length_eq_length_filter_add fun entry => entry.2.isIdle cutoff, Nat.add_sub_cancel]

variable {α : Type} [Amount α]

theorem act_settings (gate : Gate α) (deed : Deed) :
    (gate.act deed).rate = gate.rate ∧ (gate.act deed).burst = gate.burst := by
  cases deed with
  | enter entering now => exact ⟨rfl, rfl⟩
  | evict now ttl => exact drop_settings gate (now.before? ttl)

theorem run_settings (gate : Gate α) (deeds : List Deed) :
    (gate.run deeds).rate = gate.rate ∧ (gate.run deeds).burst = gate.burst := by
  induction deeds using List.reverseRecOn with
  | nil => exact ⟨rfl, rfl⟩
  | append_singleton deeds deed ih =>
      rw [run_append]
      have same := act_settings (gate.run deeds) deed
      exact ⟨same.1.trans ih.1, same.2.trans ih.2⟩

-- No eviction up to now drops an identity that entered recently enough to be spared now.
theorem spared_tracked {rate : α} {burst : Nat} (steady : Steady ttl deeds now)
    (entered : .enter identity seen ∈ deeds) (spared : Spares now ttl seen) :
    (Gate.run { rate, burst } deeds).tracks identity = true := by
  induction deeds using List.reverseRecOn generalizing now with
  | nil => cases entered
  | append_singleton deeds deed ih =>
      obtain ⟨before, upto⟩ := steady_init steady
      have spared' : Spares deed.now ttl seen := spares_earlier upto spared
      have earlier (among : .enter identity seen ∈ deeds) := ih before among spared'
      rw [run_append, tracks_iff]
      cases deed with
      | enter entering time =>
          change ∃ bucket, (Gate.enter _ entering time).2.buckets.get? identity = some bucket
          rw [enter_bucket]
          by_cases own : entering = identity
          · exact ⟨_, if_pos own⟩
          · rw [if_neg own]
            refine tracks_iff.mp (earlier ((List.mem_append.mp entered).resolve_right fun new => own ?_))
            exact (Deed.enter.inj (List.mem_singleton.mp new)).1.symm
      | evict time span =>
          obtain rfl : span = ttl := steady.spans time span (by simp)
          have among : .enter identity seen ∈ deeds := by simpa using entered
          obtain ⟨bucket, found⟩ := tracks_iff.mp (earlier among)
          have latest : seen ≤ bucket.seenAt := last_entry_latest before.ordered (dated_run _ _ _ _ _ found) among
          exact ⟨bucket, evict_kept.mpr ⟨found, spares_later spared' latest⟩⟩

theorem swept_window {rate : α} {burst : Nat} (steady : Steady ttl deeds now) :
    ((Gate.run { rate, burst } deeds).evict now ttl).2.tracks identity = true ↔
      ∃ seen, .enter identity seen ∈ deeds ∧ Spares now ttl seen := by
  rw [tracks_iff]
  constructor
  · rintro ⟨bucket, kept⟩
    obtain ⟨found, spared⟩ := evict_kept.mp kept
    exact ⟨bucket.seenAt, last_entry_mem (dated_run _ _ _ _ _ found), spared⟩
  · rintro ⟨seen, entered, spared⟩
    have tracked : (Gate.run { rate, burst } deeds).tracks identity = true := spared_tracked steady entered spared
    obtain ⟨bucket, found⟩ := tracks_iff.mp tracked
    have latest : seen ≤ bucket.seenAt := last_entry_latest steady.ordered (dated_run _ _ _ _ _ found) entered
    exact ⟨bucket, evict_kept.mpr ⟨found, spares_later spared latest⟩⟩

theorem shown_window {rate : α} {burst : Nat} (steady : Steady ttl deeds now) (shown : ∀ deed ∈ deeds, deed.now.Shown) :
    ((Gate.run { rate, burst } deeds).evict now ttl).2.tracks identity = true ↔
      ∃ seen, .enter identity seen ∈ deeds ∧ now - ttl ≤ seen := by
  rw [swept_window steady]
  exact exists_congr fun seen => and_congr_right fun entered => spares_iff (shown _ entered).1

-- To an identity that is not tracked the gate is a new one.
theorem untracked_fresh {rate : α} {burst : Nat} {gate : Gate α} (settings : gate.rate = rate ∧ gate.burst = burst)
    (untracked : gate.tracks identity = false) (later : List Deed) :
    told identity (gate.answers later) = told identity (Gate.answers { rate, burst } later) := by
  have alike : Alike identity gate { rate, burst } :=
    ⟨settings.1, settings.2, Option.not_isSome_iff_eq_none.mp (by simpa [tracks, KeyMap.contains] using untracked)⟩
  rw [(run_alike alike later).2, (run_alike (alike_refl identity _) later).2]

end Windows
end Gate

-- A gate with the sweep that runs in the background, until it is stopped.
structure Swept (α : Type) where
  gate : Gate α
  sweep : Option Sweep

namespace Swept

-- A tick is the moment at which the task of the sweep looks at its timer; nothing is done if it is not due. After a
-- stop the task has ended.
inductive Event where
  | deed (deed : Deed)
  | tick (now : Instant)
  | stop (now : Instant)
deriving DecidableEq, Repr

def Event.now : Event → Instant
  | .deed own => own.now
  | .tick now => now
  | .stop now => now

def deedsOf (events : List Event) : List Deed := events.filterMap fun
  | .deed deed => some deed
  | _ => none

structure InOrder (start : Instant) (events : List Event) (now : Instant) : Prop where
  ordered : events.Pairwise fun first second => first.now ≤ second.now
  within : ∀ event ∈ events, start ≤ event.now ∧ event.now ≤ now

section Runs

variable {α : Type} [Amount α]

def step (swept : Swept α) : Event → Swept α
  | .deed deed => { swept with gate := swept.gate.act deed }
  | .tick now =>
      match swept.sweep with
      | none => swept
      | some sweep => ⟨(sweep.serve swept.gate now).2, some (sweep.serve swept.gate now).1⟩
  | .stop _ => { swept with sweep := none }

def run (swept : Swept α) (events : List Event) : Swept α := events.foldl step swept

end Runs

section Steps

variable {α : Type} {ttl : Span} {start now later : Instant} {sweep : Sweep} {gate : Gate α} {deeds : List Deed}
  {swept : Swept α}

-- After the first tick no bucket was last seen more than two times to live before the next one, at an instant that the
-- clock can show.
structure Paced (ttl : Span) (start now : Instant) (sweep : Sweep) (gate : Gate α) : Prop where
  positive : ttl ≠ 0
  span : sweep.ttl = ttl
  next : sweep.deadline ≤ now + ttl
  recent : start + ttl < sweep.deadline → ∀ identity bucket, gate.buckets.get? identity = some bucket →
    bucket.seenAt.Shown → sweep.deadline ≤ bucket.seenAt + 2 * ttl

theorem paced_later (paced : Paced ttl start now sweep gate) (ordered : now ≤ later) :
    Paced ttl start later sweep gate :=
  ⟨paced.positive, paced.span, paced.next.trans (Int.add_le_add_right ordered _), paced.recent⟩

theorem paced_start (started : Sweep.start? start ttl = some sweep) (gate : Gate α) :
    Paced ttl start start sweep gate := by
  rw [Sweep.start?] at started
  split at started
  · cases started
  · rename_i refused
    cases started
    have positive : ttl ≠ 0 := fun zero => refused (by simp [zero])
    exact ⟨positive, rfl, le_refl _, fun begun => absurd begun (lt_irrefl _)⟩

theorem ticked_deadline (sweep : Sweep) (positive : sweep.ttl ≠ 0) (now : Instant) :
    (sweep.ticked now).deadline ≤ now + sweep.ttl := by
  rw [Sweep.ticked]
  split
  · exact le_refl _
  · have whole : (now - sweep.deadline) / (sweep.ttl : Int) * sweep.ttl ≤ now - sweep.deadline :=
      Int.ediv_mul_le _ (Int.natCast_ne_zero.mpr positive)
    change sweep.deadline + ((now - sweep.deadline) / sweep.ttl + 1) * sweep.ttl ≤ now + sweep.ttl
    rw [add_mul, one_mul]
    linarith

theorem ticked_span (sweep : Sweep) (now : Instant) : (sweep.ticked now).ttl = sweep.ttl := by
  rw [Sweep.ticked]
  split <;> rfl

theorem paced_serve (paced : Paced ttl start now sweep gate) (ordered : now ≤ later) :
    Paced ttl start later (sweep.serve gate later).1 (sweep.serve gate later).2 := by
  obtain rfl := paced.span
  rw [Sweep.serve]
  split
  · have next := ticked_deadline sweep paced.positive later
    refine ⟨paced.positive, ticked_span sweep later, next, fun _ identity bucket found shown => ?_⟩
    have recent := (Gate.spares_iff shown.1).mp (Gate.evict_kept.mp found).2
    change (sweep.ticked later).deadline ≤ _
    linarith
  · exact paced_later paced ordered

variable [Amount α]

theorem paced_act (paced : Paced ttl start now sweep gate) {deed : Deed} (ordered : now ≤ deed.now) :
    Paced ttl start deed.now sweep (gate.act deed) := by
  have awaited := paced_later paced ordered
  refine ⟨awaited.positive, awaited.span, awaited.next, fun begun identity bucket found shown => ?_⟩
  cases deed with
  | enter entering time =>
      rw [Gate.act, Gate.enter_bucket] at found
      by_cases own : entering = identity
      · rw [if_pos own] at found
        cases found
        have next : sweep.deadline ≤ time + ttl := awaited.next
        rw [Gate.take_seen]
        linarith
      · rw [if_neg own] at found
        exact awaited.recent begun identity bucket found shown
  | evict time span => exact awaited.recent begun identity bucket (Gate.evict_kept.mp found).1 shown

theorem paced_step (paced : ∀ sweep, swept.sweep = some sweep → Paced ttl start now sweep swept.gate) {event : Event}
    (since : now ≤ event.now) : ∀ sweep, (swept.step event).sweep = some sweep →
      Paced ttl start event.now sweep (swept.step event).gate := by
  intro sweep running
  cases event with
  | deed deed => exact paced_act (paced sweep running) since
  | tick time =>
      rw [step] at running ⊢
      cases before : swept.sweep with
      | none => simp [before] at running
      | some served =>
          rw [before] at running
          cases running
          exact paced_serve (paced served before) (since : now ≤ time)
  | stop time => cases running

theorem in_order_cons {event : Event} {events : List Event} (order : InOrder now (event :: events) later) :
    now ≤ event.now ∧ event.now ≤ later ∧ InOrder event.now events later := by
  obtain ⟨first, others⟩ := List.pairwise_cons.mp order.ordered
  obtain ⟨since, upto⟩ := order.within event List.mem_cons_self
  refine ⟨since, upto, others, fun other among => ⟨first other among, ?_⟩⟩
  exact (order.within other (List.mem_cons_of_mem _ among)).2

theorem paced_run (paced : ∀ sweep, swept.sweep = some sweep → Paced ttl start now sweep swept.gate)
    {events : List Event} (order : InOrder now events later) (past : now ≤ later) :
    ∀ sweep, (swept.run events).sweep = some sweep → Paced ttl start later sweep (swept.run events).gate := by
  induction events generalizing now swept with
  | nil => exact fun sweep running => paced_later (paced sweep running) past
  | cons event events ih =>
      obtain ⟨since, upto, rest⟩ := in_order_cons order
      exact ih (paced_step paced since) rest upto

theorem dated_step (dated : Gate.Dated swept.gate deeds) (event : Event) :
    Gate.Dated (swept.step event).gate (deeds ++ deedsOf [event]) := by
  cases event with
  | deed deed => exact Gate.dated_act dated deed
  | tick now =>
      rw [step, deedsOf]
      cases swept.sweep with
      | none => simpa using dated
      | some sweep =>
          change Gate.Dated (sweep.serve swept.gate now).2 (deeds ++ [])
          rw [List.append_nil, Sweep.serve]
          split
          · exact Gate.dated_evict dated now sweep.ttl
          · exact dated
  | stop now => simpa [step, deedsOf] using dated

theorem dated_run (dated : Gate.Dated swept.gate deeds) (events : List Event) :
    Gate.Dated (swept.run events).gate (deeds ++ deedsOf events) := by
  induction events generalizing swept deeds with
  | nil => simpa [run, deedsOf] using dated
  | cons event events ih =>
      have rest := ih (dated_step dated event)
      rwa [List.append_assoc, deedsOf, deedsOf, ← List.filterMap_append] at rest

theorem stopped_run (stopped : swept.sweep = none) {events : List Event}
    (calm : ∀ now ttl, .deed (.evict now ttl) ∉ events) {identity : String}
    (tracked : swept.gate.tracks identity = true) : (swept.run events).gate.tracks identity = true := by
  induction events generalizing swept with
  | nil => exact tracked
  | cons event events ih =>
      have rest (now : Instant) (ttl : Span) : .deed (.evict now ttl) ∉ events := fun among =>
        calm now ttl (List.mem_cons_of_mem _ among)
      have still : (swept.step event).sweep = none := by
        cases event with
        | deed deed => exact stopped
        | tick now => simp [step, stopped]
        | stop now => rfl
      have kept : (swept.step event).gate.tracks identity = true := by
        cases event with
        | deed deed =>
            cases deed with
            | enter entering now =>
                change (Gate.enter _ entering now).2.tracks identity = true
                rw [Gate.tracks_iff] at tracked ⊢
                rw [Gate.enter_bucket]
                by_cases own : entering = identity
                · exact ⟨_, if_pos own⟩
                · rwa [if_neg own]
            | evict now ttl => exact absurd List.mem_cons_self (calm now ttl)
        | tick now => simpa [step, stopped] using tracked
        | stop now => exact tracked
      exact ih still rest kept

end Steps

-- The sweep runs, and no tick of it is overdue by `late` or more; ticks that are served on time never are, by 0.
def Prompt {α : Type} (swept : Swept α) (now : Instant) (late : Span) : Prop :=
  ∃ sweep, swept.sweep = some sweep ∧ now < sweep.deadline + late

section Windows

variable {α : Type} [Amount α] {rate : α} {burst : Nat} {ttl late : Span} {start now : Instant} {deeds : List Deed}
  {events : List Event} {identity : String}

theorem watched_window (steady : Gate.Steady ttl deeds start) (order : InOrder start events now)
    (prompt : Prompt (Swept.run ⟨Gate.run { rate, burst } deeds, Sweep.start? start ttl⟩ events) now late)
    (begun : start + ttl + late ≤ now)
    (tracked :
      (Swept.run ⟨Gate.run { rate, burst } deeds, Sweep.start? start ttl⟩ events).gate.tracks identity = true) :
    ∃ seen, Gate.LastEntry identity (deeds ++ deedsOf events) seen ∧
      (seen.Shown → now - 2 * ttl - late < seen) ∧ seen ≤ now := by
  have past : start ≤ now := by linarith
  obtain ⟨running, runs, near⟩ := prompt
  obtain ⟨bucket, found⟩ := Gate.tracks_iff.mp tracked
  have dated := dated_run (Gate.dated_run rate burst deeds) events identity bucket found
  refine ⟨bucket.seenAt, dated, fun shown => ?_, ?_⟩
  · have begins (sweep : Sweep) (started : Sweep.start? start ttl = some sweep) :=
      paced_start started (Gate.run { rate, burst } deeds)
    have paced := paced_run (fun sweep started => begins sweep started) order past running runs
    have recent := paced.recent (by linarith) identity bucket found shown
    linarith
  · rcases List.mem_append.mp (Gate.last_entry_mem dated) with before | since
    · exact (steady.past _ before).trans past
    · obtain ⟨event, among, same⟩ := List.mem_filterMap.mp since
      cases event with
      | deed deed =>
          cases same
          exact (order.within _ among).2
      | tick time => cases same
      | stop time => cases same

end Windows

theorem sweep_window {α : Type} [Amount α] (rate : α) (burst : Nat) (ttl : Span) :
    let fresh : Gate α := { rate, burst }
    (∀ deeds now, Gate.Steady ttl deeds now →
      let before := fresh.run deeds
      let after := (before.evict now ttl).2
      (∀ identity, after.tracks identity = true ↔ ∃ seen, .enter identity seen ∈ deeds ∧ Gate.Spares now ttl seen) ∧
        ((∀ deed ∈ deeds, deed.now.Shown) → ∀ identity,
          (after.tracks identity = true ↔ ∃ seen, .enter identity seen ∈ deeds ∧ now - ttl ≤ seen)) ∧
        (before.evict now ttl).1 = {identity | before.tracks identity = true ∧ after.tracks identity = false}.ncard ∧
        ∀ identity, after.tracks identity = false →
          ∀ later, Gate.told identity (after.answers later) = Gate.told identity (fresh.answers later)) ∧
    (∀ deeds start events now late, Gate.Steady ttl deeds start → InOrder start events now →
      let watched := Swept.run ⟨fresh.run deeds, Sweep.start? start ttl⟩ events
      Prompt watched now late → start + ttl + late ≤ now → ∀ identity, watched.gate.tracks identity = true →
        ∃ seen, Gate.LastEntry identity (deeds ++ deedsOf events) seen ∧
          (seen.Shown → now - 2 * ttl - late < seen) ∧ seen ≤ now) ∧
    ∀ (swept : Swept α) (stopped : Instant) events, (∀ now ttl, .deed (.evict now ttl) ∉ events) →
      ∀ identity, swept.gate.tracks identity = true →
        ((swept.step (.stop stopped)).run events).gate.tracks identity = true := by
  intro fresh
  refine ⟨?_, fun deeds start events now late steady order prompt begun identity tracked =>
    watched_window steady order prompt begun tracked, ?_⟩
  · intro deeds now steady before after
    have kept := Gate.act_settings before (.evict now ttl)
    have same := Gate.run_settings fresh deeds
    have settings : after.rate = rate ∧ after.burst = burst := ⟨kept.1.trans same.1, kept.2.trans same.2⟩
    exact ⟨fun identity => Gate.swept_window steady, fun shown identity => Gate.shown_window steady shown,
      Gate.evict_count before now ttl, fun identity untracked later => Gate.untracked_fresh settings untracked later⟩
  · intro swept stopped events calm identity tracked
    have gone : (swept.step (.stop stopped)).sweep = none := rfl
    exact stopped_run gone calm tracked

-- One identity is dropped by the first tick and comes back, the other is dropped by the second.
theorem sweep_window_two_identities :
    let ttl : Span := 1000000000
    let fresh : Gate Rat := { rate := 1, burst := 3 }
    let deeds : List Deed := [.enter "a" 0, .enter "b" 100000000]
    let swept := ((fresh.run deeds).evict 1050000000 ttl).2
    let events : List Event := [.deed (.enter "b" 900000000), .tick 1100000000, .deed (.enter "a" 1500000000),
      .tick 2100000000]
    let watched := Swept.run ⟨fresh.run deeds, Sweep.start? 100000000 ttl⟩ events
    let stopped := (watched.step (.stop 2200000000)).run [.tick 3100000000, .tick 4100000000]
    Gate.Steady ttl deeds 100000000 ∧ InOrder 100000000 events 2200000000 ∧ Prompt watched 2200000000 0 ∧
      (swept.tracks "b" = true ↔ ∃ seen, .enter "b" seen ∈ deeds ∧ 1050000000 - (ttl : Instant) ≤ seen) ∧
      (swept.tracks "a" = false ∧ Gate.told "a" (swept.answers deeds) = Gate.told "a" (fresh.answers deeds)) ∧
      (∃ seen, Gate.LastEntry "a" (deeds ++ deedsOf events) seen ∧
        2200000000 - 2 * (ttl : Instant) - (0 : Span) < seen ∧ seen ≤ 2200000000) ∧
      stopped.gate.tracks "a" = true := by
  intro ttl fresh deeds swept events watched stopped
  have ordered : deeds.Pairwise fun first second => first.now ≤ second.now := by decide
  have spans (other : Instant) (span : Span) (among : .evict other span ∈ deeds) : span = ttl :=
    absurd among (by simp [deeds])
  have steady : Gate.Steady ttl deeds 100000000 := ⟨ordered, by decide, spans⟩
  have order : InOrder 100000000 events 2200000000 := ⟨by decide, by decide⟩
  have prompt : Prompt watched 2200000000 0 := ⟨⟨ttl, 3100000000⟩, by decide +kernel, by decide⟩
  have tracked : watched.gate.tracks "a" = true := by decide +kernel
  have gone : swept.tracks "a" = false := by decide +kernel
  obtain ⟨after, window, still⟩ := sweep_window (1 : Rat) 3 ttl
  obtain ⟨-, kept, -, forgotten⟩ := after deeds 1050000000 ⟨ordered, by decide, spans⟩
  obtain ⟨seen, last, near, upto⟩ :=
    window deeds 100000000 events 2200000000 0 steady order prompt (by decide) "a" tracked
  have shown : ∀ deed ∈ deeds ++ deedsOf events, deed.now.Shown := by decide
  exact ⟨steady, order, prompt, kept (by decide) "b", ⟨gone, forgotten "a" gone deeds⟩,
    ⟨seen, last, near (shown _ (Gate.last_entry_mem last)), upto⟩, still watched 2200000000 _ (by simp) "a" tracked⟩

end Swept
end ConfigRegistry.Throttle
