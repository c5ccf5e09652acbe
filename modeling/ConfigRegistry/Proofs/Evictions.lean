import ConfigRegistry.Proofs.Throttling
import ConfigRegistry.Proofs.Tokens

set_option autoImplicit false

/-!
A gate that evicts beside one that never does. Main statement: if a bucket is full again after the time to live, and
times do not go back, nobody is answered otherwise because of the evictions.
-/
namespace ConfigRegistry.Throttle.Gate

variable {rate : Rat} {burst : Nat} {now later : Instant} {left right : Gate Rat} {bucket : Bucket Rat}
  {here there : Option (Bucket Rat)}

-- A bucket that was last seen when it was last filled, which is not in the future.
structure Recent (rate : Rat) (burst : Nat) (now : Instant) (bucket : Bucket Rat) : Prop where
  filled : bucket.Filled burst rate bucket.filledAt
  seen : bucket.seenAt = bucket.filledAt
  past : bucket.filledAt ≤ now

-- What the gate that evicts has of an identity, and what the other one has. A bucket that was dropped is full by now.
inductive Shadow (rate : Rat) (burst : Nat) (now : Instant) : Option (Bucket Rat) → Option (Bucket Rat) → Prop where
  | unseen : Shadow rate burst now none none
  | kept (bucket : Bucket Rat) (recent : Recent rate burst now bucket) :
      Shadow rate burst now (some bucket) (some bucket)
  | dropped (bucket : Bucket Rat) (recent : Recent rate burst now bucket)
      (refilled : (burst : Rat) ≤ accrued rate bucket.filledAt now) : Shadow rate burst now none (some bucket)

structure Shadows (rate : Rat) (burst : Nat) (now : Instant) (left right : Gate Rat) : Prop where
  rates : left.rate = rate ∧ right.rate = rate
  bursts : left.burst = burst ∧ right.burst = burst
  buckets : ∀ identity, Shadow rate burst now (left.buckets.get? identity) (right.buckets.get? identity)

theorem recent_later (recent : Recent rate burst now bucket) (ordered : now ≤ later) : Recent rate burst later bucket :=
  ⟨recent.filled, recent.seen, recent.past.trans ordered⟩

theorem shadow_later (nonneg : 0 ≤ rate) (shadow : Shadow rate burst now here there) (ordered : now ≤ later) :
    Shadow rate burst later here there := by
  cases shadow with
  | unseen => exact .unseen
  | kept bucket recent => exact .kept bucket (recent_later recent ordered)
  | dropped bucket recent refilled =>
      exact .dropped bucket (recent_later recent ordered) (refilled.trans (accrued_later nonneg ordered))

theorem shadows_later (nonneg : 0 ≤ rate) (shadows : Shadows rate burst now left right) (ordered : now ≤ later) :
    Shadows rate burst later left right :=
  ⟨shadows.rates, shadows.bursts, fun identity => shadow_later nonneg (shadows.buckets identity) ordered⟩

-- A bucket that has had the time to fill up is as good as a new one.
theorem refilled_take (recent : Recent rate burst now bucket)
    (refilled : (burst : Rat) ≤ accrued rate bucket.filledAt now) (count : Nat) :
    bucket.take count now = (Bucket.full burst rate now).take count now := by
  have held := recent.filled.nonneg
  have tokens : (bucket.fill now).tokens = burst := by
    rw [Bucket.filled_tokens recent.filled, max_eq_right recent.past]
    exact min_eq_right (by linarith)
  have whole : ((Bucket.full burst rate now).fill now).tokens = burst := by
    rw [Bucket.filled_tokens (Bucket.full_filled burst rate now)]
    simp [Bucket.full, accrued, Amount.ofNat]
  have same : { bucket.fill now with seenAt := now } =
      { (Bucket.full burst rate now).fill now with seenAt := now } := by
    rw [Bucket.mk.injEq]
    refine ⟨recent.filled.size, recent.filled.pace, tokens.trans whole.symm, ?_, rfl⟩
    exact (max_eq_right recent.past).trans (max_self now).symm
  rw [Bucket.take, Bucket.take, same]

theorem take_recent (nonneg : 0 ≤ rate) (recent : Recent rate burst now bucket) (count : Nat) :
    Recent rate burst now (bucket.take count now).2 := by
  obtain ⟨filled, -⟩ := Bucket.take_filled nonneg recent.filled count now
  rw [max_eq_right recent.past] at filled
  exact ⟨filled.filledAt.symm ▸ filled, (take_seen bucket count now).trans filled.filledAt.symm, filled.filledAt.le⟩

theorem full_recent (rate : Rat) (burst : Nat) (now : Instant) : Recent rate burst now (Bucket.full burst rate now) :=
  ⟨Bucket.full_filled burst rate now, rfl, le_refl now⟩

-- Whoever enters finds the same bucket in both gates, or buckets that do the same.
theorem bucket_for_shadows (nonneg : 0 ≤ rate) (shadows : Shadows rate burst now left right) (identity : String) :
    (left.bucketFor identity now).take 1 now = (right.bucketFor identity now).take 1 now ∧
      Recent rate burst now ((right.bucketFor identity now).take 1 now).2 := by
  rw [bucketFor, bucketFor, shadows.rates.1, shadows.rates.2, shadows.bursts.1, shadows.bursts.2]
  generalize left.buckets.get? identity = here, right.buckets.get? identity = there, shadows.buckets identity = shadow
  cases shadow with
  | unseen => exact ⟨rfl, take_recent nonneg (full_recent rate burst now) 1⟩
  | kept bucket recent => exact ⟨rfl, take_recent nonneg recent 1⟩
  | dropped bucket recent refilled => exact ⟨(refilled_take recent refilled 1).symm, take_recent nonneg recent 1⟩

theorem enter_shadows (nonneg : 0 ≤ rate) (shadows : Shadows rate burst now left right) (entering : String) :
    (left.enter entering now).1 = (right.enter entering now).1 ∧
      Shadows rate burst now (left.enter entering now).2 (right.enter entering now).2 := by
  obtain ⟨same, recent⟩ := bucket_for_shadows nonneg shadows entering
  refine ⟨congrArg (fun taken => taken.1) same, shadows.rates, shadows.bursts, fun identity => ?_⟩
  rw [enter_bucket, enter_bucket, same]
  by_cases own : entering = identity
  · rw [if_pos own, if_pos own]
    exact .kept _ recent
  · rw [if_neg own, if_neg own]
    exact shadows.buckets identity

-- A bucket that is dropped was not seen for the time that it takes to fill up.
theorem shadow_evicted (nonneg : 0 ≤ rate) (shadow : Shadow rate burst now here there) {ttl : Span}
    (covers : (burst : Rat) ≤ rate * ((ttl : Rat) / (second : Rat))) :
    Shadow rate burst now (here.filter fun bucket => !(now.before? ttl).any bucket.isIdle) there := by
  cases shadow with
  | unseen => exact .unseen
  | dropped bucket recent refilled => exact .dropped bucket recent refilled
  | kept bucket recent =>
      by_cases idle : (now.before? ttl).any bucket.isIdle = true
      · obtain ⟨cutoff, shown, before⟩ := (Option.any_eq_true _ _).mp idle
        obtain ⟨-, rfl⟩ := Instant.before_eq_some.mp shown
        have unseen : bucket.seenAt < now - ttl := of_decide_eq_true before
        have away : bucket.filledAt ≤ now - ttl := recent.seen ▸ unseen.le
        have gap : accrued rate (now - ttl) now = rate * ((ttl : Rat) / (second : Rat)) := by simp [accrued]
        have sum := accrued_add rate bucket.filledAt (now - ttl) now
        have gain := accrued_nonneg nonneg away
        rw [Option.filter_some, if_neg (by simp [idle])]
        exact .dropped bucket recent (by linarith)
      · rw [Option.filter_some, if_pos (by simpa using idle)]
        exact .kept bucket recent

theorem evict_shadows (nonneg : 0 ≤ rate) (shadows : Shadows rate burst now left right) {ttl : Span}
    (covers : (burst : Rat) ≤ rate * ((ttl : Rat) / (second : Rat))) :
    Shadows rate burst now (left.evict now ttl).2 right := by
  obtain ⟨pace, size⟩ := drop_settings left (now.before? ttl)
  refine ⟨⟨pace.trans shadows.rates.1, shadows.rates.2⟩, ⟨size.trans shadows.bursts.1, shadows.bursts.2⟩,
    fun identity => ?_⟩
  rw [evict, drop_bucket]
  exact shadow_evicted nonneg (shadows.buckets identity) covers

-- The time to live of each eviction suffices to fill a bucket.
def Patient (rate : Rat) (burst : Nat) (deeds : List Deed) : Prop :=
  ∀ (now : Instant) (ttl : Span), .evict now ttl ∈ deeds → (burst : Rat) ≤ rate * ((ttl : Rat) / (second : Rat))

theorem answers_shadows (nonneg : 0 ≤ rate) (shadows : Shadows rate burst now left right) {deeds : List Deed}
    (future : ∀ deed ∈ deeds, now ≤ deed.now) (ordered : deeds.Pairwise fun first second => first.now ≤ second.now)
    (patient : Patient rate burst deeds) : left.answers deeds = right.answers (deeds.filter Deed.isEntry) := by
  induction deeds generalizing now left right with
  | nil => rfl
  | cons deed rest ih =>
      obtain ⟨first, others⟩ := List.pairwise_cons.mp ordered
      have awaited := shadows_later nonneg shadows (future deed List.mem_cons_self)
      have patience : Patient rate burst rest := fun now ttl among => patient now ttl (List.mem_cons_of_mem _ among)
      cases deed with
      | enter entering now =>
          obtain ⟨same, next⟩ := enter_shadows nonneg awaited entering
          rw [List.filter_cons_of_pos rfl, answers, answers]
          exact congrArg₂ (· ++ ·) (congrArg (fun admitted => [(entering, admitted)]) same)
            (ih next first others patience)
      | evict now ttl =>
          have next := evict_shadows nonneg awaited (patient now ttl List.mem_cons_self)
          rw [List.filter_cons_of_neg (by simp [Deed.isEntry]), answers, answer, List.nil_append]
          exact ih next first others patience

theorem eviction_unobservable {rate : Rat} {burst : Nat} (nonneg : 0 ≤ rate) {deeds : List Deed}
    (ordered : deeds.Pairwise fun first second => first.now ≤ second.now) (patient : Patient rate burst deeds) :
    let gate : Gate Rat := { rate, burst }
    gate.answers deeds = gate.answers (deeds.filter Deed.isEntry) := by
  intro gate
  cases deeds with
  | nil => rfl
  | cons deed rest =>
      have shadows : Shadows rate burst deed.now gate gate := ⟨⟨rfl, rfl⟩, ⟨rfl, rfl⟩, fun _ => .unseen⟩
      refine answers_shadows nonneg shadows (fun other among => ?_) ordered patient
      rcases List.mem_cons.mp among with rfl | among
      · exact le_refl _
      · exact (List.pairwise_cons.mp ordered).1 other among

-- A bucket that was emptied is dropped, and made anew for the next entry.
theorem eviction_unobservable_dropped :
    let deeds : List Deed := [.enter "a" 0, .enter "a" 0, .enter "a" 500000000, .evict 2000000000 1000000000,
      .enter "a" 2000000000, .enter "a" 2000000000]
    let gate : Gate Rat := { rate := 2, burst := 2 }
    (0 : Rat) ≤ 2 ∧ (deeds.Pairwise fun first second => first.now ≤ second.now) ∧ Patient 2 2 deeds ∧
      ((gate.run (deeds.take 3)).tracks "a" = true ∧ (gate.run (deeds.take 4)).tracks "a" = false) ∧
      gate.answers deeds = gate.answers (deeds.filter Deed.isEntry) := by
  intro deeds gate
  have nonneg : (0 : Rat) ≤ 2 := by decide
  have ordered : deeds.Pairwise fun first second => first.now ≤ second.now := by decide
  have patient : Patient 2 2 deeds := by
    intro now ttl among
    obtain ⟨rfl, rfl⟩ : now = 2000000000 ∧ ttl = 1000000000 := by simpa [deeds] using among
    norm_num [second]
  have dropped : (gate.run (deeds.take 3)).tracks "a" = true ∧ (gate.run (deeds.take 4)).tracks "a" = false := by
    decide +kernel
  exact ⟨nonneg, ordered, patient, dropped, eviction_unobservable nonneg ordered patient⟩

end ConfigRegistry.Throttle.Gate
