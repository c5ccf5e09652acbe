import Mathlib.Data.List.Induction
import Mathlib.Data.List.Infix
import Mathlib.Tactic.Linarith
import ConfigRegistry.Proofs.Throttling

set_option autoImplicit false

/-!
When the identities of a gate were last seen. Main statement: an eviction keeps exactly the identities whose last entry
is not before its cutoff, and leaves their buckets as they are. Of entries at instants that the clock can show, those
are the ones not more than the time to live ago. The last entry is the one that was made last, and an earlier one may
have a later time.
-/
namespace ConfigRegistry.Throttle.Gate

section Entries

variable {identity : String} {deeds : List Deed} {deed : Deed} {seen other : Instant}

def LastEntry (identity : String) (deeds : List Deed) (seen : Instant) : Prop :=
  ∃ front back, deeds = front ++ .enter identity seen :: back ∧ ∀ now, .enter identity now ∉ back

theorem last_entry_here (identity : String) (deeds : List Deed) (seen : Instant) :
    LastEntry identity (deeds ++ [.enter identity seen]) seen := ⟨deeds, [], rfl, fun _ => List.not_mem_nil⟩

theorem last_entry_kept (last : LastEntry identity deeds seen) (others : ∀ now, deed ≠ .enter identity now) :
    LastEntry identity (deeds ++ [deed]) seen := by
  obtain ⟨front, back, rfl, none⟩ := last
  refine ⟨front, back ++ [deed], by simp, fun now among => ?_⟩
  rcases List.mem_append.mp among with among | among
  · exact none now among
  · exact others now (List.mem_singleton.mp among).symm

theorem last_entry_mem (last : LastEntry identity deeds seen) : .enter identity seen ∈ deeds := by
  obtain ⟨front, back, rfl, -⟩ := last
  simp

theorem last_entry_unique (last : LastEntry identity deeds seen) (last' : LastEntry identity deeds other) :
    seen = other := by
  obtain ⟨front, back, rfl, none⟩ := last
  obtain ⟨front', back', split, none'⟩ := last'
  rcases List.append_eq_append_iff.mp split with ⟨more, -, rest⟩ | ⟨more, -, rest⟩
  · cases more with
    | nil => exact (Deed.enter.inj (List.cons.inj rest).1).2
    | cons deed more => exact absurd (by simp [(List.cons.inj rest).2]) (none other)
  · cases more with
    | nil => exact (Deed.enter.inj (List.cons.inj rest).1).2.symm
    | cons deed more => exact absurd (by simp [(List.cons.inj rest).2]) (none' seen)

end Entries

section Cutoffs

variable {now earlier later seen : Instant} {ttl : Span}

-- An eviction spares whoever was seen at its cutoff or later, and everybody if the clock cannot show the cutoff.
def Spares (now : Instant) (ttl : Span) (seen : Instant) : Prop :=
  ∀ cutoff, now.before? ttl = some cutoff → cutoff ≤ seen

theorem spares_iff_any : Spares now ttl seen ↔ (!(now.before? ttl).any fun cutoff => seen < cutoff) = true := by
  rw [Bool.not_eq_true', Option.any_eq_false]
  simp [Spares]

theorem spares_of_le (recent : now - ttl ≤ seen) : Spares now ttl seen := by
  intro cutoff shown
  obtain ⟨-, rfl⟩ := Instant.before_eq_some.mp shown
  exact recent

-- What the clock can show lies after every cutoff that it cannot show.
theorem spares_iff (shown : -Instant.bound ≤ seen) : Spares now ttl seen ↔ now - ttl ≤ seen := by
  refine ⟨fun spares => ?_, spares_of_le⟩
  by_cases early : -Instant.bound ≤ now - ttl
  · exact spares _ (Instant.before_eq_some.mpr ⟨early, rfl⟩)
  · linarith

theorem spares_earlier (ordered : earlier ≤ now) (spares : Spares now ttl seen) : Spares earlier ttl seen := by
  intro cutoff shown
  obtain ⟨early, rfl⟩ := Instant.before_eq_some.mp shown
  have upto : earlier - ttl ≤ now - ttl := Int.sub_le_sub_right ordered _
  exact upto.trans (spares _ (Instant.before_eq_some.mpr ⟨early.trans upto, rfl⟩))

theorem spares_later (spares : Spares now ttl seen) (ordered : seen ≤ later) : Spares now ttl later :=
  fun cutoff shown => (spares cutoff shown).trans ordered

end Cutoffs

section Runs

variable {α : Type} {identity : String} {gate : Gate α} {deeds : List Deed}

-- Each bucket has the time of the last entry of its identity.
def Dated (gate : Gate α) (deeds : List Deed) : Prop :=
  ∀ identity bucket, gate.buckets.get? identity = some bucket → LastEntry identity deeds bucket.seenAt

theorem tracks_iff : gate.tracks identity = true ↔ ∃ bucket, gate.buckets.get? identity = some bucket :=
  Option.isSome_iff_exists

theorem evict_kept {now : Instant} {ttl : Span} {bucket : Bucket α} :
    (gate.evict now ttl).2.buckets.get? identity = some bucket ↔
      gate.buckets.get? identity = some bucket ∧ Spares now ttl bucket.seenAt := by
  rw [evict, drop_bucket, Option.filter_eq_some_iff, spares_iff_any]
  rfl

theorem dated_evict (dated : Dated gate deeds) (now : Instant) (ttl : Span) : Dated (gate.evict now ttl).2 deeds :=
  fun identity bucket found => dated identity bucket (evict_kept.mp found).1

variable [Amount α]

theorem run_append (gate : Gate α) (first second : List Deed) :
    gate.run (first ++ second) = (gate.run first).run second := List.foldl_append

theorem dated_act (dated : Dated gate deeds) (deed : Deed) : Dated (gate.act deed) (deeds ++ [deed]) := by
  intro identity bucket found
  cases deed with
  | enter entering now =>
      rw [act, enter_bucket] at found
      by_cases own : entering = identity
      · rw [if_pos own] at found
        cases found
        rw [own, take_seen]
        exact last_entry_here identity deeds now
      · rw [if_neg own] at found
        exact last_entry_kept (dated identity bucket found) fun now same => own (Deed.enter.inj same).1
  | evict now ttl =>
      refine last_entry_kept (dated_evict dated now ttl identity bucket found) fun now same => ?_
      cases same

theorem dated_run (rate : α) (burst : Nat) (deeds : List Deed) : Dated (Gate.run { rate, burst } deeds) deeds := by
  induction deeds using List.reverseRecOn with
  | nil => exact fun identity bucket found => nomatch found
  | append_singleton deeds deed ih =>
      rw [run_append]
      exact dated_act ih deed

end Runs

-- An entry made while the bucket was there that is there now.
def SeenSince {α : Type} [Amount α] (gate : Gate α) (identity : String) (deeds : List Deed) (seen : Instant) : Prop :=
  ∃ front back, deeds = front ++ .enter identity seen :: back ∧
    ∀ more ∈ back.inits, (gate.run (front ++ .enter identity seen :: more)).tracks identity = true

theorem eviction_by_last_entry {α : Type} [Amount α] (rate : α) (burst : Nat) (deeds : List Deed) (now : Instant)
    (ttl : Span) (identity : String) :
    let gate : Gate α := { rate, burst }
    let before := gate.run deeds
    let after := (before.evict now ttl).2
    (after.tracks identity = true ↔
      before.tracks identity = true ∧ ∃ seen, LastEntry identity deeds seen ∧ Spares now ttl seen) ∧
    ((∀ deed ∈ deeds, deed.now.Shown) → (after.tracks identity = true ↔
      before.tracks identity = true ∧ ∃ seen, LastEntry identity deeds seen ∧ now - ttl ≤ seen)) ∧
    (after.tracks identity = true → after.buckets.get? identity = before.buckets.get? identity) ∧
    ∀ seen, SeenSince gate identity deeds seen → now - ttl ≤ seen →
      (∀ last, LastEntry identity deeds last → now - ttl ≤ last) →
      after.tracks identity = true ∧ after.buckets.get? identity = before.buckets.get? identity := by
  intro gate before after
  have dated : Dated before deeds := dated_run rate burst deeds
  have kept : after.tracks identity = true ↔
      before.tracks identity = true ∧ ∃ seen, LastEntry identity deeds seen ∧ Spares now ttl seen := by
    rw [tracks_iff, tracks_iff]
    constructor
    · rintro ⟨bucket, found⟩
      obtain ⟨there, spared⟩ := evict_kept.mp found
      exact ⟨⟨bucket, there⟩, bucket.seenAt, dated identity bucket there, spared⟩
    · rintro ⟨⟨bucket, there⟩, seen, last, spared⟩
      have same : bucket.seenAt = seen := last_entry_unique (dated identity bucket there) last
      exact ⟨bucket, evict_kept.mpr ⟨there, same ▸ spared⟩⟩
  have unchanged (tracked : after.tracks identity = true) :
      after.buckets.get? identity = before.buckets.get? identity := by
    obtain ⟨bucket, found⟩ := tracks_iff.mp tracked
    rw [found, (evict_kept.mp found).1]
  refine ⟨kept, fun shown => ?_, unchanged, fun seen since _ last => ?_⟩
  · have plain (seen : Instant) (entered : LastEntry identity deeds seen) : Spares now ttl seen ↔ now - ttl ≤ seen :=
      spares_iff (shown _ (last_entry_mem entered)).1
    rw [kept]
    exact and_congr_right fun _ => exists_congr fun seen => and_congr_right (plain seen)
  · obtain ⟨front, back, split, tracked⟩ := since
    have there : before.tracks identity = true := by
      have whole := tracked back (by simp)
      rwa [← split] at whole
    obtain ⟨bucket, found⟩ := tracks_iff.mp there
    have entered := dated identity bucket found
    have stays := kept.mpr ⟨there, bucket.seenAt, entered, spares_of_le (last _ entered)⟩
    exact ⟨stays, unchanged stays⟩

-- Two entries against the order of their times, both recent enough.
theorem eviction_by_last_entry_reordered :
    let gate : Gate Rat := { rate := 1, burst := 3 }
    let deeds : List Deed := [.enter "a" 100, .enter "a" 70]
    let before := gate.run deeds
    let after := (before.evict 100 50).2
    SeenSince gate "a" deeds 100 ∧ (∀ last, LastEntry "a" deeds last → 100 - 50 ≤ last) ∧
      after.tracks "a" = true ∧ after.buckets.get? "a" = before.buckets.get? "a" := by
  intro gate deeds before after
  have since : SeenSince gate "a" deeds 100 := ⟨[], [.enter "a" 70], rfl, by decide +kernel⟩
  have recent (last : Instant) (entered : LastEntry "a" deeds last) : (100 : Instant) - 50 ≤ last := by
    rw [last_entry_unique entered (last_entry_here "a" [.enter "a" 100] 70)]
    decide
  obtain ⟨-, -, -, spared⟩ := eviction_by_last_entry (1 : Rat) 3 deeds 100 50 "a"
  exact ⟨since, recent, spared 100 since (by decide) recent⟩

-- A late entry with an early time stands in the place of the one before it.
theorem late_entry_hides_recent_one :
    let gate : Gate Rat := { rate := 1, burst := 3 }
    ¬ ∀ (deeds : List Deed) (now : Instant) (ttl : Span) (identity : String) (seen : Instant),
      SeenSince gate identity deeds seen → now - ttl ≤ seen →
      ((gate.run deeds).evict now ttl).2.tracks identity = true := by
  intro gate spared
  have since : SeenSince gate "a" [.enter "a" 100, .enter "a" 0] 100 := ⟨[], [.enter "a" 0], rfl, by decide +kernel⟩
  have tracked := spared _ 100 50 "a" 100 since (by decide)
  have dropped : ((gate.run [.enter "a" 100, .enter "a" 0]).evict 100 50).2.tracks "a" = false := by decide +kernel
  rw [dropped] at tracked
  cases tracked

end ConfigRegistry.Throttle.Gate
