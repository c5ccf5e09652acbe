import Mathlib.Algebra.Order.Ring.Rat
import Mathlib.Tactic.Linarith
import Mathlib.Tactic.Ring
import ConfigRegistry.Throttle.Bucket

set_option autoImplicit false

/-!
The tokens of a bucket, counted in exact fractions. Main statement: a bucket never holds less than nothing or more than
its capacity, it grants over any stretch of attempts at most its capacity and what came in meanwhile, and it grants
whatever has had the time to come in.
-/
namespace ConfigRegistry.Throttle

-- What comes in from one instant to another.
def accrued (rate : Rat) (earlier later : Instant) : Rat := rate * (((later - earlier : Int) : Rat) / (second : Rat))

structure Attempt where
  count : Nat
  now : Instant
deriving DecidableEq, Repr

-- The latest instant that was seen: that of the start, or of an attempt.
def latest (start : Instant) (attempts : List Attempt) : Instant :=
  attempts.foldl (fun instant attempt => max instant attempt.now) start

section Accrual

variable {rate : Rat} {first second third : Instant}

theorem accrued_add (rate : Rat) (first second third : Instant) :
    accrued rate first second + accrued rate second third = accrued rate first third := by
  simp only [accrued, Int.cast_sub]
  ring

theorem accrued_nonneg (nonneg : 0 ≤ rate) (ordered : first ≤ second) : 0 ≤ accrued rate first second := by
  have gap : (0 : Rat) ≤ ((second - first : Int) : Rat) := by exact_mod_cast Int.sub_nonneg_of_le ordered
  exact mul_nonneg nonneg (div_nonneg gap (Nat.cast_nonneg _))

theorem accrued_later (nonneg : 0 ≤ rate) (ordered : second ≤ third) :
    accrued rate first second ≤ accrued rate first third := by
  have gain := accrued_nonneg nonneg ordered
  have sum := accrued_add rate first second third
  linarith

theorem latest_append (start : Instant) (before segment : List Attempt) :
    latest start (before ++ segment) = latest (latest start before) segment := List.foldl_append

end Accrual

namespace Bucket

section Runs

variable {α : Type} [Amount α]

def after (bucket : Bucket α) (attempts : List Attempt) : Bucket α :=
  attempts.foldl (fun bucket attempt => (bucket.take attempt.count attempt.now).2) bucket

-- How many tokens the attempts are granted in all.
def granted : Bucket α → List Attempt → Nat
  | _, [] => 0
  | bucket, attempt :: rest =>
      let taken := bucket.take attempt.count attempt.now
      (if taken.1 then attempt.count else 0) + granted taken.2 rest

end Runs

section Exact

variable {bucket : Bucket Rat} {capacity : Nat} {rate : Rat} {instant : Instant}

theorem fill_tokens (bucket : Bucket Rat) (now : Instant) :
    (bucket.fill now).tokens =
      min (bucket.tokens + accrued bucket.rate bucket.filledAt (max bucket.filledAt now)) bucket.capacity := by
  have gap : ((now.since bucket.filledAt : Nat) : Rat) = ((max bucket.filledAt now - bucket.filledAt : Int) : Rat) := by
    have same : ((now.since bucket.filledAt : Nat) : Int) = max bucket.filledAt now - bucket.filledAt := by
      rw [Instant.since]
      omega
    exact_mod_cast same
  rw [min_def, accrued, ← gap]
  rfl

theorem take_granted {count : Nat} {now : Instant} (enough : (count : Rat) ≤ (bucket.fill now).tokens) :
    bucket.take count now =
      (true, { bucket.fill now with tokens := (bucket.fill now).tokens - count, seenAt := now }) :=
  if_pos (decide_eq_true enough)

theorem take_refused {count : Nat} {now : Instant} (short : (bucket.fill now).tokens < count) :
    bucket.take count now = (false, { bucket.fill now with seenAt := now }) :=
  if_neg fun covers => absurd (of_decide_eq_true covers) (not_le.mpr short)

-- A bucket of a capacity and a rate that was filled up to an instant.
structure Filled (bucket : Bucket Rat) (capacity : Nat) (rate : Rat) (instant : Instant) : Prop where
  size : bucket.capacity = capacity
  pace : bucket.rate = rate
  filledAt : bucket.filledAt = instant
  nonneg : 0 ≤ bucket.tokens
  bounded : bucket.tokens ≤ capacity

theorem full_filled (capacity : Nat) (rate : Rat) (start : Instant) :
    Filled (full capacity rate start) capacity rate start :=
  ⟨rfl, rfl, rfl, Nat.cast_nonneg capacity, le_refl _⟩

theorem filled_tokens (filled : Filled bucket capacity rate instant) (now : Instant) :
    (bucket.fill now).tokens = min (bucket.tokens + accrued rate instant (max instant now)) capacity := by
  rw [fill_tokens, filled.pace, filled.filledAt, filled.size]

theorem fill_filled (nonneg : 0 ≤ rate) (filled : Filled bucket capacity rate instant) (now : Instant) :
    Filled (bucket.fill now) capacity rate (max instant now) where
  size := filled.size
  pace := filled.pace
  filledAt := congrArg (max · now) filled.filledAt
  nonneg := by
    have gain := accrued_nonneg nonneg (le_max_left instant now)
    have held := filled.nonneg
    rw [filled_tokens filled]
    exact le_min (by linarith) (Nat.cast_nonneg capacity)
  bounded := by
    rw [filled_tokens filled]
    exact min_le_right _ _

-- What one attempt is granted comes from what was there and what has come in since.
theorem take_filled (nonneg : 0 ≤ rate) (filled : Filled bucket capacity rate instant) (count : Nat) (now : Instant) :
    let taken := bucket.take count now
    Filled taken.2 capacity rate (max instant now) ∧
      ((if taken.1 then count else 0 : Nat) : Rat) + taken.2.tokens ≤
        bucket.tokens + accrued rate instant (max instant now) := by
  have fuller := fill_filled nonneg filled now
  have level : (bucket.fill now).tokens ≤ bucket.tokens + accrued rate instant (max instant now) :=
    (filled_tokens filled now).trans_le (min_le_left _ _)
  rcases le_or_gt (count : Rat) (bucket.fill now).tokens with enough | short
  · rw [take_granted enough]
    have spent : (bucket.fill now).tokens - count ≤ (bucket.fill now).tokens := sub_le_self _ (Nat.cast_nonneg count)
    refine ⟨⟨fuller.size, fuller.pace, fuller.filledAt, sub_nonneg.mpr enough, spent.trans fuller.bounded⟩, ?_⟩
    simpa using level
  · rw [take_refused short]
    refine ⟨⟨fuller.size, fuller.pace, fuller.filledAt, fuller.nonneg, fuller.bounded⟩, ?_⟩
    simpa using level

theorem after_filled (nonneg : 0 ≤ rate) (filled : Filled bucket capacity rate instant) (attempts : List Attempt) :
    Filled (bucket.after attempts) capacity rate (latest instant attempts) ∧
      (bucket.granted attempts : Rat) + (bucket.after attempts).tokens ≤
        bucket.tokens + accrued rate instant (latest instant attempts) := by
  induction attempts generalizing bucket instant with
  | nil =>
      refine ⟨filled, ?_⟩
      simp [granted, after, latest, accrued]
  | cons attempt rest ih =>
      obtain ⟨next, first⟩ := take_filled nonneg filled attempt.count attempt.now
      obtain ⟨last, others⟩ := ih next
      refine ⟨last, ?_⟩
      have sum := accrued_add rate instant (max instant attempt.now) (latest (max instant attempt.now) rest)
      have split : (bucket.granted (attempt :: rest) : Rat) =
          ((if (bucket.take attempt.count attempt.now).1 then attempt.count else 0 : Nat) : Rat) +
            ((bucket.take attempt.count attempt.now).2.granted rest : Rat) := by
        rw [granted, Nat.cast_add]
      change _ + ((bucket.take attempt.count attempt.now).2.after rest).tokens ≤
        _ + accrued rate instant (latest (max instant attempt.now) rest)
      linarith

theorem waiting_granted (nonneg : 0 ≤ rate) (filled : Filled bucket capacity rate instant) {count : Nat} {now : Instant}
    (fits : count ≤ capacity) (waited : (count : Rat) ≤ accrued rate instant now) :
    (bucket.take count now).1 = true := by
  have enough : (count : Rat) ≤ (bucket.fill now).tokens := by
    have later : accrued rate instant now ≤ accrued rate instant (max instant now) :=
      accrued_later nonneg (le_max_right instant now)
    have held := filled.nonneg
    rw [filled_tokens filled]
    exact le_min (by linarith) (by exact_mod_cast fits)
  rw [take_granted enough]

theorem conformance (capacity : Nat) {rate : Rat} (nonneg : 0 ≤ rate) (start : Instant) (before : List Attempt) :
    let bucket := (full capacity rate start).after before
    (0 ≤ bucket.tokens ∧ bucket.tokens ≤ capacity) ∧
      (∀ segment : List Attempt, (bucket.granted segment : Rat) ≤
        capacity + accrued rate (latest start before) (latest start (before ++ segment))) ∧
      ∀ (count : Nat) (now : Instant), count ≤ capacity → (count : Rat) ≤ accrued rate (latest start before) now →
        (bucket.take count now).1 = true := by
  intro bucket
  obtain ⟨filled, -⟩ := after_filled nonneg (full_filled capacity rate start) before
  refine ⟨⟨filled.nonneg, filled.bounded⟩, fun segment => ?_, fun count now => waiting_granted nonneg filled⟩
  obtain ⟨last, spent⟩ := after_filled nonneg filled segment
  have left := last.nonneg
  have held := filled.bounded
  rw [latest_append]
  linarith

-- A bucket that was emptied at one second is asked for an earlier instant, and again after another second.
theorem conformance_backwards :
    let before : List Attempt := [⟨2, 1000000000⟩, ⟨1, 500000000⟩]
    let segment : List Attempt := [⟨1, 600000000⟩, ⟨1, 2000000000⟩, ⟨1, 2000000000⟩]
    let bucket := (full 2 (1 : Rat) 1000000000).after before
    (0 : Rat) ≤ 1 ∧ (0 ≤ bucket.tokens ∧ bucket.tokens ≤ (2 : Nat)) ∧
      (bucket.granted segment : Rat) ≤ (2 : Nat) + accrued 1 1000000000 2000000000 ∧
      ((1 : Nat) : Rat) ≤ accrued 1 1000000000 2000000000 ∧ (bucket.take 1 2000000000).1 = true := by
  intro before segment bucket
  have nonneg : (0 : Rat) ≤ 1 := by decide
  have waited : ((1 : Nat) : Rat) ≤ accrued 1 1000000000 2000000000 := by norm_num [accrued, second]
  have seen : latest 1000000000 before = 1000000000 := by decide
  have later : latest 1000000000 (before ++ segment) = 2000000000 := by decide
  obtain ⟨within, stretches, waiting⟩ := conformance 2 nonneg 1000000000 before
  have spent := stretches segment
  rw [seen, later] at spent
  exact ⟨nonneg, within, spent, waited, waiting 1 2000000000 (by decide) (by rw [seen]; exact waited)⟩

end Exact

end Bucket
end ConfigRegistry.Throttle
