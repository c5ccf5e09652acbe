import ConfigRegistry.Proofs.Tokens

set_option autoImplicit false

/-!
Attempts that a bucket refuses. Main statement: where times do not go back, a run may leave out attempts that were
refused, and each of the others is answered as before and finds as many tokens as before.
-/
namespace ConfigRegistry.Throttle.Bucket

-- An attempt with the tokens that it found, those that had come in by then among them, and its answer.
structure Visit (α : Type) where
  attempt : Attempt
  found : α
  granted : Bool
deriving DecidableEq, Repr

section Logs

variable {α : Type} [Amount α]

def visit (bucket : Bucket α) (attempt : Attempt) : Visit α where
  attempt
  found := (bucket.fill attempt.now).tokens
  granted := (bucket.take attempt.count attempt.now).1

def log : Bucket α → List Attempt → List (Visit α)
  | _, [] => []
  | bucket, attempt :: rest => bucket.visit attempt :: log (bucket.take attempt.count attempt.now).2 rest

end Logs

-- What is left of a log when some of its refused attempts are left out.
inductive Thinned {α : Type} : List (Visit α) → List (Visit α) → Prop where
  | nil : Thinned [] []
  | keep (visit : Visit α) {log kept : List (Visit α)} (rest : Thinned log kept) :
      Thinned (visit :: log) (visit :: kept)
  | drop {visit : Visit α} {log kept : List (Visit α)} (refused : visit.granted = false) (rest : Thinned log kept) :
      Thinned (visit :: log) kept

-- Two buckets that are the same to every attempt from an instant on. What they remember of earlier ones may differ.
def Level (now : Instant) (left right : Bucket Rat) : Prop :=
  { left.fill now with seenAt := now } = { right.fill now with seenAt := now }

section Exact

variable {bucket left right : Bucket Rat} {now later : Instant} {count : Nat}

theorem fill_fill (nonneg : 0 ≤ bucket.rate) (ordered : now ≤ later) :
    (bucket.fill now).fill later = bucket.fill later := by
  have reached : max (max bucket.filledAt now) later = max bucket.filledAt later := by
    rw [max_assoc, max_eq_right ordered]
  have upto : max bucket.filledAt now ≤ max bucket.filledAt later := max_le_max le_rfl ordered
  have gain := accrued_nonneg nonneg upto
  have sum := accrued_add bucket.rate bucket.filledAt (max bucket.filledAt now) (max bucket.filledAt later)
  have tokens : ((bucket.fill now).fill later).tokens = (bucket.fill later).tokens := by
    calc ((bucket.fill now).fill later).tokens
        = min (min (bucket.tokens + accrued bucket.rate bucket.filledAt (max bucket.filledAt now)) bucket.capacity +
            accrued bucket.rate (max bucket.filledAt now) (max bucket.filledAt later)) bucket.capacity := by
          rw [fill_tokens, fill_tokens]
          change min (_ + accrued bucket.rate (max bucket.filledAt now) (max (max bucket.filledAt now) later)) _ = _
          rw [reached]
          rfl
      _ = min (bucket.tokens + accrued bucket.rate bucket.filledAt (max bucket.filledAt later)) bucket.capacity := by
          rw [← sum, ← add_assoc, ← min_add_add_right, min_assoc, min_eq_right (by linarith : bucket.capacity ≤ _)]
      _ = (bucket.fill later).tokens := (fill_tokens bucket later).symm
  rw [Bucket.mk.injEq]
  exact ⟨rfl, rfl, tokens, reached, rfl⟩

theorem level_parts (level : Level now left right) :
    left.rate = right.rate ∧ (left.fill now).tokens = (right.fill now).tokens := by
  rw [Level, Bucket.mk.injEq] at level
  exact ⟨level.2.1, level.2.2.1⟩

theorem level_later (nonneg : 0 ≤ left.rate) (level : Level now left right) (ordered : now ≤ later) :
    Level later left right := by
  have same : (left.fill now).fill later = { (right.fill now).fill later with seenAt := left.seenAt } :=
    congrArg (fun bucket => { bucket.fill later with seenAt := left.seenAt }) level
  rw [fill_fill nonneg ordered, fill_fill ((level_parts level).1 ▸ nonneg) ordered] at same
  rw [Level, same]

theorem level_take (level : Level now left right) (count : Nat) : left.take count now = right.take count now := by
  rw [take, take, level]

theorem level_visit {attempt : Attempt} (level : Level attempt.now left right) :
    left.visit attempt = right.visit attempt := by
  rw [visit, visit, level_take level, (level_parts level).2]

theorem take_rate (bucket : Bucket Rat) (count : Nat) (now : Instant) :
    (bucket.take count now).2.rate = bucket.rate := by
  rcases le_or_gt (count : Rat) (bucket.fill now).tokens with enough | short
  · rw [take_granted enough]
    rfl
  · rw [take_refused short]
    rfl

-- A refused attempt does no more than to fill the bucket, and later attempts would have filled it as well.
theorem refused_level (nonneg : 0 ≤ bucket.rate) (refused : (bucket.take count now).1 = false) :
    Level now (bucket.take count now).2 bucket := by
  rcases le_or_gt (count : Rat) (bucket.fill now).tokens with enough | short
  · rw [take_granted enough] at refused
    cases refused
  · rw [Level, take_refused short]
    exact congrArg (fun filled => { filled with seenAt := now }) (fill_fill nonneg le_rfl)

theorem thinned_log {attempts : List Attempt} {kept : List (Visit Rat)} (nonneg : 0 ≤ left.rate)
    (level : Level now left right) (future : ∀ attempt ∈ attempts, now ≤ attempt.now)
    (ordered : attempts.Pairwise fun first second => first.now ≤ second.now)
    (thinned : Thinned (left.log attempts) kept) :
    right.log (kept.map Visit.attempt) = kept ∧
      ∀ later, now ≤ later → (∀ attempt ∈ attempts, attempt.now ≤ later) →
        Level later (left.after attempts) (right.after (kept.map Visit.attempt)) := by
  induction attempts generalizing now left right kept with
  | nil =>
      cases thinned
      exact ⟨rfl, fun later past _ => level_later nonneg level past⟩
  | cons attempt rest ih =>
      obtain ⟨first, others⟩ := List.pairwise_cons.mp ordered
      have awaited := level_later nonneg level (future attempt List.mem_cons_self)
      have next : 0 ≤ (left.take attempt.count attempt.now).2.rate := by rwa [take_rate]
      have past {later : Instant} (upto : ∀ other ∈ attempt :: rest, other.now ≤ later) :
          attempt.now ≤ later ∧ ∀ other ∈ rest, other.now ≤ later := List.forall_mem_cons.mp upto
      cases thinned with
      | keep visit thinned =>
          have same := level_take awaited attempt.count
          obtain ⟨logged, reached⟩ := ih next (Eq.refl _) first others thinned
          constructor
          · change right.visit attempt :: log (right.take attempt.count attempt.now).2 _ = _
            rw [← level_visit awaited, ← same, logged]
          · intro later _ upto
            change Level later _ (after (right.take attempt.count attempt.now).2 _)
            rw [← same]
            exact reached later (past upto).1 (past upto).2
      | drop refused thinned =>
          have level' : Level attempt.now (left.take attempt.count attempt.now).2 right :=
            (refused_level nonneg refused).trans awaited
          obtain ⟨logged, reached⟩ := ih next level' first others thinned
          exact ⟨logged, fun later _ upto => reached later (past upto).1 (past upto).2⟩

theorem refused_attempts_free (bucket : Bucket Rat) (nonneg : 0 ≤ bucket.rate) {attempts : List Attempt}
    (ordered : attempts.Pairwise fun first second => first.now ≤ second.now) {kept : List (Visit Rat)}
    (thinned : Thinned (bucket.log attempts) kept) :
    let remaining := kept.map Visit.attempt
    bucket.log remaining = kept ∧
      ∀ now, (∀ attempt ∈ attempts, attempt.now ≤ now) →
        ((bucket.after remaining).fill now).tokens = ((bucket.after attempts).fill now).tokens ∧
        ∀ count, (bucket.after remaining).take count now = (bucket.after attempts).take count now := by
  intro remaining
  have told (now : Instant) (level : Level now (bucket.after attempts) (bucket.after remaining)) :
      ((bucket.after remaining).fill now).tokens = ((bucket.after attempts).fill now).tokens ∧
        ∀ count, (bucket.after remaining).take count now = (bucket.after attempts).take count now :=
    ⟨(level_parts level).2.symm, fun count => (level_take level count).symm⟩
  cases attempts with
  | nil =>
      cases thinned
      exact ⟨rfl, fun now _ => told now rfl⟩
  | cons attempt rest =>
      have future : ∀ other ∈ attempt :: rest, attempt.now ≤ other.now :=
        List.forall_mem_cons.mpr ⟨le_rfl, (List.pairwise_cons.mp ordered).1⟩
      have level : Level attempt.now bucket bucket := rfl
      obtain ⟨logged, reached⟩ := thinned_log nonneg level future ordered thinned
      exact ⟨logged, fun now upto => told now (reached now (upto attempt List.mem_cons_self) upto)⟩

-- Of three refused attempts the first two are left out: one that comes too soon, and one for more than the bucket
-- holds.
theorem refused_attempts_free_two_left_out :
    let bucket : Bucket Rat := full 2 2 0
    let attempts : List Attempt :=
      [⟨2, 0⟩, ⟨1, 100000000⟩, ⟨1, 500000000⟩, ⟨5, 600000000⟩, ⟨1, 700000000⟩, ⟨1, 1000000000⟩]
    let kept : List (Visit Rat) :=
      [⟨⟨2, 0⟩, 2, true⟩, ⟨⟨1, 500000000⟩, 1, true⟩, ⟨⟨1, 700000000⟩, 2 / 5, false⟩, ⟨⟨1, 1000000000⟩, 1, true⟩]
    let remaining := kept.map Visit.attempt
    0 ≤ bucket.rate ∧ (attempts.Pairwise fun first second => first.now ≤ second.now) ∧
      Thinned (bucket.log attempts) kept ∧ bucket.log remaining = kept ∧
      (∀ attempt ∈ attempts, attempt.now ≤ 1200000000) ∧
      ((bucket.after remaining).fill 1200000000).tokens = ((bucket.after attempts).fill 1200000000).tokens ∧
      (bucket.after remaining).take 1 1200000000 = (bucket.after attempts).take 1 1200000000 := by
  intro bucket attempts kept remaining
  have nonneg : 0 ≤ bucket.rate := by decide
  have ordered : attempts.Pairwise fun first second => first.now ≤ second.now := by decide
  have past : ∀ attempt ∈ attempts, attempt.now ≤ 1200000000 := by decide
  have whole : bucket.log attempts =
      [⟨⟨2, 0⟩, 2, true⟩, ⟨⟨1, 100000000⟩, 1 / 5, false⟩, ⟨⟨1, 500000000⟩, 1, true⟩, ⟨⟨5, 600000000⟩, 1 / 5, false⟩,
        ⟨⟨1, 700000000⟩, 2 / 5, false⟩, ⟨⟨1, 1000000000⟩, 1, true⟩] := by
    decide +kernel
  have thinned : Thinned (bucket.log attempts) kept := by
    rw [whole]
    exact .keep _ (.drop rfl (.keep _ (.drop rfl (.keep _ (.keep _ .nil)))))
  obtain ⟨logged, later⟩ := refused_attempts_free bucket nonneg ordered thinned
  obtain ⟨tokens, taken⟩ := later 1200000000 past
  exact ⟨nonneg, ordered, thinned, logged, past, tokens, taken 1⟩

end Exact
end ConfigRegistry.Throttle.Bucket
