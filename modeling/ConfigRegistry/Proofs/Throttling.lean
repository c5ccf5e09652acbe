import ConfigRegistry.Throttle.Gate

set_option autoImplicit false

/-!
Runs of a gate. Main statement: what an identity is answered, and whether it is tracked, hangs on its own entries and
on the evictions alone.
-/
namespace ConfigRegistry.Throttle

theorem Instant.before_eq_some {now cutoff : Instant} {ttl : Span} :
    now.before? ttl = some cutoff ↔ -Instant.bound ≤ now - ttl ∧ now - ttl = cutoff := by
  rw [Instant.before?, Option.ite_none_right_eq_some, Option.some.injEq]

-- What is done with a gate. Its clones share its buckets, so it makes no difference through which of them.
inductive Deed where
  | enter (identity : String) (now : Instant)
  | evict (now : Instant) (ttl : Span)
deriving DecidableEq, Repr

namespace Deed

def now : Deed → Instant
  | enter _ now => now
  | evict now _ => now

def isEntry : Deed → Bool
  | enter .. => true
  | evict .. => false

-- An eviction concerns every identity.
def concerns (identity : String) : Deed → Bool
  | enter other _ => other == identity
  | evict .. => true

end Deed

namespace Gate

section Views

variable {α : Type} {identity : String} {left right : Gate α}

def tracks (gate : Gate α) (identity : String) : Bool := gate.buckets.contains identity

def told (identity : String) (answers : List (String × Bool)) : List (String × Bool) :=
  answers.filter fun answer => answer.1 == identity

theorem told_append (first second : List (String × Bool)) :
    told identity (first ++ second) = told identity first ++ told identity second := List.filter_append ..

-- Two gates that are the same to an identity.
structure Alike (identity : String) (left right : Gate α) : Prop where
  rate : left.rate = right.rate
  burst : left.burst = right.burst
  bucket : left.buckets.get? identity = right.buckets.get? identity

theorem alike_refl (identity : String) (gate : Gate α) : Alike identity gate gate := ⟨rfl, rfl, rfl⟩

theorem tracks_alike (alike : Alike identity left right) : left.tracks identity = right.tracks identity :=
  congrArg Option.isSome alike.bucket

theorem drop_bucket (gate : Gate α) (cutoff : Option Instant) :
    (gate.drop cutoff).2.buckets.get? identity =
      (gate.buckets.get? identity).filter fun bucket => !cutoff.any bucket.isIdle := by
  cases cutoff with
  | none =>
      change gate.buckets.get? identity = _
      cases gate.buckets.get? identity <;> rfl
  | some cutoff => exact KeyMap.get_filter gate.buckets _ identity

theorem drop_settings (gate : Gate α) (cutoff : Option Instant) :
    (gate.drop cutoff).2.rate = gate.rate ∧ (gate.drop cutoff).2.burst = gate.burst := by
  cases cutoff with
  | none => exact ⟨rfl, rfl⟩
  | some cutoff => exact ⟨rfl, rfl⟩

end Views

section Runs

variable {α : Type} [Amount α] {identity : String} {left right : Gate α}

def act (gate : Gate α) : Deed → Gate α
  | .enter identity now => (gate.enter identity now).2
  | .evict now ttl => (gate.evict now ttl).2

-- Who is answered, and whether it is let in.
def answer (gate : Gate α) : Deed → List (String × Bool)
  | .enter identity now => [(identity, (gate.enter identity now).1)]
  | .evict .. => []

def run (gate : Gate α) (deeds : List Deed) : Gate α := deeds.foldl act gate

def answers : Gate α → List Deed → List (String × Bool)
  | _, [] => []
  | gate, deed :: rest => gate.answer deed ++ answers (gate.act deed) rest

theorem take_seen (bucket : Bucket α) (count : Nat) (now : Instant) : (bucket.take count now).2.seenAt = now := by
  rw [Bucket.take]
  split <;> rfl

theorem bucket_for_alike (alike : Alike identity left right) (now : Instant) :
    left.bucketFor identity now = right.bucketFor identity now := by
  rw [bucketFor, bucketFor, alike.rate, alike.burst, alike.bucket]

theorem enter_bucket (gate : Gate α) (entering : String) (now : Instant) :
    (gate.enter entering now).2.buckets.get? identity =
      if entering = identity then some ((gate.bucketFor entering now).take 1 now).2 else gate.buckets.get? identity :=
  KeyMap.get_insert gate.buckets entering _ identity

theorem act_elsewhere (alike : Alike identity left right) {deed : Deed} (other : deed.concerns identity = false) :
    Alike identity (left.act deed) right ∧ told identity (left.answer deed) = [] := by
  cases deed with
  | enter entering now =>
      have different : entering ≠ identity := by simpa [Deed.concerns] using other
      have bucket : (left.enter entering now).2.buckets.get? identity = left.buckets.get? identity :=
        (enter_bucket left entering now).trans (if_neg different)
      refine ⟨⟨alike.rate, alike.burst, bucket.trans alike.bucket⟩, ?_⟩
      simp [answer, told, different]
  | evict now ttl => exact absurd other (by simp [Deed.concerns])

theorem act_alike (alike : Alike identity left right) {deed : Deed} (own : deed.concerns identity = true) :
    Alike identity (left.act deed) (right.act deed) ∧
      told identity (left.answer deed) = told identity (right.answer deed) := by
  cases deed with
  | enter entering now =>
      obtain rfl : entering = identity := by simpa [Deed.concerns] using own
      have same := bucket_for_alike alike now
      refine ⟨⟨alike.rate, alike.burst, ?_⟩, ?_⟩
      · rw [act, act, enter_bucket, enter_bucket, if_pos rfl, if_pos rfl, same]
      · rw [answer, answer, enter, enter, same]
  | evict now ttl =>
      have here := drop_settings left (now.before? ttl)
      have there := drop_settings right (now.before? ttl)
      refine ⟨⟨here.1.trans (alike.rate.trans there.1.symm), here.2.trans (alike.burst.trans there.2.symm), ?_⟩, rfl⟩
      rw [act, act, evict, evict, drop_bucket, drop_bucket, alike.bucket]

theorem run_alike (alike : Alike identity left right) (deeds : List Deed) :
    Alike identity (left.run deeds) (right.run (deeds.filter (Deed.concerns identity))) ∧
      told identity (left.answers deeds) = told identity (right.answers (deeds.filter (Deed.concerns identity))) := by
  induction deeds generalizing left right with
  | nil => exact ⟨alike, rfl⟩
  | cons deed rest ih =>
      by_cases own : deed.concerns identity = true
      · obtain ⟨next, answered⟩ := act_alike alike own
        obtain ⟨last, others⟩ := ih next
        rw [List.filter_cons_of_pos own]
        refine ⟨last, ?_⟩
        rw [answers, answers, told_append, told_append, answered, others]
      · obtain ⟨next, unanswered⟩ := act_elsewhere alike (by simpa using own)
        obtain ⟨last, others⟩ := ih next
        rw [List.filter_cons_of_neg own]
        refine ⟨last, ?_⟩
        rw [answers, told_append, unanswered, others, List.nil_append]

end Runs

end Gate
end ConfigRegistry.Throttle
