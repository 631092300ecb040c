import Mathlib.Data.Nat.Basic
import Mathlib.Data.List.Basic

/-! Channels between tasks: wake permits, watched values, and broadcasts that lose what is old. -/

namespace Base

/-- A wake-up that is kept as one permit until it is taken, however often it was given. -/
structure Notify where
  permit : Bool := false
  deriving DecidableEq

/-- Wakes the task that waits, or the next one to wait. -/
def Notify.notifyOne (_ : Notify) : Notify := ⟨true⟩

/-- A value that is replaced, with the number of its replacements. -/
structure Watch (α : Type*) where
  value : α
  version : Nat := 0

/-- Replaces the value, whoever has seen it. -/
def Watch.sendReplace {α : Type*} (watch : Watch α) (value : α) : Watch α :=
  ⟨value, watch.version + 1⟩

/-- A broadcast of values, the newest of which it retains for those who have yet to receive them. -/
structure Broadcast (α : Type*) where
  capacity : Nat
  /-- Every value sent so far, of which only the newest can be received. -/
  sent : List α := []

namespace Broadcast

variable {α : Type*}

/-- What a receiver finds when it asks for the next value. -/
inductive Received (α : Type*) where
  | value (value : α)
  /-- Values were overwritten before they were received. -/
  | lagged (missed : Nat)
  | empty

/-- Sends a value. One that nobody receives is as good as not sent: receivers start at the end. -/
def send (channel : Broadcast α) (value : α) : Broadcast α :=
  { channel with sent := channel.sent ++ [value] }

/-- Where a new receiver starts. -/
def subscribe (channel : Broadcast α) : Nat := channel.sent.length

/-- The oldest value that can still be received. -/
def oldest (channel : Broadcast α) : Nat := channel.sent.length - channel.capacity

/-- Asks for the next value of a receiver, which moves on in any case. -/
def recv (channel : Broadcast α) (next : Nat) : Received α × Nat :=
  -- A receiver that fell behind goes on with the oldest value that is left.
  if next < channel.oldest then (.lagged (channel.oldest - next), channel.oldest)
  else
    match channel.sent[next]? with
    | some value => (.value value, next + 1)
    | none => (.empty, next)

/-- The values a receiver has yet to receive. -/
def pending (channel : Broadcast α) (next : Nat) : List α := channel.sent.drop next

/-- Nothing is pending for a new receiver. -/
theorem pending_subscribe (channel : Broadcast α) :
    channel.pending channel.subscribe = [] := by
  simp [pending, subscribe]

/-- What is sent becomes pending for every receiver. -/
theorem pending_send (channel : Broadcast α) {next : Nat} (within : next ≤ channel.sent.length)
    (value : α) : (channel.send value).pending next = channel.pending next ++ [value] := by
  simp only [pending, send]
  rw [List.drop_append_of_le_length within]

/-- A receiver gets the first of the values pending for it. -/
theorem recv_value {channel : Broadcast α} {next after : Nat} {value : α}
    (got : channel.recv next = (.value value, after)) :
    after = next + 1 ∧ after ≤ channel.sent.length ∧
      channel.pending next = value :: channel.pending after := by
  -- What is received is the first value that the cursor has not passed.
  unfold recv at got
  split at got
  · cases got
  · split at got
    · rename_i found
      cases got
      obtain ⟨within, same⟩ := List.getElem?_eq_some_iff.mp found
      refine ⟨rfl, within, ?_⟩
      simp only [pending]
      rw [← same]
      exact (List.getElem_cons_drop within).symm
    · cases got

/-- A receiver that lags has missed something, and there is something left to receive. -/
theorem recv_lagged {channel : Broadcast α} (retains : 0 < channel.capacity) {next after : Nat}
    {missed : Nat} (got : channel.recv next = (.lagged missed, after)) :
    0 < missed ∧ after < channel.sent.length := by
  unfold recv at got
  split at got
  · rename_i behind
    cases got
    unfold oldest at behind ⊢
    omega
  · split at got <;> cases got

/-- A receiver that asks never gets values back that it was past. -/
theorem recv_pending {channel : Broadcast α} {next after : Nat} {found : Received α}
    (got : channel.recv next = (found, after)) {value : α} (left : value ∈ channel.pending after) :
    value ∈ channel.pending next := by
  -- It only ever moves forward.
  have forward : next ≤ after := by
    unfold recv at got
    split at got
    · rename_i behind
      cases got
      exact Nat.le_of_lt behind
    · split at got <;> cases got
      · exact Nat.le_succ next
      · exact Nat.le_refl next
  exact (List.drop_sublist_drop_left channel.sent forward).subset left

/-- A receiver that asks is never past the end. -/
theorem recv_within {channel : Broadcast α} {next after : Nat} {found : Received α}
    (within : next ≤ channel.sent.length) (got : channel.recv next = (found, after)) :
    after ≤ channel.sent.length := by
  -- A cursor that lags is moved to the first value that is retained.
  unfold recv at got
  split at got
  · cases got
    exact Nat.sub_le ..
  · split at got <;> cases got
    · rename_i taken
      obtain ⟨inside, _⟩ := List.getElem?_eq_some_iff.mp taken
      exact inside
    · exact within

/-- A receiver that finds nothing stays where it is. -/
theorem recv_empty {channel : Broadcast α} {next after : Nat}
    (got : channel.recv next = (.empty, after)) : after = next := by
  unfold recv at got
  split at got
  · cases got
  · split at got <;> cases got
    rfl

end Broadcast

end Base
