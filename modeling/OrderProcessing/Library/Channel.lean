import Mathlib.Logic.Basic

/-! Go channels as far as a sender that never blocks and a receiver can see them:
the buffer and whether the channel is closed. Closing does not touch the buffer,
and a send that is performed on a closed channel panics. -/

namespace OrderProcessing.Library

structure Channel (Value : Type) where
  capacity : Nat
  buffer : List Value := []
  closed : Bool := false
  deriving DecidableEq, Repr

inductive Sent where
  | sent
  | dropped
  | panicked
  deriving DecidableEq, Repr

namespace Channel

variable {Value : Type}

def room (channel : Channel Value) : Bool := channel.buffer.length < channel.capacity

def push (channel : Channel Value) (value : Value) : Channel Value :=
  { channel with buffer := channel.buffer ++ [value] }

def close (channel : Channel Value) : Channel Value := { channel with closed := true }

/-- The next value, or none of a channel that is closed and empty. On an empty
open channel the receiver blocks. -/
def receive (channel : Channel Value) : Option (Option Value × Channel Value) :=
  match channel.buffer with
  | value :: rest => some (some value, { channel with buffer := rest })
  | [] => if channel.closed then some (none, channel) else none

/-- A select with the send and a default case, on a channel with a buffer. -/
def trySend (channel : Channel Value) (value : Value) : Sent × Channel Value :=
  if channel.closed then (.panicked, channel)
  else if channel.room then (.sent, channel.push value)
  else (.dropped, channel)

theorem receive_closed {channel rest : Channel Value} (done : channel.receive = some (value, rest)) :
    rest.closed = channel.closed := by
  unfold receive at done
  split at done
  · cases done; rfl
  · split at done <;> cases done
    rfl

@[simp] theorem trySend_closed (channel : Channel Value) (value : Value) :
    (channel.trySend value).2.closed = channel.closed := by
  unfold trySend
  split
  · rfl
  · split <;> rfl

theorem trySend_panicked (channel : Channel Value) (value : Value) :
    (channel.trySend value).1 = .panicked ↔ channel.closed := by
  unfold trySend
  split
  · simp [*]
  · split <;> simp [*]

theorem trySend_sent {channel rest : Channel Value} {value : Value}
    (sent : channel.trySend value = (.sent, rest)) :
    channel.closed = false ∧ channel.room ∧ rest = channel.push value := by
  unfold trySend at sent
  split at sent
  · cases sent
  · rename_i opened
    split at sent
    · rename_i room
      cases sent
      exact ⟨Bool.eq_false_iff.mpr opened, room, rfl⟩
    · cases sent

theorem trySend_dropped {channel rest : Channel Value} {value : Value}
    (dropped : channel.trySend value = (.dropped, rest)) : channel.room = false := by
  unfold trySend at dropped
  split at dropped
  · cases dropped
  · split at dropped
    · cases dropped
    · rename_i full
      exact Bool.eq_false_iff.mpr full

end Channel

end OrderProcessing.Library
