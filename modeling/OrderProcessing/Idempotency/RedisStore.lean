import Mathlib.Logic.Function.Basic

/-! The Redis-backed reservation of a cart key: SET NX with an expiry to
reserve, an unconditional DEL to release. -/

namespace OrderProcessing

/-- A key in Redis. The value written is always the same, so `owner`, the call
that wrote it, is known to the proofs only. -/
structure Reservation where
  expiresAt : Nat
  owner : Nat
  deriving DecidableEq, Repr

structure RedisStore where
  entries : String → Option Reservation := fun _ => none

/-- Redis answers, or the call returns an error; a command that errored may
still have taken effect. -/
inductive RedisReply where
  | answered
  | failed (applied : Bool)
  deriving DecidableEq, Repr

namespace RedisStore

/-- The reservation of a key that has not expired. -/
def holder (store : RedisStore) (now : Nat) (key : String) : Option Reservation :=
  (store.entries key).filter fun entry => now < entry.expiresAt

def setNX (store : RedisStore) (now ttl owner : Nat) (key : String) : Bool × RedisStore :=
  match store.holder now key with
  | some _ => (false, store)
  | none => (true, ⟨Function.update store.entries key (some ⟨now + ttl, owner⟩)⟩)

def del (store : RedisStore) (key : String) : RedisStore := ⟨Function.update store.entries key none⟩

/-- `none` stands for a returned error. -/
def reserve (store : RedisStore) (now ttl owner : Nat) (key : String) :
    RedisReply → Option Bool × RedisStore
  | .answered =>
    let outcome := store.setNX now ttl owner key
    (some outcome.1, outcome.2)
  | .failed applied => (none, if applied then (store.setNX now ttl owner key).2 else store)

def release (store : RedisStore) (key : String) : RedisReply → RedisStore
  | .answered => store.del key
  | .failed applied => if applied then store.del key else store

theorem holder_live {store : RedisStore} (stored : store.entries key = some entry) (live : now < entry.expiresAt) :
    store.holder now key = some entry := by
  simp [holder, stored, live]

/-- SET NX does not touch a key that has not expired. -/
theorem setNX_live {store : RedisStore} (stored : store.entries other = some entry)
    (live : now < entry.expiresAt) (ttl owner : Nat) (key : String) :
    (store.setNX now ttl owner key).2.entries other = store.entries other := by
  unfold setNX
  split
  · rfl
  · rename_i free
    have different : other ≠ key := by
      rintro rfl
      rw [holder_live stored live] at free
      cases free
    simp [different]

theorem reserve_live {store : RedisStore} (stored : store.entries other = some entry)
    (live : now < entry.expiresAt) (ttl owner : Nat) (key : String) (reply : RedisReply) :
    (store.reserve now ttl owner key reply).2.entries other = store.entries other := by
  cases reply with
  | answered => exact setNX_live stored live ttl owner key
  | failed applied =>
    cases applied with
    | true => exact setNX_live stored live ttl owner key
    | false => rfl

/-- An acquired key was free, and is stored with its expiry. -/
theorem reserve_acquired {store : RedisStore}
    (acquired : (store.reserve now ttl owner key reply).1 = some true) :
    store.holder now key = none ∧
      (store.reserve now ttl owner key reply).2.entries key = some ⟨now + ttl, owner⟩ := by
  cases reply with
  | failed => cases acquired
  | answered =>
    simp only [reserve, setNX] at acquired ⊢
    cases free : store.holder now key with
    | some entry => simp [free] at acquired
    | none => simp

theorem release_other {store : RedisStore} (different : other ≠ key) (reply : RedisReply) :
    (store.release key reply).entries other = store.entries other := by
  cases reply with
  | answered => simp [release, del, different]
  | failed applied => cases applied <;> simp [release, del, different]

end RedisStore

end OrderProcessing
