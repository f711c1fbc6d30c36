import OrderProcessing.Backend.Coherence
import OrderProcessing.Backend.Deduplication

/-! Whether a failed order can be submitted again. A call of `CreateOrder` runs
under the context of its request, which may be cancelled at any moment, and its
release of the cart key runs under the same context. Redis is up: it answers
every call whose context is alive. -/

namespace OrderProcessing.Backend

open Library OrderService

/-- The key of the call is held, unexpired, by the reservation of that call. -/
def held (config : Config) (state : State) (index : Nat) : Bool :=
  match state.calls[index]? with
  | some call => (state.redis.holder state.clock (call.key config)).any fun entry => entry.owner = index
  | none => false

/-- What a step does to the calls of `CreateOrder` and to their keys. -/
inductive Called (config : Config) (state : State) (action : Action) (next : State) : Prop where
  | quiet (calls : next.calls = state.calls) (redis : next.redis = state.redis) (clock : state.clock ≤ next.clock)
  | submitted (calls : next.calls = state.calls ++ [new]) (unacquired : new.acquiredAt = none)
      (redis : next.redis = state.redis) (clock : next.clock = state.clock)
  | reserved (found : state.calls[index]? = some call) (phase : call.phase = .reserving)
      (moved : next = reserve config state index call reply)
  | proceeded (found : state.calls[index]? = some call) (before : call.phase ≠ .reserving)
      (calls : next.calls = state.calls.set index { call with phase }) (past : phase ≠ .reserving)
      (alive : ∀ err, phase ≠ .returned (.error err)) (redis : next.redis = state.redis)
      (clock : next.clock = state.clock)
  | released (named : action = .release index reply) (found : state.calls[index]? = some call)
      (phase : call.phase = .releasing err) (moved : next = release config state index call err reply)

variable {config : Config} {state next final : State} {action : Action}

theorem step_called (moved : step config state action = some next) : Called config state action next := by
  cases step_cases config moved with
  | tick => exact .quiet rfl rfl (Nat.le_add_right _ _)
  | submit => exact .submitted rfl rfl rfl rfl
  | reserve found phase => exact .reserved found phase rfl
  | lookup found phase =>
    refine .proceeded found (by simp [phase]) rfl ?_ ?_ rfl rfl
    all_goals
      split
      · simp
      · split <;> simp
  | persist found phase =>
    refine .proceeded found (by simp [phase]) rfl ?_ ?_ rfl rfl
    all_goals split <;> simp
  | release found phase => exact .released rfl found phase rfl
  | loadProduct =>
    unfold loadProduct
    split <;> exact .quiet rfl rfl (le_refl _)
  | _ => exact .quiet rfl rfl (le_refl _)

theorem holder_later {store : RedisStore} (held : store.holder later key = some entry) (passed : now ≤ later) :
    store.holder now key = some entry := by
  unfold RedisStore.holder at held ⊢
  obtain ⟨stored, live⟩ := Option.filter_eq_some_iff.mp held
  refine Option.filter_eq_some_iff.mpr ⟨stored, ?_⟩
  simp only [decide_eq_true_eq] at live ⊢
  exact lt_of_le_of_lt passed live

theorem held_found (found : state.calls[index]? = some call) : held config state index =
    (state.redis.holder state.clock (call.key config)).any fun entry => entry.owner = index := by
  simp only [held, found]

theorem held_iff (found : state.calls[index]? = some call) : held config state index ↔
    ∃ entry, state.redis.holder state.clock (call.key config) = some entry ∧ entry.owner = index := by
  rw [held_found found]
  cases state.redis.holder state.clock (call.key config) <;> simp

theorem held_mono {call new : OrderCall} (found : state.calls[index]? = some call)
    (located : next.calls[index]? = some new) (key : new.key config = call.key config)
    (kept : ∀ entry, entry.owner = index → next.redis.holder next.clock (call.key config) = some entry →
      state.redis.holder state.clock (call.key config) = some entry)
    (holds : held config next index) : held config state index := by
  obtain ⟨entry, live, owner⟩ := (held_iff located).mp holds
  rw [key] at live
  exact (held_iff found).mpr ⟨entry, kept entry owner live, owner⟩

/-- A reservation in another name leaves the keys of this call as they are. -/
theorem holder_reserve {store : RedisStore} (different : entry.owner ≠ owner)
    (live : ((store.reserve now ttl owner key reply).2).holder now other = some entry) :
    store.holder now other = some entry := by
  have unchanged (live : ((store.setNX now ttl owner key).2).holder now other = some entry) :
      store.holder now other = some entry := by
    unfold RedisStore.setNX at live
    split at live
    · exact live
    · by_cases same : other = key
      · subst same
        simp only [RedisStore.holder, Function.update_self, Option.filter_some] at live
        split at live
        · cases live
          exact absurd rfl different
        · cases live
      · simpa [RedisStore.holder, Function.update_of_ne same] using live
  cases reply with
  | answered => exact unchanged live
  | failed applied =>
    cases applied with
    | true => exact unchanged live
    | false => exact live

theorem holder_release {store : RedisStore} (live : (store.release key reply).holder now other = some entry) :
    store.holder now other = some entry := by
  have unchanged (live : (store.del key).holder now other = some entry) : store.holder now other = some entry := by
    by_cases same : other = key
    · simp [RedisStore.holder, RedisStore.del, same] at live
    · simpa [RedisStore.holder, RedisStore.del, Function.update_of_ne same] using live
  cases reply with
  | answered => exact unchanged live
  | failed applied =>
    cases applied with
    | true => exact unchanged live
    | false => exact live

/-- Past its reservation a call does not come to hold its key again. -/
theorem held_back {call : OrderCall} (found : state.calls[index]? = some call) (past : call.phase ≠ .reserving)
    (moved : step config state action = some next) :
    (held config next index → held config state index) ∧
      ∃ new, next.calls[index]? = some new ∧ new.phase ≠ .reserving := by
  cases step_called moved with
  | quiet calls redis clock =>
    have located : next.calls[index]? = some call := by rw [calls]; exact found
    refine ⟨held_mono found located rfl fun entry _ live => ?_, call, located, past⟩
    rw [redis] at live
    exact holder_later live clock
  | submitted calls _ redis clock =>
    have located : next.calls[index]? = some call := by
      rw [calls, List.getElem?_append_left (List.getElem?_eq_some_iff.mp found).1]
      exact found
    refine ⟨held_mono found located rfl fun entry _ live => ?_, call, located, past⟩
    rwa [redis, clock] at live
  | @reserved actor other reply there phase moved =>
    subst moved
    have different : index ≠ actor := by
      rintro rfl
      cases found.symm.trans there
      exact past phase
    have located : (reserve config state actor other reply).calls[index]? = some call :=
      getElem_set_other found different _
    refine ⟨held_mono found located rfl fun entry owner live => ?_, call, located, past⟩
    exact holder_reserve (owner ▸ different) live
  | @proceeded actor other phase there _ calls beyond _ redis clock =>
    have kept (entry : Reservation) (live : next.redis.holder next.clock (call.key config) = some entry) :
        state.redis.holder state.clock (call.key config) = some entry := by rwa [redis, clock] at live
    by_cases same : index = actor
    · subst same
      cases found.symm.trans there
      have located : next.calls[index]? = some { call with phase } := by
        rw [calls]
        exact getElem_set_found found _
      exact ⟨held_mono found located rfl fun entry _ => kept entry, _, located, beyond⟩
    · have located : next.calls[index]? = some call := by
        rw [calls]
        exact getElem_set_other found same _
      exact ⟨held_mono found located rfl fun entry _ => kept entry, call, located, past⟩
  | @released actor reply other err _ there phase moved =>
    subst moved
    by_cases same : index = actor
    · subst same
      cases found.symm.trans there
      have located : (release config state index call err reply).calls[index]? =
          some { call with phase := .returned (.error err) } := getElem_set_found found _
      exact ⟨held_mono found located rfl fun entry _ => holder_release, _, located, nofun⟩
    · have located : (release config state actor other err reply).calls[index]? = some call :=
        getElem_set_other found same _
      exact ⟨held_mono found located rfl fun entry _ => holder_release, call, located, past⟩

/-- Calls still to reserve have not acquired their key. -/
def Unacquired (state : State) : Prop := ∀ call ∈ state.calls, call.phase = .reserving → call.acquiredAt = none

theorem Unacquired.step (unacquired : Unacquired state) (moved : Backend.step config state action = some next) :
    Unacquired next := by
  intro call member reserving
  cases step_called moved with
  | quiet calls => exact unacquired call (calls ▸ member) reserving
  | submitted calls fresh =>
    rw [calls] at member
    rcases List.mem_append.mp member with old | added
    · exact unacquired call old reserving
    · cases List.mem_singleton.mp added
      exact fresh
  | reserved found phase moved =>
    subst moved
    rcases List.mem_or_eq_of_mem_set member with old | rfl
    · exact unacquired call old reserving
    · unfold afterReserve at reserving
      split at reserving <;> cases reserving
  | proceeded _ _ calls beyond =>
    rw [calls] at member
    rcases List.mem_or_eq_of_mem_set member with old | rfl
    · exact unacquired call old reserving
    · exact absurd reserving beyond
  | released _ _ _ moved =>
    subst moved
    rcases List.mem_or_eq_of_mem_set member with old | rfl
    · exact unacquired call old reserving
    · cases reserving

/-- The backend, and the calls whose request context was cancelled. -/
structure Session where
  backend : State
  cancelled : List Nat := []

namespace Session

inductive Action where
  | cancel (call : Nat)
  | act (action : Backend.Action)

/-- Under a cancelled context a call to Redis or to the database fails without
effect; otherwise Redis answers. -/
def obeys (cancelled : List Nat) : Backend.Action → Bool
  | .reserve call reply | .release call reply =>
    if call ∈ cancelled then reply = .failed false else reply = .answered
  | .lookup call _ fault => call ∉ cancelled || fault.isSome
  | .persist call _ _ faults => call ∉ cancelled || faults.start.isSome
  | _ => true

def step (config : Config) (session : Session) : Action → Option Session
  | .cancel call => some { session with cancelled := call :: session.cancelled }
  | .act action =>
    if obeys session.cancelled action then
      (Backend.step config session.backend action).map fun backend => { session with backend }
    else none

variable {session after last : Session} {action : Action}

theorem step_backend (moved : step config session action = some after) :
    after.backend = session.backend ∨
      ∃ inner, action = .act inner ∧ Backend.step config session.backend inner = some after.backend := by
  cases action with
  | cancel =>
    cases moved
    exact .inl rfl
  | act inner =>
    simp only [step] at moved
    split at moved
    · obtain ⟨backend, done, rfl⟩ := Option.map_eq_some_iff.mp moved
      exact .inr ⟨inner, rfl, done⟩
    · cases moved

theorem unacquired_run (fresh : session.backend.calls = []) (done : run (step config) session actions = some after) :
    Unacquired after.backend := by
  refine run_invariant (fun session => Unacquired session.backend) ?_ ?_ done
  · intro session action after unacquired moved
    rcases step_backend moved with same | ⟨inner, _, moved⟩
    · exact same ▸ unacquired
    · exact unacquired.step moved
  · simp [Unacquired, fresh]

/-- A call that does not hold its key past its reservation never will. -/
theorem released_for_good {call : OrderCall} (found : session.backend.calls[index]? = some call)
    (past : call.phase ≠ .reserving) (free : held config session.backend index = false)
    (done : run (step config) session actions = some last) : held config last.backend index = false := by
  refine (run_invariant (fun session => held config session.backend index = false ∧
    ∃ call, session.backend.calls[index]? = some call ∧ call.phase ≠ .reserving) ?_ ⟨free, call, found, past⟩ done).1
  rintro session action after ⟨free, call, found, past⟩ moved
  rcases step_backend moved with same | ⟨inner, _, moved⟩
  · exact same ▸ ⟨free, call, found, past⟩
  · obtain ⟨back, onward⟩ := held_back found past moved
    exact ⟨Bool.eq_false_iff.mpr fun holds => by simp [back holds] at free, onward⟩

/-- A call that has acquired its key returns an error only from its release. -/
theorem error_released {call new : OrderCall} {inner : Backend.Action} (unacquired : Unacquired state)
    (moved : Backend.step config state inner = some next) (found : state.calls[index]? = some call)
    (running : ∀ err, call.phase ≠ .returned (.error err)) (located : next.calls[index]? = some new)
    (failed : new.phase = .returned (.error err)) (acquired : new.acquiredAt.isSome) :
    ∃ reply, inner = .release index reply ∧ next = release config state index call err reply := by
  have unmoved (same : new = call) : False := running err (same ▸ failed)
  cases step_called moved with
  | quiet calls => exact (unmoved (Option.some.inj ((located.symm.trans (by rw [calls])).trans found))).elim
  | submitted calls =>
    rw [calls, List.getElem?_append_left (List.getElem?_eq_some_iff.mp found).1] at located
    exact (unmoved (Option.some.inj (located.symm.trans found))).elim
  | @reserved actor other reply there phase moved =>
    subst moved
    rcases getElem_set_cases located with ⟨rfl, rfl⟩ | ⟨_, same⟩
    · have fresh := unacquired other (List.mem_of_getElem? there) phase
      unfold afterReserve at failed acquired
      split at failed <;> simp_all
    · exact (unmoved (Option.some.inj (same.symm.trans found))).elim
  | @proceeded actor other phase there _ calls _ alive =>
    rw [calls] at located
    rcases getElem_set_cases located with ⟨rfl, rfl⟩ | ⟨_, same⟩
    · exact absurd failed (alive err)
    · exact (unmoved (Option.some.inj (same.symm.trans found))).elim
  | @released actor reply other fault named there phase moved =>
    rw [moved] at located
    rcases getElem_set_cases located with ⟨rfl, rfl⟩ | ⟨_, same⟩
    · cases found.symm.trans there
      cases failed
      exact ⟨reply, named, moved⟩
    · exact (unmoved (Option.some.inj (same.symm.trans found))).elim

/-- A failed attempt does not stand in the way of the same cart: from now on its
reservation does not hold the key, and a resubmission that is answered
`ErrDuplicateOrder` met the reservation of another call. -/
structure Retryable (config : Config) (session : Session) (index : Nat) : Prop where
  unheld : ∀ later last, run (step config) session later = some last → held config last.backend index = false
  resubmitted : ∀ later last, run (step config) session later = some last →
    ∀ attempt again other reply, last.backend.calls[index]? = some attempt →
      again.key config = attempt.key config →
      afterReserve again last.backend.clock
        (last.backend.redis.reserve last.backend.clock idempotencyTTL other (again.key config) reply).1 =
          { again with phase := .returned (.error .duplicateOrder) } →
      ∃ entry, last.backend.redis.holder last.backend.clock (again.key config) = some entry ∧ entry.owner ≠ index

theorem retryable_of_unheld
    (unheld : ∀ later last, run (step config) session later = some last → held config last.backend index = false) :
    Retryable config session index := by
  refine ⟨unheld, fun later last done attempt again other reply found key refused => ?_⟩
  cases live : last.backend.redis.holder last.backend.clock (again.key config) with
  | some entry =>
    refine ⟨entry, rfl, fun owner => ?_⟩
    have holds : held config last.backend index := (held_iff found).mpr ⟨entry, key ▸ live, owner⟩
    simp [unheld later last done] at holds
  | none =>
    cases reply <;> simp [RedisStore.reserve, RedisStore.setNX, live, afterReserve] at refused

/-- The release of a call, as its context allows it. -/
theorem release_moved (moved : step config session (.act (.release index reply)) = some after) :
    (index ∈ session.cancelled ∧ reply = .failed false) ∨ (index ∉ session.cancelled ∧ reply = .answered) := by
  simp only [step] at moved
  split at moved
  · rename_i allowed
    by_cases cancelled : index ∈ session.cancelled
    · exact .inl ⟨cancelled, by simpa [obeys, cancelled] using allowed⟩
    · exact .inr ⟨cancelled, by simpa [obeys, cancelled] using allowed⟩
  · cases moved

/-- A release that failed leaves the key to the call; one that was answered does not. -/
theorem held_released (found : state.calls[index]? = some call) :
    held config (release config state index call err (.failed false)) index = held config state index ∧
      held config (release config state index call err .answered) index = false := by
  have located (reply : RedisReply) : (release config state index call err reply).calls[index]? =
      some { call with phase := .returned (.error err) } := getElem_set_found found _
  rw [held_found found, held_found (located _), held_found (located _)]
  exact ⟨rfl, by simp [release, OrderCall.key, RedisStore.release, RedisStore.del, RedisStore.holder]⟩

/-- A call that acquired its key and failed has given the key up exactly if its
context was alive when it released, or the key was not its own any more. -/
theorem failed_order_retryable_iff {start session after : Session} {call new : OrderCall}
    (fresh : start.backend.calls = []) (reached : run (step config) start actions = some session)
    (moved : step config session action = some after) (found : session.backend.calls[index]? = some call)
    (running : ∀ err, call.phase ≠ .returned (.error err)) (located : after.backend.calls[index]? = some new)
    (failed : new.phase = .returned (.error err)) (acquired : new.acquiredAt.isSome) :
    Retryable config after index ↔ index ∉ session.cancelled ∨ held config session.backend index = false := by
  obtain ⟨reply, rfl, released⟩ : ∃ reply, action = .act (.release index reply) ∧
      after.backend = release config session.backend index call err reply := by
    rcases step_backend moved with same | ⟨inner, rfl, inside⟩
    · cases found.symm.trans (same ▸ located)
      exact absurd failed (running err)
    · obtain ⟨reply, rfl, released⟩ :=
        error_released (unacquired_run fresh reached) inside found running located failed acquired
      exact ⟨reply, rfl, released⟩
  obtain ⟨kept, deleted⟩ := held_released found
  obtain ⟨cancelled, rfl⟩ | ⟨alive, rfl⟩ := release_moved moved
  · rw [← released] at kept
    constructor
    · intro retryable
      exact .inr (kept ▸ retryable.unheld [] after run_nil)
    · intro given
      have lost := given.resolve_left (not_not_intro cancelled)
      exact retryable_of_unheld fun later last => released_for_good located (by simp [failed]) (kept.trans lost)
  · rw [← released] at deleted
    refine ⟨fun _ => .inl alive, fun _ => retryable_of_unheld fun later last => ?_⟩
    exact released_for_good located (by simp [failed]) deleted

/-- An order for more units than there are, up to its release. -/
def scarce : List Action :=
  stocked.map .act ++
    [.act (.submit 1 [⟨7, 20⟩]), .act (.reserve 0 .answered), .act (.lookup 0 "key" none), .act (.persist 0 1 1 {})]

theorem failed_order_retryable_scarce : ∃ session after,
    run (step demo) ⟨initial, []⟩ scarce = some session ∧
    step demo session (.act (.release 0 .answered)) = some after ∧
    after.backend.calls.map (·.phase) = [.returned (.error (.insufficientStock 7))] ∧
    held demo session.backend 0 = true ∧ Retryable demo after 0 := by
  obtain ⟨session, after, reached, alive, moved, phases, holds, found, located⟩ : ∃ session after,
      run (step demo) ⟨initial, []⟩ scarce = some session ∧ session.cancelled = [] ∧
      step demo session (.act (.release 0 .answered)) = some after ∧
      after.backend.calls.map (·.phase) = [.returned (.error (.insufficientStock 7))] ∧
      held demo session.backend 0 = true ∧
      session.backend.calls[0]? = some ⟨1, [⟨7, 20⟩], .releasing (.insufficientStock 7), some 0⟩ ∧
      after.backend.calls[0]? = some ⟨1, [⟨7, 20⟩], .returned (.error (.insufficientStock 7)), some 0⟩ :=
    ⟨_, _, rfl, rfl, rfl, rfl, rfl, rfl, rfl⟩
  refine ⟨session, after, reached, moved, phases, holds, ?_⟩
  exact (failed_order_retryable_iff rfl reached moved found nofun located rfl rfl).mpr (.inl (by simp [alive]))

/-- The client goes away while the products are looked up. The release runs under
the same cancelled context, so nothing was ordered and the key stays behind: the
same cart is refused as a duplicate. -/
theorem cancelled_order_blocks_retry : ∃ after last,
    run (step demo) ⟨initial, []⟩ (stocked.map .act ++
      [.act (.submit 1 [⟨7, 2⟩]), .act (.reserve 0 .answered), .cancel 0,
       .act (.lookup 0 "key" (some .infrastructure)), .act (.release 0 (.failed false))]) = some after ∧
    after.backend.calls.map (·.phase) = [.returned (.error (.database .infrastructure))] ∧
    after.backend.db.orders = [] ∧ held demo after.backend 0 = true ∧ ¬ Retryable demo after 0 ∧
    run (step demo) after [.act (.submit 1 [⟨7, 2⟩]), .act (.reserve 1 .answered)] = some last ∧
    last.backend.calls.map (·.phase) =
      [.returned (.error (.database .infrastructure)), .returned (.error .duplicateOrder)] := by
  refine ⟨_, _, rfl, rfl, rfl, by decide, fun retryable => ?_, rfl, rfl⟩
  have unheld := retryable.unheld [] _ run_nil
  revert unheld
  decide

end Session

end OrderProcessing.Backend
