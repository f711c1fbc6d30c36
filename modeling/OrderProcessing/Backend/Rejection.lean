import OrderProcessing.Backend.Deduplication
import OrderProcessing.Services.CartKey

/-! Why a call is turned away as a duplicate. Redis forgets who wrote a key, so the
log of what happened to the keys is followed beside it: a key that is still there
was taken by an earlier call with the same cart and was not deleted since. -/

namespace OrderProcessing.Backend

open Library OrderService

/-- What a call did to its key. A deletion that Redis lost is `kept`. -/
inductive KeyEvent where
  | taken (call : Nat) (key : String) (instant : Nat)
  | deleted (call : Nat) (key : String)
  | kept (call : Nat) (key : String)
  deriving DecidableEq, Repr

def KeyEvent.deletes (key : String) : KeyEvent → Bool
  | .deleted _ other => other = key
  | _ => false

/-- What happens to a key in a step. -/
def keyEvents (config : Config) (state : State) : Action → List KeyEvent
  | .reserve index reply =>
    match state.calls[index]? with
    | some call =>
      if (state.redis.holder state.clock (call.key config)).isNone ∧ reply ≠ .failed false then
        [.taken index (call.key config) state.clock]
      else []
    | none => []
  | .release index reply =>
    match state.calls[index]? with
    | some call => if reply = .failed false then [.kept index (call.key config)] else [.deleted index (call.key config)]
    | none => []
  | _ => []

/-- The call took the key at that instant, nobody has deleted it since, and if the
call has failed, its own deletion was lost. -/
structure Explained (config : Config) (state : State) (log : List KeyEvent) (key : String) (owner since : Nat) : Prop where
  caller : ∃ call, state.calls[owner]? = some call ∧ call.key config = key ∧ call.phase ≠ .reserving ∧
    ∀ err, call.phase = .returned (.error err) → .kept owner key ∈ log
  past : since ≤ state.clock
  last : ∃ before after, log = before ++ .taken owner key since :: after ∧ ∀ event ∈ after, event.deletes key = false

/-- Every key in Redis is explained by the log. -/
def Accounted (config : Config) (state : State) (log : List KeyEvent) : Prop :=
  ∀ key entry, state.redis.entries key = some entry →
    ∃ since, entry.expiresAt = since + idempotencyTTL ∧ Explained config state log key entry.owner since

variable {config : Config} {state next : State} {action : Action} {log new : List KeyEvent}

/-- What a step has to show for a key that it leaves in Redis: it does not delete it, and the call that took it
fails only with a lost deletion. -/
theorem Explained.follow (explained : Explained config state log key owner since) (clock : state.clock ≤ next.clock)
    (undeleted : ∀ event ∈ new, event.deletes key = false)
    (caller : ∀ call, state.calls[owner]? = some call → call.key config = key → call.phase ≠ .reserving →
      ∃ later, next.calls[owner]? = some later ∧ later.key config = key ∧ later.phase ≠ .reserving ∧
        ∀ err, later.phase = .returned (.error err) → call.phase = .returned (.error err) ∨ .kept owner key ∈ new) :
    Explained config next (log ++ new) key owner since where
  caller := by
    obtain ⟨call, found, own, past, failed⟩ := explained.caller
    obtain ⟨later, there, same, beyond, onward⟩ := caller call found own past
    refine ⟨later, there, same, beyond, fun err phase => List.mem_append.mpr ?_⟩
    rcases onward err phase with before | lost
    · exact .inl (failed err before)
    · exact .inr lost
  past := explained.past.trans clock
  last := by
    obtain ⟨before, after, split, kept⟩ := explained.last
    refine ⟨before, after ++ new, by simp [split], fun event member => ?_⟩
    rcases List.mem_append.mp member with old | added
    · exact kept event old
    · exact undeleted event added

/-- A step that touches neither Redis nor a call that has reserved. -/
theorem Accounted.quiet (accounted : Accounted config state log) (clock : state.clock ≤ next.clock)
    (redis : next.redis = state.redis) (silent : keyEvents config state action = [])
    (calls : ∀ (index : Nat) call, state.calls[index]? = some call → next.calls[index]? = some call) :
    Accounted config next (log ++ keyEvents config state action) := by
  intro key entry stored
  rw [redis] at stored
  obtain ⟨since, expiry, explained⟩ := accounted key entry stored
  refine ⟨since, expiry, explained.follow clock (by simp [silent]) fun call found own past => ?_⟩
  exact ⟨call, calls _ call found, own, past, fun err phase => .inl phase⟩

/-- A call that goes on without touching Redis and without failing. -/
theorem Accounted.proceed (accounted : Accounted config state log) (found : state.calls[index]? = some call)
    (phase : CallPhase) (beyond : phase ≠ .reserving) (fine : ∀ err, phase ≠ .returned (.error err))
    (clock : next.clock = state.clock) (redis : next.redis = state.redis) (silent : keyEvents config state action = [])
    (calls : next.calls = state.calls.set index { call with phase }) :
    Accounted config next (log ++ keyEvents config state action) := by
  intro key entry stored
  rw [redis] at stored
  obtain ⟨since, expiry, explained⟩ := accounted key entry stored
  refine ⟨since, expiry, explained.follow clock.ge (by simp [silent]) fun old located own past => ?_⟩
  by_cases same : entry.owner = index
  · rw [same, found] at located
    cases located
    refine ⟨{ call with phase }, ?_, own, beyond, fun err failed => absurd failed (fine err)⟩
    rw [calls, same]
    exact getElem_set_found found _
  · refine ⟨old, ?_, own, past, fun err failed => .inl failed⟩
    rw [calls]
    exact getElem_set_other located same _

/-- Reserving takes a free key or leaves Redis as it is. -/
theorem Accounted.reserve_step (accounted : Accounted config state log) (found : state.calls[index]? = some call)
    (phase : call.phase = .reserving) (reply : RedisReply) :
    Accounted config (reserve config state index call reply) (log ++ keyEvents config state (.reserve index reply)) := by
  have logged : keyEvents config state (.reserve index reply) =
      if (state.redis.holder state.clock (call.key config)).isNone ∧ reply ≠ .failed false then
        [.taken index (call.key config) state.clock] else [] := by
    simp [keyEvents, found]
  have undeleted (key : String) : ∀ event ∈ keyEvents config state (.reserve index reply), event.deletes key = false := by
    intro event member
    rw [logged] at member
    split at member
    · cases List.mem_singleton.mp member
      rfl
    · cases member
  -- the owner of an earlier entry has reserved before, so it is another call
  have elsewhere (key : String) (owner : Nat) : ∀ old, state.calls[owner]? = some old → old.key config = key →
      old.phase ≠ .reserving → ∃ later, (reserve config state index call reply).calls[owner]? = some later ∧
        later.key config = key ∧ later.phase ≠ .reserving ∧ ∀ err, later.phase = .returned (.error err) →
          old.phase = .returned (.error err) ∨ .kept owner key ∈ keyEvents config state (.reserve index reply) := by
    intro old located own past
    have different : owner ≠ index := by
      rintro rfl
      rw [found] at located
      cases located
      exact past phase
    exact ⟨old, getElem_set_other located different _, own, past, fun err failed => .inl failed⟩
  intro key entry stored
  by_cases takes : (state.redis.holder state.clock (call.key config)).isNone ∧ reply ≠ .failed false
  · have store : (reserve config state index call reply).redis.entries =
        Function.update state.redis.entries (call.key config) (some ⟨state.clock + idempotencyTTL, index⟩) := by
      have free := Option.isNone_iff_eq_none.mp takes.1
      unfold OrderCall.key at free ⊢
      cases reply with
      | answered => simp [reserve, RedisStore.reserve, RedisStore.setNX, free]
      | failed applied =>
        cases applied with
        | true => simp [reserve, RedisStore.reserve, RedisStore.setNX, free]
        | false => exact absurd rfl takes.2
    rw [store] at stored
    by_cases own : key = call.key config
    · subst own
      simp only [Function.update_self, Option.some.injEq] at stored
      subst stored
      refine ⟨state.clock, rfl, ?_, le_refl _, log, [], by rw [logged, if_pos takes], by simp⟩
      have free := Option.isNone_iff_eq_none.mp takes.1
      unfold OrderCall.key at free
      refine ⟨_, getElem_set_found found _, ?_⟩
      cases reply with
      | answered => simp [RedisStore.reserve, RedisStore.setNX, free, afterReserve, OrderCall.key]
      | failed => simp [RedisStore.reserve, afterReserve, OrderCall.key]
    · rw [Function.update_of_ne own] at stored
      obtain ⟨since, expiry, explained⟩ := accounted key entry stored
      exact ⟨since, expiry, explained.follow (le_refl _) (undeleted key) (elsewhere key entry.owner)⟩
  · have store : (reserve config state index call reply).redis.entries = state.redis.entries := by
      simp only [not_and_or, Option.isNone_iff_eq_none, not_not] at takes
      unfold OrderCall.key at takes
      rcases takes with held | rfl
      · obtain ⟨entry, held⟩ := Option.ne_none_iff_exists'.mp held
        cases reply with
        | answered => simp [reserve, RedisStore.reserve, RedisStore.setNX, held]
        | failed applied => cases applied <;> simp [reserve, RedisStore.reserve, RedisStore.setNX, held]
      · rfl
    rw [store] at stored
    obtain ⟨since, expiry, explained⟩ := accounted key entry stored
    exact ⟨since, expiry, explained.follow (le_refl _) (undeleted key) (elsewhere key entry.owner)⟩

/-- Releasing deletes the key of the call, unless the deletion is lost. -/
theorem Accounted.release_step (accounted : Accounted config state log) (found : state.calls[index]? = some call)
    (err : AppError) (reply : RedisReply) :
    Accounted config (release config state index call err reply)
      (log ++ keyEvents config state (.release index reply)) := by
  intro key entry stored
  have replaced : (release config state index call err reply).calls[index]? =
      some { call with phase := .returned (.error err) } := getElem_set_found found _
  by_cases lost : reply = .failed false
  · subst lost
    obtain ⟨since, expiry, explained⟩ := accounted key entry stored
    have logged : keyEvents config state (.release index (.failed false)) = [.kept index (call.key config)] := by
      simp [keyEvents, found]
    refine ⟨since, expiry, explained.follow (le_refl _) (by simp [logged, KeyEvent.deletes]) fun old located own past => ?_⟩
    by_cases same : entry.owner = index
    · rw [same, found] at located
      cases located
      refine ⟨{ call with phase := .returned (.error err) }, ?_, own, by simp, fun _ _ => .inr (by simp [logged, same, own])⟩
      rw [same]
      exact replaced
    · exact ⟨old, getElem_set_other located same _, own, past, fun _ failed => .inl failed⟩
  · have store : (release config state index call err reply).redis.entries =
        Function.update state.redis.entries (call.key config) none := by
      cases reply with
      | answered => rfl
      | failed applied =>
        cases applied with
        | true => rfl
        | false => exact absurd rfl lost
    have logged : keyEvents config state (.release index reply) = [.deleted index (call.key config)] := by
      simp [keyEvents, found, lost]
    rw [store] at stored
    have other : key ≠ call.key config := by
      rintro rfl
      simp at stored
    rw [Function.update_of_ne other] at stored
    obtain ⟨since, expiry, explained⟩ := accounted key entry stored
    refine ⟨since, expiry, explained.follow (le_refl _) (by simp [logged, KeyEvent.deletes, Ne.symm other])
      fun old located own past => ?_⟩
    have different : entry.owner ≠ index := by
      intro same
      rw [same, found] at located
      cases located
      exact other own.symm
    exact ⟨old, getElem_set_other located different _, own, past, fun _ failed => .inl failed⟩

theorem Accounted.step (accounted : Accounted config state log) (moved : step config state action = some next) :
    Accounted config next (log ++ keyEvents config state action) := by
  cases step_cases config moved with
  | reserve found phase => exact accounted.reserve_step found phase _
  | release found => exact accounted.release_step found _ _
  | lookup found =>
    refine accounted.proceed found _ ?_ ?_ rfl rfl rfl rfl
    · split
      · simp
      · split <;> simp
    · split
      · simp
      · split <;> simp
  | persist found =>
    refine accounted.proceed found _ ?_ ?_ rfl rfl rfl rfl
    · split <;> simp
    · split <;> simp
  | tick => exact accounted.quiet (Nat.le_add_right _ _) rfl rfl fun _ _ found => found
  | submit =>
    refine accounted.quiet (le_refl _) rfl rfl fun index call found => ?_
    simp only [submit]
    rw [List.getElem?_append_left (List.getElem?_eq_some_iff.mp found).1]
    exact found
  | loadProduct =>
    unfold loadProduct
    split <;> exact accounted.quiet (le_refl _) rfl rfl fun _ _ found => found
  | _ => exact accounted.quiet (le_refl _) rfl rfl fun _ _ found => found

theorem History.accounted (history : History config actions state) :
    Accounted config state (trace (Backend.step config) (keyEvents config) initial actions) := by
  have start : Accounted config initial [] := fun key entry stored => by cases stored
  exact run_trace_invariant (Accounted config) (fun _ _ _ _ accounted moved => accounted.step moved) start history

/-- Two calls with one key are of one user and have the same cart. -/
theorem key_same {one two : OrderCall}
    (collisionFree : config.sha256 (keyText one.userID one.items) = config.sha256 (keyText two.userID two.items) →
      keyText one.userID one.items = keyText two.userID two.items)
    (same : one.key config = two.key config) : one.userID = two.userID ∧ one.items.Perm two.items := by
  obtain ⟨user, sorted⟩ := keyText_injective (collisionFree (encodeToString_injective same))
  have left := List.perm_insertionSort (fun first second : OrderItemRequest => first.productID ≤ second.productID) one.items
  have right := List.perm_insertionSort (fun first second : OrderItemRequest => first.productID ≤ second.productID) two.items
  refine ⟨user, left.symm.trans ?_⟩
  rw [show one.items.insertionSort _ = two.items.insertionSort _ from sorted]
  exact right

/-- Nobody is turned away without reason: when a call is answered with a duplicate order, an earlier call of the same
user for the same cart has taken the key less than the time to live ago, nobody has deleted it since, and if that
call has failed, Redis has lost its deletion. -/
theorem duplicate_justified (history : History config actions state)
    (moved : step config state (.reserve index reply) = some next)
    (found : next.calls[index]? = some call) (rejected : call.phase = .returned (.error .duplicateOrder))
    (collisionFree : ∀ one ∈ next.calls, ∀ two ∈ next.calls,
      config.sha256 (keyText one.userID one.items) = config.sha256 (keyText two.userID two.items) →
        keyText one.userID one.items = keyText two.userID two.items) :
    ∃ other earlier since before after, other ≠ index ∧ next.calls[other]? = some earlier ∧
      earlier.userID = call.userID ∧ earlier.items.Perm call.items ∧
      since ≤ next.clock ∧ next.clock < since + idempotencyTTL ∧
      trace (step config) (keyEvents config) initial actions =
        before ++ .taken other (call.key config) since :: after ∧
      (∀ event ∈ after, event.deletes (call.key config) = false) ∧
      ∀ err, earlier.phase = .returned (.error err) →
        .kept other (call.key config) ∈ trace (step config) (keyEvents config) initial actions := by
  have accounted := history.accounted
  cases step_cases config moved with
  | @reserve _ old _ located phase =>
    have answer : afterReserve old state.clock
        (state.redis.reserve state.clock idempotencyTTL index (old.key config) reply).1 = call :=
      Option.some.inj ((getElem_set_found located _).symm.trans found)
    have same : call.key config = old.key config := by
      rw [← answer]
      unfold afterReserve
      split <;> rfl
    -- the answer was that somebody holds the key
    obtain ⟨entry, held⟩ : ∃ entry, state.redis.holder state.clock (old.key config) = some entry := by
      rw [← answer] at rejected
      cases held : state.redis.holder state.clock (old.key config) with
      | some entry => exact ⟨entry, rfl⟩
      | none =>
        cases reply with
        | answered => simp [RedisStore.reserve, RedisStore.setNX, held, afterReserve] at rejected
        | failed => simp [RedisStore.reserve, afterReserve] at rejected
    obtain ⟨stored, live⟩ := Option.filter_eq_some_iff.mp held
    obtain ⟨since, expiry, ⟨earlier, there, own, past, failed⟩, order, before, after, split, kept⟩ :=
      accounted _ entry stored
    have different : entry.owner ≠ index := by
      intro same
      rw [same, located] at there
      cases there
      exact past phase
    have live : state.clock < since + idempotencyTTL := by simpa [expiry] using live
    have present : (reserve config state index old reply).calls[entry.owner]? = some earlier :=
      getElem_set_other there different _
    obtain ⟨user, cart⟩ := key_same (collisionFree earlier (List.mem_of_getElem? present) call
      (List.mem_of_getElem? found)) (own.trans same.symm)
    rw [same]
    exact ⟨entry.owner, earlier, since, before, after, different, present, user, cart, order, live, split, kept, failed⟩

/-- The same cart again, in the other order of its lines, just before the time to live is over. -/
def repeated : List Action :=
  stocked ++ [.createProduct ⟨8, "cup", none, none, 300⟩ ⟨2, 0, 10⟩ {},
   .submit 1 [⟨7, 2⟩, ⟨8, 1⟩], .submit 1 [⟨8, 1⟩, ⟨7, 2⟩], .reserve 0 .answered, .lookup 0 "a" none, .persist 0 1 1 {},
   .tick (idempotencyTTL - 1)]

theorem duplicate_justified_repeated : ∃ state next call, History demo repeated state ∧
    step demo state (.reserve 1 .answered) = some next ∧ next.calls[1]? = some call ∧
    call.phase = .returned (.error .duplicateOrder) ∧
    ∃ other earlier since before after, other ≠ 1 ∧ next.calls[other]? = some earlier ∧
      earlier.userID = call.userID ∧ earlier.items.Perm call.items ∧
      since ≤ next.clock ∧ next.clock < since + idempotencyTTL ∧
      trace (step demo) (keyEvents demo) initial repeated = before ++ .taken other (call.key demo) since :: after ∧
      (∀ event ∈ after, event.deletes (call.key demo) = false) ∧
      ∀ err, earlier.phase = .returned (.error err) →
        .kept other (call.key demo) ∈ trace (step demo) (keyEvents demo) initial repeated := by
  obtain ⟨state, next, one, two, history, moved, calls, rejected, sameText⟩ :
    ∃ state next one two, History demo repeated state ∧ step demo state (.reserve 1 .answered) = some next ∧
      next.calls = [one, two] ∧ two.phase = .returned (.error .duplicateOrder) ∧
      keyText one.userID one.items = keyText two.userID two.items :=
    ⟨_, _, _, _, rfl, rfl, rfl, rfl, by decide⟩
  have found : next.calls[1]? = some two := by rw [calls]; rfl
  refine ⟨state, next, two, history, moved, found, rejected,
    duplicate_justified history moved found rejected fun first member second other _ => ?_⟩
  simp only [calls, List.mem_cons, List.not_mem_nil, or_false] at member other
  rcases member with rfl | rfl <;> rcases other with rfl | rfl
  · rfl
  · exact sameText
  · exact sameText.symm
  · rfl

end OrderProcessing.Backend
