import OrderProcessing.Backend.Coherence

/-! How long a cart key keeps duplicate submissions apart. Redis forgets a key
when it expires or when any call deletes it, so the reservation of a call lasts
for its time to live only if no other call deletes it. -/

namespace OrderProcessing.Backend

open Library OrderService

def OrderCall.key (config : Config) (call : OrderCall) : String :=
  idempotencyKey config.sha256 call.userID call.items

/-- The call acquired its key at that instant and has not failed since. -/
structure Holding (state : State) (index : Nat) (call : OrderCall) (since : Nat) : Prop where
  found : state.calls[index]? = some call
  acquired : call.acquiredAt = some since
  live : ∀ err, call.phase ≠ .returned (.error err)

/-- A call that holds its key has it in Redis until it expires, and two calls
with one key acquired it at least the time to live apart. -/
structure Reserved (config : Config) (state : State) : Prop where
  untaken : ∀ call ∈ state.calls, call.phase = .reserving →
    call.acquiredAt = none ∧ (call.items.map (·.productID)).Nodup
  distinct : ∀ call ∈ state.calls, call.acquiredAt.isSome → (call.items.map (·.productID)).Nodup
  held : ∀ index call since, Holding state index call since → state.clock < since + idempotencyTTL →
    state.redis.entries (call.key config) = some ⟨since + idempotencyTTL, index⟩
  apart : ∀ index other one two since later, Holding state index one since → Holding state other two later →
    index ≠ other → one.key config = two.key config →
    since + idempotencyTTL ≤ later ∨ later + idempotencyTTL ≤ since

/-- A call that takes effect on Redis deletes a key only if no other call that
acquired it still holds it. -/
def ownRelease (config : Config) (state : State) : Action → Bool
  | .release index reply =>
    match state.calls[index]? with
    | some call =>
      reply = .failed false ||
        match state.redis.holder state.clock (call.key config) with
        | some entry => entry.owner = index || ((state.calls[entry.owner]?).bind (·.acquiredAt)).isNone
        | none => true
    | none => true
  | _ => true

/-- The key a call acquired in this very step. -/
structure Taken (config : Config) (state next : State) (index : Nat) (call : OrderCall) (since : Nat) : Prop where
  now : since = next.clock
  stored : next.redis.entries (call.key config) = some ⟨since + idempotencyTTL, index⟩
  free : ∀ other old later, Holding state other old later → old.key config = call.key config →
    later + idempotencyTTL ≤ since

variable {config : Config} {state next final : State} {action : Action}

/-- What a step has to show: where each holder comes from, and that the keys
held before are still there. -/
theorem Reserved.follow (reserved : Reserved config state) (clock : state.clock ≤ next.clock)
    (untaken : ∀ call ∈ next.calls, call.phase = .reserving →
      call.acquiredAt = none ∧ (call.items.map (·.productID)).Nodup)
    (distinct : ∀ call ∈ next.calls, call.acquiredAt.isSome → (call.items.map (·.productID)).Nodup)
    (actor : Nat)
    (origin : ∀ index call since, Holding next index call since →
      (∃ old, Holding state index old since ∧ old.key config = call.key config ∧
        (next.clock < since + idempotencyTTL →
          next.redis.entries (call.key config) = state.redis.entries (call.key config))) ∨
      index = actor ∧ Taken config state next index call since) : Reserved config next where
  untaken := untaken
  distinct := distinct
  held index call since holding fresh := by
    rcases origin index call since holding with ⟨old, before, same, kept⟩ | ⟨_, taken⟩
    · rw [kept fresh, ← same]
      exact reserved.held index old since before (lt_of_le_of_lt clock fresh)
    · exact taken.stored
  apart index other one two since later left right different sameKey := by
    rcases origin index one since left with ⟨first, leftBefore, leftKey, _⟩ | ⟨leftActs, leftTaken⟩ <;>
      rcases origin other two later right with ⟨second, rightBefore, rightKey, _⟩ | ⟨rightActs, rightTaken⟩
    · exact reserved.apart index other first second since later leftBefore rightBefore different
        (leftKey.trans (sameKey.trans rightKey.symm))
    · exact .inl (rightTaken.free index first since leftBefore (leftKey.trans sameKey))
    · exact .inr (leftTaken.free other second later rightBefore (rightKey.trans sameKey.symm))
    · exact absurd (leftActs.trans rightActs.symm) different

/-- A step that leaves calls and Redis as they are. -/
theorem Reserved.quiet (reserved : Reserved config state) (clock : state.clock ≤ next.clock)
    (calls : next.calls = state.calls) (redis : next.redis = state.redis) : Reserved config next := by
  refine reserved.follow clock (calls ▸ reserved.untaken) (calls ▸ reserved.distinct) 0 ?_
  rintro index call since ⟨found, acquired, live⟩
  exact .inl ⟨call, ⟨calls ▸ found, acquired, live⟩, rfl, fun _ => by rw [redis]⟩

/-- One live call went on without touching Redis. -/
theorem Reserved.proceed (reserved : Reserved config state) (found : state.calls[index]? = some call)
    (live : ∀ err, call.phase ≠ .returned (.error err)) (phase : CallPhase) (past : phase ≠ .reserving)
    (clock : next.clock = state.clock) (redis : next.redis = state.redis)
    (calls : next.calls = state.calls.set index { call with phase }) : Reserved config next := by
  refine reserved.follow (le_of_eq clock.symm) ?_ ?_ 0 ?_
  · intro other member reserving
    rw [calls] at member
    rcases List.mem_or_eq_of_mem_set member with old | rfl
    · exact reserved.untaken other old reserving
    · exact absurd reserving past
  · intro other member acquired
    rw [calls] at member
    rcases List.mem_or_eq_of_mem_set member with old | rfl
    · exact reserved.distinct other old acquired
    · exact reserved.distinct call (List.mem_of_getElem? found) acquired
  · rintro other new since ⟨located, acquired, still⟩
    rw [calls] at located
    rcases getElem_set_cases located with ⟨rfl, rfl⟩ | ⟨_, old⟩
    · exact .inl ⟨call, ⟨found, acquired, live⟩, rfl, fun _ => by rw [redis]⟩
    · exact .inl ⟨new, ⟨old, acquired, still⟩, rfl, fun _ => by rw [redis]⟩

theorem Reserved.reserve_step (reserved : Reserved config state) (found : state.calls[index]? = some call)
    (phase : call.phase = .reserving) (reply : RedisReply) :
    Reserved config (reserve config state index call reply) := by
  obtain ⟨untaken, distinct⟩ := reserved.untaken call (List.mem_of_getElem? found) phase
  have sameItems (result : Option Bool) : (afterReserve call state.clock result).items = call.items := by
    unfold afterReserve
    split <;> rfl
  refine reserved.follow (le_refl _) ?_ ?_ index ?_
  · intro other member reserving
    rcases List.mem_or_eq_of_mem_set member with old | rfl
    · exact reserved.untaken other old reserving
    · unfold afterReserve at reserving
      split at reserving <;> cases reserving
  · intro other member acquired
    rcases List.mem_or_eq_of_mem_set member with old | rfl
    · exact reserved.distinct other old acquired
    · rw [sameItems]
      exact distinct
  · rintro other new since ⟨located, acquired, live⟩
    rcases getElem_set_cases located with ⟨rfl, rfl⟩ | ⟨_, old⟩
    · -- the acting call holds its key only if Redis just answered so
      generalize answer : (state.redis.reserve _ _ _ _ _).1 = result at acquired live ⊢
      match result with
      | none => exact absurd acquired (by simp [afterReserve, untaken])
      | some false => exact absurd rfl (live .duplicateOrder)
      | some true =>
        cases acquired
        obtain ⟨free, stored⟩ := RedisStore.reserve_acquired answer
        refine .inr ⟨rfl, rfl, stored, fun holder old later holding sameKey => ?_⟩
        by_contra fresh
        have unexpired : state.clock < later + idempotencyTTL := not_le.mp fresh
        have present := reserved.held holder old later holding unexpired
        rw [sameKey] at present
        cases free.symm.trans (RedisStore.holder_live present unexpired)
    · have holding : Holding state other new since := ⟨old, acquired, live⟩
      exact .inl ⟨new, holding, rfl, fun fresh =>
        RedisStore.reserve_live (reserved.held other new since holding fresh) fresh _ _ _ _⟩

theorem Reserved.release_step (reserved : Reserved config state) (found : state.calls[index]? = some call)
    (owned : ownRelease config state (.release index reply)) (err : AppError) :
    Reserved config (release config state index call err reply) := by
  refine reserved.follow (le_refl _) ?_ ?_ 0 ?_
  · intro other member reserving
    rcases List.mem_or_eq_of_mem_set member with old | rfl
    · exact reserved.untaken other old reserving
    · cases reserving
  · intro other member acquired
    rcases List.mem_or_eq_of_mem_set member with old | rfl
    · exact reserved.distinct other old acquired
    · exact reserved.distinct call (List.mem_of_getElem? found) acquired
  · rintro other new since ⟨located, acquired, live⟩
    rcases getElem_set_cases located with ⟨rfl, rfl⟩ | ⟨different, old⟩
    · exact absurd rfl (live err)
    · have holding : Holding state other new since := ⟨old, acquired, live⟩
      refine .inl ⟨new, holding, rfl, fun fresh => ?_⟩
      have present := reserved.held other new since holding fresh
      by_cases sameKey : new.key config = call.key config
      · -- the released key is held by another call, so the deletion was lost
        have holder : state.redis.holder state.clock (call.key config) = _ :=
          sameKey ▸ RedisStore.holder_live present fresh
        have lost : reply = .failed false := by
          simpa [ownRelease, found, holder, old, acquired, different] using owned
        subst lost
        rfl
      · exact RedisStore.release_other sameKey reply

theorem Reserved.step (reserved : Reserved config state) (owned : ownRelease config state action)
    (moved : step config state action = some next) : Reserved config next := by
  cases step_cases config moved with
  | tick => exact reserved.quiet (Nat.le_add_right _ _) rfl rfl
  | submit =>
    refine reserved.follow (le_refl _) ?_ ?_ 0 ?_
    · intro call member reserving
      rcases List.mem_append.mp member with old | added
      · exact reserved.untaken call old reserving
      · cases List.mem_singleton.mp added
        refine ⟨rfl, ?_⟩
        simp only at reserving
        split at reserving
        · cases reserving
        · rename_i unique
          exact ((duplicateLine_false [] _).mp (Bool.eq_false_iff.mpr unique)).1
    · intro call member acquired
      rcases List.mem_append.mp member with old | added
      · exact reserved.distinct call old acquired
      · cases List.mem_singleton.mp added
        cases acquired
    · rintro index call since ⟨found, acquired, live⟩
      by_cases old : index < state.calls.length
      · simp only [submit, List.getElem?_append_left old] at found
        exact .inl ⟨call, ⟨found, acquired, live⟩, rfl, fun _ => rfl⟩
      · simp only [submit, List.getElem?_append_right (not_lt.mp old)] at found
        cases List.mem_singleton.mp (List.mem_of_getElem? found)
        cases acquired
  | reserve found phase => exact reserved.reserve_step found phase _
  | lookup found phase =>
    refine reserved.proceed found (by simp [phase]) _ ?_ rfl rfl rfl
    split
    · simp
    · split <;> simp
  | persist found phase =>
    refine reserved.proceed found (by simp [phase]) _ ?_ rfl rfl rfl
    split <;> simp
  | release found => exact reserved.release_step found owned _
  | loadProduct =>
    unfold loadProduct
    split <;> exact reserved.quiet (le_refl _) rfl rfl
  | _ => exact reserved.quiet (le_refl _) rfl rfl

/-- Two calls of one user with the same cart, in any order of its lines, that
both acquired the key and both committed an order, acquired it at least the time
to live apart, provided no step deletes a key that another call holds. -/
theorem duplicates_apart {index other : Nat} {one two : OrderCall} (history : History config actions state)
    (owned : Along (step config) (fun state action => ownRelease config state action) initial actions)
    (first : state.calls[index]? = some one) (second : state.calls[other]? = some two)
    (different : index ≠ other) (sameUser : one.userID = two.userID) (sameCart : one.items.Perm two.items)
    (acquired : one.acquiredAt = some since) (acquiredLater : two.acquiredAt = some later)
    (committed : one.phase = .returned (.ok orderID)) (committedLater : two.phase = .returned (.ok otherID)) :
    since + idempotencyTTL ≤ later ∨ later + idempotencyTTL ≤ since := by
  have reserved : Reserved config state := by
    refine run_invariant_along (Reserved config) ?_ ?_ owned history
    · exact fun _ _ _ reserved fine moved => reserved.step fine moved
    · exact ⟨by simp [initial], by simp [initial], fun _ _ _ holding => by simpa [initial] using holding.found,
        fun _ _ _ _ _ _ holding => by simpa [initial] using holding.found⟩
  have distinct := reserved.distinct one (List.mem_of_getElem? first) (by simp [acquired])
  have sameKey : one.key config = two.key config := by
    rw [OrderCall.key, OrderCall.key, sameUser, idempotencyKey_perm _ _ distinct sameCart]
  exact reserved.apart index other one two since later ⟨first, acquired, by simp [committed]⟩
    ⟨second, acquiredLater, by simp [committedLater]⟩ different sameKey

/-- The cart of the example, in the other order of its lines, after the time to live. -/
def reordered : List Action :=
  stocked ++ [.createProduct ⟨8, "cup", none, none, 300⟩ ⟨2, 0, 10⟩ {},
   .submit 1 [⟨7, 2⟩, ⟨8, 1⟩], .reserve 0 .answered, .lookup 0 "a" none, .persist 0 1 1 {},
   .tick idempotencyTTL,
   .submit 1 [⟨8, 1⟩, ⟨7, 2⟩], .reserve 1 .answered, .lookup 1 "b" none, .persist 1 2 2 {}]

theorem duplicates_apart_reordered : ∃ state one two, History demo reordered state ∧
    state.calls[0]? = some one ∧ state.calls[1]? = some two ∧
    one.acquiredAt = some 0 ∧ two.acquiredAt = some idempotencyTTL ∧
    (0 + idempotencyTTL ≤ idempotencyTTL ∨ idempotencyTTL + idempotencyTTL ≤ 0) := by
  obtain ⟨state, one, two, history, first, second, sameUser, sameCart, acquired, later, committed, committedLater⟩ :
    ∃ state one two, History demo reordered state ∧ state.calls[0]? = some one ∧ state.calls[1]? = some two ∧
      one.userID = two.userID ∧ one.items.Perm two.items ∧ one.acquiredAt = some 0 ∧
      two.acquiredAt = some idempotencyTTL ∧ one.phase = .returned (.ok 1) ∧ two.phase = .returned (.ok 2) :=
    ⟨_, _, _, rfl, rfl, rfl, rfl, .swap _ _ _, rfl, rfl, rfl, rfl⟩
  exact ⟨state, one, two, history, first, second, acquired, later,
    duplicates_apart history (by decide) first second (by decide) sameUser sameCart acquired later
      committed committedLater⟩

/-- The first call runs without a reservation because Redis failed. Its own
failure then deletes the key of the second call, and the third call gets it. -/
def foreignRelease : List Action :=
  stocked ++ [.submit 1 [⟨7, 2⟩], .submit 1 [⟨7, 2⟩], .submit 1 [⟨7, 2⟩],
   .reserve 0 (.failed false), .reserve 1 .answered,
   .lookup 0 "a" (some .infrastructure), .release 0 .answered,
   .reserve 2 .answered, .lookup 1 "b" none, .lookup 2 "c" none, .persist 1 1 1 {}, .persist 2 2 2 {}]

/-- Two identical orders, both with an acquired key, in the same instant. -/
theorem duplicates_together : ∃ state one two, History demo foreignRelease state ∧
    state.calls[1]? = some one ∧ state.calls[2]? = some two ∧
    one.userID = two.userID ∧ one.items = two.items ∧
    one.acquiredAt = some 0 ∧ two.acquiredAt = some 0 ∧
    one.phase = .returned (.ok 1) ∧ two.phase = .returned (.ok 2) ∧
    ¬ (0 + idempotencyTTL ≤ 0 ∨ 0 + idempotencyTTL ≤ 0) :=
  ⟨_, _, _, rfl, rfl, rfl, rfl, rfl, rfl, rfl, rfl, rfl, by decide⟩

end OrderProcessing.Backend
