import OrderProcessing.Backend.Invariant
import OrderProcessing.Services.CreateOrder

/-! A `CreateOrder` call that runs through without another party in between, in any
state the backend can reach. -/

namespace OrderProcessing

open Library

/-- Prices are within their column and not negative. -/
def Db.Priced (db : Db) : Prop := ∀ row ∈ db.products, 0 ≤ row.price ∧ fitsNumeric row.price

theorem Db.Refines.schema {db : Db} (refines : db.Refines ledger) (priced : db.Priced) : db.Schema where
  keys := refines.productIDs
  stocked := refines.stocked
  priced := priced
  owned item member := by
    rw [refines.items] at member
    obtain ⟨entry, listed, line⟩ := List.mem_flatMap.mp member
    rw [entry.owned item line, refines.order_found listed]
    rfl

/-- Only the two statements that write a product can change a price, and they check it. -/
theorem answer_priced (Answer : Type) (stmt : Statement Answer) (db : Db) (priced : db.Priced) :
    (postgres.answer stmt db).2.Priced := by
  by_cases foreign : .products ∉ stmt.targets
  · have kept := answer_kept apply_products Answer stmt db foreign
    unfold Db.Priced
    rwa [kept]
  unfold Engine.answer
  split
  · exact priced
  rename_i answer writes done
  cases stmt with
  | insertProduct row =>
    obtain ⟨same, checks⟩ := guarded_ok.mp done
    cases same
    simp at checks
    intro product member
    rcases List.mem_append.mp member with old | new
    · exact priced product old
    · cases List.mem_singleton.mp new
      exact ⟨checks.2.1, checks.1⟩
  | saveProduct row =>
    obtain ⟨same, checks⟩ := guarded_ok.mp done
    cases same
    simp at checks
    intro product member
    obtain ⟨old, present, rfl⟩ := List.mem_map.mp member
    unfold Db.replaceProduct
    split
    · exact ⟨checks.2.1, checks.1⟩
    · exact priced old present
  | _ => simp [Statement.targets] at foreign

theorem transact_priced (faults : Faults DbError) (initial : Value) {body : Tx Value} (propagates : body.Propagates)
    {db : Db} (priced : db.Priced) : (transact faults initial body db).2.Priced := by
  rcases Backend.transact_cases faults initial db propagates with ⟨_, _, failed⟩ | ⟨_, _, done, alone⟩
  · rw [failed]
    exact priced
  · rw [done]
    have kept := body.atomic_invariant postgres Db.Priced answer_priced priced
    rwa [alone] at kept

namespace Backend

variable {config : Config} {state next : State}

theorem Priced.step (priced : state.db.Priced) (moved : step config state action = some next) : next.db.Priced := by
  cases step_cases config moved with
  | createUser => exact transact_priced _ _ (UserRepository.createUser_propagates _) priced
  | createProduct => exact transact_priced _ _ (ProductRepository.createProduct_propagates _ _) priced
  | saveProduct => exact transact_priced _ _ (ProductRepository.updateProduct_propagates _ _) priced
  | persist => exact transact_priced _ _ (OrderRepository.createOrder_propagates _ _) priced
  | cancel => exact transact_priced _ _ (OrderRepository.failCancelAndRestock_propagates _ _) priced
  | confirm => exact transact_priced _ _ (OrderRepository.markPaidAndConfirm_propagates _ _) priced
  | loadProduct =>
    unfold loadProduct
    split <;> exact priced
  | _ => exact priced

theorem History.schema (history : History config actions state) : state.db.Schema := by
  obtain ⟨ledger, inv⟩ := history.inv
  refine inv.refines.schema (run_invariant (fun state : State => state.db.Priced) ?_ ?_ history)
  · intro state action next priced moved
    exact Priced.step priced moved
  · simp [initial, Db.Priced]

/-- Left to itself, the call takes some of the offered steps, in their order, and returns. -/
def Ends (config : Config) (index : Nat) (offered : List Action) (state : State) (result : Except AppError Int)
    (db : Db) : Prop :=
  ∃ steps final call, steps.Sublist offered ∧ run (step config) state steps = some final ∧ final.db = db ∧
    final.calls[index]? = some call ∧ call.phase = .returned result

namespace Ends

theorem now (found : state.calls[index]? = some call) (phase : call.phase = .returned result) :
    Ends config index offered state result state.db :=
  ⟨[], state, call, List.nil_sublist _, rfl, rfl, found, phase⟩

theorem after (moved : step config state action = some next) (ends : Ends config index offered next result db) :
    Ends config index (action :: offered) state result db := by
  obtain ⟨steps, final, call, listed, done, tables, found, phase⟩ := ends
  have moves : run (step config) state (action :: steps) = some final := by
    rw [run_cons, moved]
    exact done
  exact ⟨action :: steps, final, call, listed.cons_cons action, moves, tables, found, phase⟩

theorem skip (ends : Ends config index offered state result db) :
    Ends config index (action :: offered) state result db := by
  obtain ⟨steps, final, call, listed, done⟩ := ends
  exact ⟨steps, final, call, listed.cons action, done⟩

end Ends

/-- The call was replaced at its place. -/
theorem call_set (found : state.calls[index]? = some call) (replaced : OrderCall) :
    (state.calls.set index replaced)[index]? = some replaced := by
  rw [List.getElem?_set_self (List.getElem?_eq_some_iff.mp found).1]

theorem release_ends (found : state.calls[index]? = some call) (phase : call.phase = .releasing err) :
    Ends config index [.release index last] state (.error err) state.db := by
  have moved : step config state (.release index last) = some (release config state index call err last) := by
    simp [step, found, phase]
  exact .after moved (.now (call_set found _) rfl)

theorem persist_ends (found : state.calls[index]? = some call) (phase : call.phase = .persisting new)
    (performed : transact faults 0 (OrderRepository.createOrder ⟨orderID, paymentID, state.clock⟩ new) state.db =
      ((value, err), tables)) :
    Ends config index [.persist index orderID paymentID faults, .release index last] state
      (match err with
        | some err => .error err
        | none => .ok value) tables := by
  have moved : step config state (.persist index orderID paymentID faults) =
      some (persist state index call new orderID paymentID faults) := by
    simp [step, found, phase]
  refine .after moved ?_
  cases err with
  | none =>
    have next : persist state index call new orderID paymentID faults =
        { state with db := tables, calls := state.calls.set index { call with phase := .returned (.ok value) } } := by
      simp [persist, performed]
    rw [next]
    exact .now (call_set found _) rfl
  | some err =>
    have next : persist state index call new orderID paymentID faults =
        { state with db := tables, calls := state.calls.set index { call with phase := .releasing err } } := by
      simp [persist, performed]
    rw [next]
    exact release_ends (call_set found _) rfl

theorem lookup_ends (found : state.calls[index]? = some call) (phase : call.phase = .lookingUp)
    (fresh : OrderService.duplicateLine [] call.items = false) (acquired : Option Bool) (held : acquired ≠ some false) :
    Ends config index [.lookup index uuid looking, .persist index orderID paymentID faults, .release index last] state
      ((OrderService.createOrder state.db ⟨orderID, paymentID, state.clock⟩ uuid call.userID call.items acquired looking
        faults).1.map (·.id))
      (OrderService.createOrder state.db ⟨orderID, paymentID, state.clock⟩ uuid call.userID call.items acquired looking
        faults).2 := by
  have moved : step config state (.lookup index uuid looking) = some (lookup state index call uuid looking) := by
    simp [step, found, phase]
  refine .after moved ?_
  rw [OrderService.createOrder, if_neg (by simp [fresh]), if_neg held, lookup]
  cases ProductRepository.getProductsByIDs state.db (call.items.map (·.productID)) looking with
  | error err => exact .skip (release_ends (call_set found _) rfl)
  | ok products =>
    dsimp only
    cases OrderService.buildOrder call.userID uuid products call.items with
    | error err => exact .skip (release_ends (call_set found _) rfl)
    | ok new =>
      dsimp only
      generalize performed :
        transact faults 0 (OrderRepository.createOrder ⟨orderID, paymentID, state.clock⟩ new) state.db = outcome
      obtain ⟨⟨value, err⟩, tables⟩ := outcome
      have stored : ({ state with calls := state.calls.set index { call with phase := .persisting new } } :
          State).calls[index]? = some { call with phase := .persisting new } := call_set found _
      cases err with
      | none => exact persist_ends stored rfl performed
      | some err => exact persist_ends stored rfl performed

/-- What the service function computes, with the answer of the store. -/
def computed (config : Config) (state : State) (userID : Int) (items : List OrderItemRequest) (uuid : String)
    (orderID paymentID : Int) (reply : RedisReply) (looking : Option DbError) (faults : Faults DbError) :
    Except AppError OrderResponse × Db :=
  let key := OrderService.idempotencyKey config.sha256 userID items
  let acquired := (state.redis.reserve state.clock OrderService.idempotencyTTL state.calls.length key reply).1
  OrderService.createOrder state.db ⟨orderID, paymentID, state.clock⟩ uuid userID items acquired looking faults

theorem reserve_ends (found : state.calls[index]? = some call) (phase : call.phase = .reserving)
    (fresh : OrderService.duplicateLine [] call.items = false)
    (answered : state.redis.reserve state.clock OrderService.idempotencyTTL index
      (OrderService.idempotencyKey config.sha256 call.userID call.items) reply = (acquired, redis)) :
    Ends config index [.reserve index reply, .lookup index uuid looking, .persist index orderID paymentID faults,
        .release index last] state
      ((OrderService.createOrder state.db ⟨orderID, paymentID, state.clock⟩ uuid call.userID call.items acquired looking
        faults).1.map (·.id))
      (OrderService.createOrder state.db ⟨orderID, paymentID, state.clock⟩ uuid call.userID call.items acquired looking
        faults).2 := by
  have moved : step config state (.reserve index reply) = some (reserve config state index call reply) := by
    simp [step, found, phase]
  have next : reserve config state index call reply =
      { state with redis, calls := state.calls.set index (afterReserve call state.clock acquired) } := by
    simp [reserve, answered]
  refine .after moved ?_
  rw [next]
  have stored : ({ state with redis, calls := state.calls.set index (afterReserve call state.clock acquired) } :
      State).calls[index]? = some (afterReserve call state.clock acquired) := call_set found _
  rcases acquired with _ | _ | _
  · exact lookup_ends stored rfl fresh none (by simp)
  · rw [OrderService.createOrder, if_neg (by simp [fresh]), if_pos rfl]
    exact .now stored rfl
  · exact lookup_ends stored rfl fresh (some true) (by simp)

/-- A call that takes its steps with nothing in between writes and returns what the
service function computes. -/
theorem call_alone (config : Config) (state : State) (userID : Int) (items : List OrderItemRequest) (uuid : String)
    (orderID paymentID : Int) (reply last : RedisReply) (looking : Option DbError) (faults : Faults DbError) :
    Ends config state.calls.length
      [.submit userID items, .reserve state.calls.length reply, .lookup state.calls.length uuid looking,
        .persist state.calls.length orderID paymentID faults, .release state.calls.length last] state
      ((computed config state userID items uuid orderID paymentID reply looking faults).1.map (·.id))
      (computed config state userID items uuid orderID paymentID reply looking faults).2 := by
  refine .after rfl ?_
  by_cases repeated : OrderService.duplicateLine [] items
  · have found : (submit state userID items).calls[state.calls.length]? =
        some { userID, items, phase := .returned (.error .duplicateLineItem) } := by
      simp [submit, repeated]
    rw [computed, OrderService.createOrder, if_pos repeated]
    exact .now found rfl
  · have found : (submit state userID items).calls[state.calls.length]? =
        some { userID, items, phase := .reserving } := by
      simp [submit, repeated]
    exact reserve_ends found rfl (by simpa using repeated) rfl

/-- In every state the backend can reach, a call whose key is free and that meets no fault
ends in one of the five ways, if it is left to itself. -/
theorem History.call_ended (history : History config actions state)
    (free : state.redis.holder state.clock (OrderService.idempotencyKey config.sha256 userID items) = none)
    (fresh : OrderService.Fresh state.db ⟨orderID, paymentID, state.clock⟩ uuid) (nonempty : items ≠ [])
    (positive : ∀ item ∈ items, 0 < item.quantity) (fits : fitsNumeric (OrderService.cartTotal state.db items)) :
    ∃ response db, OrderService.Ended state.db ⟨orderID, paymentID, state.clock⟩ uuid userID items (response, db) ∧
      Ends config state.calls.length
        [.submit userID items, .reserve state.calls.length .answered, .lookup state.calls.length uuid none,
          .persist state.calls.length orderID paymentID {}, .release state.calls.length .answered] state
        (response.map (·.id)) db := by
  have acquired : computed config state userID items uuid orderID paymentID .answered none {} =
      OrderService.createOrder state.db ⟨orderID, paymentID, state.clock⟩ uuid userID items (some true) none {} := by
    simp [computed, RedisStore.reserve, RedisStore.setNX, free]
  have ended : OrderService.Ended state.db ⟨orderID, paymentID, state.clock⟩ uuid userID items _ :=
    OrderService.createOrder_ended history.schema positive fresh nonempty fits
  have ends := call_alone config state userID items uuid orderID paymentID .answered .answered none {}
  rw [acquired] at ends
  exact ⟨_, _, ended, ends⟩

end Backend

end OrderProcessing
