import OrderProcessing.Api.Provenance
import OrderProcessing.Backend.Coherence

/-! What the order handler tells its clients. Calls interleave, fail and are retried, but the answers and the tables
never disagree: each stored order was announced to exactly one caller, as the order of exactly that caller's cart. -/

namespace OrderProcessing

open Library

namespace OrderHandler

inductive Answer where
  | created (orderID : Int)
  /-- The text of an error of the database is the driver's own. -/
  | refused (status : Nat) (error : Option String)
  deriving DecidableEq, Repr

def writeOrderError : AppError → Answer
  | .productNotFound productID => .refused 404 (some ("product " ++ toString productID ++ " not found"))
  | .insufficientStock productID => .refused 409 (some ("insufficient stock for product " ++ toString productID))
  | .duplicateOrder => .refused 409 (some "duplicate order")
  | .duplicateLineItem => .refused 400 (some "duplicate line item")
  | .userNotFound => .refused 400 (some "user not found")
  | .orderNotFound => .refused 500 (some "order not found")
  | .noPendingPayment => .refused 500 (some "no pending payment for order")
  | .database _ => .refused 500 none

/-- The end of `Create`, once the service has returned. -/
def create : Except AppError Int → Answer
  | .ok orderID => .created orderID
  | .error err => writeOrderError err

theorem create_created : create result = .created orderID ↔ result = .ok orderID := by
  cases result with
  | ok => simp [create]
  | error err => cases err <;> simp [create, writeOrderError]

end OrderHandler

/-- The line of the cart that the item is for. -/
def OrderItem.request (item : OrderItem) : OrderItemRequest := ⟨item.productID, item.quantity⟩

theorem buildItems_requests {items lines : List OrderItem}
    (built : OrderService.buildItems price requests items total = .ok (lines, sum)) :
    lines.map OrderItem.request = items.map OrderItem.request ++ requests := by
  induction requests generalizing items total with
  | nil =>
    cases built
    simp
  | cons item rest ih =>
    simp only [OrderService.buildItems] at built
    split at built
    · cases built
    · rw [ih built]
      simp [OrderItem.request]

theorem buildOrder_requests (built : OrderService.buildOrder userID uuid products requests = .ok new) :
    (new.items.map OrderItem.request).Perm requests := by
  unfold OrderService.buildOrder at built
  split at built
  · cases built
  · rename_i items total lines
    cases built
    have same := buildItems_requests lines
    simp only [List.map_nil, List.nil_append] at same
    rw [← same]
    exact (OrderService.sortItems_perm items).map _

namespace Backend

/-- The answer to a call that has returned. -/
def OrderCall.answer? (call : OrderCall) : Option OrderHandler.Answer :=
  match call.phase with
  | .returned result => some (OrderHandler.create result)
  | _ => none

theorem OrderCall.answer_created {call : OrderCall} :
    call.answer? = some (.created orderID) ↔ call.phase = .returned (.ok orderID) := by
  unfold OrderCall.answer?
  split
  · rename_i phase
    simp [phase, OrderHandler.create_created]
  · rename_i unreturned
    simp only [reduceCtorEq, false_iff]
    exact unreturned _

/-- The order of this cart is stored. -/
def Stored (db : Db) (orderID userID : Int) (items : List OrderItemRequest) : Prop :=
  ∃ order, db.order? orderID = some order ∧ order.userID = userID ∧
    order.totalPrice = totalOf (db.itemsOf orderID) ∧ ((db.itemsOf orderID).map OrderItem.request).Perm items

/-- Orders about to be stored are those of their calls, and answers and orders match one by one. -/
structure Replied (state : State) : Prop where
  drafted : ∀ call ∈ state.calls, ∀ new, call.phase = .persisting new →
    new.order.userID = call.userID ∧ (new.items.map OrderItem.request).Perm call.items
  answered : ∀ (index : Nat) call orderID, state.calls[index]? = some call → call.phase = .returned (.ok orderID) →
    Stored state.db orderID call.userID call.items
  known : ∀ order ∈ state.db.orders, ∃ (index : Nat) (call : OrderCall), state.calls[index]? = some call ∧
    call.phase = .returned (.ok order.id)
  once : ∀ (first second : Nat) left right orderID, state.calls[first]? = some left →
    state.calls[second]? = some right → left.phase = .returned (.ok orderID) →
    right.phase = .returned (.ok orderID) → first = second

variable {config : Config} {state next : State} {action : Action} {ledger after : Ledger}

theorem stored_entry {db : Db} {entry : Entry} (refines : db.Refines ledger) (member : entry ∈ ledger.book)
    (user : entry.order.userID = userID) (lines : (entry.items.map OrderItem.request).Perm items) :
    Stored db entry.order.id userID items := by
  refine ⟨entry.order, refines.order_found member, user, ?_, ?_⟩
  · rw [refines.lines_found member, entry.priced]
  · rwa [refines.lines_found member]

/-- A stored order stays what it is. -/
theorem Stored.later {before next : Db} (stored : Stored before orderID userID items) (refines : before.Refines ledger)
    (kept : next.Refines after) (extended : Ledger.Extends ledger after) : Stored next orderID userID items := by
  obtain ⟨order, found, user, _, lines⟩ := stored
  have member := List.mem_of_find?_eq_some found
  rw [refines.orders] at member
  obtain ⟨entry, present, rfl⟩ := List.mem_map.mp member
  have same : entry.order.id = orderID := by simpa using List.find?_some found
  subst same
  obtain ⟨later, there, onward⟩ := extended entry present
  rw [refines.lines_found present, ← onward.items] at lines
  have owner : later.order.userID = userID := by
    rw [onward.order]
    exact user
  have moved := stored_entry kept there owner lines
  have id : later.order.id = entry.order.id := by rw [onward.order]
  rwa [id] at moved

/-- The calls stay as they are. -/
theorem Replied.keep (replied : Replied state) (calls : next.calls = state.calls)
    (stored : ∀ orderID userID items, Stored state.db orderID userID items → Stored next.db orderID userID items)
    (orders : ∀ order ∈ next.db.orders, ∃ old ∈ state.db.orders, old.id = order.id) : Replied next where
  drafted := calls ▸ replied.drafted
  answered index call orderID found phase := by
    rw [calls] at found
    exact stored _ _ _ (replied.answered index call orderID found phase)
  known order member := by
    obtain ⟨old, present, same⟩ := orders order member
    rw [calls, ← same]
    exact replied.known old present
  once := calls ▸ replied.once

/-- One call goes on, and may be told of a new order. -/
theorem Replied.set {call replaced : OrderCall} {index : Nat} (replied : Replied state)
    (calls : next.calls = state.calls.set index replaced) (found : state.calls[index]? = some call)
    (user : replaced.userID = call.userID) (items : replaced.items = call.items)
    (unanswered : ∀ orderID, call.phase ≠ .returned (.ok orderID))
    (stored : ∀ orderID userID items, Stored state.db orderID userID items → Stored next.db orderID userID items)
    (orders : ∀ order ∈ next.db.orders, (∃ old ∈ state.db.orders, old.id = order.id) ∨
      replaced.phase = .returned (.ok order.id))
    (drafted : ∀ new, replaced.phase = .persisting new →
      new.order.userID = call.userID ∧ (new.items.map OrderItem.request).Perm call.items)
    (answered : ∀ orderID, replaced.phase = .returned (.ok orderID) →
      Stored next.db orderID call.userID call.items ∧ state.db.order? orderID = none) : Replied next := by
  have here : next.calls[index]? = some replaced := by
    rw [calls]
    exact getElem_set_found found replaced
  have elsewhere {other : Nat} {held : OrderCall} (there : next.calls[other]? = some held) (different : other ≠ index) :
      state.calls[other]? = some held := by
    rwa [calls, List.getElem?_set_ne different.symm] at there
  -- nobody else was told of an order that was not there
  have apart {other : Nat} {held : OrderCall} {orderID : Int} (there : next.calls[other]? = some held)
      (same : held.phase = .returned (.ok orderID)) (phase : replaced.phase = .returned (.ok orderID)) : other = index := by
    by_contra different
    obtain ⟨order, present, _⟩ := replied.answered other held orderID (elsewhere there different) same
    cases (answered orderID phase).2.symm.trans present
  refine ⟨fun held member new phase => ?_, fun other held orderID there phase => ?_, fun order member => ?_,
    fun first second left right orderID one two leftPhase rightPhase => ?_⟩
  · obtain ⟨other, there⟩ := List.getElem?_of_mem member
    by_cases same : other = index
    · subst same
      cases here.symm.trans there
      rw [user, items]
      exact drafted new phase
    · exact replied.drafted held (List.mem_of_getElem? (elsewhere there same)) new phase
  · by_cases same : other = index
    · subst same
      cases here.symm.trans there
      rw [user, items]
      exact (answered orderID phase).1
    · exact stored _ _ _ (replied.answered other held orderID (elsewhere there same) phase)
  · rcases orders order member with ⟨old, present, same⟩ | new
    · obtain ⟨other, held, there, phase⟩ := replied.known old present
      have different : index ≠ other := by
        rintro rfl
        cases found.symm.trans there
        exact unanswered _ phase
      refine ⟨other, held, ?_, same ▸ phase⟩
      rw [calls, List.getElem?_set_ne different]
      exact there
    · exact ⟨index, replaced, here, new⟩
  · by_cases same : first = index
    · subst same
      cases here.symm.trans one
      exact (apart two rightPhase leftPhase).symm
    · by_cases equal : second = index
      · subst equal
        cases here.symm.trans two
        exact apart one leftPhase rightPhase
      · exact replied.once first second left right orderID (elsewhere one same) (elsewhere two equal) leftPhase rightPhase

/-- A call that goes on and leaves the tables alone. -/
theorem Replied.proceed {call replaced : OrderCall} {index : Nat} (replied : Replied state)
    (calls : next.calls = state.calls.set index replaced) (found : state.calls[index]? = some call)
    (user : replaced.userID = call.userID) (items : replaced.items = call.items)
    (unanswered : ∀ orderID, call.phase ≠ .returned (.ok orderID)) (same : next.db = state.db)
    (going : ∀ orderID, replaced.phase ≠ .returned (.ok orderID))
    (drafted : ∀ new, replaced.phase = .persisting new →
      new.order.userID = call.userID ∧ (new.items.map OrderItem.request).Perm call.items) : Replied next :=
  replied.set calls found user items unanswered (same ▸ fun _ _ _ stored => stored)
    (same ▸ fun order member => .inl ⟨order, member, rfl⟩) drafted
    fun orderID impossible => absurd impossible (going orderID)

theorem Replied.submitted (replied : Replied state) (userID : Int) (items : List OrderItemRequest) :
    Replied (submit state userID items) := by
  have old {index : Nat} {call : OrderCall} (found : (submit state userID items).calls[index]? = some call) :
      state.calls[index]? = some call ∨
        ((∀ new, call.phase ≠ .persisting new) ∧ ∀ orderID, call.phase ≠ .returned (.ok orderID)) := by
    simp only [submit, List.getElem?_append] at found
    split at found
    · exact .inl found
    · right
      cases List.mem_singleton.mp (List.mem_of_getElem? found)
      simp only
      split <;> simp
  have answer {index : Nat} {call : OrderCall} {orderID : Int}
      (found : (submit state userID items).calls[index]? = some call) (phase : call.phase = .returned (.ok orderID)) :
      state.calls[index]? = some call := (old found).resolve_right fun fresh => fresh.2 orderID phase
  refine ⟨fun call member new phase => ?_, fun index call orderID found phase => ?_, fun order member => ?_,
    fun first second left right orderID one two leftPhase rightPhase => ?_⟩
  · obtain ⟨index, found⟩ := List.getElem?_of_mem member
    have present := (old found).resolve_right fun fresh => fresh.1 new phase
    exact replied.drafted call (List.mem_of_getElem? present) new phase
  · exact replied.answered index call orderID (answer found phase) phase
  · obtain ⟨index, call, found, phase⟩ := replied.known order member
    refine ⟨index, call, ?_, phase⟩
    rw [submit, List.getElem?_append_left (List.getElem?_eq_some_iff.mp found).1]
    exact found
  · exact replied.once first second left right orderID (answer one leftPhase) (answer two rightPhase) leftPhase rightPhase

/-- Only a persisting call adds an order. -/
theorem Progress.orders (progress : Progress state action next ledger after) (refines : state.db.Refines ledger)
    (kept : next.db.Refines after)
    (unplaced : ∀ index orderID paymentID faults, action ≠ .persist index orderID paymentID faults) :
    ∀ order ∈ next.db.orders, ∃ old ∈ state.db.orders, old.id = order.id := by
  have member {entry : Entry} (present : entry ∈ ledger.book) : entry.order ∈ state.db.orders := by
    rw [refines.orders]
    exact List.mem_map_of_mem present
  intro order listed
  rw [kept.orders] at listed
  obtain ⟨entry, present, rfl⟩ := List.mem_map.mp listed
  cases progress with
  | idle | refused | restated => exact ⟨entry.order, member present, rfl⟩
  | placed _ acting => exact absurd acting (unplaced _ _ _ _)
  | @confirmed _ _ settled _ _ _ _ _ _ _ _ split | @cancelled _ _ _ _ settled _ _ _ _ _ _ _ _ _ split =>
    rcases mem_replaced present settled with rfl | other
    · exact ⟨settled.order, member (by simp [split]), rfl⟩
    · exact ⟨entry.order, member (split ▸ other), rfl⟩

theorem Replied.persisted {call : OrderCall} {index : Nat} (replied : Replied state) (inv : Inv state ledger)
    (found : state.calls[index]? = some call) (phase : call.phase = .persisting new) (orderID paymentID : Int)
    (faults : Faults DbError) : Replied (persist state index call new orderID paymentID faults) := by
  have member := List.mem_of_getElem? found
  have unanswered : ∀ orderID, call.phase ≠ .returned (.ok orderID) := by simp [phase]
  obtain ⟨user, lines⟩ := replied.drafted call member new phase
  have propagates := OrderRepository.createOrder_propagates ⟨orderID, paymentID, state.clock⟩ new
  rcases transact_cases faults 0 state.db propagates with ⟨_, err, failed⟩ | ⟨value, db, done, alone⟩
  · refine replied.proceed rfl found rfl rfl unanswered ?_ ?_ ?_
    · simp only [persist, failed]
    · simp only [failed]
      simp
    · simp only [failed]
      simp
  · obtain ⟨rfl, accepted, _, stored⟩ :=
      OrderRepository.createOrder_refines inv.refines (inv.drafts call member new phase) alone
    have extended (entry : Entry) (present : entry ∈ ledger.book) :
        ∃ later ∈ ledger.book ++ [OrderRepository.newEntry _ new (inv.drafts call member new phase) accepted],
          Ledger.Later entry later := ⟨entry, List.mem_append_left _ present, .refl entry⟩
    have kept : (persist state index call new value paymentID faults).db = db := by simp only [persist, done]
    refine replied.set rfl found rfl rfl unanswered ?_ ?_ ?_ ?_
    · rw [kept]
      exact fun _ _ _ before => before.later inv.refines stored extended
    · rw [kept, stored.orders, inv.refines.orders]
      simp only [done]
      intro order listed
      simp only [List.map_append, List.map_cons, List.map_nil] at listed
      rcases List.mem_append.mp listed with old | added
      · exact .inl ⟨order, old, rfl⟩
      · cases List.mem_singleton.mp added
        exact .inr rfl
    · simp only [done]
      simp
    · rw [kept]
      simp only [done]
      rintro _ ⟨⟩
      refine ⟨stored_entry stored (List.mem_append_right _ (List.mem_singleton.mpr rfl)) user ?_,
        order_absent.mpr accepted.freshOrder⟩
      have same : (OrderRepository.itemRows ⟨value, paymentID, state.clock⟩ new).map OrderItem.request =
          new.items.map OrderItem.request := by
        simp [OrderRepository.itemRows, OrderItem.request, Function.comp_def]
      rw [← same] at lines
      exact lines

theorem Replied.step (replied : Replied state) (inv : Inv state ledger)
    (moved : Backend.step config state action = some next) : Replied next := by
  obtain ⟨after, kept, progress⟩ := inv.step_followed moved
  have stored (orderID userID : Int) (items : List OrderItemRequest) (before : Stored state.db orderID userID items) :
      Stored next.db orderID userID items := before.later inv.refines kept.refines progress.extends
  have orders := progress.orders inv.refines kept.refines
  cases step_cases config moved with
  | submit => exact replied.submitted _ _
  | persist found phase => exact replied.persisted inv found phase _ _ _
  | @reserve index call reply found phase =>
    refine replied.proceed rfl found ?_ ?_ (by simp [phase]) rfl ?_ ?_
    all_goals
      unfold afterReserve
      split <;> simp
  | lookup found phase =>
    refine replied.proceed rfl found rfl rfl (by simp [phase]) rfl ?_ fun new built => ?_
    · simp only
      split
      · simp
      · split <;> simp
    · simp only at built
      split at built
      · cases built
      · split at built
        · cases built
        · rename_i assembled
          cases built
          exact ⟨buildOrder_user assembled, buildOrder_requests assembled⟩
  | release found phase => exact replied.proceed rfl found rfl rfl (by simp [phase]) rfl (by simp) (by simp)
  | loadProduct =>
    refine replied.keep ?_ stored (orders (by simp))
    unfold loadProduct
    split <;> rfl
  | _ => exact replied.keep rfl stored (orders (by simp))

theorem History.replied (history : History config actions state) : Replied state := by
  obtain ⟨replied, _⟩ := run_invariant (fun state => Replied state ∧ ∃ ledger, Inv state ledger)
    (fun state action next both moved => by
      obtain ⟨replied, ledger, inv⟩ := both
      obtain ⟨after, kept, _⟩ := inv.step_followed moved
      exact ⟨replied.step inv moved, after, kept⟩)
    ⟨⟨by simp [initial], by simp [initial], by simp [initial], by simp [initial]⟩, _, inv_initial⟩ history
  exact replied

/-- Answers and tables agree over every history, with any interleaving of calls, any faults and any retries: a client
that is told of an order finds it stored under its name, with the lines of its cart and their price, and each order of
the tables was told to exactly one call. So no call that was refused, for whatever reason, has left an order behind. -/
theorem answers_exact (history : History config actions state) :
    (∀ (index : Nat) call orderID, state.calls[index]? = some call → call.answer? = some (.created orderID) →
      ∃ order, state.db.order? orderID = some order ∧ order.userID = call.userID ∧
        order.totalPrice = totalOf (state.db.itemsOf orderID) ∧
        ((state.db.itemsOf orderID).map OrderItem.request).Perm call.items) ∧
    ∀ order ∈ state.db.orders, ∃! index : Nat, ∃ call, state.calls[index]? = some call ∧
      call.answer? = some (.created order.id) := by
  have replied := history.replied
  refine ⟨fun index call orderID found answer => ?_, fun order member => ?_⟩
  · exact replied.answered index call orderID found (OrderCall.answer_created.mp answer)
  · obtain ⟨index, call, found, phase⟩ := replied.known order member
    refine ⟨index, ⟨call, found, OrderCall.answer_created.mpr phase⟩, ?_⟩
    rintro other ⟨held, there, answer⟩
    exact replied.once other index held call order.id there found (OrderCall.answer_created.mp answer) phase

/-- Three calls: the second one is a repetition, and the third one, for which Redis is down, asks for more than there
is. -/
def crowded : List Action :=
  ordered ++ [.submit 1 [⟨7, 2⟩], .submit 1 [⟨7, 50⟩], .reserve 1 .answered, .reserve 2 (.failed false),
    .lookup 2 "other" none, .persist 2 2 2 {}, .release 2 .answered]

theorem answers_exact_crowded : ∃ state, History demo crowded state ∧
    state.calls.map (·.answer?) = [some (.created 1), some (.refused 409 (some "duplicate order")),
      some (.refused 409 (some "insufficient stock for product 7"))] ∧
    (∀ (index : Nat) call orderID, state.calls[index]? = some call → call.answer? = some (.created orderID) →
      ∃ order, state.db.order? orderID = some order ∧ order.userID = call.userID ∧
        order.totalPrice = totalOf (state.db.itemsOf orderID) ∧
        ((state.db.itemsOf orderID).map OrderItem.request).Perm call.items) ∧
    ∀ order ∈ state.db.orders, ∃! index : Nat, ∃ call, state.calls[index]? = some call ∧
      call.answer? = some (.created order.id) := by
  obtain ⟨state, history, answers⟩ : ∃ state, History demo crowded state ∧
    state.calls.map (·.answer?) = [some (.created 1), some (.refused 409 (some "duplicate order")),
      some (.refused 409 (some "insufficient stock for product 7"))] := ⟨_, rfl, rfl⟩
  exact ⟨state, history, answers, answers_exact history⟩

end Backend

end OrderProcessing
