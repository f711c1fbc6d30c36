import OrderProcessing.Repository.Footprint
import OrderProcessing.Repository.Refinement

/-! Transactions of the order repository that run concurrently, one statement at
a time. Every complete interleaving has the tables and the results of running
them one after the other. -/

namespace OrderProcessing

open Library

/-- A call of one of the three writing methods, with what the environment
decides during the call. -/
inductive OrderTransaction where
  | createOrder (generated : Generated) (new : NewOrder)
  | markPaidAndConfirm (payment : Payment) (txnID : String)
  | failCancelAndRestock (payment : Payment) (scan : Scan)

/-- The id of the new order, or the flag of a finalizing call. -/
inductive Returned where
  | orderID (id : Int)
  | transitioned (flag : Bool)
  deriving DecidableEq, Repr

namespace OrderTransaction

/-- The statements of the call. -/
def body : OrderTransaction → Tx Returned
  | .createOrder generated new => (OrderRepository.createOrder generated new).map .orderID
  | .markPaidAndConfirm payment txnID => (OrderRepository.markPaidAndConfirm payment txnID).map .transitioned
  | .failCancelAndRestock payment scan => (OrderRepository.failCancelAndRestock payment scan).map .transitioned

/-- The call as one atomic step, the way the backend takes it. -/
def perform : OrderTransaction → Db → (Returned × Option AppError) × Db
  | .createOrder generated new, db =>
    let outcome := transact {} 0 (OrderRepository.createOrder generated new) db
    ((.orderID outcome.1.1, outcome.1.2), outcome.2)
  | .markPaidAndConfirm payment txnID, db =>
    let outcome := transact {} false (OrderRepository.markPaidAndConfirm payment txnID) db
    ((.transitioned outcome.1.1, outcome.1.2), outcome.2)
  | .failCancelAndRestock payment scan, db =>
    let outcome := transact {} false (OrderRepository.failCancelAndRestock payment scan) db
    ((.transitioned outcome.1.1, outcome.1.2), outcome.2)

/-- The payment a finalizing call was given. -/
def finalizes : OrderTransaction → Option Payment
  | .createOrder _ _ => none
  | .markPaidAndConfirm payment _ | .failCancelAndRestock payment _ => some payment

theorem perform_eq (call : OrderTransaction) : call.perform = call.body.alone postgres := by
  funext db
  cases call with
  | _ => simp only [perform, body, transact, transaction_alone, Program.map_alone]

theorem body_issues (call : OrderTransaction) : call.body.Issues OrderRepository.Issued := by
  cases call with
  | createOrder => exact (OrderRepository.createOrder_issues _ _).map
  | markPaidAndConfirm => exact (OrderRepository.markPaidAndConfirm_issues _ _).map
  | failCancelAndRestock => exact (OrderRepository.failCancelAndRestock_issues _ _).map

end OrderTransaction

namespace OrderRepository

variable {db : Db} {ledger : Ledger} {payment : Payment}

theorem reserve_writes (done : postgres.eval (.reserve productID quantity) db = .ok (rows, writes))
    (matched : rows = 1) : ∃ level, writes = [.quantity productID level] := by
  simp only [postgres, evaluate] at done
  split at done
  · split at done
    · obtain ⟨same, _⟩ := storeQuantity_ok.mp done
      cases same
      exact ⟨_, rfl⟩
    · cases done; cases matched
  · cases done; cases matched

theorem reserveItems_guarded (items : List OrderItem) {rest : Tx Int}
    (tail : ∀ writes, rest.Guarded footprint db writes) (writes : List Write) :
    (reserveItems items rest).Guarded footprint db writes := by
  induction items generalizing writes with
  | nil => exact tail writes
  | cons item items ih =>
    simp only [reserveItems, Program.Guarded]
    split
    · exact ⟨_, _, rfl, .inl rfl⟩
    · rename_i rows new reply
      by_cases short : rows ≠ 1
      · rw [if_pos short]
        exact .inl ⟨_, _, rfl, .inl rfl⟩
      · rw [if_neg short]
        obtain ⟨level, rfl⟩ := reserve_writes reply (by omega)
        exact .inr ⟨by simp [footprint, Statement.reads, Write.keys], ih _⟩

theorem insertAll_guarded (generated : Generated) (new : NewOrder) (writes : List Write) :
    (insertAll generated new).Guarded footprint db writes := by
  simp only [insertAll, Program.Guarded]
  split
  · rename_i err _
    cases err <;> exact ⟨_, _, rfl, .inl rfl⟩
  · rename_i orderID _ reply
    obtain ⟨same, _⟩ := guarded_ok.mp reply
    cases same
    refine .inr ⟨by simp [footprint, Statement.reads, Write.keys, Key.static], ?_⟩
    split
    · exact ⟨_, _, rfl, .inl rfl⟩
    · rename_i reply
      obtain ⟨same, _⟩ := guarded_ok.mp reply
      cases same
      refine .inr ⟨by simp [footprint, Statement.reads, Write.keys, Key.static], ?_⟩
      split
      · exact ⟨_, _, rfl, .inl rfl⟩
      · rename_i reply
        obtain ⟨same, _⟩ := guarded_ok.mp reply
        cases same
        exact .inr ⟨by simp [footprint, Statement.reads, Write.keys], trivial⟩

theorem createOrder_guarded (generated : Generated) (new : NewOrder) (writes : List Write) :
    (createOrder generated new).Guarded footprint db writes :=
  reserveItems_guarded new.items (insertAll_guarded generated new) writes

/-- The entry a finalizing call settles, if the payment it was given belongs to
the order it was given. -/
theorem finalized_entry (refines : db.Refines ledger)
    (owned : ∀ row ∈ db.payments, row.id = payment.id → row.orderID = payment.orderID)
    (waiting : Awaiting db payment.id) :
    ∃ entry ∈ ledger.book, entry.payment.id = payment.id ∧ entry.payment.orderID = payment.orderID ∧ entry.Pending := by
  obtain ⟨entry, member, same, pending⟩ := refines.awaiting_entry waiting
  exact ⟨entry, member, same, owned entry.payment (by simpa [refines.payments] using ⟨entry, member, rfl⟩) same, pending⟩

/-- The second guarded update of a finalizing call finds the order pending. -/
theorem advanceOrder_eval (refines : db.Refines ledger)
    (owned : ∀ row ∈ db.payments, row.id = payment.id → row.orderID = payment.orderID)
    (waiting : Awaiting db payment.id) (outcome : PaymentStatus) (txn : Option String) (status : OrderStatus) :
    postgres.eval (.advanceOrder payment.orderID status)
        (db.apply (.paymentStatus payment.id outcome txn)) = .ok (1, [.orderStatus payment.orderID status]) := by
  obtain ⟨entry, member, _, order, pending⟩ := finalized_entry refines owned waiting
  rw [entry.billed] at order
  have found : (db.apply (.paymentStatus payment.id outcome txn)).order? payment.orderID = some entry.order :=
    order ▸ refines.order_found member
  have status : entry.order.status = .pending := pending
  simp [postgres, evaluate, found, status]

theorem markPaidAndConfirm_guarded (refines : db.Refines ledger)
    (owned : ∀ row ∈ db.payments, row.id = payment.id → row.orderID = payment.orderID) (txnID : String) :
    (markPaidAndConfirm payment txnID).Guarded footprint db [] := by
  simp only [markPaidAndConfirm, Program.Guarded, Engine.applyAll_nil]
  rcases markPaid_eval db payment.id txnID with ⟨waiting, reply⟩ | ⟨_, reply⟩
  · have moved := advanceOrder_eval refines owned waiting .paid (some txnID) .confirmed
    simp only [reply, ne_eq, not_true_eq_false, ↓reduceIte, Program.Guarded, List.nil_append, Engine.applyAll_cons,
      Engine.applyAll_nil, postgres_apply, moved]
    exact .inr ⟨by simp [footprint, Statement.reads, Write.keys],
      .inr ⟨by simp [footprint, Statement.reads, Write.keys], trivial⟩⟩
  · simp only [reply, ne_eq, Nat.zero_ne_one, not_false_eq_true, ↓reduceIte]
    exact .inl ⟨_, _, rfl, .inr rfl⟩

theorem restockItems_guarded (items : List OrderItem) (writes : List Write)
    (present : ∀ item ∈ items, ((postgres.applyAll db writes).stock? item.productID).isSome) :
    (restockItems items).Guarded footprint db writes := by
  induction items generalizing writes with
  | nil => trivial
  | cons item items ih =>
    obtain ⟨row, found⟩ := Option.isSome_iff_exists.mp (present item (by simp))
    simp only [restockItems, Program.Guarded]
    split
    · exact ⟨_, _, rfl, .inl rfl⟩
    · rename_i new reply
      simp only [postgres, evaluate] at reply
      rw [show (Engine.applyAll ⟨evaluate, Db.apply⟩ db writes).stock? item.productID = some row from found] at reply
      obtain ⟨same, _⟩ := storeQuantity_ok.mp reply
      cases same
      refine .inr ⟨by simp [footprint, Statement.reads, Write.keys], ih _ fun line member => ?_⟩
      rw [Engine.applyAll_append]
      simpa [stock_setQuantity] using present line (by simp [member])

theorem failCancelAndRestock_guarded (refines : db.Refines ledger)
    (owned : ∀ row ∈ db.payments, row.id = payment.id → row.orderID = payment.orderID) (scan : Scan) :
    (failCancelAndRestock payment scan).Guarded footprint db [] := by
  simp only [failCancelAndRestock, Program.Guarded, Engine.applyAll_nil]
  rcases markFailed_eval db payment.id with ⟨row, found, pending, reply⟩ | ⟨_, reply⟩
  · have moved := advanceOrder_eval refines owned ⟨row, found, pending⟩ .failed row.providerTxnID .cancelled
    simp only [reply, ne_eq, not_true_eq_false, ↓reduceIte, Program.Guarded, List.nil_append, Engine.applyAll_cons,
      Engine.applyAll_nil, postgres_apply, moved]
    refine .inr ⟨by simp [footprint, Statement.reads, Write.keys],
      .inr ⟨by simp [footprint, Statement.reads, Write.keys], ?_⟩⟩
    -- the lines of the order are read under the lock on the order
    refine Or.inr ⟨by simp [footprint, Statement.reads, Write.keys], restockItems_guarded _ _ fun item member => ?_⟩
    have line : item ∈ db.itemsOf payment.orderID := (scan.perm _).mem_iff.mp member
    exact refines.carried item (List.mem_filter.mp line).1
  · simp only [reply, ne_eq, Nat.zero_ne_one, not_false_eq_true, ↓reduceIte]
    exact .inl ⟨_, _, rfl, .inr rfl⟩

end OrderRepository

namespace OrderTransaction

/-- The calls are made as the services make them: new orders are drafts, and a
finalizing call was given a payment together with the order it belongs to. -/
structure Admissible (db : Db) (batch : List OrderTransaction) : Prop where
  drafted : ∀ generated new, .createOrder generated new ∈ batch → new.Drafted
  stored : ∀ call ∈ batch, ∀ payment, call.finalizes = some payment →
    ∀ row ∈ db.payments, row.id = payment.id → row.orderID = payment.orderID
  created : ∀ call ∈ batch, ∀ payment, call.finalizes = some payment →
    ∀ generated new, .createOrder generated new ∈ batch →
      generated.paymentID = payment.id → generated.orderID = payment.orderID

/-- What every serial prefix of the batch keeps. -/
def Valid (batch : List OrderTransaction) (db : Db) : Prop :=
  (∃ ledger, db.Refines ledger) ∧ Admissible db batch

theorem Valid.guarded (valid : Valid batch db) (member : call ∈ batch) :
    call.body.Guarded OrderRepository.footprint db [] := by
  obtain ⟨⟨ledger, refines⟩, admissible⟩ := valid
  cases call with
  | createOrder generated new => exact (OrderRepository.createOrder_guarded generated new []).map
  | markPaidAndConfirm payment txnID =>
    exact (OrderRepository.markPaidAndConfirm_guarded refines (admissible.stored _ member payment rfl) txnID).map
  | failCancelAndRestock payment scan =>
    exact (OrderRepository.failCancelAndRestock_guarded refines (admissible.stored _ member payment rfl) scan).map

/-- Settling an entry leaves every payment with its order. -/
theorem Admissible.settle {entry : Entry} (admissible : Admissible db batch) (refines : db.Refines ledger)
    (split : ledger.book = before ++ entry :: after) (staged : Staged status outcome txn)
    (settled : final.Refines ⟨level, before ++ entry.settle staged :: after⟩) : Admissible final batch := by
  have kept : final.payments.map (fun row => (row.id, row.orderID)) =
      db.payments.map fun row => (row.id, row.orderID) := by
    rw [settled.payments, refines.payments, split]
    simp [Entry.settle]
  refine { admissible with stored := fun call member payment given row present same => ?_ }
  have pair : (row.id, row.orderID) ∈ db.payments.map fun row => (row.id, row.orderID) :=
    kept ▸ List.mem_map_of_mem present
  obtain ⟨old, located, equal⟩ := List.mem_map.mp pair
  obtain ⟨sameID, sameOrder⟩ := Prod.mk.inj equal
  rw [← sameOrder]
  exact admissible.stored call member payment given old located (sameID.trans same)

theorem Valid.createOrder (valid : Valid batch db) (member : .createOrder generated new ∈ batch)
    (success : (OrderRepository.createOrder generated new).atomic postgres db = ((value, none), final)) :
    Valid batch final := by
  obtain ⟨⟨ledger, refines⟩, admissible⟩ := valid
  obtain ⟨_, _, _, refined⟩ := OrderRepository.createOrder_refines refines (admissible.drafted _ _ member) success
  obtain ⟨_, _, _, _, stored⟩ := OrderRepository.createOrder_effect success
  refine ⟨⟨_, refined⟩, { admissible with stored := fun call known payment given row present same => ?_ }⟩
  rw [stored] at present
  rcases List.mem_append.mp present with old | added
  · exact admissible.stored call known payment given row old same
  · rw [List.mem_singleton.mp added] at same ⊢
    exact admissible.created call known payment given generated new member same

theorem Valid.markPaidAndConfirm (valid : Valid batch db) (member : .markPaidAndConfirm payment txnID ∈ batch)
    (success : (OrderRepository.markPaidAndConfirm payment txnID).atomic postgres db = ((value, none), final)) :
    Valid batch final := by
  obtain ⟨⟨ledger, refines⟩, admissible⟩ := valid
  by_cases waiting : OrderRepository.Awaiting db payment.id
  · obtain ⟨entry, present, sameID, sameOrder, _⟩ :=
      OrderRepository.finalized_entry refines (admissible.stored _ member payment rfl) waiting
    have own : OrderRepository.markPaidAndConfirm payment txnID =
        OrderRepository.markPaidAndConfirm entry.payment txnID := by
      simp only [OrderRepository.markPaidAndConfirm, sameID, sameOrder]
    rw [own] at success
    rcases OrderRepository.markPaidAndConfirm_refines refines present entry.snapshot success with
      ⟨_, _, _, _, split, refined⟩ | ⟨_, _, rfl⟩
    · exact ⟨⟨_, refined⟩, admissible.settle refines split _ refined⟩
    · exact ⟨⟨ledger, refines⟩, admissible⟩
  · rcases OrderRepository.markPaidAndConfirm_effect db payment txnID with ⟨pending, _⟩ | ⟨_, effect⟩
    · exact absurd pending waiting
    · cases effect.symm.trans success
      exact ⟨⟨ledger, refines⟩, admissible⟩

theorem Valid.failCancelAndRestock (valid : Valid batch db) (member : .failCancelAndRestock payment scan ∈ batch)
    (success : (OrderRepository.failCancelAndRestock payment scan).atomic postgres db = ((value, none), final)) :
    Valid batch final := by
  obtain ⟨⟨ledger, refines⟩, admissible⟩ := valid
  by_cases waiting : OrderRepository.Awaiting db payment.id
  · obtain ⟨entry, present, sameID, sameOrder, _⟩ :=
      OrderRepository.finalized_entry refines (admissible.stored _ member payment rfl) waiting
    have own : OrderRepository.failCancelAndRestock payment scan =
        OrderRepository.failCancelAndRestock entry.payment scan := by
      simp only [OrderRepository.failCancelAndRestock, sameID, sameOrder]
    rw [own] at success
    rcases OrderRepository.failCancelAndRestock_refines refines present entry.snapshot success with
      ⟨_, _, _, _, split, refined⟩ | ⟨_, _, rfl⟩
    · exact ⟨⟨_, refined⟩, admissible.settle refines split _ refined⟩
    · exact ⟨⟨ledger, refines⟩, admissible⟩
  · have carried : ∀ item ∈ db.itemsOf payment.orderID, (db.stock? item.productID).isSome :=
      fun item line => refines.carried item (List.mem_filter.mp line).1
    rcases OrderRepository.failCancelAndRestock_effect carried success with ⟨_, row, found, pending, _⟩ | ⟨_, _, rfl⟩
    · exact absurd ⟨row, found, pending⟩ waiting
    · exact ⟨⟨ledger, refines⟩, admissible⟩

theorem Valid.alone (valid : Valid batch db) (member : call ∈ batch) :
    Valid batch (call.body.alone postgres db).2 := by
  cases call with
  | createOrder generated new =>
    simp only [body, Program.map_alone]
    rcases Program.alone_cases postgres (OrderRepository.createOrder generated new) db with same | ⟨_, success⟩
    · rw [same]; exact valid
    · exact valid.createOrder member success
  | markPaidAndConfirm payment txnID =>
    simp only [body, Program.map_alone]
    rcases Program.alone_cases postgres (OrderRepository.markPaidAndConfirm payment txnID) db with
      same | ⟨_, success⟩
    · rw [same]; exact valid
    · exact valid.markPaidAndConfirm member success
  | failCancelAndRestock payment scan =>
    simp only [body, Program.map_alone]
    rcases Program.alone_cases postgres (OrderRepository.failCancelAndRestock payment scan) db with
      same | ⟨_, success⟩
    · rw [same]; exact valid
    · exact valid.failCancelAndRestock member success

/-- The database during an interleaving of the calls. -/
abbrev Sessions := System Db Statement DbError AppError Returned Write Key

def interleave (batch : List OrderTransaction) (db : Db) (moves : List Move) : Option Sessions :=
  run (System.step postgres rowLocks) (System.start (batch.map (·.body)) db) moves

/-- Whatever the interleaving of the statements, the committed tables and all
results are those of the calls made one at a time, in some order. -/
theorem interleaving_serializable (refines : db.Refines ledger) (admissible : Admissible db batch)
    (reached : interleave batch db moves = some final)
    (complete : ∀ session ∈ final.sessions, session.result.isSome) :
    ∃ order, order.Perm (List.range batch.length) ∧
      (serial (batch.map perform) order db).1 = final.committed ∧
      ∀ index session, final.sessions[index]? = some session → ∃ result, session.result = some result ∧
        (index, result) ∈ (serial (batch.map perform) order db).2 := by
  have same : batch.map perform = (batch.map (·.body)).map (·.alone postgres) := by
    rw [List.map_map]
    exact List.map_congr_left fun call _ => call.perform_eq
  rw [same]
  have outcome := serializable OrderRepository.footprint (Valid batch) ⟨⟨ledger, refines⟩, admissible⟩
    (fun body member => ?_) (fun body member db valid => ?_) (fun body member db valid => ?_) reached complete
  · simpa using outcome
  all_goals obtain ⟨call, known, rfl⟩ := List.mem_map.mp member
  · exact call.body_issues
  · exact valid.alone known
  · exact valid.guarded known

/-- One unit of a product that two customers want. -/
def shelf : Db where
  users := [⟨1, "a", "a@example.com", "", .customer⟩]
  products := [⟨1, "last one", none, none, 500⟩, ⟨2, "plenty", none, none, 100⟩]
  inventory := [⟨1, 1, 1⟩, ⟨2, 2, 9⟩]

theorem shelf_refines : shelf.Refines ⟨shelf.quantity, []⟩ where
  orders := rfl
  items := rfl
  payments := rfl
  stock _ := rfl
  orderIDs := .nil
  paymentIDs := .nil
  keys := .nil
  productIDs := by decide
  rowIDs := by decide
  stocked := by simp [shelf, Stocked]
  carried := by simp [shelf]

def draft (uuid : String) (items : List OrderItem) : NewOrder where
  order := ⟨0, 1, .pending, totalOf items⟩
  items := items
  payment := ⟨0, 0, uuid, .pending, totalOf items, none, 0⟩

/-- Two orders for the last unit, and both outcomes of the first one's payment. -/
def rivals : List OrderTransaction :=
  [.createOrder ⟨10, 20, 0⟩ (draft "first" [⟨0, 1, 1, 500⟩]),
   .createOrder ⟨11, 21, 0⟩ (draft "second" [⟨0, 2, 3, 100⟩, ⟨0, 1, 1, 500⟩]),
   .markPaidAndConfirm ⟨20, 10, "first", .pending, 500, none, 0⟩ "txn",
   .failCancelAndRestock ⟨20, 10, "first", .pending, 500, none, 0⟩ .stored]

/-- The second order has taken another product and waits for the last unit while
the first one is completed and paid. -/
def contention : List Move :=
  [.statement 0 false, .statement 1 false, .statement 0 false, .statement 0 false, .statement 0 false, .finish 0,
   .statement 2 false, .statement 1 true, .statement 2 false, .finish 1, .finish 2, .statement 3 false, .finish 3]

theorem rivals_admissible : Admissible shelf rivals where
  drafted generated new member := by
    simp only [rivals, List.mem_cons, createOrder.injEq, reduceCtorEq, List.not_mem_nil, or_false] at member
    rcases member with ⟨_, rfl⟩ | ⟨_, rfl⟩ <;> exact ⟨rfl, rfl, rfl, rfl, rfl⟩
  stored _ _ _ _ row present := by simp [shelf] at present
  created call member payment given generated new other := by
    simp only [rivals, List.mem_cons, List.not_mem_nil, or_false] at member
    simp only [rivals, List.mem_cons, createOrder.injEq, reduceCtorEq, List.not_mem_nil, or_false] at other
    rcases member with rfl | rfl | rfl | rfl <;> cases given <;>
      rcases other with ⟨rfl, _⟩ | ⟨rfl, _⟩ <;> decide

theorem interleaving_serializable_contention :
    ∃ final, interleave rivals shelf contention = some final ∧
      final.sessions.map (·.result) =
        [some (.orderID 10, none), some (.orderID 0, some (.insufficientStock 1)),
         some (.transitioned true, none), some (.transitioned false, none)] ∧
      ∃ order, order.Perm (List.range 4) ∧ (serial (rivals.map perform) order shelf).1 = final.committed ∧
        ∀ index session, final.sessions[index]? = some session → ∃ result, session.result = some result ∧
          (index, result) ∈ (serial (rivals.map perform) order shelf).2 := by
  obtain ⟨final, reached, results⟩ : ∃ final, interleave rivals shelf contention = some final ∧
      final.sessions.map (·.result) =
        [some (.orderID 10, none), some (.orderID 0, some (.insufficientStock 1)),
         some (.transitioned true, none), some (.transitioned false, none)] := ⟨_, rfl, rfl⟩
  have complete : ∀ session ∈ final.sessions, session.result.isSome := by
    intro session member
    have listed := List.mem_map_of_mem (f := (·.result)) member
    rw [results] at listed
    generalize session.result = result at listed ⊢
    revert result
    decide
  exact ⟨final, reached, results, interleaving_serializable shelf_refines rivals_admissible reached complete⟩

end OrderTransaction

end OrderProcessing
