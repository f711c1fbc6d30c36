import OrderProcessing.Backend.Conservation
import OrderProcessing.Repository.Outcome

/-! Whether an order can be cancelled at all. The restock loop adds without a guard,
so the sum has to fit the column; only a stock edit can make it too large. -/

namespace OrderProcessing.Backend

open Library

/-- On stock and in pending orders there are together no more units of a product than
the column holds. -/
def Releasable (db : Db) : Prop := ∀ productID, db.quantity productID + db.outstanding productID ≤ 2147483647

/-- The precaution that `UpdateProduct` does not take: a level is only stored if it
leaves room for the units in pending orders. -/
def roomy (state : State) : Action → Bool
  | .saveProduct index generated faults =>
    match state.edits[index]? with
    | some (.saving ⟨product, some inventory⟩) =>
      decide (inventory.quantity + state.db.outstanding product.id ≤ 2147483647) ||
        (transact faults () (ProductRepository.updateProduct generated ⟨product, some inventory⟩) state.db).1.2.isSome
    | _ => true
  | _ => true

variable {config : Config} {state next : State} {action : Action} {ledger after : Ledger}

theorem releasable_iff {db : Db} (refines : db.Refines ledger) :
    Releasable db ↔ ledger.Releasable 2147483647 := by
  simp only [Releasable, Ledger.Releasable, refines.stock, refines.outstanding]

theorem Progress.releasable (progress : Progress state action next ledger after)
    (quiet : ∀ productID, ¬ Restates state productID action) (room : ledger.Releasable limit) :
    after.Releasable limit := by
  rcases progress.move with rfl | ⟨_, _, writes, _⟩ | move
  · exact room
  · exact absurd writes (quiet _)
  · exact move.releasable room

/-- No order has a line of a product that is being created. -/
theorem createProduct_outstanding {db : Db} (refines : db.Refines ledger)
    (success : (ProductRepository.createProduct product row).atomic postgres db = ((value, none), final)) :
    db.outstanding product.id = 0 := by
  have fresh := ProductRepository.createProduct_fresh success
  have lines (orderID : Int) : quantityOf product.id (db.itemsOf orderID) = 0 := by
    refine quantityOf_absent fun item member same => ?_
    have carried := refines.carried item (List.mem_filter.mp member).1
    rw [same, fresh] at carried
    cases carried
  simp [Db.outstanding, lines]

theorem createProduct_releasable (inv : Inv state ledger) (room : Releasable state.db)
    (product : Product) (inventory : Inventory) (faults : Faults DbError) :
    Releasable (transact faults () (ProductRepository.createProduct product inventory) state.db).2 := by
  have propagates := ProductRepository.createProduct_propagates product inventory
  rcases transact_cases faults () state.db propagates with ⟨_, _, failed⟩ | ⟨_, final, done, alone⟩
  · rw [failed]
    exact room
  · have stored := ProductRepository.createProduct_refines inv.refines alone
    have fits := stored.level_fits product.id
    rw [done, releasable_iff stored]
    refine ((releasable_iff inv.refines).mp room).restate ?_
    rw [← inv.refines.outstanding, createProduct_outstanding inv.refines alone, add_zero]
    simpa [Ledger.restate] using fits

theorem saveProduct_releasable (inv : Inv state ledger) (room : Releasable state.db)
    (found : state.edits[index]? = some (.saving loaded)) (fine : roomy state (.saveProduct index generated faults)) :
    Releasable (saveProduct state index loaded generated faults).db := by
  have propagates := ProductRepository.updateProduct_propagates generated loaded
  have editing := inv.edits loaded (List.mem_of_getElem? found)
  simp only [saveProduct]
  rcases transact_cases faults () state.db propagates with ⟨_, _, failed⟩ | ⟨_, final, done, alone⟩
  · rw [failed]
    exact room
  · rw [done]
    obtain ⟨_, ⟨_, kept⟩ | ⟨inventory, given, stored⟩⟩ :=
      ProductRepository.updateProduct_refines inv.refines editing alone
    · exact (releasable_iff kept).mpr ((releasable_iff inv.refines).mp room)
    · obtain ⟨product, _⟩ := loaded
      subst given
      simp only [roomy, found, done, Option.isSome_none, Bool.or_false, decide_eq_true_eq] at fine
      rw [inv.refines.outstanding] at fine
      exact (releasable_iff stored).mpr (((releasable_iff inv.refines).mp room).restate fine)

theorem Releasable.step (room : Releasable state.db) (inv : Inv state ledger) (fine : roomy state action)
    (moved : step config state action = some next) : Releasable next.db := by
  obtain ⟨after, kept, progress⟩ := inv.step_followed moved
  have before := (releasable_iff inv.refines).mp room
  cases step_cases config moved with
  | createProduct => exact createProduct_releasable inv room _ _ _
  | saveProduct found => exact saveProduct_releasable inv room found fine
  | _ => exact (releasable_iff kept.refines).mpr (progress.releasable (by simp [Restates]) before)

/-- Whether the order of a pending payment can be cancelled depends on each of its lines
alone. -/
theorem Inv.cancel_ok_iff (inv : Inv state ledger) (stored : payment ∈ state.db.payments)
    (pending : payment.status = .pending) (scan : Scan) :
    (∃ final, transact {} false (OrderRepository.failCancelAndRestock payment scan) state.db =
        ((true, none), final)) ↔
      ∀ item ∈ state.db.itemsOf payment.orderID, state.db.quantity item.productID + item.quantity ≤ 2147483647 := by
  rw [inv.refines.payments] at stored
  obtain ⟨entry, member, rfl⟩ := List.mem_map.mp stored
  have lines : state.db.itemsOf entry.payment.orderID = entry.items := by
    rw [entry.billed]
    exact inv.refines.lines_found member
  rw [← OrderRepository.failCancelAndRestock_ok_iff ⟨_, inv.refines.payment_found member, pending⟩ ?_ ?_ ?_ scan]
  · rw [transact, transaction_alone]
    exact exists_congr fun _ => Program.alone_ok_iff
  · rw [lines]
    exact entry.distinct
  · intro item line
    exact inv.refines.carried item (List.mem_filter.mp line).1
  · intro item line
    have units := entry.positive item (lines ▸ line)
    have level := inv.quantity_nonneg item.productID
    omega

/-- If every stock edit leaves room for what is in pending orders, no addition of a
restock loop leaves the range, and every pending order can be cancelled. -/
theorem release_in_range (history : History config actions state)
    (caution : Along (step config) (fun state action => roomy state action) initial actions) :
    ∀ payment ∈ state.db.payments, payment.status = .pending →
      (∀ item ∈ state.db.itemsOf payment.orderID,
        state.db.quantity item.productID + item.quantity ≤ 2147483647) ∧
      ∀ scan, ∃ final, transact {} false (OrderRepository.failCancelAndRestock payment scan) state.db =
          ((true, none), final) ∧
        ∃ order, final.order? payment.orderID = some order ∧ order.status = .cancelled := by
  obtain ⟨⟨ledger, inv⟩, room⟩ : (∃ ledger, Inv state ledger) ∧ Releasable state.db := by
    refine run_invariant_along (fun state => (∃ ledger, Inv state ledger) ∧ Releasable state.db) ?_
      ⟨⟨_, inv_initial⟩, by simp [Releasable, initial, Db.quantity, Db.stock?, Db.outstanding]⟩ caution history
    rintro state action next ⟨⟨ledger, inv⟩, room⟩ fine moved
    obtain ⟨after, kept, _⟩ := inv.step_followed moved
    exact ⟨⟨after, kept⟩, room.step inv fine moved⟩
  intro payment stored pending
  obtain ⟨entry, member, same⟩ := List.mem_map.mp (inv.refines.payments ▸ stored)
  have waiting : entry.Pending := entry.pending_iff.mpr (same ▸ pending)
  have lines : state.db.itemsOf payment.orderID = entry.items := by
    rw [← same, entry.billed]
    exact inv.refines.lines_found member
  have fits : ∀ item ∈ state.db.itemsOf payment.orderID,
      state.db.quantity item.productID + item.quantity ≤ 2147483647 := by
    intro item line
    rw [lines] at line
    rw [inv.refines.stock, ← quantityOf_line entry.distinct line]
    exact ((releasable_iff inv.refines).mp room).cancellable member waiting item.productID
  refine ⟨fits, fun scan => ?_⟩
  obtain ⟨final, done⟩ := (inv.cancel_ok_iff stored pending scan).mpr fits
  refine ⟨final, done, ?_⟩
  rw [transact, transaction_alone, Program.alone_ok_iff] at done
  rcases OrderRepository.failCancelAndRestock_refines inv.refines member (same ▸ entry.snapshot) done with
    ⟨_, _, before, after, _, stored⟩ | ⟨impossible, _⟩
  · have found : final.order? entry.cancel.order.id = some entry.cancel.order := stored.order_found (by simp)
    refine ⟨entry.cancel.order, ?_, rfl⟩
    rw [← same, entry.billed]
    exact found
  · cases impossible

theorem release_in_range_ordered : ∃ state, History demo ordered state ∧ state.db.quantity 7 = 8 ∧
    ∀ payment ∈ state.db.payments, payment.status = .pending →
      (∀ item ∈ state.db.itemsOf payment.orderID,
        state.db.quantity item.productID + item.quantity ≤ 2147483647) ∧
      ∀ scan, ∃ final, transact {} false (OrderRepository.failCancelAndRestock payment scan) state.db =
          ((true, none), final) ∧
        ∃ order, final.order? payment.orderID = some order ∧ order.status = .cancelled := by
  obtain ⟨state, history, level⟩ : ∃ state, History demo ordered state ∧ state.db.quantity 7 = 8 := ⟨_, rfl, rfl⟩
  exact ⟨state, history, level, release_in_range history (by decide)⟩

/-- The largest level the column holds, set while two units are in a pending order. -/
def filled : List Action :=
  [.loadProduct 7 ⟨"mug", none, none, 500, 2147483647⟩ none, .saveProduct 0 0 {}]

/-- The order can then not be cancelled: the transaction is rolled back for being out of
range, whatever order the lines are read in. -/
theorem release_out_of_range : ∃ state payment, History demo (ordered ++ filled) state ∧
    payment ∈ state.db.payments ∧ payment.status = .pending ∧
    (∃ item ∈ state.db.itemsOf payment.orderID,
      2147483647 < state.db.quantity item.productID + item.quantity) ∧
    transact {} false (OrderRepository.failCancelAndRestock payment .stored) state.db =
      ((true, some (.database .outOfRange)), state.db) ∧
    ∀ scan final, transact {} false (OrderRepository.failCancelAndRestock payment scan) state.db ≠
      ((true, none), final) := by
  obtain ⟨state, payment, item, history, stored, pending, line, large, failed⟩ :
    ∃ state payment item, History demo (ordered ++ filled) state ∧ payment ∈ state.db.payments ∧
      payment.status = .pending ∧ item ∈ state.db.itemsOf payment.orderID ∧
      2147483647 < state.db.quantity item.productID + item.quantity ∧
      transact {} false (OrderRepository.failCancelAndRestock payment .stored) state.db =
        ((true, some (.database .outOfRange)), state.db) :=
    ⟨_, _, _, rfl, List.mem_singleton.mpr rfl, rfl, List.mem_singleton.mpr rfl, by decide, rfl⟩
  obtain ⟨ledger, inv⟩ := history.inv
  refine ⟨state, payment, history, stored, pending, ⟨item, line, large⟩, failed, fun scan final done => ?_⟩
  exact absurd ((inv.cancel_ok_iff stored pending scan).mp ⟨final, done⟩ item line) (not_le.mpr large)

end OrderProcessing.Backend
