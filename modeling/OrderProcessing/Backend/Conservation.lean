import OrderProcessing.Backend.Coherence

/-! Stock and live reservations of a product together are constant between two
writes of its stock level, and no stock level becomes negative. -/

namespace OrderProcessing.Backend

open Library

variable {config : Config} {state next final : State} {action : Action} {ledger after : Ledger}

theorem Inv.total (inv : Inv state ledger) (productID : Int) :
    state.db.quantity productID + state.db.reserved productID = ledger.total productID := by
  rw [inv.refines.stock, inv.refines.reserved, Ledger.total]

theorem Inv.quantity_nonneg (inv : Inv state ledger) (productID : Int) : 0 ≤ state.db.quantity productID := by
  unfold Db.quantity
  cases found : state.db.stock? productID with
  | none => simp
  | some row => simpa using (inv.refines.stocked row (List.mem_of_find?_eq_some found)).1

theorem Progress.total (progress : Progress state action next ledger after)
    (undisturbed : ¬ Restates state productID action) : after.total productID = ledger.total productID := by
  rcases progress.move with rfl | ⟨other, quantity, writes, rfl⟩ | move
  · rfl
  · refine Ledger.restate_total ledger fun same => undisturbed ?_
    rw [same]
    exact writes
  · exact move.total productID

/-- The total of a product over a stretch that does not write its level. -/
theorem Inv.run_total (inv : Inv state ledger) (stretch : run (step config) state actions = some final)
    (undisturbed : Along (step config) (fun state action => ¬ Restates state productID action) state actions) :
    ∃ after, Inv final after ∧ after.total productID = ledger.total productID := by
  refine run_invariant_along
    (fun state => ∃ after, Inv state after ∧ after.total productID = ledger.total productID)
    ?_ ⟨ledger, inv, rfl⟩ undisturbed stretch
  rintro state action next ⟨middle, invariant, same⟩ quiet moved
  obtain ⟨after, kept, progress⟩ := invariant.step_followed moved
  exact ⟨after, kept, (progress.total quiet).trans same⟩

/-- A pending order became cancelled, and exactly its units of the product
went back on stock. -/
def Released (before after : State) (productID : Int) : Prop :=
  ∃ order ∈ before.db.orders, order.status = .pending ∧
    { order with status := .cancelled } ∈ after.db.orders ∧
    after.db.quantity productID =
      before.db.quantity productID + quantityOf productID (before.db.itemsOf order.id)

/-- Only a cancellation raises a stock level. -/
theorem Progress.released (progress : Progress state action next ledger after) (inv : Inv state ledger)
    (kept : Inv next after) (undisturbed : ¬ Restates state productID action)
    (raised : state.db.quantity productID < next.db.quantity productID) : Released state next productID := by
  rw [inv.refines.stock, kept.refines.stock] at raised
  cases progress with
  | idle | refused | confirmed => exact absurd raised (lt_irrefl _)
  | placed _ _ _ levels => exact absurd raised (not_lt.mpr (levels productID))
  | restated _ writes =>
    simp only [Ledger.restate] at raised
    split at raised
    · rename_i same
      rw [same] at undisturbed
      exact absurd writes undisturbed
    · exact absurd raised (lt_irrefl _)
  | @cancelled _ _ _ _ entry _ _ _ _ _ _ _ _ waiting split =>
    have member : entry ∈ ledger.book := by rw [split]; simp
    refine ⟨entry.order, ?_, waiting, ?_, ?_⟩
    · rw [inv.refines.orders]
      exact List.mem_map_of_mem member
    · rw [kept.refines.orders]
      exact List.mem_map.mpr ⟨entry.cancel, by simp, rfl⟩
    · rw [kept.refines.stock, inv.refines.stock, inv.refines.lines_found member]

/-- Over any stretch of any history in which nobody writes the stock level of a
product, its stock and its live reservations together stay constant. The level
is never negative; it rises only by the units of an order that becomes cancelled
in that very step, and no order is released twice. -/
theorem inventory_conserved (history : History config earlier state)
    (stretch : run (step config) state actions = some final)
    (undisturbed : Along (step config) (fun state action => ¬ Restates state productID action) state actions) :
    final.db.quantity productID + final.db.reserved productID =
      state.db.quantity productID + state.db.reserved productID ∧
    0 ≤ final.db.quantity productID ∧
    (∀ first action rest before after, actions = first ++ action :: rest →
      run (step config) state first = some before → step config before action = some after →
      before.db.quantity productID < after.db.quantity productID → Released before after productID) ∧
    ∀ orderID, (final.outcomes.filter fun outcome =>
      outcome.won ∧ outcome.target = .failed ∧ outcome.payment.orderID = orderID).length ≤ 1 := by
  obtain ⟨ledger, inv⟩ := history.inv
  obtain ⟨last, lastInv, same⟩ := inv.run_total stretch undisturbed
  refine ⟨?_, lastInv.quantity_nonneg productID, ?_, ?_⟩
  · rw [lastInv.total, inv.total, same]
  · intro first action rest before after split done moved raised
    obtain ⟨middle, invariant, _⟩ := inv.run_extends done
    obtain ⟨_, kept, progress⟩ := invariant.step_followed moved
    rw [split] at undisturbed
    exact progress.released invariant kept (undisturbed.at_step done moved) raised
  · intro orderID
    obtain ⟨settled, settledInv, tallied⟩ := History.tallied (run_append_done history stretch)
    have bound := settledFor_le_one settledInv.refines.orderIDs orderID
    rw [← tallied orderID, wonFor, List.countP_eq_length_filter] at bound
    refine le_trans (List.Sublist.length_le ?_) bound
    exact List.monotone_filter_right _ fun outcome counted => by
      simp only [decide_eq_true_eq] at counted ⊢
      exact ⟨counted.1, counted.2.2⟩

/-- The order fails three attempts, is cancelled, and its units come back. -/
def exhausted : List Action :=
  [.fulfill 1, .load 0 none, .charge 0 .deadline, .charge 0 (.latency true "a"), .charge 0 .deadline,
   .cancel 0 .stored {}]

theorem inventory_conserved_exhausted : ∃ state final, History demo ordered state ∧
    run (step demo) state exhausted = some final ∧ state.db.quantity 7 = 8 ∧ final.db.quantity 7 = 10 ∧
    (final.db.quantity 7 + final.db.reserved 7 = state.db.quantity 7 + state.db.reserved 7 ∧
    0 ≤ final.db.quantity 7 ∧
    (∀ first action rest before after, exhausted = first ++ action :: rest →
      run (step demo) state first = some before → step demo before action = some after →
      before.db.quantity 7 < after.db.quantity 7 → Released before after 7) ∧
    ∀ orderID, (final.outcomes.filter fun outcome =>
      outcome.won ∧ outcome.target = .failed ∧ outcome.payment.orderID = orderID).length ≤ 1) := by
  obtain ⟨state, final, history, stretch, low, high⟩ : ∃ state final, History demo ordered state ∧
    run (step demo) state exhausted = some final ∧ state.db.quantity 7 = 8 ∧ final.db.quantity 7 = 10 :=
    ⟨_, _, rfl, rfl, rfl, rfl⟩
  refine ⟨state, final, history, stretch, low, high, inventory_conserved history stretch (.of_forall ?_)⟩
  simp [exhausted, Restates]

end OrderProcessing.Backend
