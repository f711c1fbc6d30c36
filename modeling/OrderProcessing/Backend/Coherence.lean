import OrderProcessing.Backend.Invariant

/-! Order and payment agree in every reachable state, a settled order never
changes again, and at most one finalizing call of an order performs it. -/

namespace OrderProcessing.Backend

open Library

/-- Finalizing calls for an order that returned (true, nil). -/
def wonFor (orderID : Int) (outcomes : List Outcome) : Nat :=
  outcomes.countP fun outcome => outcome.won ∧ outcome.payment.orderID = orderID

def settledFor (orderID : Int) (book : List Entry) : Nat :=
  book.countP fun entry => entry.order.status ≠ .pending ∧ entry.order.id = orderID

/-- Every settled order was settled by exactly one call. -/
def Tallied (state : State) (ledger : Ledger) : Prop :=
  ∀ orderID, wonFor orderID state.outcomes = settledFor orderID ledger.book

variable {config : Config} {state next final : State} {action : Action} {ledger after : Ledger}

theorem wonFor_append (orderID : Int) (outcomes : List Outcome) (outcome : Outcome) :
    wonFor orderID (outcomes ++ [outcome]) = wonFor orderID outcomes +
      if outcome.won ∧ outcome.payment.orderID = orderID then 1 else 0 := by
  simp [wonFor, List.countP_append]

/-- Settling one pending entry adds it to the count of its order. -/
theorem settledFor_settle {entry : Entry} {before after : List Entry} (waiting : entry.Pending)
    (staged : Staged status outcome txn) (settled : status ≠ .pending) (orderID : Int) :
    settledFor orderID (before ++ entry.settle staged :: after) =
      settledFor orderID (before ++ entry :: after) + if entry.order.id = orderID then 1 else 0 := by
  have pending : entry.order.status = .pending := waiting
  simp only [settledFor, List.countP_append, List.countP_cons, Entry.settle, pending, settled, ne_eq,
    not_true_eq_false, not_false_eq_true, true_and, false_and, decide_false, Bool.false_eq_true, ↓reduceIte,
    decide_eq_true_eq]
  omega

theorem Progress.tallied (progress : Progress state action next ledger after)
    (tallied : Tallied state ledger) : Tallied next after := by
  intro orderID
  have before := tallied orderID
  cases progress with
  | idle outcomes => rw [outcomes]; exact before
  | placed outcomes _ waiting =>
    have pending : _ = OrderStatus.pending := waiting
    rw [outcomes, before]
    simp [settledFor, List.countP_append, pending]
  | restated outcomes => rw [outcomes]; exact before
  | refused outcomes lost => rw [outcomes, wonFor_append]; simpa [lost] using before
  | confirmed outcomes _ _ taken waiting split =>
    rw [outcomes, wonFor_append, before, split, Entry.confirm, settledFor_settle waiting _ (by simp)]
    simp [Outcome.won, taken.orderID]
  | cancelled outcomes _ _ _ taken waiting split =>
    rw [outcomes, wonFor_append, before, split, Entry.cancel, settledFor_settle waiting _ (by simp)]
    simp [Outcome.won, taken.orderID]

theorem History.tallied (history : History config actions state) :
    ∃ ledger, Inv state ledger ∧ Tallied state ledger := by
  refine run_invariant (fun state => ∃ ledger, Inv state ledger ∧ Tallied state ledger) ?_
    ⟨_, inv_initial, fun _ => rfl⟩ history
  rintro state action next ⟨ledger, inv, tallied⟩ moved
  obtain ⟨after, kept, progress⟩ := inv.step_followed moved
  exact ⟨after, kept, progress.tallied tallied⟩

theorem settledFor_le_one (distinct : (ledger.book.map (·.order.id)).Nodup) (orderID : Int) :
    settledFor orderID ledger.book ≤ 1 := by
  calc settledFor orderID ledger.book
      ≤ ledger.book.countP (fun entry => entry.order.id == orderID) := by
        refine List.countP_mono_left fun entry _ counted => ?_
        simpa using (of_decide_eq_true counted).2
    _ = (ledger.book.map (·.order.id)).count orderID := by
        rw [List.count, List.countP_map]
        rfl
    _ ≤ 1 := List.nodup_iff_count_le_one.mp distinct orderID

/-- The payments stored for the order of an entry are its one payment. -/
theorem payments_of_order (refines : state.db.Refines ledger) {entry : Entry} (member : entry ∈ ledger.book) :
    state.db.payments.filter (fun row => row.orderID = entry.order.id) = [entry.payment] := by
  obtain ⟨before, after, split⟩ := List.append_of_mem member
  obtain ⟨left, right⟩ := keyed_split (fun entry : Entry => entry.order.id) (split ▸ refines.orderIDs)
  have foreign (entries : List Entry) (different : ∀ other ∈ entries, other.order.id ≠ entry.order.id) :
      (entries.map (·.payment)).filter (fun row => row.orderID = entry.order.id) = [] := by
    apply List.filter_eq_nil_iff.mpr
    intro row present
    obtain ⟨other, listed, rfl⟩ := List.mem_map.mp present
    simpa [other.billed] using different other listed
  rw [refines.payments, split, List.map_append, List.map_cons, List.filter_append, List.filter_cons,
    foreign before left, foreign after right]
  simp [entry.billed]

/-- In every reachable state each order has exactly one payment, in one of the
three agreeing pairs of statuses, with a transaction id iff it is paid. From
then on a settled pair of rows stays as it is, and no two finalizing calls of
one order both returned (true, nil). -/
theorem order_payment_coherent (history : History config actions state)
    (onward : run (step config) state later = some final) :
    (∀ order ∈ state.db.orders, ∃ payment,
      state.db.payments.filter (fun row => row.orderID = order.id) = [payment] ∧
      ((order.status = .pending ∧ payment.status = .pending) ∨
        (order.status = .confirmed ∧ payment.status = .paid) ∨
        (order.status = .cancelled ∧ payment.status = .failed)) ∧
      (payment.providerTxnID.isSome ↔ payment.status = .paid) ∧
      (order.status = .confirmed ∨ order.status = .cancelled →
        final.db.order? order.id = some order ∧ final.db.payment? payment.id = some payment)) ∧
    (∀ payment ∈ state.db.payments, ∃ order ∈ state.db.orders, order.id = payment.orderID) ∧
    ∀ orderID, wonFor orderID state.outcomes ≤ 1 := by
  obtain ⟨ledger, inv, tallied⟩ := history.tallied
  obtain ⟨last, kept, extended⟩ := inv.run_extends onward
  refine ⟨?_, ?_, ?_⟩
  · intro order stored
    rw [inv.refines.orders] at stored
    obtain ⟨entry, member, rfl⟩ := List.mem_map.mp stored
    obtain ⟨statuses, charged⟩ := entry.staged.pairs
    refine ⟨entry.payment, payments_of_order inv.refines member, statuses, charged, ?_⟩
    intro done
    obtain ⟨same, present, moved⟩ := extended entry member
    have settled : ¬ entry.Pending := by
      intro waiting
      have pending : entry.order.status = .pending := waiting
      simp [pending] at done
    rw [moved.settled settled] at present
    exact ⟨kept.refines.order_found present, kept.refines.payment_found present⟩
  · intro payment stored
    rw [inv.refines.payments] at stored
    obtain ⟨entry, member, rfl⟩ := List.mem_map.mp stored
    exact ⟨entry.order, by rw [inv.refines.orders]; exact List.mem_map_of_mem member, entry.billed.symm⟩
  · intro orderID
    rw [tallied orderID]
    exact settledFor_le_one inv.refines.orderIDs orderID

/-- The configuration of the examples: three attempts, and a constant digest. -/
def demo : Config := ⟨3, fun _ => []⟩

/-- A product with ten units on stock. -/
def stocked : List Action :=
  [.createUser ⟨1, "ann", "ann@shop", "", .customer⟩ {},
   .createProduct ⟨7, "mug", none, none, 500⟩ ⟨1, 0, 10⟩ {}]

/-- An order for two of them. -/
def purchase : List Action :=
  [.submit 1 [⟨7, 2⟩], .reserve 0 .answered, .lookup 0 "key" none, .persist 0 1 1 {}]

def ordered : List Action := stocked ++ purchase

/-- The order is paid at the second attempt, and another run comes too late. -/
def paid : List Action :=
  [.fulfill 1, .fulfill 1, .load 0 none, .load 1 none, .charge 0 .deadline, .charge 0 (.latency false "a"),
   .charge 1 (.latency true "b"), .confirm 0 {}, .confirm 1 {}]

theorem order_payment_coherent_paid : ∃ state, History demo (ordered ++ paid) state ∧
    state.db.orders.map (·.status) = [.confirmed] ∧ state.outcomes.map (·.won) = [true, false] ∧
    (∀ order ∈ state.db.orders, ∃ payment,
      state.db.payments.filter (fun row => row.orderID = order.id) = [payment] ∧
      ((order.status = .pending ∧ payment.status = .pending) ∨
        (order.status = .confirmed ∧ payment.status = .paid) ∨
        (order.status = .cancelled ∧ payment.status = .failed)) ∧
      (payment.providerTxnID.isSome ↔ payment.status = .paid) ∧
      (order.status = .confirmed ∨ order.status = .cancelled →
        state.db.order? order.id = some order ∧ state.db.payment? payment.id = some payment)) ∧
    (∀ payment ∈ state.db.payments, ∃ order ∈ state.db.orders, order.id = payment.orderID) ∧
    ∀ orderID, wonFor orderID state.outcomes ≤ 1 := by
  obtain ⟨state, history, status, wins⟩ : ∃ state, History demo (ordered ++ paid) state ∧
    state.db.orders.map (·.status) = [.confirmed] ∧ state.outcomes.map (·.won) = [true, false] :=
    ⟨_, rfl, rfl, rfl⟩
  exact ⟨state, history, status, wins, order_payment_coherent history run_nil⟩

end OrderProcessing.Backend
