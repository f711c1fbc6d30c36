import OrderProcessing.Backend.Charging
import OrderProcessing.Backend.Conservation

/-! When a cancelled order is free of charge. A run decides to cancel from its
own failed attempts; whether another attempt was accepted is not looked at. -/

namespace OrderProcessing.Backend

open Library

/-- Nothing is recorded at the gateway for a payment that was marked failed. -/
def Uncharged (state : State) : Prop :=
  ∀ payment ∈ state.db.payments, payment.status = .failed →
    state.gateway.recorded payment.idempotencyKey = none

/-- The two precautions the runs do not take: a pending payment is marked failed
only while the gateway has accepted nothing for its key, and no attempt that the
gateway would accept as a first charge is made for a payment marked failed. -/
def careful (state : State) : Action → Bool
  | .cancel index _ _ =>
    match state.runs[index]? with
    | some ⟨_, .cancelling payment⟩ =>
      (state.gateway.recorded payment.idempotencyKey).isNone ||
        decide (∀ row ∈ state.db.payments, row.id = payment.id → row.status ≠ .pending)
    | _ => true
  | .charge index (.latency false _) =>
    match state.runs[index]? with
    | some ⟨_, .charging payment _⟩ =>
      (state.gateway.recorded payment.idempotencyKey).isSome ||
        decide (∀ row ∈ state.db.payments, row.id = payment.id → row.status ≠ .failed)
    | _ => true
  | _ => true

variable {config : Config} {state next final : State} {action : Action} {ledger after : Ledger}

/-- The action starts the transaction that marks the payment failed. -/
def Cancelling (state : State) (action : Action) (payment : Payment) : Prop :=
  ∃ index scan faults worker, action = .cancel index scan faults ∧
    state.runs[index]? = some worker ∧ worker.phase = .cancelling payment

theorem careful_iff : careful state action ↔
    (∀ payment, Cancelling state action payment → state.gateway.recorded payment.idempotencyKey ≠ none →
      ∀ row ∈ state.db.payments, row.id = payment.id → row.status ≠ .pending) ∧
    ∀ payment, Accepting state action payment →
      ∀ row ∈ state.db.payments, row.id = payment.id → row.status ≠ .failed := by
  cases action with
  | cancel index scan faults =>
    have none : ∀ payment, ¬ Accepting state (.cancel index scan faults) payment := fun _ accepting => by
      simpa using accepting.attempted
    cases found : state.runs[index]? with
    | none => simp [careful, found, Cancelling, none]
    | some worker =>
      obtain ⟨orderID, phase⟩ := worker
      cases phase with
      | cancelling payment =>
        cases known : state.gateway.recorded payment.idempotencyKey <;>
          simp [careful, found, Cancelling, none, known]
      | _ => simp [careful, found, Cancelling, none]
  | charge index draw =>
    have none : ∀ payment, ¬ Cancelling state (.charge index draw) payment := by simp [Cancelling]
    cases draw with
    | deadline => simp [careful, none, accepting_iff]
    | latency fails uuid =>
      cases fails with
      | true => simp [careful, none, accepting_iff]
      | false =>
        cases found : state.runs[index]? with
        | none => simp [careful, found, none, accepting_iff]
        | some worker =>
          obtain ⟨orderID, phase⟩ := worker
          cases phase with
          | charging payment attempt =>
            cases known : state.gateway.recorded payment.idempotencyKey <;>
              simp [careful, found, none, accepting_iff, known]
          | _ => simp [careful, found, none, accepting_iff]
  | _ => simp [careful, Cancelling, accepting_iff]

/-- A failed entry was failed before, or is the one cancelled in this step. -/
theorem Progress.failed_origin (progress : Progress state action next ledger after)
    (member : entry ∈ after.book) (failed : entry.payment.status = .failed) :
    entry ∈ ledger.book ∨ ∃ old ∈ ledger.book, entry = old.cancel ∧ old.Pending ∧
      ∃ payment, Cancelling state action payment ∧ old.Snapshot payment := by
  cases progress with
  | idle | restated | refused => exact .inl member
  | placed _ _ waiting =>
    rcases List.mem_append.mp member with old | new
    · exact .inl old
    · rw [List.mem_singleton.mp new, (Entry.pending_iff _).mp waiting] at failed
      cases failed
  | @confirmed _ _ settled _ _ _ _ _ _ _ _ split =>
    rcases mem_replaced member settled with rfl | old
    · cases failed
    · exact .inl (split ▸ old)
  | @cancelled _ _ _ _ settled _ _ _ _ acting found phase taken waiting split =>
    rcases mem_replaced member settled with same | old
    · exact .inr ⟨settled, by rw [split]; simp, same, waiting, _,
        ⟨_, _, _, _, acting, found, phase⟩, taken⟩
    · exact .inl (split ▸ old)

theorem Inv.payment_found (inv : Inv state ledger) (member : row ∈ state.db.payments) :
    state.db.payment? row.id = some row := by
  rw [inv.refines.payments] at member
  obtain ⟨entry, present, rfl⟩ := List.mem_map.mp member
  exact inv.refines.payment_found present

theorem Inv.stored (inv : Inv state ledger) (member : entry ∈ ledger.book) : entry.payment ∈ state.db.payments := by
  rw [inv.refines.payments]
  exact List.mem_map_of_mem member

/-- One careful step keeps cancelled orders free of charge. -/
theorem Uncharged.step (uncharged : Uncharged state) (inv : Inv state ledger) (kept : Inv next after)
    (progress : Progress state action next ledger after) (moved : GatewayStep state action next)
    (fine : careful state action) : Uncharged next := by
  intro row stored failed
  rw [kept.refines.payments] at stored
  obtain ⟨entry, member, rfl⟩ := List.mem_map.mp stored
  rcases progress.failed_origin member failed with present | ⟨old, present, rfl, waiting, payment, cancelling, taken⟩
  · have free := uncharged entry.payment (inv.stored present) failed
    rcases moved.charged with same | ⟨payment, result, accepting, _, added⟩
    · rw [same]
      exact free
    · rw [added, FakeGateway.recorded_append, free, Option.none_or, if_neg]
      intro sameKey
      obtain ⟨index, uuid, worker, attempt, _, found, phase⟩ := accepting.attempted
      obtain ⟨other, listed, taken⟩ := inv.held worker (List.mem_of_getElem? found) payment (by rw [phase]; rfl)
      have identical : other = entry := List.inj_on_of_nodup_map inv.refines.keys listed present
        (taken.key.symm.trans sameKey)
      subst identical
      exact (careful_iff.mp fine).2 payment accepting _ (inv.stored present) taken.paymentID.symm failed
  · have free : state.gateway.recorded old.payment.idempotencyKey = none := by
      by_contra recorded
      rw [← taken.key] at recorded
      exact (careful_iff.mp fine).1 payment cancelling recorded _ (inv.stored present) taken.paymentID.symm
        (old.pending_iff.mp waiting)
    rcases moved.charged with same | ⟨_, _, accepting, _, _⟩
    · rw [same]
      exact free
    · obtain ⟨_, _, _, _, rfl, _⟩ := cancelling
      obtain ⟨_, _, _, _, impossible, _⟩ := accepting.attempted
      cases impossible

/-- The precautions leave out nothing else: a step without them charges a
cancelled order at once, unless its transaction is rolled back. -/
theorem careless_step (inv : Inv state ledger) (careless : ¬ careful state action)
    (moved : step config state action = some next) :
    ¬ Uncharged next ∨ (next.db = state.db ∧ ∃ payment, Cancelling state action payment) := by
  rw [careful_iff, not_and_or] at careless
  push Not at careless
  rcases careless with ⟨payment, cancelling, known, row, member, same, pending⟩ |
    ⟨payment, accepting, row, member, same, failed⟩
  · obtain ⟨index, scan, faults, worker, rfl, found, phase⟩ := id cancelling
    have cancels : cancel state index worker payment scan faults = next := by simpa [step, found, phase] using moved
    obtain ⟨entry, present, taken⟩ := inv.held worker (List.mem_of_getElem? found) payment (by rw [phase]; rfl)
    have waiting : OrderRepository.Awaiting state.db payment.id :=
      ⟨row, same ▸ inv.payment_found member, pending⟩
    rcases transact_cases faults false state.db (OrderRepository.failCancelAndRestock_propagates payment scan) with
      ⟨_, _, failed⟩ | ⟨_, final, done, alone⟩
    · exact .inr ⟨by simp [← cancels, cancel, finalize, failed], payment, cancelling⟩
    · rcases OrderRepository.failCancelAndRestock_refines inv.refines present taken alone with
        ⟨_, _, before, after, _, stored⟩ | ⟨_, settled, _⟩
      · left
        intro uncharged
        have listed : entry.cancel.payment ∈ next.db.payments := by
          have result : next.db = final := by simp [← cancels, cancel, finalize, done]
          rw [result, stored.payments]
          simp
        have free := uncharged _ listed rfl
        rw [← cancels] at free
        rw [taken.key] at known
        exact known free
      · exact absurd waiting settled
  · obtain ⟨index, uuid, worker, attempt, rfl, found, phase⟩ := accepting.attempted
    have charges : charge config state index worker payment attempt (.latency false uuid) = next := by
      simpa [step, found, phase] using moved
    obtain ⟨entry, present, taken⟩ := inv.held worker (List.mem_of_getElem? found) payment (by rw [phase]; rfl)
    left
    intro uncharged
    have own : row = entry.payment := by
      have located := inv.payment_found member
      rw [same, taken.paymentID, inv.refines.payment_found present] at located
      exact (Option.some.inj located).symm
    have free := uncharged row (by rw [← charges]; exact member) failed
    have fresh : state.gateway.recorded (Fulfiller.request payment).idempotencyKey = none := accepting.fresh
    have accepted : state.gateway.charge (Fulfiller.request payment) (.latency false uuid) =
        (.ok ⟨"txn_" ++ uuid⟩, next.gateway) := by
      simp [← charges, charge, FakeGateway.charge, fresh]
    have recorded : next.gateway.recorded payment.idempotencyKey = _ := FakeGateway.charge_recorded accepted
    rw [own, ← taken.key, recorded] at free
    cases free

/-- When every step of a history is careful, no cancelled order is charged. -/
theorem cancelled_free_of_charge (attempts : 1 ≤ config.maxRetries) (history : History config actions state)
    (caution : Along (step config) (fun state action => careful state action) initial actions) :
    ∀ payment ∈ state.db.payments, payment.status = .failed →
      state.gateway.recorded payment.idempotencyKey = none := by
  have invariant : ∃ ledger, Inv state ledger ∧ Uncharged state := by
    refine run_invariant_along (fun state => ∃ ledger, Inv state ledger ∧ Uncharged state) ?_
      ⟨_, inv_initial, by simp [Uncharged, initial]⟩ caution history
    rintro state action next ⟨ledger, inv, uncharged⟩ fine moved
    obtain ⟨after, kept, progress⟩ := inv.step_followed moved
    exact ⟨after, kept, uncharged.step inv kept progress (step_gateway attempts moved) fine⟩
  obtain ⟨_, _, uncharged⟩ := invariant
  exact uncharged

theorem cancelled_free_of_charge_exhausted : ∃ state, History demo (ordered ++ exhausted) state ∧
    state.db.payments.map (·.status) = [.failed] ∧
    ∀ payment ∈ state.db.payments, payment.status = .failed →
      state.gateway.recorded payment.idempotencyKey = none := by
  obtain ⟨state, history, status⟩ : ∃ state, History demo (ordered ++ exhausted) state ∧
    state.db.payments.map (·.status) = [.failed] := ⟨_, rfl, rfl⟩
  exact ⟨state, history, status, cancelled_free_of_charge (by decide) history (by decide)⟩

/-- The charge is accepted but its confirmation is lost at the commit. The run of
the next sweep only meets timeouts and cancels. -/
def lostConfirmation : List Action :=
  [.fulfill 1, .load 0 none, .charge 0 (.latency false "a"),
   .confirm 0 { commit := some .infrastructure },
   .fulfill 1, .load 1 none, .charge 1 .deadline, .charge 1 .deadline, .charge 1 .deadline,
   .cancel 1 .stored {}]

/-- A cancelled order, its stock released, whose payment key was charged. -/
theorem cancelled_and_charged : ∃ state, History demo (ordered ++ lostConfirmation) state ∧
    1 ≤ demo.maxRetries ∧ state.db.orders.map (·.status) = [.cancelled] ∧ state.db.quantity 7 = 10 ∧
    ∃ payment ∈ state.db.payments, payment.status = .failed ∧
      state.gateway.recorded payment.idempotencyKey = some ⟨"txn_a"⟩ :=
  ⟨_, rfl, by decide, rfl, rfl, _, List.mem_singleton.mpr rfl, rfl, rfl⟩

end OrderProcessing.Backend
