import OrderProcessing.Backend.Release
import OrderProcessing.Workers.Reclaim

/-! What one run of `Fulfill` achieves by itself. Its database calls may find the
order in any state that the other parties have left behind, but if none of them
fails, the order is settled when the run ends, after a bounded number of its own
steps and without waiting for anybody. -/

namespace OrderProcessing.Backend

open Library Sweep

/-- The database answers the run. -/
def Answered (place : Nat) : Action → Prop
  | .load index fault => index = place → fault = none
  | .cancel index _ faults | .confirm index faults => index = place → faults = {}
  | _ => True

/-- The steps that the run can still make, with its return. -/
def remaining (config : Config) (place : Nat) (state : State) : Nat :=
  (state.runs[place]?).elim 0 fun task => rank config.maxRetries.toNat task.phase

/-- The run works for an order that is stored, and has settled it unless it still can. -/
structure Serving (place : Nat) (orderID : Int) (state : State) (ledger : Ledger) : Prop where
  known : Announcements state ledger
  room : Releasable state.db
  stored : ∃ entry ∈ ledger.book, entry.order.id = orderID
  task : ∃ phase, state.runs[place]? = some ⟨orderID, phase⟩ ∧ (undecided phase ∨ Settled state.db orderID)

variable {config : Config} {state next final : State} {action : Action} {ledger after : Ledger} {place : Nat}
  {orderID : Int} {entry : Entry}

theorem remaining_eq {task : Fulfiller.Run} (found : state.runs[place]? = some task) :
    remaining config place state = rank config.maxRetries.toNat task.phase := by
  simp [remaining, found]

theorem rank_pos (retries : Nat) (phase : Fulfiller.Phase) : 0 < rank retries phase := by
  cases phase <;> simp [rank]

theorem order_entry {db : Db} {order : Order} (refines : db.Refines ledger) (found : db.order? orderID = some order) :
    ∃ entry ∈ ledger.book, entry.order.id = orderID := by
  have member := List.mem_of_find?_eq_some found
  rw [refines.orders] at member
  obtain ⟨entry, present, rfl⟩ := List.mem_map.mp member
  exact ⟨entry, present, by simpa using List.find?_some found⟩

/-- The other parties leave the run where it stands. -/
theorem step_foreign {task : Fulfiller.Run} (moved : step config state action = some next)
    (foreign : advances place action = false) (found : state.runs[place]? = some task) :
    next.runs[place]? = some task := by
  have elsewhere {other : Nat} (replaced : Fulfiller.Run) (different : ¬ other = place) :
      (state.runs.set other replaced)[place]? = some task := by
    rw [List.getElem?_set_ne different]
    exact found
  cases step_cases config moved with
  | loadProduct =>
    unfold loadProduct
    split <;> exact found
  | fulfill =>
    rw [List.getElem?_append_left (List.getElem?_eq_some_iff.mp found).1]
    exact found
  | load | charge | cancel | confirm | notify => exact elsewhere _ (by simpa [advances] using foreign)
  | _ => exact found

theorem confirm_succeeds (db : Db) (payment : Payment) (txnID : String) :
    (transact {} false (OrderRepository.markPaidAndConfirm payment txnID) db).1.2 = none := by
  rcases OrderRepository.markPaidAndConfirm_effect db payment txnID with ⟨_, success⟩ | ⟨_, success⟩
  all_goals
    rw [← Program.alone_ok_iff, ← transaction_alone] at success
    rw [transact, success]

/-- There is room for the stock of a pending order, so that its cancellation goes through. -/
theorem Inv.cancel_succeeds (inv : Inv state ledger) (room : Releasable state.db) (member : entry ∈ ledger.book)
    (taken : entry.Snapshot payment) (scan : Scan) :
    (transact {} false (OrderRepository.failCancelAndRestock payment scan) state.db).1.2 = none := by
  rcases OrderRepository.markFailed_eval state.db payment.id with ⟨row, found, pending, _⟩ | ⟨_, reply⟩
  · have same : row = entry.payment := by
      have own := inv.refines.payment_found member
      rw [← taken.paymentID, found] at own
      exact Option.some.inj own
    subst same
    have own : OrderRepository.failCancelAndRestock payment scan =
        OrderRepository.failCancelAndRestock entry.payment scan := by
      simp only [OrderRepository.failCancelAndRestock, taken.paymentID, taken.orderID, entry.billed]
    have stored : entry.payment ∈ state.db.payments := by
      rw [inv.refines.payments]
      exact List.mem_map_of_mem member
    obtain ⟨final, done⟩ := (inv.cancel_ok_iff stored pending scan).mpr fun item line => by
      rw [entry.billed, inv.refines.lines_found member] at line
      rw [inv.refines.stock, ← quantityOf_line entry.distinct line]
      exact ((releasable_iff inv.refines).mp room).cancellable member (entry.pending_iff.mpr pending) item.productID
    rw [own, done]
  · have unmarked := postgres.answer_eval reply
    have success : (OrderRepository.failCancelAndRestock payment scan).atomic postgres state.db =
        ((false, none), state.db) := by
      simp [OrderRepository.failCancelAndRestock, Program.atomic, unmarked]
    rw [← Program.alone_ok_iff, ← transaction_alone] at success
    rw [transact, success]

/-- Nothing but an error of the database stops the run. -/
theorem Inv.undisturbed (inv : Inv state ledger) (room : Releasable state.db) (own : advances place action)
    (answered : Answered place action) : undisturbed state action := by
  cases action with
  | load index fault =>
    cases answered (of_decide_eq_true own)
    rfl
  | cancel index scan faults =>
    cases answered (of_decide_eq_true own)
    simp only [Backend.undisturbed]
    split
    · rename_i payment found
      obtain ⟨entry, member, taken⟩ := inv.held _ (List.mem_of_getElem? found) payment rfl
      rw [inv.cancel_succeeds room member taken scan]
      rfl
    · rfl
  | confirm index faults =>
    cases answered (of_decide_eq_true own)
    simp only [Backend.undisturbed]
    split
    · rw [confirm_succeeds]
      rfl
    · rfl
  | _ => rfl

/-- A settled order stays settled. -/
theorem settled_step (settled : Settled state.db orderID) (inv : Inv state ledger) (kept : Inv next after)
    (extended : Ledger.Extends ledger after) (stored : ∃ entry ∈ ledger.book, entry.order.id = orderID) :
    Settled next.db orderID := by
  obtain ⟨entry, member, rfl⟩ := stored
  have decided := settled.decided inv.refines member
  obtain ⟨later, present, onward⟩ := extended entry member
  cases onward.settled decided
  exact settled_of_entry kept.refines present decided

/-- Every step keeps the run serving its order; its own bring it nearer to its end. -/
theorem Serving.step (serving : Serving place orderID state ledger) (roomy : roomy state action)
    (answered : Answered place action) (moved : step config state action = some next) :
    (∃ after, Serving place orderID next after) ∧
      (advances place action = false → remaining config place next ≤ remaining config place state) ∧
      (advances place action = true → remaining config place next < remaining config place state) := by
  obtain ⟨known, room, stored, phase, found, owed⟩ := serving
  obtain ⟨after, onward, extended⟩ := known.step moved
  have spacious := room.step known.inv roomy moved
  have kept : Settled state.db orderID → Settled next.db orderID := fun settled =>
    settled_step settled known.inv onward.inv extended stored
  have still : ∃ entry ∈ after.book, entry.order.id = orderID := by
    obtain ⟨entry, member, rfl⟩ := stored
    obtain ⟨later, present, onward⟩ := extended entry member
    exact ⟨later, present, by rw [onward.order]⟩
  cases own : advances place action with
  | false =>
    have same := step_foreign moved own found
    refine ⟨⟨after, onward, spacious, still, phase, same, owed.imp_right kept⟩, fun _ => ?_, by simp⟩
    rw [remaining_eq found, remaining_eq same]
  | true =>
    obtain ⟨task, reached, located, runs, fewer⟩ := advance_runs own moved
    cases found.symm.trans located
    have there : next.runs[place]? = some ⟨orderID, reached⟩ := by
      rw [runs]
      exact getElem_set_found found _
    refine ⟨⟨after, onward, spacious, still, reached, there, ?_⟩, by simp, fun _ => ?_⟩
    · rcases owed with going | settled
      · rcases advance_settles known.inv known.own own (known.inv.undisturbed room own answered) moved found going with
          ⟨ahead, standing, going⟩ | settled
        · cases there.symm.trans standing
          exact .inl going
        · exact .inr settled
      · exact .inr (kept settled)
    · rw [remaining_eq found, remaining_eq there]
      exact fewer

/-- Until it is finished, the run can go on. -/
theorem own_enabled {task : Fulfiller.Run} (found : state.runs[place]? = some task)
    (unfinished : task.phase ≠ .finished) :
    ∃ action next, advances place action ∧ Answered place action ∧ step config state action = some next := by
  cases phase : task.phase with
  | loading => exact ⟨.load place none, _, by simp [advances], by simp [Answered], by simp [step, found, phase]; rfl⟩
  | charging => exact ⟨.charge place .deadline, _, by simp [advances], trivial, by simp [step, found, phase]; rfl⟩
  | cancelling =>
    exact ⟨.cancel place .stored {}, _, by simp [advances], by simp [Answered], by simp [step, found, phase]; rfl⟩
  | confirming => exact ⟨.confirm place {}, _, by simp [advances], by simp [Answered], by simp [step, found, phase]; rfl⟩
  | notifying => exact ⟨.notify place, _, by simp [advances], trivial, by simp [step, found, phase]; rfl⟩
  | finished => exact absurd phase unfinished

/-- A run of `Fulfill` whose own database calls do not fail settles its order, whatever all other parties do
meanwhile: it makes at most `MaxRetries + 4` steps, it can always make the next one, and when it has made its last
database call the order is stored and no longer pending. -/
theorem fulfill_settles (history : History config earlier state) (room : Releasable state.db)
    (stored : (state.db.order? orderID).isSome)
    (done : run (step config) state (.fulfill orderID :: later) = some final)
    (caution : Along (step config) (fun state action => roomy state action) state (.fulfill orderID :: later))
    (answered : ∀ action ∈ later, Answered state.runs.length action) :
    later.countP (advances state.runs.length) ≤ config.maxRetries.toNat + 4 ∧
      ∃ phase, final.runs[state.runs.length]? = some ⟨orderID, phase⟩ ∧
        (phase ≠ .finished → ∃ action next, advances state.runs.length action ∧
          Answered state.runs.length action ∧ step config final action = some next) ∧
        (undecided phase = false →
          ∃ order, final.db.order? orderID = some order ∧ order.status ≠ .pending) := by
  obtain ⟨ledger, known⟩ := history.announcements
  obtain ⟨started, moved, remainder⟩ := run_cons_some done
  have first : started = { state with runs := state.runs ++ [⟨orderID, .loading⟩] } := (Option.some.inj moved).symm
  have found : started.runs[state.runs.length]? = some ⟨orderID, .loading⟩ := by simp [first]
  obtain ⟨order, located⟩ := Option.isSome_iff_exists.mp stored
  obtain ⟨book, follows, extended⟩ := known.step moved
  obtain ⟨entry, member, rfl⟩ := order_entry known.inv.refines located
  obtain ⟨_, present, onward⟩ := extended entry member
  have begun : Serving state.runs.length entry.order.id started book :=
    ⟨follows, room.step known.inv (caution started moved).1 moved, ⟨_, present, by rw [onward.order]⟩,
      .loading, found, .inl rfl⟩
  have along := (caution started moved).2.and (Along.of_forall fun action member _ => answered action member)
  obtain ⟨⟨ledger, last⟩, bounded⟩ := run_party_bounded (remaining config state.runs.length)
    (advances state.runs.length) (fun current => ∃ ledger, Serving state.runs.length entry.order.id current ledger)
    (fun current action next held fine moved => by
      obtain ⟨ledger, serving⟩ := held
      exact serving.step fine.1 fine.2 moved)
    ⟨book, begun⟩ along remainder
  obtain ⟨phase, there, owed⟩ := last.task
  have left := rank_pos config.maxRetries.toNat phase
  rw [remaining_eq found, remaining_eq there] at bounded
  refine ⟨?_, phase, there, own_enabled there, fun done => ?_⟩
  · simp only [rank] at bounded left
    omega
  · obtain ⟨entry, member, same⟩ := last.stored
    rw [done] at owed
    have settled := owed.resolve_left Bool.false_ne_true
    rw [← same] at settled ⊢
    exact ⟨entry.order, last.known.inv.refines.order_found member, settled.decided last.known.inv.refines member⟩

/-- The run is overtaken by another one that times out and cancels the order. -/
def overtaken : List Action :=
  [.load 0 none, .fulfill 1, .load 1 none, .charge 1 .deadline, .charge 0 .deadline, .charge 1 .deadline,
   .charge 0 (.latency false "a"), .charge 1 .deadline, .cancel 1 .stored {}, .confirm 0 {}]

theorem fulfill_settles_overtaken : ∃ state final, History demo ordered state ∧
    run (step demo) state (.fulfill 1 :: overtaken) = some final ∧
    overtaken.countP (advances 0) ≤ 3 + 4 ∧
      ∃ phase, final.runs[0]? = some ⟨1, phase⟩ ∧
        (phase ≠ .finished → ∃ action next, advances 0 action ∧ Answered 0 action ∧
          step demo final action = some next) ∧
        (undecided phase = false → ∃ order, final.db.order? 1 = some order ∧ order.status ≠ .pending) := by
  obtain ⟨state, final, history, done, inventory, orders, lines, runs, stored⟩ :
    ∃ state final, History demo ordered state ∧ run (step demo) state (.fulfill 1 :: overtaken) = some final ∧
      state.db.inventory = [⟨1, 7, 8⟩] ∧ state.db.orders = [⟨1, 1, .pending, 1000⟩] ∧
      state.db.orderItems = [⟨1, 7, 2, 500⟩] ∧ state.runs = [] ∧ (state.db.order? 1).isSome :=
    ⟨_, _, rfl, rfl, rfl, rfl, rfl, rfl, rfl⟩
  have room : Releasable state.db := by
    intro productID
    by_cases same : 7 = productID
    · subst same
      simp [Db.quantity, Db.stock?, Db.outstanding, inventory, orders, lines, Db.itemsOf, quantityOf]
    · simp [Db.quantity, Db.stock?, Db.outstanding, inventory, orders, lines, Db.itemsOf, quantityOf, same]
  have settles := fulfill_settles history room stored done ?_ ?_
  · simp only [runs] at settles
    exact ⟨state, final, history, done, settles⟩
  · exact Along.of_forall fun action member state => by
      simp only [overtaken, List.mem_cons, List.not_mem_nil, or_false] at member
      rcases member with rfl | rfl | rfl | rfl | rfl | rfl | rfl | rfl | rfl | rfl | rfl <;> rfl
  · simp [overtaken, runs, Answered]

end OrderProcessing.Backend
