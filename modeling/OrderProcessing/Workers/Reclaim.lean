import OrderProcessing.Backend.Notification
import OrderProcessing.Workers.Sweep

/-! What a round of the sweeper does to the tables when the database reports no
error: it settles the oldest orders of the backlog, as many as a batch holds, and
no other. -/

namespace OrderProcessing

open Library

/-- No payment of the order is pending. -/
def Settled (db : Db) (orderID : Int) : Prop :=
  ∀ row ∈ db.payments, row.orderID = orderID → row.status ≠ .pending

section

variable {db final : Db} {ledger : Ledger} {entry : Entry} {payment : Payment}

theorem settled_of_entry (refines : db.Refines ledger) (member : entry ∈ ledger.book) (decided : ¬ entry.Pending) :
    Settled db entry.order.id := by
  intro row stored same waiting
  rw [refines.payments] at stored
  obtain ⟨other, present, rfl⟩ := List.mem_map.mp stored
  cases List.inj_on_of_nodup_map refines.orderIDs present member (other.billed.symm.trans same)
  exact decided (entry.pending_iff.mpr waiting)

theorem Settled.decided (settled : Settled db entry.order.id) (refines : db.Refines ledger) (member : entry ∈ ledger.book) :
    ¬ entry.Pending := by
  intro waiting
  refine settled entry.payment ?_ entry.billed (entry.pending_iff.mp waiting)
  rw [refines.payments]
  exact List.mem_map_of_mem member

/-- A payment that is not waiting was settled before. -/
theorem settled_of_refusal (refines : db.Refines ledger) (member : entry ∈ ledger.book) (taken : entry.Snapshot payment)
    (refused : ¬ OrderRepository.Awaiting db payment.id) : Settled db payment.orderID := by
  rw [taken.orderID]
  refine settled_of_entry refines member fun waiting => refused ⟨entry.payment, ?_, entry.pending_iff.mp waiting⟩
  rw [taken.paymentID]
  exact refines.payment_found member

theorem settled_of_miss (missed : OrderRepository.getPendingByOrderID db orderID none = .error err) : Settled db orderID := by
  intro row member same waiting
  unfold OrderRepository.getPendingByOrderID at missed
  simp only at missed
  split at missed
  · cases missed
  · rename_i nothing
    rw [List.head?_eq_none_iff] at nothing
    have listed : row ∈ (db.payments.filter fun row => row.orderID = orderID ∧ row.status = .pending).insertionSort
        fun first second => first.id ≤ second.id := by
      refine (List.perm_insertionSort _ _).mem_iff.mpr (List.mem_filter.mpr ⟨member, ?_⟩)
      exact decide_eq_true ⟨same, waiting⟩
    rw [nothing] at listed
    cases listed

end

namespace Backend

variable {config : Config} {state store : State} {ledger : Ledger} {task : Fulfiller.Run} {place : Nat}

/-- The database reports no error to the run. -/
def undisturbed (state : State) : Action → Bool
  | .load _ fault => fault.isNone
  | .cancel index scan faults =>
    match state.runs[index]? with
    | some ⟨_, .cancelling payment⟩ =>
      (transact faults false (OrderRepository.failCancelAndRestock payment scan) state.db).1.2.isNone
    | _ => true
  | .confirm index faults =>
    match state.runs[index]? with
    | some ⟨_, .confirming payment txnID⟩ =>
      (transact faults false (OrderRepository.markPaidAndConfirm payment txnID) state.db).1.2.isNone
    | _ => true
  | _ => true

/-- Without an error a finalizing call leaves its order settled. -/
theorem cancel_settles (inv : Inv state ledger) (found : state.runs[place]? = some task)
    (phase : task.phase = .cancelling payment)
    (fine : (transact faults false (OrderRepository.failCancelAndRestock payment scan) state.db).1.2 = none) :
    Settled (transact faults false (OrderRepository.failCancelAndRestock payment scan) state.db).2 payment.orderID := by
  obtain ⟨entry, member, taken⟩ := inv.held task (List.mem_of_getElem? found) payment (by rw [phase]; rfl)
  rcases transact_cases faults false state.db (OrderRepository.failCancelAndRestock_propagates payment scan) with
    ⟨_, err, failed⟩ | ⟨_, _, done, alone⟩
  · simp [failed] at fine
  · rw [done]
    rcases OrderRepository.failCancelAndRestock_refines inv.refines member taken alone with
      ⟨_, _, before, after, _, stored⟩ | ⟨_, refused, rfl⟩
    · rw [taken.orderID]
      have decided : ¬ entry.cancel.Pending := nofun
      have settled := settled_of_entry stored (by simp) decided
      exact settled
    · exact settled_of_refusal inv.refines member taken refused

theorem confirm_settles (inv : Inv state ledger) (found : state.runs[place]? = some task)
    (phase : task.phase = .confirming payment txnID)
    (fine : (transact faults false (OrderRepository.markPaidAndConfirm payment txnID) state.db).1.2 = none) :
    Settled (transact faults false (OrderRepository.markPaidAndConfirm payment txnID) state.db).2 payment.orderID := by
  obtain ⟨entry, member, taken⟩ := inv.held task (List.mem_of_getElem? found) payment (by rw [phase]; rfl)
  rcases transact_cases faults false state.db (OrderRepository.markPaidAndConfirm_propagates payment txnID) with
    ⟨_, err, failed⟩ | ⟨_, _, done, alone⟩
  · simp [failed] at fine
  · rw [done]
    rcases OrderRepository.markPaidAndConfirm_refines inv.refines member taken alone with
      ⟨_, _, before, after, _, stored⟩ | ⟨_, refused, rfl⟩
    · rw [taken.orderID]
      have decided : ¬ (entry.confirm txnID).Pending := nofun
      have settled := settled_of_entry stored (by simp) decided
      exact settled
    · exact settled_of_refusal inv.refines member taken refused

/-- The run may still settle its order. -/
def undecided : Fulfiller.Phase → Bool
  | .notifying _ | .finished => false
  | _ => true

theorem undecided_loopHead : undecided (Fulfiller.loopHead maxRetries payment attempt lastErr) := by
  unfold Fulfiller.loopHead
  split
  · rfl
  · split <;> rfl

/-- A step of a run, without an error of the database, leaves it undecided or its
order settled. -/
theorem advance_settles (inv : Inv state ledger) (own : Own state) (acts : Sweep.advances place action)
    (fine : undisturbed state action) (done : step config state action = some store)
    (found : state.runs[place]? = some task) (going : undecided task.phase) :
    (∃ phase, store.runs[place]? = some { task with phase } ∧ undecided phase) ∨ Settled store.db task.orderID := by
  cases step_cases config done with
  | @load index worker fault located phase =>
    cases of_decide_eq_true acts
    cases found.symm.trans located
    cases Option.isNone_iff_eq_none.mp fine
    cases answer : OrderRepository.getPendingByOrderID state.db task.orderID none with
    | error err => exact .inr (settled_of_miss answer)
    | ok payment =>
      refine .inl ⟨_, getElem_set_found found _, ?_⟩
      rw [answer, Fulfiller.afterLoad]
      exact undecided_loopHead
  | @charge index worker draw payment attempt located phase =>
    cases of_decide_eq_true acts
    cases found.symm.trans located
    refine .inl ⟨_, getElem_set_found found _, ?_⟩
    unfold Fulfiller.afterAttempt
    split
    · rfl
    · exact undecided_loopHead
  | @cancel index worker scan faults payment located phase =>
    cases of_decide_eq_true acts
    cases found.symm.trans located
    obtain ⟨orderID, _⟩ := task
    cases phase
    simp only [undisturbed, found, Option.isNone_iff_eq_none] at fine
    have same := own _ (List.mem_of_getElem? found) payment rfl
    exact .inr (same ▸ cancel_settles inv found rfl fine)
  | @confirm index worker faults payment txnID located phase =>
    cases of_decide_eq_true acts
    cases found.symm.trans located
    obtain ⟨orderID, _⟩ := task
    cases phase
    simp only [undisturbed, found, Option.isNone_iff_eq_none] at fine
    have same := own _ (List.mem_of_getElem? found) payment rfl
    exact .inr (same ▸ confirm_settles inv found rfl fine)
  | @notify index worker message located phase =>
    cases of_decide_eq_true acts
    cases found.symm.trans located
    rw [phase] at going
    cases going
  | _ => cases acts

/-- The entry is as it was, or it is one of these orders. -/
def Kept (ids : List Int) (old new : Entry) : Prop := new = old ∨ (old.order.id ∈ ids ∧ Ledger.Later old new)

theorem Kept.settle (kept : Kept ids old entry) (waiting : entry.Pending) (named : entry.order.id ∈ ids)
    (staged : Staged status outcome txn) : Kept ids old (entry.settle staged) := by
  have onward : Ledger.Later entry (entry.settle staged) := .settle waiting staged
  rcases kept with rfl | ⟨member, later⟩
  · exact .inr ⟨named, onward⟩
  · exact .inr ⟨member, later.trans onward⟩

/-- One entry of the book is settled, and no other becomes pending. -/
theorem kept_settle {book before rest : List Entry} (all : List.Forall₂ (Kept ids) book (before ++ entry :: rest))
    (waiting : entry.Pending) (named : entry.order.id ∈ ids) {staged : Staged status outcome txn}
    (settled : ¬ (entry.settle staged).Pending) :
    List.Forall₂ (Kept ids) book (before ++ entry.settle staged :: rest) ∧
      ∀ other ∈ before ++ entry.settle staged :: rest, other.Pending → other ∈ before ++ entry :: rest := by
  refine ⟨forall_replaced all fun old kept => kept.settle waiting named staged, fun other member pending => ?_⟩
  rcases mem_replaced member entry with rfl | old
  · exact absurd pending settled
  · exact old

/-- A step of a run touches the entry of its own order only, and adds none. -/
theorem step_kept {book : List Entry} (inv : Inv state ledger) (all : List.Forall₂ (Kept ids) book ledger.book)
    (done : step config state action = some store)
    (unplaced : ∀ index orderID paymentID faults, action ≠ .persist index orderID paymentID faults)
    (named : ∀ outcome, store.outcomes = state.outcomes ++ [outcome] → outcome.payment.orderID ∈ ids) :
    ∃ after, Inv store after ∧ List.Forall₂ (Kept ids) book after.book ∧
      ∀ entry ∈ after.book, entry.Pending → entry ∈ ledger.book := by
  obtain ⟨after, kept, progress⟩ := inv.step_followed done
  refine ⟨after, kept, ?_⟩
  cases progress with
  | idle | refused => exact ⟨all, fun _ member _ => member⟩
  | restated => exact ⟨all, fun _ member _ => member⟩
  | placed _ acting => exact absurd acting (unplaced _ _ _ _)
  | confirmed outcomes _ _ taken waiting split =>
    rw [split] at all ⊢
    exact kept_settle all waiting (taken.orderID ▸ named _ outcomes) nofun
  | cancelled outcomes _ _ _ taken waiting split =>
    rw [split] at all ⊢
    exact kept_settle all waiting (taken.orderID ▸ named _ outcomes) nofun

end Backend

namespace Sweep

variable {config : Config} {settings : WorkerConfig} {now : Int} {sweep next : Sweep} {action : Action}

/-- The database reports no error. -/
def undisturbed (sweep : Sweep) : Action → Bool
  | .reclaim _ fault => fault.isNone
  | .proceed _ action => Backend.undisturbed sweep.backend action
  | _ => true

/-- The order is yet to be settled, by the sweeper's next calls of `Process` or by a worker. -/
inductive Carried (sweep : Sweep) (orderID : Int) : Prop where
  | left (member : orderID ∈ sweep.sweeper.left)
  | queued (member : orderID ∈ sweep.pool.jobs.buffer)
  | taken {worker : Nat} (busy : sweep.pool.workers[worker]? = some (.fulfilling orderID))
      (free : sweep.jobs[worker]? = some none)
  | running {worker place : Nat} (found : sweep.jobs[worker]? = some (some place))
      (task : sweep.backend.runs[place]? = some ⟨orderID, phase⟩) (going : Backend.undecided phase)

/-- A worker that waits has no run. -/
theorem Staffed.unassigned {worker : Nat} (staffed : Staffed settings sweep)
    (waiting : sweep.pool.workers[worker]? = some .idle) : sweep.jobs[worker]? = some none := by
  have inside : worker < sweep.jobs.length := staffed.paired ▸ (List.getElem?_eq_some_iff.mp waiting).1
  cases job : sweep.jobs[worker] with
  | none => exact List.getElem?_eq_some_iff.mpr ⟨inside, job⟩
  | some place =>
    obtain ⟨_, _, busy⟩ := staffed.busy worker place (List.getElem?_eq_some_iff.mpr ⟨inside, job⟩)
    cases waiting.symm.trans busy

theorem Carried.step {ledger : Ledger} (carried : Carried sweep orderID) (staffed : Staffed settings sweep)
    (inv : Backend.Inv sweep.backend ledger) (own : Backend.Own sweep.backend) (fine : undisturbed sweep action)
    (begun : sweep.sweeper ≠ .listing) (moved : Sweep.step config settings now sweep action = some next) :
    Carried next orderID ∨ Settled next.backend.db orderID := by
  cases step_cases moved with
  | reclaim waiting | failed waiting => exact absurd waiting begun
  | enqueue upcoming done =>
    obtain ⟨_, rfl⟩ := staffed.processed upcoming done
    left
    cases carried with
    | left member =>
      simp only [upcoming, Sweeper.left] at member
      rcases List.mem_cons.mp member with rfl | later
      · exact .queued (by simp [Channel.push])
      · exact .left later
    | queued member => exact .queued (List.mem_append_left _ member)
    | taken busy free => exact .taken busy free
    | running found task going => exact .running found task going
  | @work actor after done =>
    left
    cases done with
    | received waiting upcoming =>
      cases carried with
      | left member => exact .left member
      | queued member =>
        rw [upcoming] at member
        rcases List.mem_cons.mp member with rfl | later
        · exact .taken (getElem_set_found waiting _) (staffed.unassigned waiting)
        · exact .queued later
      | @taken worker busy free =>
        refine .taken (getElem_set_other busy ?_ _) free
        rintro rfl
        cases waiting.symm.trans busy
      | running found task going => exact .running found task going
    | left _ _ closed => simp [staffed.opened] at closed
  | @begin actor started fulfilling idle =>
    left
    cases carried with
    | left member => exact .left member
    | queued member => exact .queued member
    | @taken worker busy free =>
      by_cases same : worker = actor
      · subst same
        cases fulfilling.symm.trans busy
        have appended : (sweep.backend.runs ++ [⟨orderID, .loading⟩])[sweep.backend.runs.length]? =
            some ⟨orderID, .loading⟩ := by simp
        exact .running (getElem_set_found idle _) appended rfl
      · exact .taken busy (getElem_set_other free same _)
    | @running phase worker place found task going =>
      have apart : worker ≠ actor := by
        rintro rfl
        cases idle.symm.trans found
      have inside := (List.getElem?_eq_some_iff.mp task).1
      exact .running (getElem_set_other found apart _) (by rw [List.getElem?_append_left inside]; exact task) going
  | @proceed actor advanced inner store located acts done =>
    cases carried with
    | left member => exact .inl (.left member)
    | queued member => exact .inl (.queued member)
    | taken busy free => exact .inl (.taken busy free)
    | @running phase worker place found task going =>
      by_cases same : place = advanced
      · subst same
        rcases Backend.advance_settles inv own acts fine done task going with ⟨later, present, still⟩ | settled
        · exact .inl (.running found present still)
        · exact .inr settled
      · obtain ⟨_, _, _, runs, _⟩ := advance_runs acts done
        exact .inl (.running found (by rw [runs]; exact getElem_set_other task same _) going)
  | @fulfilled actor ended finishing other located task finished busy =>
    left
    cases carried with
    | left member => exact .left member
    | queued member => exact .queued member
    | @taken worker carries free =>
      have apart : worker ≠ actor := by
        rintro rfl
        cases located.symm.trans free
      exact .taken (getElem_set_other carries apart _) (getElem_set_other free apart _)
    | @running phase worker place found carries going =>
      refine .running (getElem_set_other found ?_ _) carries going
      rintro rfl
      cases located.symm.trans found
      cases task.symm.trans carries
      cases finished
      cases going

/-- The round is about these ids: what is left of them, queued or with a worker. -/
structure Assigned (ids : List Int) (sweep : Sweep) : Prop where
  begun : sweep.sweeper ≠ .listing
  left : ∀ orderID ∈ sweep.sweeper.left, orderID ∈ ids
  queued : ∀ orderID ∈ sweep.pool.jobs.buffer, orderID ∈ ids
  busy : ∀ (worker : Nat) orderID, sweep.pool.workers[worker]? = some (.fulfilling orderID) → orderID ∈ ids

theorem Assigned.step (assigned : Assigned ids sweep) (staffed : Staffed settings sweep)
    (moved : Sweep.step config settings now sweep action = some next) : Assigned ids next := by
  obtain ⟨begun, left, queued, busy⟩ := assigned
  cases step_cases moved with
  | reclaim waiting | failed waiting => exact absurd waiting begun
  | enqueue upcoming done =>
    obtain ⟨_, rfl⟩ := staffed.processed upcoming done
    simp only [upcoming, Sweeper.left] at left
    refine ⟨by simp, fun orderID member => left orderID (List.mem_cons_of_mem _ member), fun orderID member => ?_, busy⟩
    rcases List.mem_append.mp member with old | new
    · exact queued orderID old
    · exact left orderID (List.mem_singleton.mp new ▸ List.mem_cons_self)
  | work done =>
    cases done with
    | received waiting upcoming =>
      rw [upcoming] at queued
      refine ⟨begun, left, fun orderID member => queued orderID (List.mem_cons_of_mem _ member), ?_⟩
      intro worker orderID located
      rcases getElem_set_cases located with ⟨_, same⟩ | ⟨_, before⟩
      · cases same
        exact queued _ List.mem_cons_self
      · exact busy worker orderID before
    | left _ _ closed => simp [staffed.opened] at closed
  | begin | proceed => exact ⟨begun, left, queued, busy⟩
  | fulfilled =>
    refine ⟨begun, left, queued, fun worker orderID located => ?_⟩
    rcases getElem_set_cases located with ⟨_, same⟩ | ⟨_, before⟩
    · cases same
    · exact busy worker orderID before

/-- The step of the backend that a step of the round makes, if any. -/
theorem step_backend (moved : step config settings now sweep action = some next) :
    next.backend = sweep.backend ∨ ∃ inner, Backend.step config sweep.backend inner = some next.backend ∧
      ((∃ orderID, inner = .fulfill orderID) ∨
        ∃ (worker place : Nat), sweep.jobs[worker]? = some (some place) ∧ advances place inner) := by
  cases step_cases moved with
  | begin => exact .inr ⟨_, rfl, .inl ⟨_, rfl⟩⟩
  | proceed found acts done => exact .inr ⟨_, done, .inr ⟨_, _, found, acts⟩⟩
  | _ => exact .inl rfl

/-- A finalizing call is about the order of its run. -/
theorem advance_outcome {state store : Backend.State} {inner : Backend.Action} (own : Backend.Own state)
    (acts : advances place inner) (done : Backend.step config state inner = some store)
    (found : state.runs[place]? = some task) (outcomes : store.outcomes = state.outcomes ++ [outcome]) :
    outcome.payment.orderID = task.orderID := by
  have grown : state.outcomes ≠ state.outcomes ++ [outcome] := fun same => absurd (congrArg List.length same) (by simp)
  cases Backend.step_cases config done with
  | load | charge | notify => exact absurd outcomes grown
  | cancel located phase | confirm located phase =>
    cases of_decide_eq_true acts
    cases found.symm.trans located
    cases List.append_cancel_left outcomes
    exact own task (List.mem_of_getElem? found) _ (by rw [phase]; rfl)
  | _ => cases acts

/-- Every order of the book is as it was at the start of the round, or it is one of
these, and those of them that are still pending are on their way. -/
structure Settling (ids : List Int) (book : List Entry) (sweep : Sweep) : Prop where
  known : ∃ ledger, Backend.Inv sweep.backend ledger ∧ List.Forall₂ (Backend.Kept ids) book ledger.book ∧
    ∀ entry ∈ ledger.book, entry.order.id ∈ ids → entry.Pending → Carried sweep entry.order.id
  own : Backend.Own sweep.backend
  assigned : Assigned ids sweep

theorem Settling.step (settling : Settling ids book sweep) (staffed : Staffed settings sweep)
    (fine : undisturbed sweep action) (moved : Sweep.step config settings now sweep action = some next) :
    Settling ids book next := by
  obtain ⟨⟨ledger, inv, all, owed⟩, own, assigned⟩ := settling
  obtain ⟨after, kept, related, before, still⟩ : ∃ after, Backend.Inv next.backend after ∧
      List.Forall₂ (Backend.Kept ids) book after.book ∧ (∀ entry ∈ after.book, entry.Pending → entry ∈ ledger.book) ∧
      Backend.Own next.backend := by
    rcases step_backend moved with same | ⟨inner, done, starts | ⟨worker, place, found, acts⟩⟩
    · rw [same]
      exact ⟨ledger, inv, all, fun _ member _ => member, own⟩
    · obtain ⟨orderID, rfl⟩ := starts
      obtain ⟨after, kept, related, before⟩ := Backend.step_kept inv all done nofun fun outcome outcomes => by
        rw [← Option.some.inj done] at outcomes
        exact absurd (congrArg List.length outcomes) (by simp)
      exact ⟨after, kept, related, before, own.step done⟩
    · obtain ⟨task, running, carries⟩ := staffed.busy worker place found
      obtain ⟨after, kept, related, before⟩ := Backend.step_kept inv all done (by rintro _ _ _ _ rfl; cases acts)
        fun outcome outcomes => by
          rw [advance_outcome own acts done running outcomes]
          exact assigned.busy worker task.orderID carries
      exact ⟨after, kept, related, before, own.step done⟩
  refine ⟨⟨after, kept, related, fun entry member named waiting => ?_⟩, still, assigned.step staffed moved⟩
  rcases (owed entry (before entry member waiting) named waiting).step staffed inv own fine assigned.begun moved with
    carried | settled
  · exact carried
  · exact absurd waiting (settled.decided kept.refines member)

/-- At the end of the round all of them are settled. -/
theorem Settling.finished (settling : Settling ids book sweep) (staffed : Staffed settings sweep)
    (emptied : sweep.drained) :
    ∃ ledger, sweep.backend.db.Refines ledger ∧ List.Forall₂ (Backend.Kept ids) book ledger.book ∧
      ∀ entry ∈ ledger.book, entry.order.id ∈ ids → ¬ entry.Pending := by
  obtain ⟨ledger, inv, all, owed⟩ := settling.known
  refine ⟨ledger, inv.refines, all, fun entry member named waiting => ?_⟩
  simp only [drained, Bool.and_eq_true, decide_eq_true_eq, List.isEmpty_iff, List.all_eq_true] at emptied
  obtain ⟨⟨handed, empty⟩, idle⟩ := emptied
  cases owed entry member named waiting with
  | left left => simp [handed, Sweeper.left] at left
  | queued queued => simp [empty] at queued
  | taken busy => cases idle _ (List.mem_of_getElem? busy)
  | running found =>
    obtain ⟨_, _, busy⟩ := staffed.busy _ _ found
    cases idle _ (List.mem_of_getElem? busy)

/-- A round settled the chosen payments of the backlog and left the rest of it, and
every other order, alone. -/
structure Reclaimed (batch : Nat) (cutoff : Int) (before after : Db) (chosen rest : List Payment) : Prop where
  split : (OrderRepository.stalePending before cutoff).Perm (chosen ++ rest)
  size : chosen.length = min batch (OrderRepository.stalePending before cutoff).length
  oldest : ∀ first ∈ chosen, ∀ second ∈ rest, first.createdAt ≤ second.createdAt
  finalized : ∀ payment ∈ chosen, ∃ order row, after.order? payment.orderID = some order ∧
    after.payment? payment.id = some row ∧
    ((order.status = .confirmed ∧ row.status = .paid) ∨ (order.status = .cancelled ∧ row.status = .failed))
  untouched : ∀ orderID ∉ chosen.map (·.orderID), after.order? orderID = before.order? orderID ∧
    after.payments.filter (fun row => row.orderID = orderID) = before.payments.filter (fun row => row.orderID = orderID) ∧
    after.itemsOf orderID = before.itemsOf orderID
  remaining : (OrderRepository.stalePending after cutoff).Perm rest

section

variable {ids : List Int} {olds news : List Entry}

theorem kept_other {old new : Entry} (kept : Backend.Kept ids old new) (other : old.order.id ∉ ids) : new = old :=
  kept.resolve_right fun changed => other changed.1

theorem kept_same {old new : Entry} (kept : Backend.Kept ids old new) :
    new.order.id = old.order.id ∧ new.items = old.items ∧ new.payment.id = old.payment.id := by
  rcases kept with rfl | ⟨_, later⟩
  · exact ⟨rfl, rfl, rfl⟩
  · exact ⟨by rw [later.order], later.items, by rw [later.payment]⟩

theorem kept_entry {old : Entry} (all : List.Forall₂ (Backend.Kept ids) olds news) (member : old ∈ olds) :
    ∃ new ∈ news, Backend.Kept ids old new := by
  induction all with
  | nil => cases member
  | cons kept _ ih =>
    rcases List.mem_cons.mp member with rfl | later
    · exact ⟨_, List.mem_cons_self, kept⟩
    · obtain ⟨new, present, related⟩ := ih later
      exact ⟨new, List.mem_cons_of_mem _ present, related⟩

theorem kept_orders (all : List.Forall₂ (Backend.Kept ids) olds news) (other : orderID ∉ ids) :
    (news.map (·.order)).find? (fun row => row.id = orderID) = (olds.map (·.order)).find? fun row => row.id = orderID := by
  induction all with
  | nil => rfl
  | @cons old new _ _ kept _ ih =>
    by_cases same : old.order.id = orderID
    · rw [kept_other kept (same ▸ other)]
      simp [same]
    · simp [same, (kept_same kept).1, ih]

theorem kept_payments (all : List.Forall₂ (Backend.Kept ids) olds news) (other : orderID ∉ ids) :
    (news.map (·.payment)).filter (fun row => row.orderID = orderID) =
      (olds.map (·.payment)).filter fun row => row.orderID = orderID := by
  induction all with
  | nil => rfl
  | @cons old new _ _ kept _ ih =>
    by_cases same : old.order.id = orderID
    · rw [kept_other kept (same ▸ other), List.map_cons, List.map_cons, List.filter_cons, List.filter_cons, ih]
    · simpa [old.billed, new.billed, same, (kept_same kept).1] using ih

theorem kept_items (all : List.Forall₂ (Backend.Kept ids) olds news) :
    news.flatMap (·.items) = olds.flatMap (·.items) := by
  induction all with
  | nil => rfl
  | cons kept _ ih => rw [List.flatMap_cons, List.flatMap_cons, ih, (kept_same kept).2.1]

/-- What is left of the backlog is what the round was not about. -/
theorem kept_stale (all : List.Forall₂ (Backend.Kept ids) olds news)
    (decided : ∀ entry ∈ news, entry.order.id ∈ ids → ¬ entry.Pending) (cutoff : Int) :
    (news.map (·.payment)).filter (fun row => row.status = .pending ∧ row.createdAt < cutoff) =
      ((olds.map (·.payment)).filter fun row => row.status = .pending ∧ row.createdAt < cutoff).filter
        fun row => row.orderID ∉ ids := by
  induction all with
  | nil => rfl
  | @cons old new _ _ kept _ ih =>
    have rest := ih fun entry member => decided entry (List.mem_cons_of_mem _ member)
    by_cases named : old.order.id ∈ ids
    · have done : new.payment.status ≠ .pending := by
        rw [ne_eq, ← new.pending_iff]
        exact decided new List.mem_cons_self ((kept_same kept).1 ▸ named)
      simp only [List.map_cons, List.filter_cons, done, false_and, decide_false, Bool.false_eq_true, if_false, rest]
      split
      · simp [old.billed, named]
      · rfl
    · rw [kept_other kept named]
      simp only [List.map_cons, List.filter_cons, rest]
      split
      · simp [old.billed, named]
      · rfl

end

/-- The payments of a book carry the ids of distinct orders. -/
theorem stale_distinct {db : Db} {ledger : Ledger} (refines : db.Refines ledger) (cutoff : Int) :
    ((OrderRepository.stalePending db cutoff).map (·.orderID)).Nodup := by
  have distinct : (db.payments.map (·.orderID)).Nodup := by
    rw [refines.payments, List.map_map]
    simpa [Function.comp_def, Entry.billed] using refines.orderIDs
  exact distinct.sublist (List.filter_sublist.map _)

/-- From the book at the end of the round to the tables. -/
theorem reclaimed_of_book {before after : Db} {first last : Ledger} {chosen rest : List Payment}
    (was : before.Refines first) (is : after.Refines last)
    (split : (OrderRepository.stalePending before cutoff).Perm (chosen ++ rest))
    (size : chosen.length = min batch (OrderRepository.stalePending before cutoff).length)
    (oldest : ∀ first ∈ chosen, ∀ second ∈ rest, first.createdAt ≤ second.createdAt)
    (all : List.Forall₂ (Backend.Kept (chosen.map (·.orderID))) first.book last.book)
    (decided : ∀ entry ∈ last.book, entry.order.id ∈ chosen.map (·.orderID) → ¬ entry.Pending) :
    Reclaimed batch cutoff before after chosen rest := by
  refine ⟨split, size, oldest, fun payment member => ?_, fun orderID other => ⟨?_, ?_, ?_⟩, ?_⟩
  · have stale : payment ∈ before.payments :=
      List.mem_of_mem_filter (split.mem_iff.mpr (List.mem_append_left _ member))
    rw [was.payments] at stale
    obtain ⟨old, present, rfl⟩ := List.mem_map.mp stale
    obtain ⟨new, kept, related⟩ := kept_entry all present
    obtain ⟨orderID, _, paymentID⟩ := kept_same related
    have named : new.order.id ∈ chosen.map (·.orderID) := by
      rw [orderID, ← old.billed]
      exact List.mem_map_of_mem member
    refine ⟨new.order, new.payment, ?_, ?_, ?_⟩
    · rw [old.billed, ← orderID]
      exact is.order_found kept
    · rw [← paymentID]
      exact is.payment_found kept
    · exact new.staged.pairs.1.resolve_left fun waiting => decided new kept named waiting.1
  · rw [Db.order?, Db.order?, was.orders, is.orders]
    exact kept_orders all other
  · rw [was.payments, is.payments]
    exact kept_payments all other
  · rw [Db.itemsOf, Db.itemsOf, was.items, is.items, kept_items all]
  · have left : OrderRepository.stalePending after cutoff =
        (OrderRepository.stalePending before cutoff).filter fun row => row.orderID ∉ chosen.map (·.orderID) := by
      rw [OrderRepository.stalePending, OrderRepository.stalePending, was.payments, is.payments]
      exact kept_stale all decided cutoff
    have distinct := (split.map _).nodup_iff.mp (stale_distinct was cutoff)
    rw [List.map_append, List.nodup_append] at distinct
    have gone : chosen.filter (fun row => row.orderID ∉ chosen.map (·.orderID)) = [] := by
      refine List.filter_eq_nil_iff.mpr fun row member => ?_
      simpa using ⟨row, member, rfl⟩
    have kept : rest.filter (fun row => row.orderID ∉ chosen.map (·.orderID)) = rest := by
      refine List.filter_eq_self.mpr fun row member => decide_eq_true fun named => ?_
      exact distinct.2.2 _ named _ (List.mem_map_of_mem member) rfl
    rw [left]
    refine (split.filter _).trans ?_
    rw [List.filter_append, gone, kept, List.nil_append]

/-- The query answers with the orders of the oldest payments of the backlog. -/
theorem listed_oldest
    (answer : OrderRepository.listStalePending db now olderThan limit scan none = .ok orderIDs) :
    ∃ chosen rest : List Payment, (OrderRepository.stalePending db (now - olderThan)).Perm (chosen ++ rest) ∧
      chosen.length = min limit.toNat (OrderRepository.stalePending db (now - olderThan)).length ∧
      (∀ first ∈ chosen, ∀ second ∈ rest, first.createdAt ≤ second.createdAt) ∧
      orderIDs = chosen.map (·.orderID) := by
  cases answer
  have same := (List.perm_insertionSort (fun first second : Payment => first.createdAt ≤ second.createdAt)
    (scan.order (OrderRepository.stalePending db (now - olderThan)))).trans (scan.perm _)
  have sorted := pairwise_sort_by (fun row : Payment => row.createdAt)
    (scan.order (OrderRepository.stalePending db (now - olderThan)))
  generalize List.insertionSort (fun first second : Payment => first.createdAt ≤ second.createdAt)
    (scan.order (OrderRepository.stalePending db (now - olderThan))) = oldestFirst at same sorted ⊢
  refine ⟨oldestFirst.take limit.toNat, oldestFirst.drop limit.toNat, ?_, ?_, ?_, rfl⟩
  · rw [List.take_append_drop]
    exact same.symm
  · rw [List.length_take, same.length_eq]
  · rw [← List.take_append_drop limit.toNat oldestFirst, List.pairwise_append] at sorted
    exact sorted.2.2

/-- A round begins with the query of the sweeper. -/
theorem start_step (moved : step config settings now (start settings state) action = some next)
    (fine : undisturbed (start settings state) action) :
    ∃ scan orderIDs, OrderRepository.listStalePending state.db now settings.staleAfter settings.batch scan none =
      .ok orderIDs ∧ next = { start settings state with sweeper := .enqueueing orderIDs } := by
  have idle {worker : Nat} {held : Worker} (found : (start settings state).pool.workers[worker]? = some held) :
      held = .idle := List.eq_of_mem_replicate (List.mem_of_getElem? found)
  have free {worker : Nat} {job : Option Nat} (found : (start settings state).jobs[worker]? = some job) : job = none :=
    List.eq_of_mem_replicate (List.mem_of_getElem? found)
  cases step_cases moved with
  | @reclaim scan fault orderIDs waiting answer =>
    cases Option.isNone_iff_eq_none.mp fine
    exact ⟨scan, orderIDs, answer, rfl⟩
  | @failed scan fault err waiting answer =>
    cases Option.isNone_iff_eq_none.mp fine
    cases answer
  | enqueue upcoming => cases upcoming
  | work done =>
    cases done with
    | received _ upcoming => cases upcoming
    | left _ _ closed => cases closed
  | begin busy => cases idle busy
  | proceed found | fulfilled found => cases free found

theorem settling_run (settling : Settling ids book sweep) (staffed : Staffed settings sweep)
    (fine : Along (step config settings now) (fun sweep action => undisturbed sweep action) sweep actions)
    (done : run (step config settings now) sweep actions = some final) :
    Staffed settings final ∧ Settling ids book final :=
  run_invariant_along (fun sweep => Staffed settings sweep ∧ Settling ids book sweep)
    (fun _ _ _ both fine moved => ⟨both.1.step moved, both.2.step both.1 fine moved⟩) ⟨staffed, settling⟩ fine done

/-- A round without an error of the database settles the oldest orders of the backlog. -/
theorem round_reclaims {ledger : Ledger} (inv : Backend.Inv state ledger) (own : Backend.Own state)
    (manned : 1 ≤ settings.count) (fits : settings.batch ≤ settings.queueSize)
    (done : run (step config settings now) (start settings state) actions = some sweep)
    (fine : Along (step config settings now) (fun sweep action => undisturbed sweep action) (start settings state) actions)
    (emptied : sweep.drained) : ∃ chosen rest,
      Reclaimed settings.batch.toNat (now - settings.staleAfter) state.db sweep.backend.db chosen rest := by
  cases actions with
  | nil =>
    cases done
    simp [drained, start] at emptied
  | cons action later =>
    obtain ⟨next, moved, remaining⟩ := run_cons_some done
    obtain ⟨first, onward⟩ := fine next moved
    obtain ⟨scan, orderIDs, answer, same⟩ := start_step moved first
    obtain ⟨chosen, rest, split, size, oldest, rfl⟩ := listed_oldest answer
    have staffed := (start_staffed manned fits state).step moved
    have settling : Settling (chosen.map (·.orderID)) ledger.book next := by
      subst same
      refine ⟨⟨ledger, inv, List.forall₂_same.mpr fun entry _ => .inl rfl, fun entry _ named _ => .left named⟩, own,
        by simp, fun _ member => member, fun _ member => (by cases member), fun worker orderID found => ?_⟩
      cases List.eq_of_mem_replicate (List.mem_of_getElem? found)
    obtain ⟨crew, settled⟩ := settling_run settling staffed onward remaining
    obtain ⟨last, refines, all, decided⟩ := settled.finished crew emptied
    exact ⟨chosen, rest, reclaimed_of_book inv.refines refines split size oldest all decided⟩

/-- A round is a history of the backend that goes on. -/
theorem backend_run (done : run (step config settings now) sweep actions = some final) :
    ∃ inner, run (Backend.step config) sweep.backend inner = some final.backend := by
  refine run_invariant (fun final => ∃ inner, run (Backend.step config) sweep.backend inner = some final.backend)
    ?_ ⟨[], rfl⟩ done
  rintro middle action next ⟨inner, reached⟩ moved
  rcases step_backend moved with same | ⟨further, taken, _⟩
  · exact ⟨inner, same ▸ reached⟩
  · exact ⟨inner ++ [further], run_append_done reached (by rw [run_cons, taken]; rfl)⟩

variable (config settings now) in
/-- Rounds one after the other, each from an idle pool to its end and without an
error of the database. -/
inductive Swept (state : Backend.State) : Nat → Backend.State → Prop where
  | start : Swept state 0 state
  | round {middle : Backend.State} {sweep : Sweep} (earlier : Swept state rounds middle)
      (done : run (step config settings now) (start settings middle) actions = some sweep)
      (fine : Along (step config settings now) (fun sweep action => undisturbed sweep action) (start settings middle) actions)
      (emptied : sweep.drained) : Swept state (rounds + 1) sweep.backend

theorem Swept.history (swept : Swept config settings now state rounds final)
    (history : Backend.History config past state) : ∃ longer, Backend.History config longer final := by
  induction swept with
  | start => exact ⟨past, history⟩
  | round _ done _ _ ih =>
    obtain ⟨longer, reached⟩ := ih
    obtain ⟨inner, further⟩ := backend_run done
    exact ⟨longer ++ inner, run_append_done reached further⟩

/-- Every round takes a batch off the backlog. -/
theorem Swept.backlog (swept : Swept config settings now state rounds final)
    (history : Backend.History config past state) (manned : 1 ≤ settings.count)
    (fits : settings.batch ≤ settings.queueSize) :
    (OrderRepository.stalePending final.db (now - settings.staleAfter)).length =
      (OrderRepository.stalePending state.db (now - settings.staleAfter)).length - rounds * settings.batch.toNat := by
  induction swept with
  | start => simp
  | round earlier done fine emptied ih =>
    obtain ⟨longer, reached⟩ := earlier.history history
    obtain ⟨ledger, known⟩ := reached.announcements
    obtain ⟨chosen, rest, reclaimed⟩ := round_reclaims known.inv known.own manned fits done fine emptied
    have before := reclaimed.split.length_eq
    have size := reclaimed.size
    rw [List.length_append] at before
    rw [reclaimed.remaining.length_eq, Nat.succ_mul]
    omega

/-- From every reachable state of the database a round of the sweeper ends within a
bounded number of steps, and it drops no id. If the database reports no error, it
settles exactly the oldest orders of the backlog, as many as a batch holds, and
touches no other order; so rounds enough for the backlog clear it. -/
theorem sweep_reclaims_oldest (history : Backend.History config past state) (positive : 1 ≤ settings.batch)
    (fits : settings.batch ≤ settings.queueSize) (manned : 1 ≤ settings.count) :
    (∀ actions sweep, run (step config settings now) (start settings state) actions = some sweep →
      actions.length ≤ 1 + settings.batch.toNat * (config.maxRetries.toNat + 8) +
        settings.count.toNat * (config.maxRetries.toNat + 6) ∧
      (sweep.drained ∨ ∃ action next, step config settings now sweep action = some next) ∧
      (∀ result ∈ sweep.calls, result = .enqueued) ∧
      (Along (step config settings now) (fun sweep action => undisturbed sweep action) (start settings state) actions →
        sweep.drained → ∃ chosen rest,
          Reclaimed settings.batch.toNat (now - settings.staleAfter) state.db sweep.backend.db chosen rest)) ∧
    ∀ rounds final, Swept config settings now state rounds final →
      (OrderRepository.stalePending final.db (now - settings.staleAfter)).length =
        (OrderRepository.stalePending state.db (now - settings.staleAfter)).length - rounds * settings.batch.toNat ∧
      (rounds = ((OrderRepository.stalePending state.db (now - settings.staleAfter)).length + settings.batch.toNat - 1) /
          settings.batch.toNat →
        OrderRepository.stalePending final.db (now - settings.staleAfter) = []) := by
  refine ⟨fun actions sweep done => ?_, fun rounds final swept => ⟨swept.backlog history manned fits, fun enough => ?_⟩⟩
  · obtain ⟨ledger, known⟩ := history.announcements
    have staffed := staffed_run (start_staffed manned fits state) done
    exact ⟨start_bounded manned fits done, staffed.progress, staffed.calls,
      fun fine emptied => round_reclaims known.inv known.own manned fits done fine emptied⟩
  · rw [← List.length_eq_zero_iff, swept.backlog history manned fits, enough]
    have batch : 0 < settings.batch.toNat := by omega
    have covered := Nat.lt_div_mul_add batch
      (a := (OrderRepository.stalePending state.db (now - settings.staleAfter)).length + settings.batch.toNat - 1)
    omega

/-- Two orders are left pending, the second one younger. -/
def backlog : List Backend.Action :=
  Backend.ordered ++ [.tick 20, .submit 1 [⟨7, 1⟩], .reserve 1 (.failed false), .lookup 1 "later" none, .persist 1 2 2 {}]

/-- Batches of one order. -/
def small : WorkerConfig := { count := 1, queueSize := 2, staleAfter := 10, sweepBatchSize := 1 }

/-- The one worker takes the order and carries out these steps of `Fulfill`. -/
def round (steps : List Backend.Action) : List Action :=
  [.reclaim .stored none, .enqueue .enqueue, .work 0, .begin 0] ++ steps.map (.proceed 0) ++ [.fulfilled 0]

def accepted : List Backend.Action :=
  [.load 0 none, .charge 0 (.latency false "a"), .confirm 0 {}, .notify 0]

def declined : List Backend.Action :=
  [.load 1 none, .charge 1 .deadline, .charge 1 .deadline, .charge 1 .deadline, .cancel 1 .stored {}, .notify 1]

theorem sweep_reclaims_oldest_backlog : ∃ state first second, Backend.History Backend.demo backlog state ∧
    run (step Backend.demo small 60) (start small state) (round accepted) = some first ∧ first.drained ∧
    run (step Backend.demo small 60) (start small first.backend) (round declined) = some second ∧ second.drained ∧
    (OrderRepository.stalePending state.db 50).length = 2 ∧
    (∃ chosen rest, Reclaimed 1 50 state.db first.backend.db chosen rest) ∧
    (OrderRepository.stalePending first.backend.db 50).length = 1 ∧
    OrderRepository.stalePending second.backend.db 50 = [] := by
  obtain ⟨state, first, second, history, accepts, emptied, declines, ended, two, fine, good⟩ : ∃ state first second,
      Backend.History Backend.demo backlog state ∧
      run (step Backend.demo small 60) (start small state) (round accepted) = some first ∧ first.drained ∧
      run (step Backend.demo small 60) (start small first.backend) (round declined) = some second ∧ second.drained ∧
      (OrderRepository.stalePending state.db 50).length = 2 ∧
      decide (Along (step Backend.demo small 60) (fun sweep action => undisturbed sweep action) (start small state)
        (round accepted)) = true ∧
      decide (Along (step Backend.demo small 60) (fun sweep action => undisturbed sweep action)
        (start small first.backend) (round declined)) = true :=
    ⟨_, _, _, rfl, rfl, rfl, rfl, rfl, rfl, rfl, rfl⟩
  obtain ⟨rounds, swept⟩ := @sweep_reclaims_oldest Backend.demo small 60 backlog state history (by decide) (by decide)
    (by decide)
  have once : Swept Backend.demo small 60 state 1 first.backend := .round .start accepts (of_decide_eq_true fine) emptied
  have twice : Swept Backend.demo small 60 state 2 second.backend := .round once declines (of_decide_eq_true good) ended
  obtain ⟨_, _, _, reclaims⟩ := rounds _ first accepts
  refine ⟨state, first, second, history, accepts, emptied, declines, ended, two, reclaims (of_decide_eq_true fine) emptied, ?_, ?_⟩
  · exact (swept 1 first.backend once).1.trans (by rw [show (60 : Int) - small.staleAfter = 50 from rfl, two]; rfl)
  · exact (swept 2 second.backend twice).2 (by rw [show (60 : Int) - small.staleAfter = 50 from rfl, two]; rfl)

end Sweep

end OrderProcessing
