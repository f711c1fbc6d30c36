import OrderProcessing.Workers.Reclaim

/-! What the sweeper is for: an order that was left pending gets its turn, however often
the server crashes and whatever it does between the rounds. -/

namespace OrderProcessing

open Library

namespace Backend

/-- What a crash leaves: the tables and Redis, and a gateway that need not remember anything. -/
def State.crash (state : State) (gateway : FakeGateway) : State :=
  { state with gateway, calls := [], edits := [], runs := [] }

variable {config : Config} {state next final : State} {action : Action} {ledger : Ledger} {cutoff : Int}

theorem Inv.crash (inv : Inv state ledger) (gateway : FakeGateway) : Inv (state.crash gateway) ledger where
  refines := inv.refines
  drafts _ member := by cases member
  edits _ member := by cases member
  held _ member := by cases member

theorem Own.crash (state : State) (gateway : FakeGateway) : Own (state.crash gateway) := fun _ member => by cases member

theorem clock_step (moved : step config state action = some next) : state.clock ≤ next.clock := by
  cases step_cases config moved with
  | tick => exact Nat.le_add_right _ _
  | loadProduct =>
    unfold loadProduct
    split <;> exact le_refl _
  | _ => exact le_refl _

/-- The payments of the book that a sweep with this cutoff finds. -/
def stale (cutoff : Int) (book : List Entry) : Nat :=
  book.countP fun entry => entry.payment.status = .pending ∧ entry.payment.createdAt < cutoff

theorem stale_length {db : Db} (refines : db.Refines ledger) (cutoff : Int) :
    (OrderRepository.stalePending db cutoff).length = stale cutoff ledger.book := by
  rw [OrderRepository.stalePending, refines.payments, ← List.countP_eq_length_filter, List.countP_map]
  rfl

theorem stale_settle {before after : List Entry} {entry : Entry} {staged : Staged status outcome txn}
    (decided : ¬ (entry.settle staged).Pending) :
    stale cutoff (before ++ entry.settle staged :: after) ≤ stale cutoff (before ++ entry :: after) := by
  rw [Entry.pending_iff] at decided
  simp [stale, List.countP_append, List.countP_cons, decided]

/-- A new order is younger than everything that has been pending for some time. -/
theorem persist_stale {call : OrderCall} (past : cutoff ≤ state.clock) (orderID paymentID : Int) (faults : Faults DbError) :
    (OrderRepository.stalePending (persist state index call new orderID paymentID faults).db cutoff).length ≤
      (OrderRepository.stalePending state.db cutoff).length := by
  simp only [persist]
  rcases transact_cases faults 0 state.db (OrderRepository.createOrder_propagates ⟨orderID, paymentID, state.clock⟩ new)
    with ⟨_, err, failed⟩ | ⟨_, _, done, alone⟩
  · rw [failed]
  · obtain ⟨_, _, middle, _, rfl⟩ := OrderRepository.createOrder_effect alone
    have young : ¬ (state.clock : Int) < cutoff := Int.not_lt.mpr past
    simp [done, OrderRepository.stalePending, OrderRepository.paymentRow, young]

/-- No action makes the backlog before an instant of the past longer. -/
theorem step_stale (inv : Inv state ledger) (past : cutoff ≤ state.clock) (moved : step config state action = some next) :
    (OrderRepository.stalePending next.db cutoff).length ≤ (OrderRepository.stalePending state.db cutoff).length := by
  obtain ⟨after, kept, progress⟩ := inv.step_followed moved
  cases progress with
  | placed _ acting =>
    subst acting
    cases step_cases config moved with
    | persist => exact persist_stale past _ _ _
  | idle | refused => rw [stale_length inv.refines, stale_length kept.refines]
  | restated =>
    rw [stale_length inv.refines, stale_length kept.refines]
    rfl
  | confirmed _ _ _ _ _ split | cancelled _ _ _ _ _ _ split =>
    rw [stale_length inv.refines, stale_length kept.refines, split]
    exact stale_settle (by simp [Entry.Pending, Entry.settle])

end Backend

namespace Sweep

variable {config : Config} {settings : WorkerConfig} {state final : Backend.State} {ledger : Ledger}

theorem stale_earlier {cutoff instant : Int} (db : Db) (earlier : instant ≤ cutoff) :
    OrderRepository.stalePending db instant =
      (OrderRepository.stalePending db cutoff).filter fun row => row.createdAt < instant := by
  rw [OrderRepository.stalePending, OrderRepository.stalePending, List.filter_filter]
  refine List.filter_congr fun row _ => ?_
  simp only [← Bool.decide_and, decide_eq_decide]
  constructor
  · rintro ⟨pending, old⟩
    exact ⟨old, pending, old.trans_le earlier⟩
  · rintro ⟨old, pending, _⟩
    exact ⟨pending, old⟩

/-- A round takes from the oldest, so that it takes a batch off every earlier backlog too. -/
theorem Reclaimed.earlier {batch : Nat} {cutoff instant : Int} {before after : Db} {chosen rest : List Payment}
    (reclaimed : Reclaimed batch cutoff before after chosen rest) (earlier : instant ≤ cutoff) :
    (OrderRepository.stalePending after instant).length ≤ (OrderRepository.stalePending before instant).length - batch := by
  rw [stale_earlier before earlier, stale_earlier after earlier, (reclaimed.split.filter _).length_eq,
    (reclaimed.remaining.filter _).length_eq, List.filter_append, List.length_append]
  rcases List.eq_nil_or_concat (rest.filter fun row => row.createdAt < instant) with none | ⟨_, row, some⟩
  · simp [none]
  · have member : row ∈ rest.filter fun row => row.createdAt < instant := by simp [some]
    obtain ⟨left, old⟩ := List.mem_filter.mp member
    have all : chosen.filter (fun row => row.createdAt < instant) = chosen :=
      List.filter_eq_self.mpr fun first taken =>
        decide_eq_true ((reclaimed.oldest first taken row left).trans_lt (of_decide_eq_true old))
    have size := reclaimed.size
    have total := reclaimed.split.length_eq
    have more := List.length_pos_of_mem left
    rw [List.length_append] at total
    rw [all]
    omega

variable (config settings) in
/-- What happens to the server, with the number of rounds of its sweeper that were left alone and met no error of
the database. Whatever else the server does is a step of the backend, and so is every part of a round that is
interrupted. -/
inductive Life (state : Backend.State) : Nat → Backend.State → Prop where
  | start : Life state 0 state
  | act {middle next : Backend.State} (earlier : Life state rounds middle)
      (moved : Backend.step config middle action = some next) : Life state rounds next
  | crash {middle : Backend.State} (earlier : Life state rounds middle) (gateway : FakeGateway) :
      Life state rounds (middle.crash gateway)
  | round {middle : Backend.State} {sweep : Sweep} (earlier : Life state rounds middle)
      (done : run (step config settings middle.clock) (start settings middle) actions = some sweep)
      (fine : Along (step config settings middle.clock) (fun sweep action => undisturbed sweep action)
        (start settings middle) actions)
      (emptied : sweep.drained) : Life state (rounds + 1) sweep.backend

/-- What holds all the time: the books go on, the clock does too, and every round has taken a batch off what was
pending at the start. -/
structure Recovering (settings : WorkerConfig) (instant : Int) (owed rounds : Nat) (ledger : Ledger)
    (state : Backend.State) : Prop where
  own : Backend.Own state
  due : instant + settings.staleAfter ≤ state.clock
  book : ∃ after, Backend.Inv state after ∧ Ledger.Extends ledger after
  fewer : (OrderRepository.stalePending state.db instant).length ≤ owed - rounds * settings.batch.toNat

section

variable {instant : Int} {owed rounds : Nat}

theorem Recovering.act {next : Backend.State} (recovering : Recovering settings instant owed rounds ledger state)
    (aged : 0 ≤ settings.staleAfter) (moved : Backend.step config state action = some next) :
    Recovering settings instant owed rounds ledger next := by
  obtain ⟨own, due, ⟨book, inv, extended⟩, fewer⟩ := recovering
  have later := Backend.clock_step moved
  obtain ⟨after, kept, progress⟩ := inv.step_followed moved
  refine ⟨own.step moved, by omega, ⟨after, kept, extended.trans progress.extends⟩, ?_⟩
  exact (Backend.step_stale inv (by omega) moved).trans fewer

theorem Recovering.crash (recovering : Recovering settings instant owed rounds ledger state) (gateway : FakeGateway) :
    Recovering settings instant owed rounds ledger (state.crash gateway) := by
  obtain ⟨own, due, ⟨book, inv, extended⟩, fewer⟩ := recovering
  exact ⟨Backend.Own.crash state gateway, due, ⟨book, inv.crash gateway, extended⟩, fewer⟩

theorem Recovering.round {sweep : Sweep} (recovering : Recovering settings instant owed rounds ledger state)
    (manned : 1 ≤ settings.count) (fits : settings.batch ≤ settings.queueSize) (aged : 0 ≤ settings.staleAfter)
    (done : run (step config settings state.clock) (start settings state) actions = some sweep)
    (fine : Along (step config settings state.clock) (fun sweep action => undisturbed sweep action)
      (start settings state) actions)
    (emptied : sweep.drained) : Recovering settings instant owed (rounds + 1) ledger sweep.backend := by
  obtain ⟨inner, further⟩ := backend_run done
  have kept := run_invariant (Recovering settings instant owed rounds ledger)
    (fun _ _ _ recovering moved => recovering.act aged moved) recovering further
  obtain ⟨own, due, ⟨book, inv, _⟩, fewer⟩ := recovering
  obtain ⟨chosen, rest, reclaimed⟩ := round_reclaims inv own manned fits done fine emptied
  have taken : (OrderRepository.stalePending sweep.backend.db instant).length ≤ _ := reclaimed.earlier (by omega)
  refine ⟨kept.own, kept.due, kept.book, ?_⟩
  rw [Nat.succ_mul]
  omega

theorem Life.recovering (life : Life config settings state rounds final) (inv : Backend.Inv state ledger)
    (own : Backend.Own state) (manned : 1 ≤ settings.count) (fits : settings.batch ≤ settings.queueSize)
    (aged : 0 ≤ settings.staleAfter) :
    Recovering settings (state.clock - settings.staleAfter)
      (OrderRepository.stalePending state.db (state.clock - settings.staleAfter)).length rounds ledger final := by
  induction life with
  | start => exact ⟨own, by omega, ⟨ledger, inv, .refl ledger⟩, by simp⟩
  | act _ moved ih => exact ih.act aged moved
  | crash _ gateway ih => exact ih.crash gateway
  | round _ done fine emptied ih => exact ih.round manned fits aged done fine emptied

end

end Sweep

end OrderProcessing
