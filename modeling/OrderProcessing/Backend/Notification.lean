import OrderProcessing.Backend.Coherence

/-! Which runs of `Fulfill` send a message: one for each order that was settled,
after its settlement and in agreement with it. -/

namespace OrderProcessing.Backend

open Library

/-- The run is about to call `Send` for the order. -/
def announces (orderID : Int) (worker : Fulfiller.Run) : Bool :=
  worker.orderID = orderID && worker.phase matches .notifying _

/-- Calls of `Send` for the order. -/
def sentFor (orderID : Int) (sent : List (Int × String)) : Nat :=
  sent.countP fun message => message.1 = orderID

/-- The book has the order settled as the message says. -/
def Told (ledger : Ledger) (orderID : Int) (message : String) : Prop :=
  ∃ entry ∈ ledger.book, entry.order.id = orderID ∧
    ((message = Fulfiller.confirmedMessage orderID ∧ entry.order.status = .confirmed) ∨
      (message = Fulfiller.cancelledMessage orderID ∧ entry.order.status = .cancelled))

/-- What a step does to the runs, the finalizing calls and the messages. -/
inductive Announced (state next : State) : Prop where
  | quiet (runs : next.runs = state.runs) (outcomes : next.outcomes = state.outcomes) (sent : next.sent = state.sent)
  | begun (runs : next.runs = state.runs ++ [⟨orderID, .loading⟩]) (outcomes : next.outcomes = state.outcomes)
      (sent : next.sent = state.sent)
  | moved (found : state.runs[index]? = some worker) (silent : ∀ message, worker.phase ≠ .notifying message)
      (runs : next.runs = state.runs.set index { worker with phase })
      (holds : phase = .finished ∨ ∃ payment, phase.payment? = some payment ∧ payment.orderID = worker.orderID)
      (outcomes : next.outcomes = state.outcomes) (sent : next.sent = state.sent)
  | finalized (found : state.runs[index]? = some worker) (silent : ∀ message, worker.phase ≠ .notifying message)
      (held : worker.phase.payment? = some payment)
      (text : (target = .paid ∧ message = Fulfiller.confirmedMessage worker.orderID) ∨
        (target = .failed ∧ message = Fulfiller.cancelledMessage worker.orderID))
      (runs : next.runs = state.runs.set index
        { worker with phase := Fulfiller.afterFinalize message (transitioned, err) })
      (outcomes : next.outcomes = state.outcomes ++ [⟨payment, target, transitioned, err⟩])
      (sent : next.sent = state.sent)
  | notified (found : state.runs[index]? = some worker) (phase : worker.phase = .notifying message)
      (runs : next.runs = state.runs.set index { worker with phase := .finished })
      (outcomes : next.outcomes = state.outcomes) (sent : next.sent = state.sent ++ [(worker.orderID, message)])

/-- Runs hold the payment of their own order. -/
def Own (state : State) : Prop :=
  ∀ worker ∈ state.runs, ∀ payment, worker.phase.payment? = some payment → payment.orderID = worker.orderID

variable {config : Config} {state next final : State} {action : Action} {ledger after : Ledger}

theorem loaded_orderID {db : Db} (loaded : OrderRepository.getPendingByOrderID db orderID fault = .ok payment) :
    payment.orderID = orderID := by
  unfold OrderRepository.getPendingByOrderID at loaded
  split at loaded
  · cases loaded
  · split at loaded
    · rename_i first
      cases loaded
      have chosen := (List.perm_insertionSort _ _).mem_iff.mp (List.mem_of_mem_head? first)
      exact (of_decide_eq_true (List.mem_filter.mp chosen).2).1
    · cases loaded

theorem step_announced (own : Own state) (moved : step config state action = some next) : Announced state next := by
  cases step_cases config moved with
  | tick | createUser | createProduct | saveProduct | submit | reserve | lookup | persist | release =>
    exact .quiet rfl rfl rfl
  | loadProduct =>
    unfold loadProduct
    split <;> exact .quiet rfl rfl rfl
  | fulfill => exact .begun rfl rfl rfl
  | load found phase =>
    refine .moved found (by simp [phase]) rfl ?_ rfl rfl
    generalize answer : OrderRepository.getPendingByOrderID _ _ _ = loaded
    cases loaded with
    | error err => exact .inl rfl
    | ok payment => exact .inr ⟨payment, by rw [Fulfiller.afterLoad, Fulfiller.loopHead_payment], loaded_orderID answer⟩
  | charge found phase =>
    refine .moved found (by simp [phase]) rfl (.inr ⟨_, Fulfiller.afterAttempt_payment, ?_⟩) rfl rfl
    exact own _ (List.mem_of_getElem? found) _ (by rw [phase]; rfl)
  | cancel found phase =>
    exact .finalized found (by simp [phase]) (by rw [phase]; rfl) (.inr ⟨rfl, rfl⟩) rfl rfl rfl
  | confirm found phase =>
    exact .finalized found (by simp [phase]) (by rw [phase]; rfl) (.inl ⟨rfl, rfl⟩) rfl rfl rfl
  | notify found phase => exact .notified found phase rfl rfl rfl

theorem Own.step (own : Own state) (moved : Backend.step config state action = some next) : Own next := by
  intro worker member payment holds
  cases step_announced own moved with
  | quiet runs => exact own worker (runs ▸ member) payment holds
  | begun runs =>
    rw [runs] at member
    rcases List.mem_append.mp member with old | added
    · exact own worker old payment holds
    · cases List.mem_singleton.mp added
      cases holds
  | moved found _ runs phase =>
    rw [runs] at member
    rcases List.mem_or_eq_of_mem_set member with old | rfl
    · exact own worker old payment holds
    · rcases phase with rfl | ⟨kept, same, owner⟩
      · cases holds
      · cases same.symm.trans holds
        exact owner
  | finalized _ _ _ _ runs =>
    rw [runs] at member
    rcases List.mem_or_eq_of_mem_set member with old | rfl
    · exact own worker old payment holds
    · rw [Fulfiller.afterFinalize_payment] at holds
      cases holds
  | notified _ _ runs =>
    rw [runs] at member
    rcases List.mem_or_eq_of_mem_set member with old | rfl
    · exact own worker old payment holds
    · cases holds

/-- Messages sent or about to be sent are as many as the finalizing calls that
performed the transition of the order. -/
def Counted (state : State) : Prop :=
  ∀ orderID, state.runs.countP (announces orderID) + sentFor orderID state.sent = wonFor orderID state.outcomes

theorem announces_silent {worker : Fulfiller.Run} (silent : ∀ message, worker.phase ≠ .notifying message) :
    announces orderID worker = false := by
  unfold announces
  cases phase : worker.phase with
  | notifying message => exact absurd phase (silent message)
  | _ => simp

theorem Counted.step (counted : Counted state) (own : Own state)
    (moved : Backend.step config state action = some next) : Counted next := by
  intro orderID
  have before := counted orderID
  cases step_announced own moved with
  | quiet runs outcomes sent => rw [runs, outcomes, sent]; exact before
  | begun runs outcomes sent =>
    rw [runs, outcomes, sent, List.countP_append]
    simpa [announces] using before
  | moved found silent runs phase outcomes sent =>
    rename_i index worker replaced
    have quiet : announces orderID ⟨worker.orderID, replaced⟩ = false := by
      refine announces_silent fun message notifying => ?_
      rcases phase with rfl | ⟨_, holds, _⟩
      · cases notifying
      · simp only at notifying
        rw [notifying] at holds
        cases holds
    have count := countP_set_found found (announces orderID) ⟨worker.orderID, replaced⟩
    simp only [announces_silent silent, quiet] at count
    rw [runs, outcomes, sent]
    omega
  | finalized found silent held text runs outcomes sent =>
    rename_i index worker payment target message transitioned err
    have owner := own worker (List.mem_of_getElem? found) payment held
    have count := countP_set_found found (announces orderID)
      ⟨worker.orderID, Fulfiller.afterFinalize message (transitioned, err)⟩
    have same : announces orderID ⟨worker.orderID, Fulfiller.afterFinalize message (transitioned, err)⟩ =
        decide ((⟨payment, target, transitioned, err⟩ : Outcome).won ∧ payment.orderID = orderID) := by
      cases err <;> cases transitioned <;> simp [announces, Fulfiller.afterFinalize, Outcome.won, owner]
    simp only [announces_silent silent, same, Bool.false_eq_true, if_false, Nat.add_zero, decide_eq_true_eq] at count
    rw [runs, outcomes, sent, wonFor_append, count, ← before]
    exact Nat.add_right_comm _ _ _
  | notified found phase runs outcomes sent =>
    rename_i index worker message
    have count := countP_set_found found (announces orderID) ⟨worker.orderID, .finished⟩
    have due : announces orderID worker = decide (worker.orderID = orderID) := by simp [announces, phase]
    have done : announces orderID ⟨worker.orderID, .finished⟩ = false := by simp [announces]
    simp only [due, done, decide_eq_true_eq] at count
    rw [runs, outcomes, sent, sentFor, List.countP_append]
    simp only [sentFor] at before
    by_cases same : worker.orderID = orderID <;> simp [same] at count ⊢ <;> omega

theorem Told.extends (told : Told ledger orderID message) (extended : Ledger.Extends ledger after) :
    Told after orderID message := by
  obtain ⟨entry, member, named, text⟩ := told
  obtain ⟨later, kept, moved⟩ := extended entry member
  have settled : ¬ entry.Pending := by
    intro waiting
    have pending : entry.order.status = .pending := waiting
    simp [pending] at text
  rw [moved.settled settled] at kept
  exact ⟨entry, kept, named, text⟩

/-- The finalizing call that performed the transition left the order settled. -/
theorem Progress.told (progress : Progress state action next ledger after)
    (outcomes : next.outcomes = state.outcomes ++ [⟨payment, target, true, none⟩])
    (text : (target = .paid ∧ message = Fulfiller.confirmedMessage payment.orderID) ∨
      (target = .failed ∧ message = Fulfiller.cancelledMessage payment.orderID)) :
    Told after payment.orderID message := by
  cases progress with
  | idle same | placed same | restated same =>
    rw [same] at outcomes
    exact absurd (congrArg List.length outcomes) (by simp)
  | refused same lost =>
    rw [same, List.append_right_inj, List.singleton_inj] at outcomes
    simp [outcomes, Outcome.won] at lost
  | confirmed same running phase taken waiting split =>
    rw [same, List.append_right_inj, List.singleton_inj] at outcomes
    cases outcomes
    rcases text with ⟨_, text⟩ | ⟨impossible, _⟩
    · exact ⟨_, List.mem_append_right _ (.head _), taken.orderID.symm, .inl ⟨text, rfl⟩⟩
    · cases impossible
  | cancelled same acting found phase taken waiting split =>
    rw [same, List.append_right_inj, List.singleton_inj] at outcomes
    cases outcomes
    rcases text with ⟨impossible, _⟩ | ⟨_, text⟩
    · cases impossible
    · exact ⟨_, List.mem_append_right _ (.head _), taken.orderID.symm, .inr ⟨text, rfl⟩⟩

/-- Every message sent, or about to be sent, agrees with the book. -/
structure Truthful (state : State) (ledger : Ledger) : Prop where
  due : ∀ worker ∈ state.runs, ∀ message, worker.phase = .notifying message → Told ledger worker.orderID message
  sent : ∀ message ∈ state.sent, Told ledger message.1 message.2

theorem Truthful.step (truthful : Truthful state ledger) (own : Own state)
    (moved : Backend.step config state action = some next) (progress : Progress state action next ledger after) :
    Truthful next after := by
  have due (worker) (member : worker ∈ state.runs) (message) (phase : worker.phase = .notifying message) :=
    (truthful.due worker member message phase).extends progress.extends
  have sent (message) (member : message ∈ state.sent) := (truthful.sent message member).extends progress.extends
  have replaced {index : Nat} {run : Fulfiller.Run} (runs : next.runs = state.runs.set index run)
      (told : ∀ message, run.phase = .notifying message → Told after run.orderID message) :
      ∀ worker ∈ next.runs, ∀ message, worker.phase = .notifying message → Told after worker.orderID message := by
    intro worker member message phase
    rw [runs] at member
    rcases List.mem_or_eq_of_mem_set member with old | rfl
    · exact due worker old message phase
    · exact told message phase
  cases step_announced own moved with
  | quiet runs _ same => exact ⟨by rw [runs]; exact due, by rw [same]; exact sent⟩
  | begun runs _ same =>
    refine ⟨?_, by rw [same]; exact sent⟩
    intro worker member message phase
    rw [runs] at member
    rcases List.mem_append.mp member with old | added
    · exact due worker old message phase
    · cases List.mem_singleton.mp added
      cases phase
  | moved found silent runs holding _ same =>
    refine ⟨replaced runs fun message phase => ?_, by rw [same]; exact sent⟩
    simp only at phase
    rcases holding with rfl | ⟨_, holds, _⟩
    · cases phase
    · rw [phase] at holds
      cases holds
  | @finalized index worker payment target text transitioned err found silent held written runs outcomes same =>
    refine ⟨replaced runs fun message phase => ?_, by rw [same]; exact sent⟩
    have owner := own worker (List.mem_of_getElem? found) payment held
    simp only [Fulfiller.afterFinalize] at phase
    split at phase <;> cases phase
    rename_i performed
    cases performed
    rw [← owner] at written ⊢
    exact progress.told outcomes written
  | @notified index worker message found phase runs outcomes same =>
    refine ⟨replaced runs nofun, ?_⟩
    intro text member
    rw [same] at member
    rcases List.mem_append.mp member with old | added
    · exact sent text old
    · cases List.mem_singleton.mp added
      exact due worker (List.mem_of_getElem? found) message phase

/-- All that is known of the messages in a reachable state. -/
structure Announcements (state : State) (ledger : Ledger) : Prop where
  inv : Inv state ledger
  tallied : Tallied state ledger
  own : Own state
  counted : Counted state
  truthful : Truthful state ledger

theorem Announcements.step (known : Announcements state ledger) (moved : Backend.step config state action = some next) :
    ∃ after, Announcements next after ∧ Ledger.Extends ledger after := by
  obtain ⟨after, kept, progress⟩ := known.inv.step_followed moved
  exact ⟨after, ⟨kept, progress.tallied known.tallied, known.own.step moved, known.counted.step known.own moved,
    known.truthful.step known.own moved progress⟩, progress.extends⟩

theorem announcements_initial : Announcements initial ⟨fun _ => 0, []⟩ where
  inv := inv_initial
  tallied _ := rfl
  own := by simp [Own, initial]
  counted _ := rfl
  truthful := ⟨by simp [initial], by simp [initial]⟩

theorem History.announcements (history : History config actions state) : ∃ ledger, Announcements state ledger := by
  refine run_invariant (fun state => ∃ ledger, Announcements state ledger) ?_ ⟨_, announcements_initial⟩ history
  rintro state action next ⟨ledger, known⟩ moved
  obtain ⟨after, kept, _⟩ := known.step moved
  exact ⟨after, kept⟩

theorem Announcements.sent_le_one (known : Announcements state ledger) (orderID : Int) :
    sentFor orderID state.sent ≤ 1 := by
  have settled := settledFor_le_one known.inv.refines.orderIDs orderID
  have total := known.counted orderID
  rw [known.tallied orderID] at total
  omega

theorem messages_differ (orderID : Int) : Fulfiller.confirmedMessage orderID ≠ Fulfiller.cancelledMessage orderID := by
  intro same
  have tails : (" is confirmed. Payment received." : String) = " was cancelled: payment could not be processed." :=
    String.append_right_inj _ |>.mp same
  exact absurd tails (by decide)

/-- Over every history `Send` is called at most once for an order, and its
message is the order's status at that time and at every later one. -/
theorem one_truthful_message (history : History config actions state)
    (onward : run (step config) state later = some final) :
    (∀ orderID, sentFor orderID state.sent ≤ 1) ∧
    ∀ orderID message, (orderID, message) ∈ state.sent → ∃ order, final.db.order? orderID = some order ∧
      (message = Fulfiller.confirmedMessage orderID ∨ message = Fulfiller.cancelledMessage orderID) ∧
      (message = Fulfiller.confirmedMessage orderID → order.status = .confirmed) ∧
      (message = Fulfiller.cancelledMessage orderID → order.status = .cancelled) := by
  obtain ⟨ledger, known⟩ := history.announcements
  obtain ⟨last, kept, extended⟩ := known.inv.run_extends onward
  refine ⟨known.sent_le_one, ?_⟩
  intro orderID message member
  obtain ⟨entry, present, rfl, text⟩ := (known.truthful.sent _ member).extends extended
  refine ⟨entry.order, kept.refines.order_found present, ?_⟩
  simp only at text
  have differ := messages_differ entry.order.id
  rcases text with ⟨rfl, status⟩ | ⟨rfl, status⟩
  · exact ⟨.inl rfl, fun _ => status, fun same => absurd same differ⟩
  · exact ⟨.inr rfl, fun same => absurd same.symm differ, fun _ => status⟩

/-- The run that confirmed the order sends its message. -/
def announced : List Action := paid ++ [.notify 0]

theorem one_truthful_message_paid : ∃ state, History demo (ordered ++ announced) state ∧
    state.sent = [(1, Fulfiller.confirmedMessage 1)] ∧ (∀ orderID, sentFor orderID state.sent ≤ 1) ∧
    ∀ orderID message, (orderID, message) ∈ state.sent → ∃ order, state.db.order? orderID = some order ∧
      (message = Fulfiller.confirmedMessage orderID ∨ message = Fulfiller.cancelledMessage orderID) ∧
      (message = Fulfiller.confirmedMessage orderID → order.status = .confirmed) ∧
      (message = Fulfiller.cancelledMessage orderID → order.status = .cancelled) := by
  obtain ⟨state, history, sent⟩ : ∃ state, History demo (ordered ++ announced) state ∧
    state.sent = [(1, Fulfiller.confirmedMessage 1)] := ⟨_, rfl, rfl⟩
  exact ⟨state, history, sent, one_truthful_message history run_nil⟩

end OrderProcessing.Backend
