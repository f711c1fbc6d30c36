import OrderProcessing.Backend.Coherence

/-! The gateway's side of a history: what was requested and accepted, and when
a payment may be recorded as paid or failed. -/

namespace OrderProcessing.Backend

open Library

/-- The request the payment of an entry stands for. -/
def chargeRequest (entry : Entry) : ChargeRequest :=
  ⟨entry.payment.idempotencyKey, entry.order.id, totalOf entry.items⟩

/-- Requests come from entries, accepted charges from requests with pairwise
distinct keys, and every transaction id on its way to the tables, or in them, is
the one the gateway recorded. -/
structure Charging (state : State) (ledger : Ledger) : Prop where
  requests : ∀ request ∈ state.requests, ∃ entry ∈ ledger.book, request = chargeRequest entry
  charged : ∀ charge ∈ state.gateway.charged, charge.request ∈ state.requests
  once : (state.gateway.charged.map (·.request.idempotencyKey)).Nodup
  confirming : ∀ worker ∈ state.runs, ∀ payment txnID, worker.phase = .confirming payment txnID →
    state.gateway.recorded payment.idempotencyKey = some ⟨txnID⟩
  paid : ∀ entry ∈ ledger.book, ∀ txnID, entry.payment.providerTxnID = some txnID →
    state.gateway.recorded entry.payment.idempotencyKey = some ⟨txnID⟩

variable {config : Config} {state next final : State} {action : Action} {ledger after : Ledger}

theorem chargeRequest_later {first second : Entry} (later : Ledger.Later first second) :
    chargeRequest second = chargeRequest first := by
  rw [chargeRequest, later.items, later.order, later.payment, chargeRequest]

theorem snapshot_request {entry : Entry} (taken : entry.Snapshot payment) :
    Fulfiller.request payment = chargeRequest entry := by
  rw [Fulfiller.request, taken.key, taken.orderID, taken.amount, entry.amount, chargeRequest]

/-- The action is an attempt that the gateway will accept as a first charge for
the payment. -/
structure Accepting (state : State) (action : Action) (payment : Payment) : Prop where
  attempted : ∃ index uuid worker attempt, action = .charge index (.latency false uuid) ∧
    state.runs[index]? = some worker ∧ worker.phase = .charging payment attempt
  fresh : state.gateway.recorded payment.idempotencyKey = none

theorem accepting_iff {state : State} {action : Action} : Accepting state action payment ↔
    (∃ index uuid worker attempt, action = .charge index (.latency false uuid) ∧
      state.runs[index]? = some worker ∧ worker.phase = .charging payment attempt) ∧
    state.gateway.recorded payment.idempotencyKey = none :=
  ⟨fun accepting => ⟨accepting.attempted, accepting.fresh⟩, fun both => ⟨both.1, both.2⟩⟩

/-- What the gateway and the workers hold after a step. -/
structure GatewayStep (state : State) (action : Action) (next : State) : Prop where
  requests : ∀ request ∈ next.requests, request ∈ state.requests ∨
    ∃ worker ∈ state.runs, ∃ payment, worker.phase.payment? = some payment ∧ request = Fulfiller.request payment
  kept : ∀ request ∈ state.requests, request ∈ next.requests
  charged : next.gateway = state.gateway ∨
    ∃ payment result, Accepting state action payment ∧ Fulfiller.request payment ∈ next.requests ∧
      next.gateway = ⟨state.gateway.charged ++ [⟨Fulfiller.request payment, result⟩]⟩
  confirming : ∀ worker ∈ next.runs, ∀ payment txnID, worker.phase = .confirming payment txnID →
    worker ∈ state.runs ∨ next.gateway.recorded payment.idempotencyKey = some ⟨txnID⟩

/-- A step that leaves the gateway alone, and brings no run to the point of
confirming. -/
theorem GatewayStep.quiet (gateway : next.gateway = state.gateway) (requests : next.requests = state.requests)
    (runs : ∀ worker ∈ next.runs, worker ∈ state.runs ∨ ∀ payment txnID, worker.phase ≠ .confirming payment txnID) :
    GatewayStep state action next where
  requests request member := .inl (requests ▸ member)
  kept request member := requests ▸ member
  charged := .inl gateway
  confirming worker member payment txnID phase := by
    rcases runs worker member with old | other
    · exact .inl old
    · exact absurd phase (other payment txnID)

theorem set_runs (replaced : ∀ payment txnID, new.phase ≠ .confirming payment txnID) :
    ∀ worker ∈ state.runs.set index new, worker ∈ state.runs ∨
      ∀ payment txnID, worker.phase ≠ .confirming payment txnID := by
  intro worker member
  rcases List.mem_or_eq_of_mem_set member with old | rfl
  · exact .inl old
  · exact .inr replaced

theorem charge_gateway (found : state.runs[index]? = some worker)
    (phase : worker.phase = .charging payment attempt) (draw : Draw) :
    GatewayStep state (.charge index draw) (charge config state index worker payment attempt draw) where
  requests request member := by
    rcases List.mem_append.mp member with old | added
    · exact .inl old
    · exact .inr ⟨worker, List.mem_of_getElem? found, payment, by rw [phase]; rfl, List.mem_singleton.mp added⟩
  kept request member := List.mem_append_left _ member
  charged := by
    have outcome : (charge config state index worker payment attempt draw).gateway =
        (state.gateway.charge (Fulfiller.request payment) draw).2 := rfl
    rw [outcome]
    rcases state.gateway.charge_cases (Fulfiller.request payment) draw with
      ⟨_, same⟩ | ⟨_, _, same⟩ | ⟨uuid, rfl, fresh, added⟩
    · exact .inl (by rw [same])
    · exact .inl (by rw [same])
    · exact .inr ⟨payment, _, ⟨⟨index, uuid, worker, attempt, rfl, found, phase⟩, fresh⟩, by simp [charge],
        by rw [added]⟩
  confirming other member held txnID confirming := by
    rcases List.mem_or_eq_of_mem_set member with old | rfl
    · exact .inl old
    · obtain ⟨rfl, result, accepted, rfl⟩ := Fulfiller.afterAttempt_confirming confirming
      exact .inr (FakeGateway.charge_recorded (Prod.ext accepted rfl))

theorem step_gateway (attempts : 1 ≤ config.maxRetries) (moved : step config state action = some next) :
    GatewayStep state action next := by
  have same : ∀ worker ∈ state.runs, worker ∈ state.runs ∨
      ∀ payment txnID, worker.phase ≠ .confirming payment txnID := fun _ member => .inl member
  cases step_cases config moved with
  | charge found phase => exact charge_gateway found phase _
  | load =>
    exact .quiet rfl rfl (set_runs fun _ _ => Fulfiller.afterLoad_confirming attempts)
  | cancel => exact .quiet rfl rfl (set_runs fun _ _ => Fulfiller.afterFinalize_confirming)
  | confirm => exact .quiet rfl rfl (set_runs fun _ _ => Fulfiller.afterFinalize_confirming)
  | notify => exact .quiet rfl rfl (set_runs (by simp))
  | fulfill =>
    refine .quiet rfl rfl fun worker member => ?_
    rcases List.mem_append.mp member with old | added
    · exact .inl old
    · rw [List.mem_singleton.mp added]
      exact .inr (by simp)
  | loadProduct =>
    unfold loadProduct
    split <;> exact .quiet rfl rfl same
  | _ => exact .quiet rfl rfl same

theorem GatewayStep.recorded (moved : GatewayStep state action next)
    (known : state.gateway.recorded key = some result) : next.gateway.recorded key = some result := by
  rcases moved.charged with same | ⟨_, _, _, _, added⟩
  · rw [same]; exact known
  · rw [added, FakeGateway.recorded_append, known]; rfl

theorem Charging.step (charging : Charging state ledger) (inv : Inv state ledger)
    (progress : Progress state action next ledger after) (moved : GatewayStep state action next) :
    Charging next after where
  requests request member := by
    rcases moved.requests request member with old | ⟨worker, running, payment, holds, rfl⟩
    · obtain ⟨entry, present, rfl⟩ := charging.requests request old
      obtain ⟨later, kept, same⟩ := progress.extends entry present
      exact ⟨later, kept, (chargeRequest_later same).symm⟩
    · obtain ⟨entry, present, taken⟩ := inv.held worker running payment holds
      obtain ⟨later, kept, same⟩ := progress.extends entry present
      exact ⟨later, kept, snapshot_request (taken.later same)⟩
  charged charge member := by
    rcases moved.charged with same | ⟨payment, result, _, requested, added⟩
    · rw [same] at member
      exact moved.kept _ (charging.charged charge member)
    · rw [added] at member
      rcases List.mem_append.mp member with old | new
      · exact moved.kept _ (charging.charged charge old)
      · rw [List.mem_singleton.mp new]
        exact requested
  once := by
    rcases moved.charged with same | ⟨payment, result, accepting, _, added⟩
    · rw [same]
      exact charging.once
    · rw [added]
      simpa [List.nodup_append] using ⟨charging.once, FakeGateway.recorded_none.mp accepting.fresh⟩
  confirming worker member payment txnID phase := by
    rcases moved.confirming worker member payment txnID phase with old | recorded
    · exact moved.recorded (charging.confirming worker old payment txnID phase)
    · exact recorded
  paid := by
    -- entries that were there before keep their transaction id
    have old : ∀ entry ∈ ledger.book, ∀ txnID, entry.payment.providerTxnID = some txnID →
        next.gateway.recorded entry.payment.idempotencyKey = some ⟨txnID⟩ :=
      fun entry member txnID set => moved.recorded (charging.paid entry member txnID set)
    cases progress with
    | idle | restated | refused => exact old
    | placed _ _ waiting =>
      intro entry member txnID set
      rcases List.mem_append.mp member with present | new
      · exact old entry present txnID set
      · rw [List.mem_singleton.mp new, waiting.uncharged] at set
        cases set
    | @confirmed payment txn settled worker _ _ _ running phase taken _ split =>
      intro entry member txnID set
      rcases mem_replaced member settled with rfl | present
      · cases set
        have recorded := moved.recorded (charging.confirming worker running payment txn phase)
        rwa [taken.key] at recorded
      · exact old entry (split ▸ present) txnID set
    | @cancelled _ _ _ _ settled _ _ _ _ _ _ _ _ _ split =>
      intro entry member txnID set
      rcases mem_replaced member settled with rfl | present
      · cases set
      · exact old entry (split ▸ present) txnID set

theorem History.charging (history : History config actions state) (attempts : 1 ≤ config.maxRetries) :
    ∃ ledger, Inv state ledger ∧ Charging state ledger := by
  refine run_invariant (fun state => ∃ ledger, Inv state ledger ∧ Charging state ledger) ?_
    ⟨_, inv_initial, ?_⟩ history
  · rintro state action next ⟨ledger, inv, charging⟩ moved
    obtain ⟨after, kept, progress⟩ := inv.step_followed moved
    exact ⟨after, kept, charging.step inv progress (step_gateway attempts moved)⟩
  · refine ⟨?_, ?_, .nil, ?_, ?_⟩ <;> simp [initial]

/-- Two accepted charges for one order would share its key. -/
theorem Charging.one_per_order (charging : Charging state ledger) (inv : Inv state ledger) (orderID : Int) :
    (state.gateway.charged.filter fun charge => charge.request.orderID = orderID).length ≤ 1 := by
  have distinct := charging.once.sublist (List.filter_sublist.map _ :
    ((state.gateway.charged.filter fun charge => charge.request.orderID = orderID).map
      (·.request.idempotencyKey)).Sublist _)
  match listed : state.gateway.charged.filter fun charge => charge.request.orderID = orderID with
  | [] | [_] => simp [listed]
  | first :: second :: rest =>
    have origin : ∀ charge ∈ [first, second], ∃ entry ∈ ledger.book, entry.order.id = orderID ∧
        charge.request.idempotencyKey = entry.payment.idempotencyKey := by
      intro charge member
      have kept : charge ∈ state.gateway.charged.filter fun charge => charge.request.orderID = orderID := by
        rw [listed]
        simp only [List.mem_cons, List.not_mem_nil, or_false] at member ⊢
        tauto
      obtain ⟨accepted, matching⟩ := List.mem_filter.mp kept
      obtain ⟨entry, present, same⟩ := charging.requests _ (charging.charged charge accepted)
      rw [same] at matching ⊢
      exact ⟨entry, present, of_decide_eq_true matching, rfl⟩
    obtain ⟨left, leftMember, leftOrder, leftKey⟩ := origin first (by simp)
    obtain ⟨right, rightMember, rightOrder, rightKey⟩ := origin second (by simp)
    have identical : left = right := List.inj_on_of_nodup_map inv.refines.orderIDs leftMember rightMember
      (leftOrder.trans rightOrder.symm)
    rw [listed] at distinct
    simp [leftKey, rightKey, identical] at distinct

/-- An order is charged at most once, every request carries the key of its
payment and the price of its items at purchase, and a payment is paid only with
the transaction id the gateway recorded for its key. -/
theorem charged_once_and_exactly (attempts : 1 ≤ config.maxRetries) (history : History config actions state) :
    (∀ orderID, (state.gateway.charged.filter fun charge => charge.request.orderID = orderID).length ≤ 1) ∧
    (∀ request ∈ state.requests, ∃ order ∈ state.db.orders, order.id = request.orderID ∧
      request.amount = totalOf (state.db.itemsOf order.id) ∧
      ∃ payment, state.db.payments.filter (fun row => row.orderID = order.id) = [payment] ∧
        request.idempotencyKey = payment.idempotencyKey) ∧
    ∀ payment ∈ state.db.payments, payment.status = .paid → ∃ charge ∈ state.gateway.charged,
      charge.request.idempotencyKey = payment.idempotencyKey ∧
      state.gateway.recorded payment.idempotencyKey = some charge.result ∧
      payment.providerTxnID = some charge.result.transactionID := by
  obtain ⟨ledger, inv, charging⟩ := history.charging attempts
  refine ⟨charging.one_per_order inv, ?_, ?_⟩
  · intro request made
    obtain ⟨entry, member, rfl⟩ := charging.requests request made
    refine ⟨entry.order, ?_, rfl, ?_, entry.payment, payments_of_order inv.refines member, rfl⟩
    · rw [inv.refines.orders]
      exact List.mem_map_of_mem member
    · rw [inv.refines.lines_found member]
      rfl
  · intro payment stored status
    rw [inv.refines.payments] at stored
    obtain ⟨entry, member, rfl⟩ := List.mem_map.mp stored
    obtain ⟨txnID, set⟩ := Option.isSome_iff_exists.mp (entry.staged.pairs.2.mpr status)
    have recorded := charging.paid entry member txnID set
    obtain ⟨charge, found, result⟩ := Option.map_eq_some_iff.mp recorded
    refine ⟨charge, List.mem_of_find?_eq_some found, by simpa using List.find?_some found, ?_, ?_⟩
    · rw [recorded, result]
    · rw [set, result]

theorem charged_once_and_exactly_paid : ∃ state, History demo (ordered ++ paid) state ∧
    state.db.payments.map (·.status) = [.paid] ∧ state.requests.length = 3 ∧
    (∀ orderID, (state.gateway.charged.filter fun charge => charge.request.orderID = orderID).length ≤ 1) ∧
    (∀ request ∈ state.requests, ∃ order ∈ state.db.orders, order.id = request.orderID ∧
      request.amount = totalOf (state.db.itemsOf order.id) ∧
      ∃ payment, state.db.payments.filter (fun row => row.orderID = order.id) = [payment] ∧
        request.idempotencyKey = payment.idempotencyKey) ∧
    ∀ payment ∈ state.db.payments, payment.status = .paid → ∃ charge ∈ state.gateway.charged,
      charge.request.idempotencyKey = payment.idempotencyKey ∧
      state.gateway.recorded payment.idempotencyKey = some charge.result ∧
      payment.providerTxnID = some charge.result.transactionID := by
  obtain ⟨state, history, status, requests⟩ : ∃ state, History demo (ordered ++ paid) state ∧
    state.db.payments.map (·.status) = [.paid] ∧ state.requests.length = 3 := ⟨_, rfl, rfl, rfl⟩
  exact ⟨state, history, status, requests, charged_once_and_exactly (by decide) history⟩

end OrderProcessing.Backend
