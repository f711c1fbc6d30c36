import OrderProcessing.Backend

/-! The invariant that ties the tables to the abstract ledger over all histories,
and what one step of the backend can do to the ledger. -/

namespace OrderProcessing.Backend

open Library

/-- The tables refine the ledger, orders about to be stored are drafts, edits
own the row they will overwrite, and runs hold snapshots of real entries. -/
structure Inv (state : State) (ledger : Ledger) : Prop where
  refines : state.db.Refines ledger
  drafts : ∀ call ∈ state.calls, ∀ new, call.phase = .persisting new → new.Drafted
  edits : ∀ loaded, .saving loaded ∈ state.edits → ProductRepository.Editing state.db loaded
  held : ∀ worker ∈ state.runs, ∀ payment, worker.phase.payment? = some payment →
    ∃ entry ∈ ledger.book, entry.Snapshot payment

/-- The action stores a new stock level for the product. -/
def Restates (state : State) (productID : Int) : Action → Prop
  | .createProduct product inventory faults =>
    product.id = productID ∧
      (transact faults () (ProductRepository.createProduct product inventory) state.db).1.2 = none
  | .saveProduct index generated faults =>
    ∃ loaded, state.edits[index]? = some (.saving loaded) ∧ loaded.product.id = productID ∧
      (transact faults () (ProductRepository.updateProduct generated loaded) state.db).1.2 = none
  | _ => False

/-- What a step does to the ledger and to the list of finalizing calls. -/
inductive Progress (state : State) (action : Action) (next : State) (ledger : Ledger) : Ledger → Prop where
  | idle (outcomes : next.outcomes = state.outcomes) : Progress state action next ledger ledger
  | placed {level : Int → Int} {entry : Entry} (outcomes : next.outcomes = state.outcomes)
      (acting : action = .persist index orderID paymentID faults) (waiting : entry.Pending)
      (levels : ∀ productID, level productID ≤ ledger.stock productID)
      (move : Ledger.Move ledger ⟨level, ledger.book ++ [entry]⟩) :
      Progress state action next ledger ⟨level, ledger.book ++ [entry]⟩
  | restated (outcomes : next.outcomes = state.outcomes) (writes : Restates state productID action) :
      Progress state action next ledger (ledger.restate productID quantity)
  | refused (outcomes : next.outcomes = state.outcomes ++ [outcome]) (lost : outcome.won = false) :
      Progress state action next ledger ledger
  | confirmed {entry : Entry} {worker : Fulfiller.Run} {before after : List Entry}
      (outcomes : next.outcomes = state.outcomes ++ [⟨payment, .paid, true, none⟩])
      (running : worker ∈ state.runs) (phase : worker.phase = .confirming payment txnID)
      (taken : entry.Snapshot payment) (waiting : entry.Pending)
      (split : ledger.book = before ++ entry :: after) :
      Progress state action next ledger ⟨ledger.stock, before ++ entry.confirm txnID :: after⟩
  | cancelled {entry : Entry} {worker : Fulfiller.Run} {before after : List Entry}
      (outcomes : next.outcomes = state.outcomes ++ [⟨payment, .failed, true, none⟩])
      (acting : action = .cancel index scan faults) (found : state.runs[index]? = some worker)
      (phase : worker.phase = .cancelling payment)
      (taken : entry.Snapshot payment) (waiting : entry.Pending)
      (split : ledger.book = before ++ entry :: after) :
      Progress state action next ledger
        ⟨fun productID => ledger.stock productID + quantityOf productID entry.items,
          before ++ entry.cancel :: after⟩

/-- The ledger stays, gets a new level, or makes one of its own moves. -/
theorem Progress.move {state next : State} {ledger after : Ledger} (progress : Progress state action next ledger after) :
    after = ledger ∨
      (∃ productID quantity, Restates state productID action ∧ after = ledger.restate productID quantity) ∨
      Ledger.Move ledger after := by
  cases progress with
  | idle | refused => exact .inl rfl
  | placed _ _ _ _ move => exact .inr (.inr move)
  | restated _ writes => exact .inr (.inl ⟨_, _, writes, rfl⟩)
  | confirmed _ _ _ _ waiting split =>
    obtain ⟨level, book⟩ := ledger
    simp only at split
    subst split
    exact .inr (.inr (.confirm waiting _))
  | cancelled _ _ _ _ _ waiting split =>
    obtain ⟨level, book⟩ := ledger
    simp only at split
    subst split
    exact .inr (.inr (.cancel waiting))

theorem Progress.extends {state next : State} {ledger after : Ledger}
    (progress : Progress state action next ledger after) : Ledger.Extends ledger after := by
  rcases progress.move with rfl | ⟨_, _, _, rfl⟩ | move
  · exact .refl _
  · exact .refl _
  · exact move.extends

theorem transact_cases (faults : Faults DbError) (initial : Value) {body : Tx Value} (db : Db)
    (propagates : body.Propagates) :
    (∃ value err, transact faults initial body db = ((value, some err), db)) ∨
      ∃ value final, transact faults initial body db = ((value, none), final) ∧
        body.atomic postgres db = ((value, none), final) :=
  transaction_cases postgres AppError.database faults initial db propagates

/-- Rows of the order path's transactions keep their product. -/
theorem transact_slots (faults : Faults DbError) (initial : Value) {body : Tx Value} (db : Db)
    (propagates : body.Propagates) (issues : body.Issues KeepsRows) :
    db.slots ⊆ (transact faults initial body db).2.slots := by
  rcases transact_cases faults initial db propagates with ⟨_, _, failed⟩ | ⟨_, _, done, alone⟩
  · rw [failed]
    exact List.Subset.refl _
  · rw [done]
    have kept := atomic_slots issues db
    rwa [alone] at kept

/-- The row a loaded payment comes from. -/
theorem getPendingByOrderID_entry {db : Db} {ledger : Ledger} (refines : db.Refines ledger)
    (loaded : OrderRepository.getPendingByOrderID db orderID fault = .ok payment) :
    ∃ entry ∈ ledger.book, entry.payment = payment ∧ entry.order.id = orderID ∧ entry.Pending := by
  unfold OrderRepository.getPendingByOrderID at loaded
  split at loaded
  · cases loaded
  · split at loaded
    · rename_i row first
      cases loaded
      have chosen := (List.perm_insertionSort _ _).mem_iff.mp (List.mem_of_mem_head? first)
      obtain ⟨member, matching⟩ := List.mem_filter.mp chosen
      simp only [decide_eq_true_eq] at matching
      rw [refines.payments] at member
      obtain ⟨entry, present, rfl⟩ := List.mem_map.mp member
      exact ⟨entry, present, rfl, entry.billed.symm.trans matching.1, entry.pending_iff.mpr matching.2⟩
    · cases loaded

/-- The step is matched by one of the ledger. -/
def Followed (state : State) (action : Action) (next : State) (ledger : Ledger) : Prop :=
  ∃ after, Inv next after ∧ Progress state action next ledger after

namespace Inv

variable {config : Config} {state next : State} {action : Action} {ledger after : Ledger}

/-- What a step has to show beside the refinement: its new drafts, edits and
snapshots. Everything it keeps stays valid while rows and entries live on. -/
theorem follow (inv : Inv state ledger) (progress : Progress state action next ledger after)
    (refines : next.db.Refines after) (slots : state.db.slots ⊆ next.db.slots)
    (drafts : ∀ call ∈ next.calls, call ∈ state.calls ∨
      ∀ new, call.phase = .persisting new → new.Drafted)
    (edits : ∀ loaded, .saving loaded ∈ next.edits → .saving loaded ∈ state.edits ∨
      ProductRepository.Editing next.db loaded)
    (held : ∀ worker ∈ next.runs, ∀ payment, worker.phase.payment? = some payment →
      (∃ old ∈ state.runs, old.phase.payment? = some payment) ∨
        ∃ entry ∈ after.book, entry.Snapshot payment) : Followed state action next ledger := by
  refine ⟨after, ⟨refines, ?_, ?_, ?_⟩, progress⟩
  · intro call member
    rcases drafts call member with old | new
    · exact inv.drafts call old
    · exact new
  · intro loaded member
    rcases edits loaded member with old | new
    · exact (inv.edits loaded old).mono slots
    · exact new
  · intro worker member payment holds
    rcases held worker member payment holds with ⟨old, running, same⟩ | new
    · obtain ⟨entry, present, taken⟩ := inv.held old running payment same
      obtain ⟨later, kept, moved⟩ := progress.extends entry present
      exact ⟨later, kept, taken.later moved⟩
    · exact new

/-- A step that touches neither the tables, nor edits, nor finalizing calls. -/
theorem idle (inv : Inv state ledger) (db : next.db = state.db) (edits : next.edits = state.edits)
    (outcomes : next.outcomes = state.outcomes)
    (drafts : ∀ call ∈ next.calls, call ∈ state.calls ∨
      ∀ new, call.phase = .persisting new → new.Drafted)
    (held : ∀ worker ∈ next.runs, ∀ payment, worker.phase.payment? = some payment →
      (∃ old ∈ state.runs, old.phase.payment? = some payment) ∨
        ∃ entry ∈ ledger.book, entry.Snapshot payment) : Followed state action next ledger :=
  inv.follow (.idle outcomes) (db ▸ inv.refines) (by rw [db]; exact List.Subset.refl _) drafts
    (fun loaded member => .inl (edits ▸ member)) held

/-- The calls of the order service, or the runs, are not touched. -/
theorem sameCalls (calls : next.calls = state.calls) :
    ∀ call ∈ next.calls, call ∈ state.calls ∨ ∀ new, call.phase = .persisting new → new.Drafted :=
  fun _ member => .inl (calls ▸ member)

theorem sameRuns (runs : next.runs = state.runs) :
    ∀ worker ∈ next.runs, ∀ payment, worker.phase.payment? = some payment →
      (∃ old ∈ state.runs, old.phase.payment? = some payment) ∨
        ∃ entry ∈ after.book, entry.Snapshot payment :=
  fun worker member _ holds => .inl ⟨worker, runs ▸ member, holds⟩

/-- One run moved on, holding the payment it held before, or none. -/
theorem setRun (found : state.runs[index]? = some worker)
    (kept : ∀ payment, replaced.phase.payment? = some payment → worker.phase.payment? = some payment) :
    ∀ other ∈ state.runs.set index replaced, ∀ payment, other.phase.payment? = some payment →
      (∃ old ∈ state.runs, old.phase.payment? = some payment) ∨
        ∃ entry ∈ after.book, entry.Snapshot payment := by
  intro other member payment holds
  rcases List.mem_or_eq_of_mem_set member with present | rfl
  · exact .inl ⟨other, present, holds⟩
  · exact .inl ⟨worker, List.mem_of_getElem? found, kept payment holds⟩

/-- One call moved on, to a phase without a new order or with a drafted one. -/
theorem setCall (drafted : ∀ new, replaced.phase = .persisting new → new.Drafted) :
    ∀ call ∈ state.calls.set index replaced, call ∈ state.calls ∨
      ∀ new, call.phase = .persisting new → new.Drafted := by
  intro call member
  rcases List.mem_or_eq_of_mem_set member with present | rfl
  · exact .inl present
  · exact .inr drafted

theorem createUser_followed (inv : Inv state ledger) (user : User) (faults : Faults DbError) :
    Followed state (.createUser user faults)
      { state with db := (transact faults () (UserRepository.createUser user) state.db).2 } ledger := by
  have propagates := UserRepository.createUser_propagates user
  refine inv.follow (.idle rfl) ?_
    (transact_slots faults () state.db propagates (UserRepository.createUser_issues user)) (sameCalls rfl)
    (fun _ member => .inl member) (sameRuns rfl)
  rcases transact_cases faults () state.db propagates with ⟨_, _, failed⟩ | ⟨_, _, done, alone⟩
  · rw [failed]
    exact inv.refines
  · rw [done]
    exact UserRepository.createUser_refines inv.refines alone

theorem createProduct_followed (inv : Inv state ledger) (product : Product) (inventory : Inventory)
    (faults : Faults DbError) :
    Followed state (.createProduct product inventory faults) { state with
      db := (transact faults () (ProductRepository.createProduct product inventory) state.db).2 } ledger := by
  have propagates := ProductRepository.createProduct_propagates product inventory
  have slots := transact_slots faults () state.db propagates
    (ProductRepository.createProduct_issues product inventory)
  rcases transact_cases faults () state.db propagates with ⟨_, _, failed⟩ | ⟨_, _, done, alone⟩
  · rw [failed]
    exact inv.idle rfl rfl rfl (sameCalls rfl) (sameRuns rfl)
  · have writes : Restates state product.id (.createProduct product inventory faults) := ⟨rfl, by rw [done]⟩
    rw [done] at slots ⊢
    exact inv.follow (.restated rfl writes) (ProductRepository.createProduct_refines inv.refines alone) slots
      (sameCalls rfl) (fun _ member => .inl member) (sameRuns rfl)

theorem saveProduct_followed (inv : Inv state ledger) (found : state.edits[index]? = some (.saving loaded))
    (generated : Int) (faults : Faults DbError) :
    Followed state (.saveProduct index generated faults) (saveProduct state index loaded generated faults)
      ledger := by
  have editing := inv.edits loaded (List.mem_of_getElem? found)
  have edits (final : Db) : ∀ other, .saving other ∈ state.edits.set index .returned →
      .saving other ∈ state.edits ∨ ProductRepository.Editing final other := by
    intro other member
    rcases List.mem_or_eq_of_mem_set member with present | impossible
    · exact .inl present
    · cases impossible
  have propagates := ProductRepository.updateProduct_propagates generated loaded
  unfold saveProduct
  rcases transact_cases faults () state.db propagates with ⟨_, _, failed⟩ | ⟨_, final, done, alone⟩
  · rw [failed]
    exact inv.follow (.idle rfl) inv.refines (List.Subset.refl _) (sameCalls rfl) (edits _) (sameRuns rfl)
  · have writes : Restates state loaded.product.id (.saveProduct index generated faults) :=
      ⟨loaded, found, rfl, by rw [done]⟩
    rw [done]
    obtain ⟨slots, ⟨_, kept⟩ | ⟨inventory, _, stored⟩⟩ :=
      ProductRepository.updateProduct_refines inv.refines editing alone
    · exact inv.follow (.idle rfl) kept slots (sameCalls rfl) (edits _) (sameRuns rfl)
    · exact inv.follow (.restated rfl writes) stored slots (sameCalls rfl) (edits _) (sameRuns rfl)

theorem persist_followed (inv : Inv state ledger) (found : state.calls[index]? = some call)
    (phase : call.phase = .persisting new) (orderID paymentID : Int) (faults : Faults DbError) :
    Followed state (.persist index orderID paymentID faults)
      (persist state index call new orderID paymentID faults) ledger := by
  have drafted := inv.drafts call (List.mem_of_getElem? found) new phase
  have propagates := OrderRepository.createOrder_propagates ⟨orderID, paymentID, state.clock⟩ new
  have slots := transact_slots faults 0 state.db propagates
    ((OrderRepository.createOrder_issues _ new).mono fun _ _ issued => issued.keepsRows)
  unfold persist
  rcases transact_cases faults 0 state.db propagates with ⟨_, err, failed⟩ | ⟨_, _, done, alone⟩
  · simp only [failed]
    exact inv.idle rfl rfl rfl (setCall fun _ impossible => by cases impossible) (sameRuns rfl)
  · obtain ⟨_, accepted, move, stored⟩ := OrderRepository.createOrder_refines inv.refines drafted alone
    have levels (productID : Int) : ledger.stock productID - quantityOf productID new.items ≤
        ledger.stock productID := by
      have taken : 0 ≤ quantityOf productID new.items := quantityOf_nonneg accepted.positive
      omega
    have waiting : (OrderRepository.newEntry _ new drafted accepted).Pending := drafted.orderPending
    rw [done] at slots
    simp only [done]
    exact inv.follow (.placed rfl rfl waiting levels move) stored slots
      (setCall fun _ impossible => by cases impossible) (fun _ member => .inl member) (sameRuns rfl)

theorem finalize_held (found : state.runs[index]? = some worker) (message : String)
    (outcome : Bool × Option AppError) :
    ∀ other ∈ state.runs.set index { worker with phase := Fulfiller.afterFinalize message outcome },
      ∀ payment, other.phase.payment? = some payment →
        (∃ old ∈ state.runs, old.phase.payment? = some payment) ∨
          ∃ entry ∈ after.book, entry.Snapshot payment := by
  refine setRun found fun payment holds => ?_
  rw [Fulfiller.afterFinalize_payment] at holds
  cases holds

theorem cancel_followed (inv : Inv state ledger) (found : state.runs[index]? = some worker)
    (phase : worker.phase = .cancelling payment) (scan : Scan) (faults : Faults DbError) :
    Followed state (.cancel index scan faults) (cancel state index worker payment scan faults) ledger := by
  obtain ⟨entry, member, taken⟩ := inv.held worker (List.mem_of_getElem? found) payment (by rw [phase]; rfl)
  have propagates := OrderRepository.failCancelAndRestock_propagates payment scan
  have slots := transact_slots faults false state.db propagates
    ((OrderRepository.failCancelAndRestock_issues payment scan).mono fun _ _ issued => issued.keepsRows)
  unfold cancel finalize
  rcases transact_cases faults false state.db propagates with ⟨_, err, failed⟩ | ⟨_, _, done, alone⟩
  · simp only [failed]
    exact inv.follow (.refused rfl (by simp [Outcome.won])) inv.refines (List.Subset.refl _) (sameCalls rfl)
      (fun _ member => .inl member) (finalize_held found _ _)
  · rw [done] at slots
    simp only [done]
    rcases OrderRepository.failCancelAndRestock_refines inv.refines member taken alone with
      ⟨rfl, waiting, before, after, split, stored⟩ | ⟨rfl, _, rfl⟩
    · exact inv.follow (.cancelled rfl rfl found phase taken waiting split) stored slots (sameCalls rfl)
        (fun _ member => .inl member) (finalize_held found _ _)
    · exact inv.follow (.refused rfl (by simp [Outcome.won])) inv.refines slots (sameCalls rfl)
        (fun _ member => .inl member) (finalize_held found _ _)

theorem confirm_followed (inv : Inv state ledger) (found : state.runs[index]? = some worker)
    (phase : worker.phase = .confirming payment txnID) (faults : Faults DbError) :
    Followed state (.confirm index faults) (confirm state index worker payment txnID faults) ledger := by
  have running := List.mem_of_getElem? found
  obtain ⟨entry, member, taken⟩ := inv.held worker running payment (by rw [phase]; rfl)
  have propagates := OrderRepository.markPaidAndConfirm_propagates payment txnID
  have slots := transact_slots faults false state.db propagates
    ((OrderRepository.markPaidAndConfirm_issues payment txnID).mono fun _ _ issued => issued.keepsRows)
  unfold confirm finalize
  rcases transact_cases faults false state.db propagates with ⟨_, err, failed⟩ | ⟨_, _, done, alone⟩
  · simp only [failed]
    exact inv.follow (.refused rfl (by simp [Outcome.won])) inv.refines (List.Subset.refl _) (sameCalls rfl)
      (fun _ member => .inl member) (finalize_held found _ _)
  · rw [done] at slots
    simp only [done]
    rcases OrderRepository.markPaidAndConfirm_refines inv.refines member taken alone with
      ⟨rfl, waiting, before, after, split, stored⟩ | ⟨rfl, _, rfl⟩
    · exact inv.follow (.confirmed rfl running phase taken waiting split) stored slots (sameCalls rfl)
        (fun _ member => .inl member) (finalize_held found _ _)
    · exact inv.follow (.refused rfl (by simp [Outcome.won])) inv.refines slots (sameCalls rfl)
        (fun _ member => .inl member) (finalize_held found _ _)

theorem load_held (inv : Inv state ledger) (worker : Fulfiller.Run) (fault : Option DbError) :
    ∀ other ∈ (load config state index worker fault).runs, ∀ payment, other.phase.payment? = some payment →
      (∃ old ∈ state.runs, old.phase.payment? = some payment) ∨
        ∃ entry ∈ ledger.book, entry.Snapshot payment := by
  intro other member payment holds
  rcases List.mem_or_eq_of_mem_set member with present | rfl
  · exact .inl ⟨other, present, holds⟩
  · generalize answer : OrderRepository.getPendingByOrderID state.db worker.orderID fault = loaded at holds
    cases loaded with
    | error err => cases holds
    | ok row =>
      simp only [Fulfiller.afterLoad, Fulfiller.loopHead_payment, Option.some.injEq] at holds
      subst holds
      obtain ⟨entry, present, rfl, _⟩ := getPendingByOrderID_entry inv.refines answer
      exact .inr ⟨entry, present, rfl, entry.billed, rfl, rfl⟩

theorem lookup_drafts (call : OrderCall) (uuid : String) (fault : Option DbError) :
    ∀ other ∈ (lookup state index call uuid fault).calls, other ∈ state.calls ∨
      ∀ new, other.phase = .persisting new → new.Drafted := by
  refine setCall fun new persisting => ?_
  simp only at persisting
  split at persisting
  · cases persisting
  · split at persisting
    · cases persisting
    · rename_i built
      cases persisting
      exact OrderService.buildOrder_drafted built

/-- Every step keeps the invariant and is matched by the ledger. -/
theorem step_followed (inv : Inv state ledger) (moved : step config state action = some next) :
    Followed state action next ledger := by
  cases step_cases config moved with
  | createUser => exact inv.createUser_followed _ _
  | createProduct => exact inv.createProduct_followed _ _ _
  | saveProduct found => exact inv.saveProduct_followed found _ _
  | persist found phase => exact inv.persist_followed found phase _ _ _
  | cancel found phase => exact inv.cancel_followed found phase _ _
  | confirm found phase => exact inv.confirm_followed found phase _
  | tick => exact inv.idle rfl rfl rfl (sameCalls rfl) (sameRuns rfl)
  | loadProduct =>
    unfold loadProduct
    split
    · exact inv.idle rfl rfl rfl (sameCalls rfl) (sameRuns rfl)
    · rename_i product loaded
      refine inv.follow (.idle rfl) inv.refines (List.Subset.refl _) (sameCalls rfl) ?_ (sameRuns rfl)
      intro other member
      rcases List.mem_append.mp member with old | added
      · exact .inl old
      · cases List.mem_singleton.mp added
        exact .inr (ProductService.load_editing loaded).2
  | submit =>
    refine inv.idle rfl rfl rfl ?_ (sameRuns rfl)
    intro call member
    rcases List.mem_append.mp member with old | added
    · exact .inl old
    · cases List.mem_singleton.mp added
      refine .inr fun new persisting => ?_
      simp only at persisting
      split at persisting <;> cases persisting
  | reserve found phase =>
    refine inv.idle rfl rfl rfl (setCall fun new persisting => ?_) (sameRuns rfl)
    unfold afterReserve at persisting
    split at persisting <;> cases persisting
  | lookup => exact inv.idle rfl rfl rfl (lookup_drafts _ _ _) (sameRuns rfl)
  | release => exact inv.idle rfl rfl rfl (setCall fun _ impossible => by cases impossible) (sameRuns rfl)
  | fulfill =>
    refine inv.idle rfl rfl rfl (sameCalls rfl) ?_
    intro worker member payment holds
    rcases List.mem_append.mp member with old | added
    · exact .inl ⟨worker, old, holds⟩
    · cases List.mem_singleton.mp added
      cases holds
  | load => exact inv.idle rfl rfl rfl (sameCalls rfl) (inv.load_held _ _)
  | charge found phase =>
    refine inv.idle rfl rfl rfl (sameCalls rfl) (setRun found fun payment holds => ?_)
    rw [Fulfiller.afterAttempt_payment] at holds
    rw [phase]
    exact holds
  | notify found => exact inv.idle rfl rfl rfl (sameCalls rfl) (setRun found fun _ holds => by cases holds)

end Inv

/-- The empty tables refine the empty ledger. -/
theorem inv_initial : Inv initial ⟨fun _ => 0, []⟩ where
  refines := {
    orders := rfl, items := rfl, payments := rfl, stock := fun _ => rfl, orderIDs := .nil
    paymentIDs := .nil, keys := .nil, productIDs := .nil, rowIDs := .nil
    stocked := by simp [initial], carried := by simp [initial] }
  drafts := by simp [initial]
  edits := by simp [initial]
  held := by simp [initial]

variable {config : Config} {state final : State}

theorem Inv.run_extends {ledger : Ledger} (inv : Inv state ledger)
    (done : run (step config) state actions = some final) :
    ∃ after, Inv final after ∧ Ledger.Extends ledger after := by
  induction actions generalizing state ledger with
  | nil => exact ⟨ledger, Option.some.inj done ▸ inv, .refl ledger⟩
  | cons action rest ih =>
    obtain ⟨next, moved, remaining⟩ := run_cons_some done
    obtain ⟨middle, kept, progress⟩ := inv.step_followed moved
    obtain ⟨after, last, onward⟩ := ih kept remaining
    exact ⟨after, last, progress.extends.trans onward⟩

theorem History.inv (history : History config actions state) : ∃ ledger, Inv state ledger := by
  obtain ⟨ledger, inv, _⟩ := inv_initial.run_extends history
  exact ⟨ledger, inv⟩

end OrderProcessing.Backend
