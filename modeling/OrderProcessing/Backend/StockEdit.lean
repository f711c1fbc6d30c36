import OrderProcessing.Backend.Conservation

/-! A stock edit overwrites the level it read. What was reserved and restocked
between its two steps is lost, except for what cancels out. -/

namespace OrderProcessing.Backend

open Library

/-- Units of a product that a committing `CreateOrder` takes in this step. -/
def reservedUnits (productID : Int) (state : State) : Action → Int
  | .persist index orderID paymentID faults =>
    match state.calls[index]? with
    | some ⟨_, _, .persisting new, _⟩ =>
      let body := OrderRepository.createOrder ⟨orderID, paymentID, state.clock⟩ new
      if (transact faults 0 body state.db).1.2 = none then quantityOf productID new.items else 0
    | _ => 0
  | _ => 0

/-- Units of a product that a committing `FailCancelAndRestock` gives back. -/
def restockedUnits (productID : Int) (state : State) : Action → Int
  | .cancel index scan faults =>
    match state.runs[index]? with
    | some ⟨_, .cancelling payment⟩ =>
      let body := OrderRepository.failCancelAndRestock payment scan
      if (transact faults false body state.db).1 = (true, none) then
        quantityOf productID (state.db.itemsOf payment.orderID)
      else 0
    | _ => 0
  | _ => 0

def reservedIn (config : Config) (productID : Int) (state : State) (actions : List Action) : Int :=
  sumAlong (step config) (reservedUnits productID) state actions

def restockedIn (config : Config) (productID : Int) (state : State) (actions : List Action) : Int :=
  sumAlong (step config) (restockedUnits productID) state actions

variable {config : Config} {state opened middle next final : State} {action : Action} {ledger after : Ledger}

theorem persist_quantity (inv : Inv state ledger) (found : state.calls[index]? = some call)
    (phase : call.phase = .persisting new) (productID : Int) :
    (persist state index call new orderID paymentID faults).db.quantity productID =
      state.db.quantity productID - reservedUnits productID state (.persist index orderID paymentID faults) := by
  have drafted := inv.drafts call (List.mem_of_getElem? found) new phase
  obtain ⟨userID, items, _, acquiredAt⟩ := call
  subst phase
  simp only [persist, reservedUnits, found]
  rcases transact_cases faults 0 state.db
      (OrderRepository.createOrder_propagates ⟨orderID, paymentID, state.clock⟩ new) with
    ⟨_, _, failed⟩ | ⟨_, _, done, alone⟩
  · simp [failed]
  · obtain ⟨_, _, _, stored⟩ := OrderRepository.createOrder_refines inv.refines drafted alone
    simp only [done, ↓reduceIte]
    rw [stored.stock, inv.refines.stock]

theorem cancel_quantity (inv : Inv state ledger) (found : state.runs[index]? = some worker)
    (phase : worker.phase = .cancelling payment) (productID : Int) :
    (cancel state index worker payment scan faults).db.quantity productID =
      state.db.quantity productID + restockedUnits productID state (.cancel index scan faults) := by
  obtain ⟨entry, member, taken⟩ := inv.held worker (List.mem_of_getElem? found) payment (by rw [phase]; rfl)
  obtain ⟨orderID, _⟩ := worker
  subst phase
  simp only [cancel, finalize, restockedUnits, found]
  rcases transact_cases faults false state.db (OrderRepository.failCancelAndRestock_propagates payment scan) with
    ⟨_, _, failed⟩ | ⟨_, _, done, alone⟩
  · simp [failed]
  · rcases OrderRepository.failCancelAndRestock_refines inv.refines member taken alone with
      ⟨rfl, _, _, _, _, stored⟩ | ⟨rfl, _, rfl⟩
    · simp only [done, ↓reduceIte]
      rw [stored.stock, inv.refines.stock, taken.orderID, inv.refines.lines_found member]
    · simp [done]

/-- Between two writes of its level, a product moves by what the committing
transactions reserve and restock. -/
theorem step_quantity (inv : Inv state ledger) (undisturbed : ¬ Restates state productID action)
    (moved : step config state action = some next) :
    next.db.quantity productID = state.db.quantity productID - reservedUnits productID state action +
      restockedUnits productID state action := by
  obtain ⟨after, kept, progress⟩ := inv.step_followed moved
  have quiet : (∀ index orderID paymentID faults, action ≠ .persist index orderID paymentID faults) →
      (∀ index scan faults, action ≠ .cancel index scan faults) →
      next.db.quantity productID = state.db.quantity productID := by
    intro noPersist noCancel
    rw [kept.refines.stock, inv.refines.stock]
    cases progress with
    | idle | refused | confirmed => rfl
    | placed _ acting => exact absurd acting (noPersist _ _ _ _)
    | cancelled _ acting => exact absurd acting (noCancel _ _ _)
    | restated _ writes =>
      have different : productID ≠ _ := fun same => undisturbed (same ▸ writes)
      simp [Ledger.restate, different]
  cases step_cases config moved with
  | persist found phase =>
    rw [persist_quantity inv found phase]
    simp [restockedUnits]
  | cancel found phase =>
    rw [cancel_quantity inv found phase]
    simp [reservedUnits]
  | _ =>
    rw [quiet (by simp) (by simp)]
    simp [reservedUnits, restockedUnits]

theorem gap_quantity (inv : Inv state ledger) (gap : run (step config) state actions = some final)
    (undisturbed : Along (step config) (fun state action => ¬ Restates state productID action) state actions) :
    final.db.quantity productID = state.db.quantity productID -
      reservedIn config productID state actions + restockedIn config productID state actions := by
  refine run_balance (fun state => state.db.quantity productID)
    (fun state => ∃ ledger, Inv state ledger) ?_ ⟨ledger, inv⟩ undisturbed gap
  rintro state action next ⟨ledger, inv⟩ quiet moved
  obtain ⟨after, kept, _⟩ := inv.step_followed moved
  exact ⟨⟨after, kept⟩, step_quantity inv quiet moved⟩

/-- An `UpdateProduct` call that reads in one step and saves in a later one
accounts for the transactions in between exactly when they reserved as many
units of the product as they restocked. -/
theorem stock_edit_exact_iff (history : History config earlier state)
    (loaded : ProductService.load state.db productID request fault = .ok product)
    (opens : step config state (.loadProduct productID request fault) = some opened)
    (gap : run (step config) opened actions = some middle)
    (undisturbed : Along (step config) (fun state action => ¬ Restates state productID action) opened actions)
    (waiting : middle.edits[state.edits.length]? = some (.saving product))
    (saves : step config middle (.saveProduct state.edits.length generated faults) = some final)
    (committed : (transact faults () (ProductRepository.updateProduct generated product) middle.db).1.2 = none) :
    (final.db.quantity productID = request.quantity - reservedIn config productID opened actions +
        restockedIn config productID opened actions ↔
      reservedIn config productID opened actions = restockedIn config productID opened actions) ∧
    (request.quantity = state.db.quantity productID →
      (final.db.quantity productID + final.db.reserved productID =
          state.db.quantity productID + state.db.reserved productID ↔
        reservedIn config productID opened actions = restockedIn config productID opened actions)) := by
  obtain ⟨ledger, inv⟩ := history.inv
  have sameTables : opened.db = state.db := by
    cases opens
    simp [loadProduct, loaded]
  obtain ⟨first, openedInv, _⟩ := inv.step_followed opens
  obtain ⟨last, middleInv, sameTotal⟩ := openedInv.run_total gap undisturbed
  have moved := gap_quantity openedInv gap undisturbed
  -- the save stores the requested quantity, and touches no order
  obtain ⟨inventory, given, requested⟩ := ProductService.load_quantity loaded
  obtain ⟨sameID, _⟩ := ProductService.load_editing loaded
  have stored : final.db.Refines (last.restate productID request.quantity) := by
    have saved : saveProduct middle state.edits.length product generated faults = final := by
      simpa [step, waiting] using saves
    have propagates := ProductRepository.updateProduct_propagates generated product
    rcases transact_cases faults () middle.db propagates with ⟨_, _, failed⟩ | ⟨_, _, done, alone⟩
    · simp [failed] at committed
    · have editing := middleInv.edits product (List.mem_of_getElem? waiting)
      obtain ⟨_, ⟨absent, _⟩ | ⟨row, present, refined⟩⟩ :=
        ProductRepository.updateProduct_refines middleInv.refines editing alone
      · rw [given] at absent
        cases absent
      · rw [given] at present
        cases present
        rw [← saved, ← requested, ← sameID]
        simpa [saveProduct, done] using refined
  have quantity : final.db.quantity productID = request.quantity := by
    rw [stored.stock]
    simp [Ledger.restate]
  have reservations : final.db.reserved productID = middle.db.reserved productID := by
    rw [stored.reserved, middleInv.refines.reserved]
    rfl
  have total := middleInv.total productID
  rw [sameTotal, ← openedInv.total, moved] at total
  rw [quantity, reservations]
  rw [sameTables] at total
  constructor
  · omega
  · intro same
    omega

/-- A new price; the quantity is the one the form was opened with. -/
def reprice : UpdateProductRequest := ⟨"mug", none, none, 600, 10⟩

theorem stock_edit_exact_cancelled : ∃ state opened middle final,
    History demo stocked state ∧ step demo state (.loadProduct 7 reprice none) = some opened ∧
    run (step demo) opened (purchase ++ exhausted) = some middle ∧
    step demo middle (.saveProduct 0 0 {}) = some final ∧ reservedIn demo 7 opened (purchase ++ exhausted) = 2 ∧
    ((final.db.quantity 7 = reprice.quantity - reservedIn demo 7 opened (purchase ++ exhausted) +
        restockedIn demo 7 opened (purchase ++ exhausted) ↔
      reservedIn demo 7 opened (purchase ++ exhausted) = restockedIn demo 7 opened (purchase ++ exhausted)) ∧
    (reprice.quantity = state.db.quantity 7 →
      (final.db.quantity 7 + final.db.reserved 7 = state.db.quantity 7 + state.db.reserved 7 ↔
        reservedIn demo 7 opened (purchase ++ exhausted) = restockedIn demo 7 opened (purchase ++ exhausted)))) := by
  obtain ⟨state, opened, middle, final, product, history, loaded, opens, gap, waiting, saves, committed, units, empty⟩ :
    ∃ state opened middle final product, History demo stocked state ∧
      ProductService.load state.db 7 reprice none = .ok product ∧
      step demo state (.loadProduct 7 reprice none) = some opened ∧
      run (step demo) opened (purchase ++ exhausted) = some middle ∧
      middle.edits[0]? = some (.saving product) ∧
      step demo middle (.saveProduct 0 0 {}) = some final ∧
      (transact {} () (ProductRepository.updateProduct 0 product) middle.db).1.2 = none ∧
      reservedIn demo 7 opened (purchase ++ exhausted) = 2 ∧ state.edits.length = 0 :=
    ⟨_, _, _, _, _, rfl, rfl, rfl, rfl, rfl, rfl, rfl, rfl, rfl⟩
  refine ⟨state, opened, middle, final, history, opens, gap, saves, units, ?_⟩
  refine stock_edit_exact_iff history loaded opens gap (.of_forall ?_) (empty ▸ waiting) (empty ▸ saves) committed
  simp [purchase, exhausted, Restates]

/-- The order in the gap is forgotten: its two units are on stock again, and ten
units on the shelf have become twelve in the books. -/
theorem stock_edit_forgets : ∃ state opened middle final,
    History demo stocked state ∧ step demo state (.loadProduct 7 reprice none) = some opened ∧
    run (step demo) opened purchase = some middle ∧ step demo middle (.saveProduct 0 0 {}) = some final ∧
    reservedIn demo 7 opened purchase = 2 ∧ restockedIn demo 7 opened purchase = 0 ∧
    reprice.quantity = state.db.quantity 7 ∧ middle.db.quantity 7 = 8 ∧
    final.db.quantity 7 = 10 ∧ final.db.quantity 7 ≠ reprice.quantity - 2 + 0 ∧
    state.db.quantity 7 + state.db.reserved 7 = 10 ∧ final.db.quantity 7 + final.db.reserved 7 = 12 :=
  ⟨_, _, _, _, rfl, rfl, rfl, rfl, rfl, rfl, rfl, rfl, rfl, by decide, rfl, rfl⟩

end OrderProcessing.Backend
