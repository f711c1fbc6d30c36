import OrderProcessing.Repository.LockOrder

/-! Why the item query of a cancellation needs an order: whenever it answers two
neighbouring lines out of product order, an order of the two products can get in
between, and both transactions wait for each other. -/

namespace OrderProcessing

open Library

namespace OrderTransaction

abbrev OrderSession := Session Statement DbError AppError Returned Write Key

/-- A cancellation on its way through the answer of its item query, with no row
of the lines that are left changed or locked so far. -/
structure Restocking (db : Db) (rest : List OrderItem) (session : OrderSession) : Prop where
  program : session.program = (OrderRepository.restockItems rest).map .transitioned
  stock : ∀ item ∈ rest, (postgres.applyAll db session.writes).stock? item.productID = db.stock? item.productID
  free : ∀ item ∈ rest, .inventory item.productID ∉ session.held

/-- The line can be given back without overflow. -/
def Restockable (db : Db) (item : OrderItem) : Prop :=
  ∃ level, db.stock? item.productID = some level ∧ 0 ≤ level.quantity + item.quantity ∧
    level.quantity + item.quantity ≤ 2147483647

/-- The first of two sessions gets on while the second has yet to begin. -/
def Reaches (db : Db) (idle session next : OrderSession) : Prop :=
  ∃ moves, run (System.step postgres rowLocks) ⟨db, [session, idle]⟩ moves = some ⟨db, [next, idle]⟩

variable {db : Db} {session middle next idle : OrderSession}

theorem Reaches.refl : Reaches db idle session session := ⟨[], rfl⟩

theorem Reaches.exec {Answer : Type} {stmt : Statement Answer} {outcome : Except DbError (Answer × List Write)}
    {after : Except DbError Answer → Tx Returned}
    (quiet : idle.held = []) (program : session.program = .exec stmt after)
    (reply : postgres.eval stmt (postgres.applyAll db session.writes) = outcome)
    (later : Reaches db idle
      (session.answered after (rowLocks.wanted stmt (postgres.applyAll db session.writes)) false outcome) next) :
    Reaches db idle session next := by
  obtain ⟨moves, reached⟩ := later
  refine ⟨.statement 0 false :: moves, ?_⟩
  rw [run_cons, System.step_statement rfl program (fun other holder located different key _ => ?_),
    System.performed, reply]
  · exact reached
  · match other, located with
    | 1, located =>
      cases located
      simp [quiet]

theorem Restocking.step {item : OrderItem} (restocking : Restocking db (item :: rest) session)
    (restockable : Restockable db item) (apart : item.productID ∉ rest.map (·.productID)) (quiet : idle.held = []) :
    ∃ next, Reaches db idle session next ∧ Restocking db rest next ∧ .inventory item.productID ∈ next.held := by
  obtain ⟨level, found, sign, range⟩ := restockable
  obtain ⟨program, stock, free⟩ := restocking
  have row := (stock item (by simp)).trans found
  have different (other : OrderItem) (later : other ∈ rest) : other.productID ≠ item.productID :=
    fun same => apart (same ▸ List.mem_map_of_mem later)
  have reply : postgres.eval (.restock item.productID item.quantity) (postgres.applyAll db session.writes) =
      .ok (1, [.quantity item.productID (level.quantity + item.quantity)]) := by
    simp only [postgres, evaluate] at row ⊢
    simp only [row]
    exact storeQuantity_ok.mpr ⟨rfl, sign, range⟩
  refine ⟨_, .exec quiet program reply .refl, ⟨rfl, fun other later => ?_, fun other later => ?_⟩, ?_⟩
  · rw [Session.answered, Engine.applyAll_append, ← stock other (by simp [later])]
    have kept : (postgres.applyAll db session.writes).Agree (.inventory other.productID)
        ((postgres.applyAll db session.writes).apply (.quantity item.productID (level.quantity + item.quantity))) :=
      Db.agree_apply _ (by simp [Write.keys, Key.ordinary]) (by simpa [Write.keys] using different other later)
    exact kept.symm
  · simpa [Session.answered, rowLocks, Statement.visible, row, Statement.targets, different other later] using
      free other (by simp [later])
  · simp [Session.answered, rowLocks, Statement.visible, row, Statement.targets]

theorem Reaches.trans (first : Reaches db idle session middle) (second : Reaches db idle middle next) :
    Reaches db idle session next := by
  obtain ⟨moves, reached⟩ := first
  obtain ⟨later, done⟩ := second
  exact ⟨moves ++ later, run_append_done reached done⟩

theorem Restocking.run (restocking : Restocking db (lines ++ rest) session)
    (restockable : ∀ item ∈ lines, Restockable db item) (distinct : ((lines ++ rest).map (·.productID)).Nodup)
    (quiet : idle.held = []) : ∃ next, Reaches db idle session next ∧ Restocking db rest next := by
  induction lines generalizing session with
  | nil => exact ⟨session, .refl, restocking⟩
  | cons item lines ih =>
    obtain ⟨apart, unique⟩ := List.nodup_cons.mp distinct
    obtain ⟨middle, moved, further, _⟩ := restocking.step (restockable item (by simp)) apart quiet
    obtain ⟨next, reached, done⟩ := ih further (fun other member => restockable other (by simp [member])) unique
    exact ⟨next, moved.trans reached, done⟩

/-- The cancellation of an order whose payment is pending gets to its item query. -/
theorem restocking_begins {payment : Payment} (waiting : OrderRepository.Awaiting db payment.id) (scan : Scan)
    (quiet : idle.held = []) :
    ∃ next, Reaches db idle { program := (failCancelAndRestock payment scan).body } next ∧
      Restocking db (scan.order (db.itemsOf payment.orderID)) next := by
  obtain ⟨row, _, _, reply⟩ | ⟨missing, _⟩ := OrderRepository.markFailed_eval db payment.id
  case inr => exact absurd waiting missing
  -- the order row is advanced if it is pending too
  obtain ⟨rows, writes, advanced, settled⟩ : ∃ rows writes, postgres.eval (.advanceOrder payment.orderID .cancelled)
      (db.apply (.paymentStatus payment.id .failed row.providerTxnID)) = .ok (rows, writes) ∧
      (writes = [] ∨ writes = [.orderStatus payment.orderID .cancelled]) := by
    simp only [postgres, evaluate]
    split
    · split
      · exact ⟨_, _, rfl, .inr rfl⟩
      · exact ⟨_, _, rfl, .inl rfl⟩
    · exact ⟨_, _, rfl, .inl rfl⟩
  refine ⟨_, .exec quiet rfl reply (.exec quiet rfl advanced (.exec quiet rfl rfl .refl)), ?_⟩
  refine ⟨?_, fun _ _ => ?_, fun item _ holds => ?_⟩
  · rcases settled with rfl | rfl <;> rfl
  · rcases settled with rfl | rfl <;> rfl
  · rcases Session.answered_held holds with holds | wanted
    · rcases Session.answered_held holds with holds | wanted
      · rcases Session.answered_held holds with holds | wanted
        · cases holds
        · cases List.mem_singleton.mp (wanted_stored wanted).1
      · cases List.mem_singleton.mp (wanted_stored wanted).1
    · cases (wanted_stored wanted).1

/-- A cart of two products, as the order service hands it over. -/
theorem two_lines_built (uuid : String) {low high : Int} (below : low < high) : ∃ userID products requests new,
    OrderService.buildOrder userID uuid products requests = .ok new ∧
      new.items = [⟨0, low, 1, 100⟩, ⟨0, high, 1, 100⟩] := by
  refine ⟨1, [⟨low, "", none, none, 100⟩, ⟨high, "", none, none, 100⟩], [⟨low, 1⟩, ⟨high, 1⟩],
    draft uuid [⟨0, low, 1, 100⟩, ⟨0, high, 1, 100⟩], ?_, rfl⟩
  simp [OrderService.buildOrder, OrderService.buildItems, OrderService.priceByID, OrderService.sortItems, below.ne,
    below.le, draft, totalOf]

/-- A new order of both products takes the lower one and then waits for the
higher one, which the cancellation holds. -/
theorem order_waits {new : NewOrder} {holding : OrderSession} {level : Inventory} (generated : Generated)
    (cart : new.items = [⟨0, low, 1, 100⟩, ⟨0, high, 1, 100⟩]) (stocked : db.stock? low = some level)
    (available : 0 < level.quantity) (range : level.quantity ≤ 2147483647) (known : (db.stock? high).isSome)
    (free : .inventory low ∉ holding.held) (held : .inventory high ∈ holding.held) :
    ∃ ordering : OrderSession, System.step postgres rowLocks
        ⟨db, [holding, { program := (createOrder generated new).body }]⟩ (.statement 1 false) =
          some ⟨db, [holding, ordering]⟩ ∧
      .inventory low ∈ ordering.held ∧ (System.mk db [holding, ordering]).Waits postgres rowLocks 1 0 := by
  obtain ⟨rest, begins, continues⟩ : ∃ rest, (createOrder generated new).body = .exec (.reserve low 1) rest ∧
      rest (.ok 1) = (OrderRepository.reserveItems [⟨0, high, 1, 100⟩]
        (OrderRepository.insertAll generated new)).map .orderID :=
    ⟨_, by rw [body, OrderRepository.createOrder, cart]; rfl, rfl⟩
  have reply : postgres.eval (.reserve low 1) db = .ok (1, [.quantity low (level.quantity - 1)]) := by
    simp only [postgres, evaluate, stocked]
    rw [if_pos (by omega)]
    exact storeQuantity_ok.mpr ⟨rfl, by omega, by omega⟩
  have wanted : rowLocks.wanted (.reserve low 1) db = [.inventory low] := by
    simp [rowLocks, Statement.visible, stocked, Statement.targets]
  let ordering : OrderSession :=
    { program := rest (.ok 1), writes := [.quantity low (level.quantity - 1)], held := [.inventory low] }
  refine ⟨ordering, ?_, by simp [ordering],
    ⟨by decide, ordering, holding, rfl, rfl, .inventory high, ?_, held⟩⟩
  · rw [System.step_statement rfl begins]
    · simp only [System.performed, Engine.applyAll_nil, reply, wanted]
      rfl
    · intro other holder located different key wants
      rw [Engine.applyAll_nil, wanted, List.mem_singleton] at wants
      rcases other with _ | _ | other
      · cases located
        exact wants ▸ free
      · exact absurd rfl different
      · cases located
  · simp [Session.wants, ordering, continues, OrderRepository.reserveItems, Program.map, rowLocks, Statement.visible,
      stock_setQuantity, known, Statement.targets]

/-- Any two neighbouring lines answered out of product order can be turned into a
deadlock, by an order of both products. -/
theorem descending_answer_deadlocks {payment : Payment} {scan : Scan} {before after : List OrderItem}
    {high low : OrderItem} {level : Inventory} (waiting : OrderRepository.Awaiting db payment.id)
    (answer : scan.order (db.itemsOf payment.orderID) = before ++ high :: low :: after)
    (descending : low.productID < high.productID)
    (distinct : ((before ++ high :: low :: after).map (·.productID)).Nodup)
    (restockable : ∀ item ∈ before ++ [high], Restockable db item)
    (stocked : db.stock? low.productID = some level) (available : 0 < level.quantity)
    (range : level.quantity ≤ 2147483647) (uuid : String) (generated : Generated) :
    ∃ userID products requests new, OrderService.buildOrder userID uuid products requests = .ok new ∧
      ∃ moves final,
        interleave [.failCancelAndRestock payment scan, .createOrder generated new] db moves = some final ∧
        final.Waits postgres rowLocks 0 1 ∧ final.Waits postgres rowLocks 1 0 := by
  obtain ⟨userID, products, requests, new, built, cart⟩ := two_lines_built uuid descending
  refine ⟨userID, products, requests, new, built, ?_⟩
  have quiet : ({ program := (createOrder generated new).body } : OrderSession).held = [] := rfl
  obtain ⟨begun, started, restocking⟩ := restocking_begins waiting scan quiet
  rw [answer] at restocking
  -- up to the higher line, which is taken last
  obtain ⟨near, reached, looping⟩ :=
    restocking.run (fun item member => restockable item (by simp [member])) distinct quiet
  obtain ⟨_, unique, _⟩ := List.nodup_append.mp (List.map_append ▸ distinct)
  obtain ⟨apart, _⟩ := List.nodup_cons.mp unique
  obtain ⟨holding, moved, ⟨program, stock, free⟩, held⟩ := looping.step (restockable high (by simp)) apart quiet
  obtain ⟨moves, done⟩ := (started.trans reached).trans moved
  obtain ⟨_, known, _⟩ := restockable high (by simp)
  obtain ⟨ordering, taken, blocks, waits⟩ :=
    order_waits generated cart stocked available range (by simp [known]) (free low (by simp)) held
  refine ⟨moves ++ [.statement 1 false], ⟨db, [holding, ordering]⟩, run_append_done done (by rw [run_cons, taken]; rfl),
    ⟨by decide, holding, ordering, rfl, rfl, .inventory low.productID, ?_, blocks⟩, waits⟩
  have row := (stock low (by simp)).trans stocked
  simp [Session.wants, program, OrderRepository.restockItems, Program.map, rowLocks, Statement.visible, row,
    Statement.targets]

end OrderTransaction

end OrderProcessing
