import OrderProcessing.Repository.Order
import OrderProcessing.Repository.Product

/-! What a successful transaction of each repository method does to the tables.
The stock loops are summarised by the change of the quantity of every product. -/

namespace OrderProcessing

open Library

/-- A quantity the column accepts. -/
def Stocked (row : Inventory) : Prop := 0 ≤ row.quantity ∧ row.quantity ≤ 2147483647

/-- `after` differs from `before` only in the quantities of existing inventory
rows, each of which moved by `change` of its product. -/
structure Db.Shifted (change : Int → Int) (before after : Db) : Prop where
  others : after = { before with inventory := after.inventory }
  rowIDs : after.inventory.map (·.id) = before.inventory.map (·.id)
  productIDs : after.inventory.map (·.productID) = before.inventory.map (·.productID)
  present : ∀ productID, (after.stock? productID).isSome = (before.stock? productID).isSome
  quantity : ∀ productID, after.quantity productID = before.quantity productID + change productID
  stocked : (∀ row ∈ before.inventory, Stocked row) → ∀ row ∈ after.inventory, Stocked row

theorem Db.Shifted.refl (db : Db) : db.Shifted (fun _ => 0) db where
  others := rfl
  rowIDs := rfl
  productIDs := rfl
  present _ := rfl
  quantity _ := by simp
  stocked valid := valid

theorem Db.Shifted.trans {first second third : Db} (left : first.Shifted change second)
    (right : second.Shifted more third) :
    first.Shifted (fun productID => change productID + more productID) third where
  others := by rw [right.others, left.others]
  rowIDs := right.rowIDs.trans left.rowIDs
  productIDs := right.productIDs.trans left.productIDs
  present productID := (right.present productID).trans (left.present productID)
  quantity productID := by rw [right.quantity, left.quantity]; omega
  stocked valid := right.stocked (left.stocked valid)

theorem Db.Shifted.congr {before after : Db} (shifted : before.Shifted change after)
    (same : ∀ productID, change productID = other productID) : before.Shifted other after :=
  (funext same : change = other) ▸ shifted

@[simp] theorem setQuantity_id : (Db.setQuantity productID quantity row).id = row.id := by
  unfold Db.setQuantity; split <;> rfl

@[simp] theorem setQuantity_productID :
    (Db.setQuantity productID quantity row).productID = row.productID := by
  unfold Db.setQuantity; split <;> rfl

theorem stock_setQuantity (db : Db) (productID quantity other : Int) :
    (db.apply (.quantity productID quantity)).stock? other =
      (db.stock? other).map (Db.setQuantity productID quantity) := by
  simp only [Db.stock?, Db.apply, List.find?_map]
  congr 2
  funext row
  simp

theorem stock_productID {db : Db} (found : db.stock? productID = some row) : row.productID = productID := by
  simpa using List.find?_some found

/-- Storing a new quantity in an existing row shifts that product alone. -/
theorem shifted_setQuantity {db : Db} (found : db.stock? productID = some row)
    (sign : 0 ≤ quantity) (range : quantity ≤ 2147483647) :
    db.Shifted (fun other => if other = productID then quantity - row.quantity else 0)
      (db.apply (.quantity productID quantity)) where
  others := rfl
  rowIDs := by simp [Db.apply, Function.comp_def]
  productIDs := by simp [Db.apply, Function.comp_def]
  present other := by simp [stock_setQuantity]
  quantity other := by
    rw [Db.quantity, Db.quantity, stock_setQuantity]
    by_cases same : other = productID
    · subst other
      have key := stock_productID found
      simp [found, Db.setQuantity, key]
    · cases absent : db.stock? other with
      | none => simp [same]
      | some current =>
        have key := stock_productID absent
        simp [Db.setQuantity, key, same]
  stocked valid := by
    intro updated member
    obtain ⟨old, present, rfl⟩ := List.mem_map.mp member
    unfold Db.setQuantity
    split
    · exact ⟨sign, range⟩
    · exact valid old present

theorem order_id {db : Db} (found : db.order? orderID = some row) : row.id = orderID := by
  simpa using List.find?_some found

theorem payment_id {db : Db} (found : db.payment? paymentID = some row) : row.id = paymentID := by
  simpa using List.find?_some found

theorem order_absent {db : Db} : db.order? orderID = none ↔ ∀ row ∈ db.orders, row.id ≠ orderID := by
  simp [Db.order?]

theorem payment_absent {db : Db} :
    db.payment? paymentID = none ↔ ∀ row ∈ db.payments, row.id ≠ paymentID := by
  simp [Db.payment?]

/-- An accepted statement passed all its checks and installed its writes. -/
theorem guarded_answer {Answer : Type} {stmt : Statement Answer} {answer : Answer}
    {outcome : Answer × List Write} {db after : Db}
    (shape : evaluate stmt db = guarded checks outcome)
    (done : postgres.answer stmt db = (.ok answer, after)) :
    (∀ check ∈ checks, check.1 = false) ∧ answer = outcome.1 ∧ after = postgres.applyAll db outcome.2 := by
  simp only [Engine.answer, postgres, shape] at done
  cases accepted : guarded checks outcome with
  | error err => simp [accepted] at done
  | ok result =>
    obtain ⟨rfl, passed⟩ := guarded_ok.mp accepted
    simp only [accepted, Prod.mk.injEq, Except.ok.injEq] at done
    exact ⟨passed, done.1.symm, done.2.symm⟩

/-- No inventory row is overwritten as a whole. -/
def KeepsRows (Answer : Type) (stmt : Statement Answer) : Prop := ∀ rowID, .overwritten rowID ∉ stmt.targets

theorem apply_slots (db : Db) (harmless : ∀ rowID, .overwritten rowID ∉ write.keys) :
    db.slots ⊆ (db.apply write).slots := by
  cases write with
  | quantity => simp [Db.slots, Db.apply, Function.comp_def]
  | newInventory => simp [Db.slots, Db.apply]
  | inventoryRow row => exact absurd (by simp [Write.keys]) (harmless row.id)
  | _ => exact fun _ member => member

theorem answer_slots (Answer : Type) (stmt : Statement Answer) (db : Db) (keeps : KeepsRows Answer stmt) :
    db.slots ⊆ (postgres.answer stmt db).2.slots := by
  refine postgres.answer_related (fun before after => before.slots ⊆ after.slots) (fun _ => List.Subset.refl _)
    (fun _ _ _ => List.Subset.trans) (fun db write => apply_slots db) db ?_
  exact fun answer writes done write member rowID touched => keeps rowID (evaluate_targets done write member _ touched)

theorem atomic_slots {body : Tx Value} (issues : body.Issues KeepsRows) (db : Db) :
    db.slots ⊆ (body.atomic postgres db).2.slots :=
  Program.atomic_related postgres (fun before after => before.slots ⊆ after.slots)
    (fun _ => List.Subset.refl _) (fun _ _ _ => List.Subset.trans) answer_slots issues db

/-- A table under a key that the statement does not write stays as it is. -/
theorem answer_kept {Table : Type} {table : Db → Table} {key : Key}
    (foreign : ∀ db write, key ∉ write.keys → table (db.apply write) = table db) (Answer : Type)
    (stmt : Statement Answer) (db : Db) (avoids : key ∉ stmt.targets) :
    table (postgres.answer stmt db).2 = table db := by
  refine postgres.answer_related (fun before after => table after = table before) (fun _ => rfl)
    (fun _ _ _ first second => second.trans first) foreign db ?_
  exact fun answer writes done write member touched => avoids (evaluate_targets done write member _ touched)

/-- The same for a transaction none of whose statements writes it. -/
theorem transact_kept {Table : Type} {table : Db → Table} {key : Key}
    (foreign : ∀ db write, key ∉ write.keys → table (db.apply write) = table db) {body : Tx Value}
    (issues : body.Issues fun _ stmt => key ∉ stmt.targets) (propagates : body.Propagates) (faults : Faults DbError)
    (initial : Value) (db : Db) : table (transact faults initial body db).2 = table db := by
  rcases transaction_cases postgres AppError.database faults initial db propagates with
    ⟨_, _, failed⟩ | ⟨_, _, done, alone⟩
  · rw [transact, failed]
  · have related := Program.atomic_related postgres (fun before after => table after = table before) (fun _ => rfl)
      (fun _ _ _ first second => second.trans first) (answer_kept foreign) issues db
    rw [alone] at related
    rw [transact, done]
    exact related

theorem apply_users (db : Db) (write : Write) (foreign : .users ∉ write.keys) : (db.apply write).users = db.users := by
  cases write with
  | newUser => exact absurd (by simp [Write.keys]) foreign
  | _ => rfl

theorem apply_products (db : Db) (write : Write) (foreign : .products ∉ write.keys) :
    (db.apply write).products = db.products := by
  cases write with
  | newProduct | productRow => exact absurd (by simp [Write.keys]) foreign
  | _ => rfl

theorem ProductRepository.createProduct_issues (product : Product) (inventory : Inventory) :
    (createProduct product inventory).Issues KeepsRows := by
  refine .exec (by simp [KeepsRows, Statement.targets]) fun
    | .error _ => .done
    | .ok _ => ?_
  exact .exec (by simp [KeepsRows, Statement.targets]) fun
    | .error _ => .done
    | .ok _ => .done

theorem UserRepository.createUser_issues (user : User) : (createUser user).Issues KeepsRows :=
  .exec (by simp [KeepsRows, Statement.targets]) fun
    | .error _ => .done
    | .ok _ => .done

namespace OrderRepository

theorem Issued.keepsRows {stmt : Statement Answer} (issued : Issued Answer stmt) : KeepsRows Answer stmt := by
  intro rowID
  cases stmt <;> simp_all [Issued, Statement.targets]

theorem Issued.avoids {stmt : Statement Answer} (issued : Issued Answer stmt) :
    .users ∉ stmt.targets ∧ .products ∉ stmt.targets := by
  cases stmt <;> simp_all [Issued, Statement.targets]

/-- The transactions of the order path touch neither users nor products. -/
theorem transact_catalogue {body : Tx Value} (issues : body.Issues Issued) (propagates : body.Propagates)
    (faults : Faults DbError) (initial : Value) (db : Db) :
    (transact faults initial body db).2.users = db.users ∧
      (transact faults initial body db).2.products = db.products :=
  ⟨transact_kept apply_users (issues.mono fun _ _ issued => issued.avoids.1) propagates faults initial db,
    transact_kept apply_products (issues.mono fun _ _ issued => issued.avoids.2) propagates faults initial db⟩

theorem reserve_answer {db : Db} (done : postgres.answer (.reserve productID quantity) db = (.ok rows, after))
    (matched : rows = 1) :
    (db.stock? productID).isSome ∧ quantity ≤ db.quantity productID ∧
      db.Shifted (fun other => if other = productID then -quantity else 0) after := by
  simp only [Engine.answer, postgres, evaluate] at done
  cases found : db.stock? productID with
  | none => simp [found] at done; omega
  | some row =>
    by_cases enough : quantity ≤ row.quantity
    · simp only [found, enough, ↓reduceIte] at done
      cases stored : storeQuantity productID (row.quantity - quantity) with
      | error err => simp [stored] at done
      | ok outcome =>
        obtain ⟨rfl, sign, range⟩ := storeQuantity_ok.mp stored
        simp only [stored, Prod.mk.injEq] at done
        obtain ⟨_, rfl⟩ := done
        refine ⟨by simp, by simpa [Db.quantity, found] using enough, ?_⟩
        refine (shifted_setQuantity found sign range).congr fun other => ?_
        split <;> omega
    · simp [found, enough] at done; omega

theorem restock_answer {db : Db} (present : (db.stock? productID).isSome)
    (done : postgres.answer (.restock productID quantity) db = (.ok rows, after)) :
    db.Shifted (fun other => if other = productID then quantity else 0) after := by
  simp only [Engine.answer, postgres, evaluate] at done
  obtain ⟨row, found⟩ := Option.isSome_iff_exists.mp present
  simp only [found] at done
  cases stored : storeQuantity productID (row.quantity + quantity) with
  | error err => simp [stored] at done
  | ok outcome =>
    obtain ⟨rfl, sign, range⟩ := storeQuantity_ok.mp stored
    simp only [stored, Prod.mk.injEq] at done
    obtain ⟨_, rfl⟩ := done
    refine (shifted_setQuantity found sign range).congr fun other => ?_
    split <;> omega

/-- The reserve loop lowers every listed product by the quantities of its
lines, or the transaction does not succeed. -/
theorem reserveItems_effect {db : Db} (success : (reserveItems items rest).atomic postgres db = ((value, none), final)) :
    ∃ middle, db.Shifted (fun productID => -quantityOf productID items) middle ∧
      (∀ item ∈ items, (db.stock? item.productID).isSome) ∧
      rest.atomic postgres middle = ((value, none), final) := by
  induction items generalizing db with
  | nil => exact ⟨db, (Db.Shifted.refl db).congr (by simp), by simp, success⟩
  | cons item items ih =>
    obtain ⟨rows, after, reply, success⟩ := Program.answered success fun _ => ⟨_, _, rfl⟩
    by_cases short : rows ≠ 1
    · simp [short, Program.atomic] at success
    · simp only [short, ↓reduceIte] at success
      obtain ⟨present, _, first⟩ := reserve_answer reply (by omega)
      obtain ⟨middle, shifted, stocked, remaining⟩ := ih success
      refine ⟨middle, (first.trans shifted).congr fun productID => ?_, ?_, remaining⟩
      · rw [quantityOf_cons]
        by_cases same : productID = item.productID
        · simp only [same, ↓reduceIte]; omega
        · simp [same, Ne.symm same]
      · intro line member
        rcases List.mem_cons.mp member with same | member
        · subst line; exact present
        · rw [← first.present]; exact stocked line member

theorem restockItems_effect {db : Db} (present : ∀ item ∈ items, (db.stock? item.productID).isSome)
    (success : (restockItems items).atomic postgres db = ((value, none), final)) :
    db.Shifted (fun productID => quantityOf productID items) final ∧ value = true := by
  induction items generalizing db with
  | nil =>
    simp only [restockItems, Program.atomic, Prod.mk.injEq, and_true] at success
    obtain ⟨rfl, rfl⟩ := success
    exact ⟨(Db.Shifted.refl db).congr (by simp), rfl⟩
  | cons item items ih =>
    obtain ⟨rows, after, reply, success⟩ := Program.answered success fun _ => ⟨_, _, rfl⟩
    have first := restock_answer (present item (by simp)) reply
    obtain ⟨shifted, flag⟩ := ih (fun line member => by
      rw [first.present]; exact present line (by simp [member])) success
    refine ⟨(first.trans shifted).congr fun productID => ?_, flag⟩
    rw [quantityOf_cons]
    by_cases same : productID = item.productID
    · simp [same]
    · simp [same, Ne.symm same]

/-- The rows a new order adds under its generated keys. -/
def orderRow (generated : Generated) (new : NewOrder) : Order := { new.order with id := generated.orderID }

def itemRows (generated : Generated) (new : NewOrder) : List OrderItem :=
  new.items.map fun item => { item with orderID := generated.orderID }

def paymentRow (generated : Generated) (new : NewOrder) : Payment :=
  { new.payment with
    id := generated.paymentID, orderID := generated.orderID, createdAt := generated.createdAt }

/-- What the constraints of the schema have checked when an order is stored. -/
structure Accepted (generated : Generated) (new : NewOrder) (db : Db) : Prop where
  freshOrder : ∀ row ∈ db.orders, row.id ≠ generated.orderID
  freshPayment : ∀ row ∈ db.payments, row.id ≠ generated.paymentID
  freshKey : ∀ row ∈ db.payments, row.idempotencyKey ≠ new.payment.idempotencyKey
  buyer : (db.user? new.order.userID).isSome
  positive : ∀ item ∈ new.items, 0 < item.quantity
  distinct : (new.items.map (·.productID)).Nodup
  stocked : ∀ item ∈ new.items, (db.stock? item.productID).isSome

private theorem insertAll_effect {db : Db}
    (success : (insertAll generated new).atomic postgres db = ((value, none), final)) :
    value = generated.orderID ∧
      final = { db with
        orders := db.orders ++ [orderRow generated new]
        orderItems := db.orderItems ++ itemRows generated new
        payments := db.payments ++ [paymentRow generated new] } ∧
      ((∀ item ∈ new.items, (db.stock? item.productID).isSome) → Accepted generated new db) := by
  obtain ⟨orderID, ordered, first, success⟩ := Program.answered success fun fault => by
    cases fault <;> exact ⟨_, _, rfl⟩
  obtain ⟨orderChecks, rfl, rfl⟩ := guarded_answer rfl first
  obtain ⟨_, itemised, second, success⟩ := Program.answered success fun _ => ⟨_, _, rfl⟩
  obtain ⟨itemChecks, _, rfl⟩ := guarded_answer rfl second
  obtain ⟨_, completed, third, success⟩ := Program.answered success fun _ => ⟨_, _, rfl⟩
  obtain ⟨paymentChecks, _, rfl⟩ := guarded_answer rfl third
  simp only [Program.atomic, Prod.mk.injEq, and_true] at success
  obtain ⟨rfl, rfl⟩ := success
  refine ⟨rfl, rfl, fun stocked => ?_⟩
  simp only [List.mem_cons, forall_eq_or_imp] at orderChecks paymentChecks
  simp only [Db.itemsValid, List.mem_cons, forall_eq_or_imp] at itemChecks
  obtain ⟨_, _, orderFresh, buyer, _⟩ := orderChecks
  obtain ⟨_, _, checked, unique, _, _⟩ := itemChecks
  obtain ⟨_, _, paymentFresh, keyFresh, _⟩ := paymentChecks
  refine ⟨?_, ?_, ?_, ?_, ?_, ?_, stocked⟩
  · simpa [order_absent] using orderFresh
  · simpa [payment_absent, Engine.applyAll, postgres, Db.apply, Db.payment?] using paymentFresh
  · simpa [Engine.applyAll, postgres, Db.apply] using keyFresh
  · simpa using buyer
  · intro item member
    have line := List.any_eq_false.mp checked { item with orderID := generated.orderID }
      (List.mem_map.mpr ⟨item, member, rfl⟩)
    simp only [Bool.or_eq_true, decide_eq_true_eq, not_or, not_le, not_lt] at line
    exact line.1
  · have pairs : (new.items.map fun item => (generated.orderID, item.productID)).Nodup := by
      simpa [Function.comp_def] using unique
    have factored : (new.items.map fun item => (generated.orderID, item.productID)) =
        (new.items.map (·.productID)).map (Prod.mk generated.orderID) := by
      simp [Function.comp_def]
    rw [factored] at pairs
    exact List.Nodup.of_map _ pairs

/-- A successful `createOrder` lowers the stock of its lines and adds exactly
one order, its items and one payment. -/
theorem createOrder_effect {db : Db}
    (success : (createOrder generated new).atomic postgres db = ((value, none), final)) :
    value = generated.orderID ∧ Accepted generated new db ∧
      ∃ middle, db.Shifted (fun productID => -quantityOf productID new.items) middle ∧
        final = { middle with
          orders := db.orders ++ [orderRow generated new]
          orderItems := db.orderItems ++ itemRows generated new
          payments := db.payments ++ [paymentRow generated new] } := by
  obtain ⟨middle, shifted, stocked, remaining⟩ := reserveItems_effect success
  obtain ⟨rfl, stored, accept⟩ := insertAll_effect remaining
  have accepted := accept fun item member => by rw [shifted.present]; exact stocked item member
  have same := shifted.others
  refine ⟨rfl, ?_, middle, shifted, ?_⟩
  · rw [same] at accepted
    exact { accepted with stocked }
  · rw [stored, same]

/-- The guarded order update: a row that is no longer pending stays as it is. -/
def advanced (db : Db) (orderID : Int) (status : OrderStatus) : Db :=
  match db.order? orderID with
  | some row => if row.status = .pending then db.apply (.orderStatus orderID status) else db
  | none => db

@[simp] theorem advanced_inventory : (advanced db orderID status).inventory = db.inventory := by
  unfold advanced
  split
  · split <;> rfl
  · rfl

@[simp] theorem advanced_orderItems : (advanced db orderID status).orderItems = db.orderItems := by
  unfold advanced
  split
  · split <;> rfl
  · rfl

theorem selectItems_answer (db : Db) (orderID : Int) (scan : Scan) :
    postgres.answer (.selectItems orderID scan) db = (.ok (scan.order (db.itemsOf orderID)), db) := rfl

theorem advanceOrder_answer (db : Db) (orderID : Int) (status : OrderStatus) :
    ∃ rows, postgres.answer (.advanceOrder orderID status) db = (.ok rows, advanced db orderID status) := by
  simp only [Engine.answer, postgres, evaluate, advanced]
  cases found : db.order? orderID with
  | none => exact ⟨0, rfl⟩
  | some row =>
    by_cases pending : row.status = .pending
    · exact ⟨1, by simp [pending, Engine.applyAll]⟩
    · exact ⟨0, by simp [pending, Engine.applyAll]⟩

/-- The payment row is still waiting for its outcome. -/
def Awaiting (db : Db) (paymentID : Int) : Prop :=
  ∃ row, db.payment? paymentID = some row ∧ row.status = .pending

/-- The guarded payment update goes through exactly on a pending row. -/
theorem markPaid_eval (db : Db) (paymentID : Int) (txnID : String) :
    (Awaiting db paymentID ∧ postgres.eval (.markPaid paymentID txnID) db =
        .ok (1, [.paymentStatus paymentID .paid (some txnID)])) ∨
      (¬ Awaiting db paymentID ∧ postgres.eval (.markPaid paymentID txnID) db = .ok (0, [])) := by
  simp only [postgres, evaluate, Awaiting]
  cases found : db.payment? paymentID with
  | none => exact .inr ⟨by simp, rfl⟩
  | some row =>
    by_cases pending : row.status = .pending
    · exact .inl ⟨⟨row, rfl, pending⟩, by simp [pending]⟩
    · exact .inr ⟨by simpa using pending, by simp [pending]⟩

theorem markFailed_eval (db : Db) (paymentID : Int) :
    (∃ row, db.payment? paymentID = some row ∧ row.status = .pending ∧
      postgres.eval (.markFailed paymentID) db = .ok (1, [.paymentStatus paymentID .failed row.providerTxnID])) ∨
      (¬ Awaiting db paymentID ∧ postgres.eval (.markFailed paymentID) db = .ok (0, [])) := by
  simp only [postgres, evaluate, Awaiting]
  cases found : db.payment? paymentID with
  | none => exact .inr ⟨by simp, rfl⟩
  | some row =>
    by_cases pending : row.status = .pending
    · exact .inl ⟨row, rfl, pending, by simp [pending]⟩
    · exact .inr ⟨by simpa using pending, by simp [pending]⟩

theorem markPaidAndConfirm_effect (db : Db) (payment : Payment) (txnID : String) :
    (Awaiting db payment.id ∧ (markPaidAndConfirm payment txnID).atomic postgres db =
        ((true, none), advanced (db.apply (.paymentStatus payment.id .paid (some txnID)))
          payment.orderID .confirmed)) ∨
      (¬ Awaiting db payment.id ∧
        (markPaidAndConfirm payment txnID).atomic postgres db = ((false, none), db)) := by
  rcases markPaid_eval db payment.id txnID with ⟨waiting, reply⟩ | ⟨settled, reply⟩
  · obtain ⟨rows, moved⟩ := advanceOrder_answer
      (db.apply (.paymentStatus payment.id .paid (some txnID))) payment.orderID .confirmed
    have marked := postgres.answer_eval reply
    exact .inl ⟨waiting, by simp [markPaidAndConfirm, Program.atomic, marked, moved]⟩
  · have unmarked := postgres.answer_eval reply
    exact .inr ⟨settled, by simp [markPaidAndConfirm, Program.atomic, unmarked]⟩

/-- Either the payment was settled before and nothing happens, or the order is
cancelled and its lines go back on stock. -/
theorem failCancelAndRestock_effect {db : Db}
    (present : ∀ item ∈ db.itemsOf payment.orderID, (db.stock? item.productID).isSome)
    (success : (failCancelAndRestock payment scan).atomic postgres db = ((value, none), final)) :
    (value = true ∧ ∃ row, db.payment? payment.id = some row ∧ row.status = .pending ∧
      (advanced (db.apply (.paymentStatus payment.id .failed row.providerTxnID))
        payment.orderID .cancelled).Shifted
          (fun productID => quantityOf productID (db.itemsOf payment.orderID)) final) ∨
      (value = false ∧ ¬ Awaiting db payment.id ∧ final = db) := by
  rcases markFailed_eval db payment.id with ⟨row, found, pending, reply⟩ | ⟨settled, reply⟩
  · have marked := postgres.answer_eval reply
    obtain ⟨rows, moved⟩ := advanceOrder_answer
      (db.apply (.paymentStatus payment.id .failed row.providerTxnID)) payment.orderID .cancelled
    simp only [failCancelAndRestock, Program.atomic, marked, Engine.applyAll_cons, Engine.applyAll_nil,
      postgres_apply, ne_eq, not_true_eq_false, ↓reduceIte, moved, selectItems_answer] at success
    have lines := scan.perm (db.itemsOf payment.orderID)
    have unchanged : (advanced (db.apply (.paymentStatus payment.id .failed row.providerTxnID))
        payment.orderID .cancelled).itemsOf payment.orderID = db.itemsOf payment.orderID := by
      simp [Db.itemsOf, Db.apply]
    rw [unchanged] at success
    obtain ⟨shifted, flag⟩ := restockItems_effect (fun item member => by
      simpa [Db.stock?, Db.apply] using present item (lines.mem_iff.mp member)) success
    exact .inl ⟨flag, row, found, pending, shifted.congr fun _ => quantityOf_perm lines⟩
  · have unmarked := postgres.answer_eval reply
    simp only [failCancelAndRestock, Program.atomic, unmarked, ne_eq, Nat.zero_ne_one, not_false_eq_true,
      ↓reduceIte, Prod.mk.injEq, and_true] at success
    exact .inr ⟨success.1.symm, settled, success.2.symm⟩

end OrderRepository

end OrderProcessing
