import OrderProcessing.Library.Serializability
import OrderProcessing.Repository.Effects

/-! What the statements of the order repository lock, read and write. Two states
of the tables that agree on the keys a statement reads answer it alike. -/

namespace OrderProcessing

open Library

/-- An UPDATE finds its row. -/
def Statement.visible {Answer : Type} : Statement Answer → Db → Bool
  | .reserve productID _, db | .restock productID _, db => (db.stock? productID).isSome
  | .markPaid paymentID _, db | .markFailed paymentID, db => (db.payment? paymentID).isSome
  | .advanceOrder orderID _, db => (db.order? orderID).isSome
  | _, _ => true

/-- An UPDATE waits for its row, an INSERT for its unique keys, a SELECT for nothing. -/
def rowLocks : Locking Db Statement Key where
  wanted stmt db := if stmt.visible db then stmt.targets else []

/-- The keys whose rows decide the answer. Only for the statements of the order
repository. -/
def Statement.reads {Answer : Type} : Statement Answer → List Key
  | .reserve productID _ | .restock productID _ => [.inventory productID]
  | .insertOrder row => [.order row.id, .users]
  | .insertItems rows => .products :: rows.map fun row => .order row.orderID
  | .insertPayment row => [.payment row.id, .idempotency row.idempotencyKey, .order row.orderID]
  | .markPaid paymentID _ | .markFailed paymentID => [.payment paymentID]
  | .advanceOrder orderID _ | .selectItems orderID _ => [.order orderID]
  | _ => []

/-- Rows of these keys are written by nobody while orders are processed. -/
def Key.static (key : Key) : Prop := key = .users ∨ key = .products

/-- A key the transactions of the order repository may write. -/
def Key.ordinary : Key → Bool
  | .inventory _ | .order _ | .payment _ | .idempotency _ => true
  | _ => false

/-- Two states hold the same rows under a key. No statement of the order
repository finds an inventory row by its id. -/
def Db.Agree : Key → Db → Db → Prop
  | .inventory productID, first, second => first.stock? productID = second.stock? productID
  | .order orderID, first, second =>
    first.order? orderID = second.order? orderID ∧ first.itemsOf orderID = second.itemsOf orderID
  | .payment paymentID, first, second => first.payment? paymentID = second.payment? paymentID
  | .idempotency key, first, second =>
    (first.payments.any fun row => row.idempotencyKey = key) = second.payments.any fun row => row.idempotencyKey = key
  | .overwritten _, _, _ => True
  | .users, first, second => first.users = second.users
  | .products, first, second => first.products = second.products

theorem Db.Agree.refl (key : Key) (db : Db) : db.Agree key db := by
  cases key <;> simp [Db.Agree]

theorem Db.Agree.trans {first second third : Db} (left : first.Agree key second) (right : second.Agree key third) :
    first.Agree key third := by
  cases key with
  | order => exact ⟨left.1.trans right.1, left.2.trans right.2⟩
  | overwritten => trivial
  | _ => exact Eq.trans left right

theorem order_setStatus (db : Db) (orderID : Int) (status : OrderStatus) (other : Int) :
    (db.apply (.orderStatus orderID status)).order? other =
      (db.order? other).map (Db.setOrderStatus orderID status) :=
  find_map_keyed (fun row _ => by unfold Db.setOrderStatus; split <;> rfl) other

theorem payment_setStatus (db : Db) (paymentID : Int) (status : PaymentStatus) (txn : Option String) (other : Int) :
    (db.apply (.paymentStatus paymentID status txn)).payment? other =
      (db.payment? other).map (Db.setPaymentStatus paymentID status txn) :=
  find_map_keyed (fun row _ => by unfold Db.setPaymentStatus; split <;> rfl) other

theorem idempotency_setStatus (db : Db) (paymentID : Int) (status : PaymentStatus) (txn : Option String)
    (key : String) :
    ((db.apply (.paymentStatus paymentID status txn)).payments.any fun row => row.idempotencyKey = key) =
      db.payments.any fun row => row.idempotencyKey = key := by
  have kept (row : Payment) :
      (Db.setPaymentStatus paymentID status txn row).idempotencyKey = row.idempotencyKey := by
    unfold Db.setPaymentStatus; split <;> rfl
  simp [Db.apply, Function.comp_def, kept]

theorem Db.Agree.apply {first second : Db} (ordinary : ∀ key ∈ write.keys, key.ordinary)
    (same : first.Agree key second) : (first.apply write).Agree key (second.apply write) := by
  cases write with
  | quantity =>
    cases key with
    | inventory => simp only [Db.Agree, stock_setQuantity] at same ⊢; rw [same]
    | _ => exact same
  | orderStatus =>
    cases key with
    | order => exact ⟨by rw [order_setStatus, order_setStatus, same.1], same.2⟩
    | _ => exact same
  | paymentStatus =>
    cases key with
    | payment => simp only [Db.Agree, payment_setStatus] at same ⊢; rw [same]
    | idempotency => simpa only [Db.Agree, idempotency_setStatus] using same
    | _ => exact same
  | newOrder row =>
    cases key with
    | order =>
      refine ⟨?_, same.2⟩
      have found := same.1
      simp only [Db.order?, Db.apply, List.find?_append] at found ⊢
      rw [found]
    | _ => exact same
  | newItems rows =>
    cases key with
    | order => exact ⟨same.1, by simpa [Db.apply, Db.itemsOf, List.filter_append] using same.2⟩
    | _ => exact same
  | newPayment row =>
    cases key with
    | payment =>
      simp only [Db.Agree, Db.payment?, Db.apply, List.find?_append] at same ⊢
      rw [same]
    | idempotency =>
      simp only [Db.Agree, Db.apply, List.any_append] at same ⊢
      rw [same]
    | _ => exact same
  | newInventory row =>
    cases key with
    | inventory =>
      simp only [Db.Agree, Db.stock?, Db.apply, List.find?_append] at same ⊢
      rw [same]
    | _ => exact same
  | newUser | newProduct | productRow | inventoryRow => simp [Write.keys, Key.ordinary] at ordinary

/-- A write is not seen under any key but its own. -/
theorem Db.agree_apply (db : Db) (ordinary : ∀ key ∈ write.keys, key.ordinary) (absent : key ∉ write.keys) :
    db.Agree key (db.apply write) := by
  cases write with
  | quantity productID =>
    cases key with
    | inventory other =>
      have different : other ≠ productID := by simpa [Write.keys] using absent
      rw [Db.Agree, stock_setQuantity]
      cases found : db.stock? other with
      | none => rfl
      | some row => simp [Db.setQuantity, stock_productID found, different]
    | _ => trivial
  | orderStatus orderID =>
    cases key with
    | order other =>
      have different : other ≠ orderID := by simpa [Write.keys] using absent
      refine ⟨?_, rfl⟩
      rw [order_setStatus]
      cases found : db.order? other with
      | none => rfl
      | some row => simp [Db.setOrderStatus, order_id found, different]
    | _ => trivial
  | paymentStatus paymentID =>
    cases key with
    | payment other =>
      have different : other ≠ paymentID := by simpa [Write.keys] using absent
      rw [Db.Agree, payment_setStatus]
      cases found : db.payment? other with
      | none => rfl
      | some row => simp [Db.setPaymentStatus, payment_id found, different]
    | idempotency => rw [Db.Agree, idempotency_setStatus]
    | _ => trivial
  | newOrder row =>
    cases key with
    | order other =>
      have different : row.id ≠ other := by simpa [Write.keys, eq_comm] using absent
      exact ⟨by simp [Db.order?, Db.apply, List.find?_append, different], rfl⟩
    | _ => trivial
  | newItems rows =>
    cases key with
    | order other =>
      have foreign : ∀ row ∈ rows, row.orderID ≠ other := by simpa [Write.keys] using absent
      exact ⟨rfl, by simpa [Db.itemsOf, Db.apply] using foreign⟩
    | _ => trivial
  | newPayment row =>
    simp only [Write.keys, List.mem_cons, List.not_mem_nil, or_false, not_or] at absent
    cases key with
    | payment other =>
      have different : row.id ≠ other := by simpa [eq_comm] using absent.1
      simp [Db.Agree, Db.payment?, Db.apply, List.find?_append, different]
    | idempotency other =>
      have different : row.idempotencyKey ≠ other := by simpa [eq_comm] using absent.2
      simp [Db.Agree, Db.apply, different]
    | _ => trivial
  | newInventory row =>
    cases key with
    | inventory other =>
      have different : row.productID ≠ other := by simpa [Write.keys, eq_comm] using absent
      simp [Db.Agree, Db.stock?, Db.apply, List.find?_append, different]
    | _ => trivial
  | newUser | newProduct | productRow | inventoryRow => simp [Write.keys, Key.ordinary] at ordinary

theorem itemsValid_agree {first second : Db} {rows : List OrderItem} (products : first.products = second.products)
    (orders : ∀ row ∈ rows, first.Agree (.order row.orderID) second) :
    first.itemsValid rows = second.itemsValid rows := by
  have stored : (rows.any fun row => (first.itemsOf row.orderID).any fun old => old.productID = row.productID) =
      rows.any fun row => (second.itemsOf row.orderID).any fun old => old.productID = row.productID := by
    rw [Bool.eq_iff_iff, List.any_eq_true, List.any_eq_true]
    exact exists_congr fun row => and_congr_right fun member => by rw [(orders row member).2]
  have known : (rows.any fun row => (first.order? row.orderID).isNone || (first.product? row.productID).isNone) =
      rows.any fun row => (second.order? row.orderID).isNone || (second.product? row.productID).isNone := by
    rw [Bool.eq_iff_iff, List.any_eq_true, List.any_eq_true]
    exact exists_congr fun row => and_congr_right fun member => by
      rw [(orders row member).1, Db.product?, Db.product?, products]
  rw [Db.itemsValid, Db.itemsValid, stored, known]

namespace OrderRepository

/-- A statement of the order repository is answered from the rows it reads. -/
theorem Issued.evaluate_agree {stmt : Statement Answer} {first second : Db} (issued : Issued Answer stmt)
    (same : ∀ key ∈ stmt.reads, first.Agree key second) : evaluate stmt first = evaluate stmt second := by
  cases stmt with
  | reserve | restock | markPaid | markFailed =>
    have rows := same _ (List.mem_singleton.mpr rfl)
    simp only [Db.Agree] at rows
    simp only [evaluate, rows]
  | advanceOrder | selectItems =>
    have rows := same _ (List.mem_singleton.mpr rfl)
    simp only [Db.Agree] at rows
    simp only [evaluate, rows.1, rows.2]
  | insertOrder row =>
    have orders := same (.order row.id) (by simp [Statement.reads])
    have users := same .users (by simp [Statement.reads])
    simp only [Db.Agree] at orders users
    simp only [evaluate, orders.1, Db.user?, users]
  | insertItems rows =>
    have products := same .products (by simp [Statement.reads])
    have orders (row : OrderItem) (member : row ∈ rows) :=
      same (.order row.orderID) (List.mem_cons_of_mem _ (List.mem_map_of_mem member))
    simp only [evaluate, itemsValid_agree products orders]
  | insertPayment row =>
    have payments := same (.payment row.id) (by simp [Statement.reads])
    have keys := same (.idempotency row.idempotencyKey) (by simp [Statement.reads])
    have orders := same (.order row.orderID) (by simp [Statement.reads])
    simp only [Db.Agree] at payments keys orders
    simp only [evaluate, payments, keys, orders.1]
  | _ => cases issued

theorem Issued.targets_ordinary {stmt : Statement Answer} (issued : Issued Answer stmt) :
    ∀ key ∈ stmt.targets, key.ordinary := by
  cases stmt with
  | insertItems rows => simp [Statement.targets, Key.ordinary]
  | insertUser | insertProduct | insertInventory | saveProduct | saveInventory => cases issued
  | _ => simp [Statement.targets, Key.ordinary]

/-- An UPDATE that writes has found its row. -/
theorem evaluate_visible {stmt : Statement Answer} (done : evaluate stmt db = .ok (answer, writes))
    (member : write ∈ writes) : stmt.visible db := by
  cases stmt with
  | reserve | restock | markPaid | markFailed | advanceOrder =>
    simp only [evaluate] at done
    split at done
    · simp [Statement.visible, *]
    · cases done; cases member
  | _ => rfl

/-- The footprint of the transactions of the order repository. -/
def footprint : Footprint postgres rowLocks where
  keys := Write.keys
  same key first second := first.Agree key second
  reads := Statement.reads
  issued := Issued
  ordinary write := ∀ key ∈ write.keys, key.ordinary
  static := Key.static
  refl := Db.Agree.refl
  trans _ _ _ _ := Db.Agree.trans
  determined _ _ _ _ issued same := issued.evaluate_agree same
  lifted _ _ _ _ ordinary same := same.apply ordinary
  framed _ _ state ordinary absent := state.agree_apply ordinary absent
  yields _ stmt state _ _ issued done write member := by
    have targets := evaluate_targets done write member
    refine ⟨fun key touched => issued.targets_ordinary key (targets key touched), fun key touched => ⟨?_, ?_⟩⟩
    · simpa [rowLocks, evaluate_visible done member] using targets key touched
    · have changing := issued.targets_ordinary key (targets key touched)
      rintro (rfl | rfl) <;> simp [Key.ordinary] at changing

end OrderRepository

end OrderProcessing
