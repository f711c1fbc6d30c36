import Mathlib.Data.List.Sort
import OrderProcessing.Models
import OrderProcessing.Library.Program

/-! The PostgreSQL tables, the statements the repositories issue, and what each
statement answers and writes. Constraints of the schema are part of the answer:
a statement that violates one reports it and writes nothing. -/

namespace OrderProcessing

open Library

structure Db where
  users : List User := []
  products : List Product := []
  inventory : List Inventory := []
  orders : List Order := []
  orderItems : List OrderItem := []
  payments : List Payment := []
  deriving DecidableEq, Repr

namespace Db

def user? (db : Db) (id : Int) : Option User :=
  db.users.find? fun row => row.id = id

def product? (db : Db) (id : Int) : Option Product :=
  db.products.find? fun row => row.id = id

/-- The inventory row of a product; `product_id` is unique in the schema. -/
def stock? (db : Db) (productID : Int) : Option Inventory :=
  db.inventory.find? fun row => row.productID = productID

def order? (db : Db) (id : Int) : Option Order :=
  db.orders.find? fun row => row.id = id

def payment? (db : Db) (id : Int) : Option Payment :=
  db.payments.find? fun row => row.id = id

def itemsOf (db : Db) (orderID : Int) : List OrderItem :=
  db.orderItems.filter fun row => row.orderID = orderID

/-- Which inventory row carries which product. -/
def slots (db : Db) : List (Int × Int) :=
  db.inventory.map fun row => (row.id, row.productID)

/-- Units of a product on stock; a product without an inventory row has none. -/
def quantity (db : Db) (productID : Int) : Int :=
  ((db.stock? productID).map (·.quantity)).getD 0

/-- Units of a product in the items of all orders that are pending or confirmed. -/
def reserved (db : Db) (productID : Int) : Int :=
  ((db.orders.filter fun order => order.status = .pending ∨ order.status = .confirmed).map fun order =>
    quantityOf productID (db.itemsOf order.id)).sum

/-- Units of a product in the items of all pending orders. -/
def outstanding (db : Db) (productID : Int) : Int :=
  ((db.orders.filter fun order => order.status = .pending).map fun order =>
    quantityOf productID (db.itemsOf order.id)).sum

end Db

/-- The order in which the database happens to return the rows of a query
without ORDER BY. -/
structure Scan where
  order : List OrderItem → List OrderItem
  perm : ∀ rows, (order rows).Perm rows

def Scan.stored : Scan := ⟨id, fun _ => .refl _⟩

def Scan.reversed : Scan := ⟨List.reverse, fun rows => rows.reverse_perm⟩

/-- The statements, each indexed by the type of its answer. An UPDATE answers
with the number of affected rows; generated keys are part of inserted rows. -/
inductive Statement : Type → Type where
  | reserve (productID quantity : Int) : Statement Nat
  | restock (productID quantity : Int) : Statement Nat
  | insertOrder (row : Order) : Statement Int
  | insertItems (rows : List OrderItem) : Statement Unit
  | insertPayment (row : Payment) : Statement Unit
  | markPaid (paymentID : Int) (txnID : String) : Statement Nat
  | markFailed (paymentID : Int) : Statement Nat
  | advanceOrder (orderID : Int) (status : OrderStatus) : Statement Nat
  | selectItems (orderID : Int) (scan : Scan) : Statement (List OrderItem)
  | insertUser (row : User) : Statement Unit
  | insertProduct (row : Product) : Statement Unit
  | insertInventory (row : Inventory) : Statement Unit
  | saveProduct (row : Product) : Statement Unit
  | saveInventory (row : Inventory) : Statement Unit

/-- New row versions. The first three name the row by its key. -/
inductive Write where
  | quantity (productID quantity : Int)
  | orderStatus (orderID : Int) (status : OrderStatus)
  | paymentStatus (paymentID : Int) (status : PaymentStatus) (providerTxnID : Option String)
  | newOrder (row : Order)
  | newItems (rows : List OrderItem)
  | newPayment (row : Payment)
  | newUser (row : User)
  | newProduct (row : Product)
  | newInventory (row : Inventory)
  | productRow (row : Product)
  | inventoryRow (row : Inventory)
  deriving DecidableEq, Repr

/-- What a statement can collide on with another transaction. An order and its
items share a key; an overwritten inventory row is named by its own id. -/
inductive Key where
  | inventory (productID : Int)
  | order (orderID : Int)
  | payment (paymentID : Int)
  | idempotency (key : String)
  | overwritten (rowID : Int)
  | users
  | products
  deriving DecidableEq, Repr

def Write.keys : Write → List Key
  | .quantity productID _ => [.inventory productID]
  | .orderStatus orderID _ => [.order orderID]
  | .paymentStatus paymentID _ _ => [.payment paymentID]
  | .newOrder row => [.order row.id]
  | .newItems rows => rows.map fun row => .order row.orderID
  | .newPayment row => [.payment row.id, .idempotency row.idempotencyKey]
  | .newUser _ => [.users]
  | .newProduct _ => [.products]
  | .newInventory row => [.inventory row.productID]
  | .productRow _ => [.products]
  | .inventoryRow row => [.overwritten row.id]

/-- The rows a statement is about to write. -/
def Statement.targets {Answer : Type} : Statement Answer → List Key
  | .reserve productID _ => [.inventory productID]
  | .restock productID _ => [.inventory productID]
  | .insertOrder row => [.order row.id]
  | .insertItems rows => rows.map fun row => .order row.orderID
  | .insertPayment row => [.payment row.id, .idempotency row.idempotencyKey]
  | .markPaid paymentID _ => [.payment paymentID]
  | .markFailed paymentID => [.payment paymentID]
  | .advanceOrder orderID _ => [.order orderID]
  | .selectItems _ _ => []
  | .insertUser _ => [.users]
  | .insertProduct _ => [.products]
  | .insertInventory row => [.inventory row.productID]
  | .saveProduct _ => [.products]
  | .saveInventory row => [.overwritten row.id]

namespace Db

def setQuantity (productID quantity : Int) (row : Inventory) : Inventory :=
  if row.productID = productID then { row with quantity } else row

def setOrderStatus (orderID : Int) (status : OrderStatus) (row : Order) : Order :=
  if row.id = orderID then { row with status } else row

def setPaymentStatus (paymentID : Int) (status : PaymentStatus) (providerTxnID : Option String)
    (row : Payment) : Payment :=
  if row.id = paymentID then { row with status, providerTxnID } else row

def replaceProduct (row old : Product) : Product := if old.id = row.id then row else old

def replaceInventory (row old : Inventory) : Inventory := if old.id = row.id then row else old

def apply (db : Db) : Write → Db
  | .quantity productID quantity =>
    { db with inventory := db.inventory.map (setQuantity productID quantity) }
  | .orderStatus orderID status => { db with orders := db.orders.map (setOrderStatus orderID status) }
  | .paymentStatus paymentID status providerTxnID =>
    { db with payments := db.payments.map (setPaymentStatus paymentID status providerTxnID) }
  | .newOrder row => { db with orders := db.orders ++ [row] }
  | .newItems rows => { db with orderItems := db.orderItems ++ rows }
  | .newPayment row => { db with payments := db.payments ++ [row] }
  | .newUser row => { db with users := db.users ++ [row] }
  | .newProduct row => { db with products := db.products ++ [row] }
  | .newInventory row => { db with inventory := db.inventory ++ [row] }
  | .productRow row => { db with products := db.products.map (replaceProduct row) }
  | .inventoryRow row => { db with inventory := db.inventory.map (replaceInventory row) }

end Db

def fitsInteger (value : Int) : Bool := -2147483648 ≤ value ∧ value ≤ 2147483647

/-- Twelve digits, two of them after the point. -/
def fitsNumeric (cents : Int) : Bool := -1000000000000 < cents ∧ cents < 1000000000000

/-- The first violated constraint is reported; otherwise the result stands. -/
def guarded {Result : Type} : List (Bool × DbError) → Result → Except DbError Result
  | [], result => .ok result
  | (violated, error) :: checks, result => if violated then .error error else guarded checks result

/-- Store a computed quantity: integer overflow and the CHECK on the column
are reported instead of the new row version. -/
def storeQuantity (productID quantity : Int) : Except DbError (Nat × List Write) :=
  guarded [(!fitsInteger quantity, .outOfRange), (decide (quantity < 0), .checkConstraintViolated)]
    (1, [.quantity productID quantity])

def Db.itemsValid (db : Db) (rows : List OrderItem) : List (Bool × DbError) :=
  [(rows.isEmpty, .emptySlice),
   (rows.any fun row => !fitsInteger row.quantity || !fitsNumeric row.priceAtPurchase, .outOfRange),
   (rows.any fun row => row.quantity ≤ 0 || row.priceAtPurchase < 0, .checkConstraintViolated),
   (!(rows.map fun row => (row.orderID, row.productID)).Nodup, .duplicatedKey),
   (rows.any fun row => (db.itemsOf row.orderID).any fun old => old.productID = row.productID, .duplicatedKey),
   (rows.any fun row => (db.order? row.orderID).isNone || (db.product? row.productID).isNone,
    .foreignKeyViolated)]

/-- Answer and row versions of one statement. -/
def evaluate {Answer : Type} : Statement Answer → Db → Except DbError (Answer × List Write)
  | .reserve productID quantity, db =>
    match db.stock? productID with
    | some row =>
      if quantity ≤ row.quantity then storeQuantity productID (row.quantity - quantity) else .ok (0, [])
    | none => .ok (0, [])
  | .restock productID quantity, db =>
    match db.stock? productID with
    | some row => storeQuantity productID (row.quantity + quantity)
    | none => .ok (0, [])
  | .insertOrder row, db =>
    guarded [(!fitsNumeric row.totalPrice, .outOfRange),
      (decide (row.totalPrice < 0), .checkConstraintViolated),
      ((db.order? row.id).isSome, .duplicatedKey),
      ((db.user? row.userID).isNone, .foreignKeyViolated)] (row.id, [.newOrder row])
  | .insertItems rows, db => guarded (db.itemsValid rows) ((), [.newItems rows])
  | .insertPayment row, db =>
    guarded [(!fitsNumeric row.amount, .outOfRange),
      (decide (row.amount < 0), .checkConstraintViolated),
      ((db.payment? row.id).isSome, .duplicatedKey),
      (db.payments.any fun old => old.idempotencyKey = row.idempotencyKey, .duplicatedKey),
      ((db.order? row.orderID).isNone, .foreignKeyViolated)] ((), [.newPayment row])
  | .markPaid paymentID txnID, db =>
    match db.payment? paymentID with
    | some row =>
      if row.status = .pending then .ok (1, [.paymentStatus paymentID .paid (some txnID)]) else .ok (0, [])
    | none => .ok (0, [])
  | .markFailed paymentID, db =>
    match db.payment? paymentID with
    | some row =>
      if row.status = .pending then .ok (1, [.paymentStatus paymentID .failed row.providerTxnID])
      else .ok (0, [])
    | none => .ok (0, [])
  | .advanceOrder orderID status, db =>
    match db.order? orderID with
    | some row => if row.status = .pending then .ok (1, [.orderStatus orderID status]) else .ok (0, [])
    | none => .ok (0, [])
  | .selectItems orderID scan, db => .ok (scan.order (db.itemsOf orderID), [])
  | .insertUser row, db =>
    guarded [((db.user? row.id).isSome, .duplicatedKey),
      (db.users.any fun old => old.email = row.email, .duplicatedKey)] ((), [.newUser row])
  | .insertProduct row, db =>
    guarded [(!fitsNumeric row.price, .outOfRange),
      (decide (row.price < 0), .checkConstraintViolated),
      ((db.product? row.id).isSome, .duplicatedKey)] ((), [.newProduct row])
  | .insertInventory row, db =>
    guarded [(!fitsInteger row.quantity, .outOfRange),
      (decide (row.quantity < 0), .checkConstraintViolated),
      (db.inventory.any fun old => old.id = row.id || old.productID = row.productID, .duplicatedKey),
      ((db.product? row.productID).isNone, .foreignKeyViolated)] ((), [.newInventory row])
  | .saveProduct row, db =>
    guarded [(!fitsNumeric row.price, .outOfRange),
      (decide (row.price < 0), .checkConstraintViolated),
      ((db.product? row.id).isNone, .generatedAlways)] ((), [.productRow row])
  | .saveInventory row, db =>
    guarded [(!fitsInteger row.quantity, .outOfRange),
      (decide (row.quantity < 0), .checkConstraintViolated),
      (!db.inventory.any fun old => old.id = row.id, .generatedAlways),
      (db.inventory.any fun old => old.id ≠ row.id ∧ old.productID = row.productID, .duplicatedKey),
      ((db.product? row.productID).isNone, .foreignKeyViolated)] ((), [.inventoryRow row])

def postgres : Engine Db Statement DbError Write := ⟨evaluate, Db.apply⟩

@[simp] theorem postgres_apply (db : Db) (write : Write) : postgres.apply db write = db.apply write := rfl

abbrev Tx (Value : Type) := Program Statement DbError AppError Value

/-- Run a repository method in one transaction, as the repositories do. -/
def transact {Value : Type} (faults : Faults DbError) (initial : Value) (body : Tx Value) (db : Db) :
    (Value × Option AppError) × Db :=
  transaction postgres .database faults initial body db

theorem guarded_ok {checks : List (Bool × DbError)} {result accepted : Result} :
    guarded checks result = .ok accepted ↔ result = accepted ∧ ∀ check ∈ checks, check.1 = false := by
  induction checks with
  | nil => simp [guarded]
  | cons check rest ih =>
    obtain ⟨violated, error⟩ := check
    cases violated with
    | true => simp [guarded]
    | false => simp [guarded, ih]

theorem storeQuantity_ok : storeQuantity productID quantity = .ok outcome ↔
    outcome = (1, [.quantity productID quantity]) ∧ 0 ≤ quantity ∧ quantity ≤ 2147483647 := by
  rw [storeQuantity, guarded_ok]
  simp [fitsInteger]
  constructor
  · rintro ⟨rfl, range, sign⟩
    exact ⟨rfl, sign, by omega⟩
  · rintro ⟨rfl, sign, range⟩
    exact ⟨rfl, by omega, sign⟩

/-- The row versions each statement can write. -/
inductive Statement.Writes : {Answer : Type} → Statement Answer → Write → Prop where
  | reserve : Writes (.reserve productID quantity) (.quantity productID level)
  | restock : Writes (.restock productID quantity) (.quantity productID level)
  | insertOrder : Writes (.insertOrder row) (.newOrder row)
  | insertItems : Writes (.insertItems rows) (.newItems rows)
  | insertPayment : Writes (.insertPayment row) (.newPayment row)
  | markPaid : Writes (.markPaid paymentID txnID) (.paymentStatus paymentID .paid (some txnID))
  | markFailed : Writes (.markFailed paymentID) (.paymentStatus paymentID .failed txn)
  | advanceOrder : Writes (.advanceOrder orderID status) (.orderStatus orderID status)
  | insertUser : Writes (.insertUser row) (.newUser row)
  | insertProduct : Writes (.insertProduct row) (.newProduct row)
  | insertInventory : Writes (.insertInventory row) (.newInventory row)
  | saveProduct : Writes (.saveProduct row) (.productRow row)
  | saveInventory : Writes (.saveInventory row) (.inventoryRow row)

theorem evaluate_writes {Answer : Type} {answer : Answer} {stmt : Statement Answer}
    (done : evaluate stmt db = .ok (answer, writes)) : ∀ write ∈ writes, stmt.Writes write := by
  cases stmt with
  | reserve =>
    simp only [evaluate] at done
    split at done
    · split at done
      · obtain ⟨same, _⟩ := storeQuantity_ok.mp done
        cases same
        simpa using .reserve
      · cases done; simp
    · cases done; simp
  | restock =>
    simp only [evaluate] at done
    split at done
    · obtain ⟨same, _⟩ := storeQuantity_ok.mp done
      cases same
      simpa using .restock
    · cases done; simp
  | selectItems => cases done; simp
  | markPaid | markFailed | advanceOrder =>
    simp only [evaluate] at done
    split at done
    · split at done <;> cases done
      · simpa using by constructor
      · simp
    · cases done; simp
  | _ =>
    obtain ⟨same, _⟩ := guarded_ok.mp done
    cases same
    simpa using by constructor

/-- A statement writes nothing but its targets. -/
theorem evaluate_targets {Answer : Type} {answer : Answer} {stmt : Statement Answer}
    (done : evaluate stmt db = .ok (answer, writes)) :
    ∀ write ∈ writes, ∀ key ∈ write.keys, key ∈ stmt.targets := by
  intro write member
  cases evaluate_writes done write member <;> exact fun _ touched => touched

end OrderProcessing
