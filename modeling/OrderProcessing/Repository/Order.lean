import OrderProcessing.Repository.Database

/-! The order repository. Each writing method is one program of statements run
by `transact`; the reads are plain queries. -/

namespace OrderProcessing

open Library

/-- What is filled in when a new order is inserted: the keys drawn from the
identity sequences and the creation time of the payment. -/
structure Generated where
  orderID : Int
  paymentID : Int
  createdAt : Int
  deriving DecidableEq, Repr

/-- The argument of `CreateOrder`: the order with its items, and its payment. -/
structure NewOrder where
  order : Order
  items : List OrderItem
  payment : Payment
  deriving DecidableEq, Repr

namespace OrderRepository

/-- Guarded decrement per line; a line that affects no row ends the transaction. -/
def reserveItems : List OrderItem → Tx Int → Tx Int
  | [], rest => rest
  | item :: items, rest =>
    .exec (.reserve item.productID item.quantity) fun
      | .error err => .done 0 (some (.database err))
      | .ok rows =>
        if rows ≠ 1 then .done 0 (some (.insufficientStock item.productID)) else reserveItems items rest

/-- Insert the order, then its items and its payment under the new order id. -/
def insertAll (generated : Generated) (new : NewOrder) : Tx Int :=
  .exec (.insertOrder { new.order with id := generated.orderID }) fun
    | .error .foreignKeyViolated => .done 0 (some .userNotFound)
    | .error err => .done 0 (some (.database err))
    | .ok orderID =>
      .exec (.insertItems (new.items.map fun item => { item with orderID })) fun
        | .error err => .done orderID (some (.database err))
        | .ok _ =>
          .exec (.insertPayment { new.payment with
              id := generated.paymentID, orderID, createdAt := generated.createdAt }) fun
            | .error err => .done orderID (some (.database err))
            | .ok _ => .done orderID none

def createOrder (generated : Generated) (new : NewOrder) : Tx Int :=
  reserveItems new.items (insertAll generated new)

/-- The value is the `transitioned` flag: it is set as soon as the guarded
payment update went through, also when a later statement fails. -/
def markPaidAndConfirm (payment : Payment) (txnID : String) : Tx Bool :=
  .exec (.markPaid payment.id txnID) fun
    | .error err => .done false (some (.database err))
    | .ok rows =>
      if rows ≠ 1 then .done false none
      else
        .exec (.advanceOrder payment.orderID .confirmed) fun
          | .error err => .done true (some (.database err))
          | .ok _ => .done true none

def restockItems : List OrderItem → Tx Bool
  | [] => .done true none
  | item :: items =>
    .exec (.restock item.productID item.quantity) fun
      | .error err => .done true (some (.database err))
      | .ok _ => restockItems items

def failCancelAndRestock (payment : Payment) (scan : Scan) : Tx Bool :=
  .exec (.markFailed payment.id) fun
    | .error err => .done false (some (.database err))
    | .ok rows =>
      if rows ≠ 1 then .done false none
      else
        .exec (.advanceOrder payment.orderID .cancelled) fun
          | .error err => .done true (some (.database err))
          | .ok _ =>
            .exec (.selectItems payment.orderID scan) fun
              | .error err => .done true (some (.database err))
              | .ok items => restockItems items

/-- The pending payment of an order with the smallest id; a fault of the
database is passed on. -/
def getPendingByOrderID (db : Db) (orderID : Int) (fault : Option DbError) : Except AppError Payment :=
  match fault with
  | some err => .error (.database err)
  | none =>
    match ((db.payments.filter fun row => row.orderID = orderID ∧ row.status = .pending).insertionSort
        fun first second => first.id ≤ second.id).head? with
    | some payment => .ok payment
    | none => .error .noPendingPayment

/-- The order in which the database comes upon rows with the same `created_at`. -/
structure PaymentScan where
  order : List Payment → List Payment
  perm : ∀ rows, (order rows).Perm rows

def PaymentScan.stored : PaymentScan := ⟨id, fun _ => .refl _⟩

/-- Payments that have been pending since before the cutoff. -/
def stalePending (db : Db) (cutoff : Int) : List Payment :=
  db.payments.filter fun row => row.status = .pending ∧ row.createdAt < cutoff

def listStalePending (db : Db) (now olderThan limit : Int) (scan : PaymentScan) (fault : Option DbError) :
    Except AppError (List Int) :=
  let cutoff := now - olderThan
  match fault with
  | some err => .error (.database err)
  | none =>
    let oldestFirst := (scan.order (stalePending db cutoff)).insertionSort
      fun first second => first.createdAt ≤ second.createdAt
    .ok ((oldestFirst.take limit.toNat).map (·.orderID))

def getOrderUserID (db : Db) (orderID : Int) (fault : Option DbError) : Except AppError Int :=
  match fault with
  | some err => .error (.database err)
  | none =>
    match db.order? orderID with
    | some order => .ok order.userID
    | none => .error .orderNotFound

theorem reserveItems_propagates (items : List OrderItem) (rest : Tx Int) (tail : rest.Propagates) :
    (reserveItems items rest).Propagates := by
  induction items with
  | nil => exact tail
  | cons item items ih =>
    exact .exec (fun fault => ⟨_, _, rfl⟩) fun rows => .ite .done ih

theorem insertAll_propagates (generated : Generated) (new : NewOrder) :
    (insertAll generated new).Propagates := by
  refine .exec (fun fault => ?_) fun _ => ?_
  · cases fault <;> exact ⟨_, _, rfl⟩
  · refine .exec (fun fault => ⟨_, _, rfl⟩) fun _ => ?_
    exact .exec (fun fault => ⟨_, _, rfl⟩) fun _ => .done

theorem createOrder_propagates (generated : Generated) (new : NewOrder) :
    (createOrder generated new).Propagates :=
  reserveItems_propagates _ _ (insertAll_propagates generated new)

theorem markPaidAndConfirm_propagates (payment : Payment) (txnID : String) :
    (markPaidAndConfirm payment txnID).Propagates := by
  refine .exec (fun fault => ⟨_, _, rfl⟩) fun rows => .ite .done ?_
  exact .exec (fun fault => ⟨_, _, rfl⟩) fun _ => .done

theorem restockItems_propagates (items : List OrderItem) : (restockItems items).Propagates := by
  induction items with
  | nil => exact .done
  | cons item items ih => exact .exec (fun fault => ⟨_, _, rfl⟩) fun _ => ih

theorem failCancelAndRestock_propagates (payment : Payment) (scan : Scan) :
    (failCancelAndRestock payment scan).Propagates := by
  refine .exec (fun fault => ⟨_, _, rfl⟩) fun rows => .ite .done ?_
  refine .exec (fun fault => ⟨_, _, rfl⟩) fun _ => ?_
  exact .exec (fun fault => ⟨_, _, rfl⟩) fun items => restockItems_propagates items

/-- The statements of the three transactions of this repository. -/
def Issued (Answer : Type) : Statement Answer → Prop
  | .reserve _ _ | .restock _ _ | .insertOrder _ | .insertItems _ | .insertPayment _ | .markPaid _ _
  | .markFailed _ | .advanceOrder _ _ | .selectItems _ _ => True
  | _ => False

theorem createOrder_issues (generated : Generated) (new : NewOrder) :
    (createOrder generated new).Issues Issued := by
  have inserts : (insertAll generated new).Issues Issued := by
    refine .exec trivial fun
      | .error err => ?_
      | .ok orderID => ?_
    · cases err <;> exact .done
    · refine .exec trivial fun
        | .error _ => .done
        | .ok _ => ?_
      exact .exec trivial fun
        | .error _ => .done
        | .ok _ => .done
  have reserves (items : List OrderItem) : (reserveItems items (insertAll generated new)).Issues Issued := by
    induction items with
    | nil => exact inserts
    | cons item rest ih =>
      exact .exec trivial fun
        | .error _ => .done
        | .ok _ => .ite .done ih
  exact reserves new.items

theorem markPaidAndConfirm_issues (payment : Payment) (txnID : String) :
    (markPaidAndConfirm payment txnID).Issues Issued := by
  refine .exec trivial fun
    | .error _ => .done
    | .ok _ => .ite .done ?_
  exact .exec trivial fun
    | .error _ => .done
    | .ok _ => .done

theorem failCancelAndRestock_issues (payment : Payment) (scan : Scan) :
    (failCancelAndRestock payment scan).Issues Issued := by
  have restocks (items : List OrderItem) : (restockItems items).Issues Issued := by
    induction items with
    | nil => exact .done
    | cons item rest ih =>
      exact .exec trivial fun
        | .error _ => .done
        | .ok _ => ih
  refine .exec trivial fun
    | .error _ => .done
    | .ok _ => .ite .done ?_
  refine .exec trivial fun
    | .error _ => .done
    | .ok _ => ?_
  exact .exec trivial fun
    | .error _ => .done
    | .ok items => restocks items

end OrderRepository

end OrderProcessing
