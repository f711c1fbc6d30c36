import Mathlib.Algebra.BigOperators.Group.List.Basic
import Mathlib.Algebra.Ring.Int.Defs

/-! Rows of the tables and the errors of the application. Identifiers and
quantities are Go integers; a NUMERIC(12,2) column holds an exact number of
cents. Timestamps appear only where a query reads them. -/

namespace OrderProcessing

inductive UserRole where
  | customer
  | admin
  deriving DecidableEq, Repr

inductive OrderStatus where
  | pending
  | confirmed
  | shipped
  | delivered
  | cancelled
  deriving DecidableEq, Repr

inductive PaymentStatus where
  | pending
  | paid
  | failed
  | refunded
  deriving DecidableEq, Repr

structure User where
  id : Int
  name : String
  email : String
  hashedPassword : String
  role : UserRole
  deriving DecidableEq, Repr

structure Product where
  id : Int
  name : String
  image : Option String
  description : Option String
  price : Int
  deriving DecidableEq, Repr

structure Inventory where
  id : Int
  productID : Int
  quantity : Int
  deriving DecidableEq, Repr

structure Order where
  id : Int
  userID : Int
  status : OrderStatus
  totalPrice : Int
  deriving DecidableEq, Repr

structure OrderItem where
  orderID : Int
  productID : Int
  quantity : Int
  priceAtPurchase : Int
  deriving DecidableEq, Repr

structure Payment where
  id : Int
  orderID : Int
  idempotencyKey : String
  status : PaymentStatus
  amount : Int
  providerTxnID : Option String
  createdAt : Int
  deriving DecidableEq, Repr

/-- What the database driver reports for a statement that did not go through,
after translation of the constraint violations. -/
inductive DbError where
  | foreignKeyViolated
  | duplicatedKey
  | checkConstraintViolated
  | outOfRange
  | generatedAlways
  | emptySlice
  | recordNotFound
  | infrastructure
  deriving DecidableEq, Repr

inductive AppError where
  | userNotFound
  | orderNotFound
  | duplicateOrder
  | duplicateLineItem
  | noPendingPayment
  | productNotFound (productID : Int)
  | insufficientStock (productID : Int)
  | database (error : DbError)
  deriving DecidableEq, Repr

/-- Quantity of one product over a list of order lines. -/
def quantityOf (productID : Int) (items : List OrderItem) : Int :=
  (items.map fun item => if item.productID = productID then item.quantity else 0).sum

/-- Price of a list of order lines at the prices recorded in them. -/
def totalOf (items : List OrderItem) : Int :=
  (items.map fun item => item.quantity * item.priceAtPurchase).sum

@[simp] theorem quantityOf_nil : quantityOf productID [] = 0 := rfl

@[simp] theorem quantityOf_cons : quantityOf productID (item :: items) =
    (if item.productID = productID then item.quantity else 0) + quantityOf productID items := by
  simp [quantityOf]

theorem quantityOf_perm (same : first.Perm second) :
    quantityOf productID first = quantityOf productID second :=
  (same.map _).sum_eq

theorem totalOf_perm (same : first.Perm second) : totalOf first = totalOf second :=
  (same.map _).sum_eq

theorem quantityOf_nonneg (positive : ∀ item ∈ items, 0 < item.quantity) :
    0 ≤ quantityOf productID items := by
  induction items with
  | nil => simp
  | cons item rest ih =>
    have head := positive item (by simp)
    have tail := ih (fun item member => positive item (by simp [member]))
    rw [quantityOf_cons]
    split <;> omega

theorem quantityOf_absent (absent : ∀ item ∈ items, item.productID ≠ productID) : quantityOf productID items = 0 := by
  induction items with
  | nil => rfl
  | cons item rest ih =>
    rw [quantityOf_cons, if_neg (absent item (by simp)), ih fun other member => absent other (by simp [member])]
    rfl

/-- With one line per product the line tells the quantity. -/
theorem quantityOf_line {items : List OrderItem} (distinct : (items.map (·.productID)).Nodup)
    (member : item ∈ items) : quantityOf item.productID items = item.quantity := by
  induction items with
  | nil => cases member
  | cons first rest ih =>
    obtain ⟨apart, distinct⟩ := List.nodup_cons.mp distinct
    rw [quantityOf_cons]
    rcases List.mem_cons.mp member with rfl | tail
    · rw [if_pos rfl, quantityOf_absent fun other present same => apart (List.mem_map.mpr ⟨other, present, same⟩)]
      exact add_zero _
    · rw [if_neg fun same => apart (List.mem_map.mpr ⟨item, tail, same.symm⟩), ih distinct tail]
      exact zero_add _

end OrderProcessing
