import Mathlib.Algebra.Order.BigOperators.Group.List
import Mathlib.Algebra.Order.Group.Int
import OrderProcessing.Models
import OrderProcessing.Library.Keyed

/-! The abstract model of the order tables: a stock level per product and a book
of orders, each with its lines and its one payment. An entry cannot be built
with statuses that disagree, or with a payment for another amount. -/

namespace OrderProcessing

/-- The statuses an order and its payment take together, with the transaction
id of the provider that goes with them. -/
inductive Staged : OrderStatus → PaymentStatus → Option String → Prop where
  | pending : Staged .pending .pending none
  | confirmed (txnID : String) : Staged .confirmed .paid (some txnID)
  | cancelled : Staged .cancelled .failed none

theorem Staged.pairs (staged : Staged status outcome txn) :
    ((status = .pending ∧ outcome = .pending) ∨ (status = .confirmed ∧ outcome = .paid) ∨
      (status = .cancelled ∧ outcome = .failed)) ∧ (txn.isSome ↔ outcome = .paid) := by
  cases staged <;> simp

/-- An order whose lines still take stock. -/
def OrderStatus.live (status : OrderStatus) : Bool := status = .pending || status = .confirmed

structure Entry where
  order : Order
  items : List OrderItem
  payment : Payment
  owned : ∀ item ∈ items, item.orderID = order.id
  positive : ∀ item ∈ items, 0 < item.quantity
  distinct : (items.map (·.productID)).Nodup
  billed : payment.orderID = order.id
  priced : order.totalPrice = totalOf items
  amount : payment.amount = totalOf items
  staged : Staged order.status payment.status payment.providerTxnID

namespace Entry

/-- The entry under new statuses; everything else is kept. -/
def settle (entry : Entry) (staged : Staged status outcome txn) : Entry :=
  { entry with
    order := { entry.order with status }
    payment := { entry.payment with status := outcome, providerTxnID := txn }
    staged }

def confirm (entry : Entry) (txnID : String) : Entry := entry.settle (.confirmed txnID)

def cancel (entry : Entry) : Entry := entry.settle .cancelled

def Pending (entry : Entry) : Prop := entry.order.status = .pending

theorem pending_iff (entry : Entry) : entry.Pending ↔ entry.payment.status = .pending := by
  have staged := entry.staged
  unfold Pending
  generalize entry.order.status = status at *
  generalize entry.payment.status = outcome at *
  generalize entry.payment.providerTxnID = txn at *
  cases staged <;> simp

theorem Pending.uncharged {entry : Entry} (waiting : entry.Pending) : entry.payment.providerTxnID = none := by
  have staged := entry.staged
  rw [show entry.order.status = .pending from waiting] at staged
  generalize entry.payment.status = outcome at staged
  generalize entry.payment.providerTxnID = txn at staged
  cases staged
  rfl

/-- Units of a product the entry takes from stock. -/
def reserved (productID : Int) (entry : Entry) : Int :=
  if entry.order.status.live then quantityOf productID entry.items else 0

theorem Pending.reserved {entry : Entry} (waiting : entry.Pending) :
    entry.reserved productID = quantityOf productID entry.items := by
  have status : entry.order.status = .pending := waiting
  simp [Entry.reserved, status, OrderStatus.live]

@[simp] theorem confirm_reserved (entry : Entry) (txnID : String) :
    (entry.confirm txnID).reserved productID = quantityOf productID entry.items := rfl

@[simp] theorem cancel_reserved (entry : Entry) : entry.cancel.reserved productID = 0 := rfl

/-- Units of a product that go back on stock if the entry is cancelled. -/
def outstanding (productID : Int) (entry : Entry) : Int :=
  if entry.order.status = .pending then quantityOf productID entry.items else 0

theorem Pending.outstanding {entry : Entry} (waiting : entry.Pending) :
    entry.outstanding productID = quantityOf productID entry.items := if_pos waiting

theorem outstanding_nonneg (entry : Entry) : 0 ≤ entry.outstanding productID := by
  unfold outstanding
  split
  · exact quantityOf_nonneg entry.positive
  · exact le_refl 0

@[simp] theorem confirm_outstanding (entry : Entry) (txnID : String) :
    (entry.confirm txnID).outstanding productID = 0 := rfl

@[simp] theorem cancel_outstanding (entry : Entry) : entry.cancel.outstanding productID = 0 := rfl

end Entry

structure Ledger where
  stock : Int → Int
  book : List Entry

namespace Ledger

def reserved (ledger : Ledger) (productID : Int) : Int :=
  (ledger.book.map (Entry.reserved productID)).sum

/-- Units of a product on stock or taken by a live order. -/
def total (ledger : Ledger) (productID : Int) : Int :=
  ledger.stock productID + ledger.reserved productID

/-- Declare the stock level of one product. -/
def restate (ledger : Ledger) (productID quantity : Int) : Ledger :=
  { ledger with stock := fun other => if other = productID then quantity else ledger.stock other }

theorem restate_total (ledger : Ledger) (different : other ≠ productID) :
    (ledger.restate productID quantity).total other = ledger.total other := by
  simp [total, restate, reserved, different]

/-- What the order path may do to the ledger. -/
inductive Move : Ledger → Ledger → Prop where
  | place {level : Int → Int} {entries : List Entry} {entry : Entry} (waiting : entry.Pending)
      (orderFresh : ∀ other ∈ entries, other.order.id ≠ entry.order.id)
      (paymentFresh : ∀ other ∈ entries, other.payment.id ≠ entry.payment.id)
      (keyFresh : ∀ other ∈ entries, other.payment.idempotencyKey ≠ entry.payment.idempotencyKey) :
      Move ⟨level, entries⟩
        ⟨fun productID => level productID - quantityOf productID entry.items, entries ++ [entry]⟩
  | confirm {level : Int → Int} {before after : List Entry} {entry : Entry} (waiting : entry.Pending)
      (txnID : String) :
      Move ⟨level, before ++ entry :: after⟩ ⟨level, before ++ entry.confirm txnID :: after⟩
  | cancel {level : Int → Int} {before after : List Entry} {entry : Entry} (waiting : entry.Pending) :
      Move ⟨level, before ++ entry :: after⟩
        ⟨fun productID => level productID + quantityOf productID entry.items,
          before ++ entry.cancel :: after⟩

/-- Stock and live reservations of a product together are conserved. -/
theorem Move.total {first second : Ledger} (move : Move first second) (productID : Int) :
    second.total productID = first.total productID := by
  cases move with
  | place waiting =>
    simp only [Ledger.total, Ledger.reserved, List.map_append, List.sum_append, List.map_cons, List.map_nil,
      List.sum_cons, List.sum_nil, waiting.reserved]
    omega
  | confirm waiting txnID =>
    simp [Ledger.total, Ledger.reserved, waiting.reserved]
  | cancel waiting =>
    simp only [Ledger.total, Ledger.reserved, List.map_append, List.sum_append, List.map_cons,
      List.sum_cons, waiting.reserved, Entry.cancel_reserved]
    omega

def outstanding (ledger : Ledger) (productID : Int) : Int :=
  (ledger.book.map (Entry.outstanding productID)).sum

/-- Whatever pending orders are cancelled, no stock level passes the limit. -/
def Releasable (limit : Int) (ledger : Ledger) : Prop :=
  ∀ productID, ledger.stock productID + ledger.outstanding productID ≤ limit

/-- What is put on stock was outstanding, and what becomes outstanding was on stock. -/
theorem Move.releasable {first second : Ledger} (move : Move first second) (room : first.Releasable limit) :
    second.Releasable limit := by
  intro productID
  have bound := room productID
  cases move with
  | place waiting =>
    simp only [Ledger.outstanding, List.map_append, List.sum_append, List.map_cons, List.map_nil, List.sum_cons,
      List.sum_nil, waiting.outstanding] at bound ⊢
    omega
  | @confirm _ _ _ entry waiting txnID =>
    have units : 0 ≤ entry.outstanding productID := entry.outstanding_nonneg
    simp only [Ledger.outstanding, List.map_append, List.sum_append, List.map_cons, List.sum_cons,
      Entry.confirm_outstanding] at bound ⊢
    omega
  | cancel waiting =>
    simp only [Ledger.outstanding, List.map_append, List.sum_append, List.map_cons, List.sum_cons,
      waiting.outstanding, Entry.cancel_outstanding] at bound ⊢
    omega

theorem Releasable.restate {ledger : Ledger} (room : ledger.Releasable limit)
    (fits : quantity + ledger.outstanding productID ≤ limit) : (ledger.restate productID quantity).Releasable limit := by
  intro other
  simp only [Ledger.restate]
  split
  · rename_i same
    rw [same]
    exact fits
  · exact room other

/-- In particular every pending order can be cancelled at once. -/
theorem Releasable.cancellable {ledger : Ledger} {entry : Entry} (room : ledger.Releasable limit) (member : entry ∈ ledger.book)
    (waiting : entry.Pending) (productID : Int) :
    ledger.stock productID + quantityOf productID entry.items ≤ limit := by
  have part : entry.outstanding productID ≤ ledger.outstanding productID := by
    refine List.single_le_sum ?_ _ (List.mem_map_of_mem member)
    intro units listed
    obtain ⟨other, _, rfl⟩ := List.mem_map.mp listed
    exact other.outstanding_nonneg
  have bound := room productID
  rw [waiting.outstanding] at part
  omega

/-- Later contents of one position of the book: the row keys, the lines and the
amount stay; once settled, nothing changes any more. -/
structure Later (first second : Entry) : Prop where
  order : second.order = { first.order with status := second.order.status }
  payment : second.payment =
    { first.payment with status := second.payment.status, providerTxnID := second.payment.providerTxnID }
  items : second.items = first.items
  settled : ¬ first.Pending → second = first

theorem Later.refl (entry : Entry) : Later entry entry := ⟨rfl, rfl, rfl, fun _ => rfl⟩

theorem Later.trans {first second third : Entry} (left : Later first second) (right : Later second third) :
    Later first third where
  order := by rw [right.order, left.order]
  payment := by rw [right.payment, left.payment]
  items := right.items.trans left.items
  settled done := by
    have same := left.settled done
    subst same
    exact right.settled done

theorem Later.settle {entry : Entry} (waiting : entry.Pending) (staged : Staged status outcome txn) :
    Later entry (entry.settle staged) := ⟨rfl, rfl, rfl, fun done => absurd waiting done⟩

/-- Every entry of the first book lives on in the second. -/
def Extends (first second : Ledger) : Prop :=
  ∀ entry ∈ first.book, ∃ later ∈ second.book, Later entry later

theorem Extends.refl (ledger : Ledger) : Extends ledger ledger :=
  fun entry member => ⟨entry, member, .refl entry⟩

theorem Extends.trans {first second third : Ledger} (left : Extends first second)
    (right : Extends second third) : Extends first third := by
  intro entry member
  obtain ⟨middle, present, near⟩ := left entry member
  obtain ⟨last, kept, far⟩ := right middle present
  exact ⟨last, kept, near.trans far⟩

private theorem extends_replace (later : Later entry replaced) :
    ∀ old ∈ before ++ entry :: after, ∃ new ∈ before ++ replaced :: after, Later old new := by
  intro old member
  rcases List.mem_append.mp member with left | right
  · exact ⟨old, by simp [left], .refl old⟩
  · rcases List.mem_cons.mp right with same | right
    · exact ⟨replaced, by simp, same ▸ later⟩
    · exact ⟨old, by simp [right], .refl old⟩

theorem Move.extends {first second : Ledger} (move : Move first second) : Extends first second := by
  cases move with
  | place =>
    intro old member
    exact ⟨old, List.mem_append_left _ member, .refl old⟩
  | confirm waiting txnID => exact extends_replace (.settle waiting _)
  | cancel waiting => exact extends_replace (.settle waiting _)

end Ledger

end OrderProcessing
