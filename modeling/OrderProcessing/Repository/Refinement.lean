import OrderProcessing.Ledger
import OrderProcessing.Repository.Effects

/-! The tables refine the abstract ledger. Every successful transaction of the
order repository is one move of the ledger, or leaves it as it is. -/

namespace OrderProcessing

open Library

/-- The tables hold exactly the book of the ledger, and its stock levels. -/
structure Db.Refines (db : Db) (ledger : Ledger) : Prop where
  orders : db.orders = ledger.book.map (·.order)
  items : db.orderItems = ledger.book.flatMap (·.items)
  payments : db.payments = ledger.book.map (·.payment)
  stock : ∀ productID, db.quantity productID = ledger.stock productID
  orderIDs : (ledger.book.map (·.order.id)).Nodup
  paymentIDs : (ledger.book.map (·.payment.id)).Nodup
  keys : (ledger.book.map (·.payment.idempotencyKey)).Nodup
  productIDs : (db.inventory.map (·.productID)).Nodup
  rowIDs : (db.inventory.map (·.id)).Nodup
  stocked : ∀ row ∈ db.inventory, Stocked row
  carried : ∀ item ∈ db.orderItems, (db.stock? item.productID).isSome

/-- The order service hands over an order and payment of these shapes. -/
structure NewOrder.Drafted (new : NewOrder) : Prop where
  orderPending : new.order.status = .pending
  paymentPending : new.payment.status = .pending
  uncharged : new.payment.providerTxnID = none
  priced : new.order.totalPrice = totalOf new.items
  amount : new.payment.amount = totalOf new.items

/-- A payment loaded from the row of an entry, possibly long ago: the columns
that never change still agree. -/
structure Entry.Snapshot (entry : Entry) (payment : Payment) : Prop where
  paymentID : payment.id = entry.payment.id
  orderID : payment.orderID = entry.order.id
  key : payment.idempotencyKey = entry.payment.idempotencyKey
  amount : payment.amount = entry.payment.amount

theorem Entry.snapshot (entry : Entry) : entry.Snapshot entry.payment := ⟨rfl, entry.billed, rfl, rfl⟩

theorem Entry.Snapshot.later {first second : Entry} {payment : Payment} (taken : first.Snapshot payment)
    (later : Ledger.Later first second) : second.Snapshot payment where
  paymentID := by rw [later.payment]; exact taken.paymentID
  orderID := by rw [later.order]; exact taken.orderID
  key := by rw [later.payment]; exact taken.key
  amount := by rw [later.payment]; exact taken.amount

namespace Db.Refines

variable {db final : Db} {ledger : Ledger} {payment : Payment} {entry : Entry}

theorem payment_found (refines : db.Refines ledger) (member : entry ∈ ledger.book) :
    db.payment? entry.payment.id = some entry.payment := by
  have distinct : (db.payments.map (·.id)).Nodup := by
    simpa [refines.payments, Function.comp_def] using refines.paymentIDs
  exact find_keyed distinct (by simpa [refines.payments] using ⟨entry, member, rfl⟩)

theorem order_found (refines : db.Refines ledger) (member : entry ∈ ledger.book) :
    db.order? entry.order.id = some entry.order := by
  have distinct : (db.orders.map (·.id)).Nodup := by
    simpa [refines.orders, Function.comp_def] using refines.orderIDs
  exact find_keyed distinct (by simpa [refines.orders] using ⟨entry, member, rfl⟩)

/-- The lines stored under the id of an entry are the lines of that entry. -/
theorem lines_found (refines : db.Refines ledger) (member : entry ∈ ledger.book) :
    db.itemsOf entry.order.id = entry.items := by
  obtain ⟨before, after, split⟩ := List.append_of_mem member
  have apart := keyed_split (fun entry : Entry => entry.order.id) (split ▸ refines.orderIDs)
  have foreign : ∀ other : Entry, other.order.id ≠ entry.order.id →
      other.items.filter (fun row => row.orderID = entry.order.id) = [] := by
    intro other different
    apply List.filter_eq_nil_iff.mpr
    intro row line
    simpa [other.owned row line] using different
  have nowhere : ∀ entries : List Entry, (∀ other ∈ entries, other.order.id ≠ entry.order.id) →
      (entries.flatMap (·.items)).filter (fun row => row.orderID = entry.order.id) = [] := by
    intro entries different
    rw [List.filter_flatMap]
    exact List.flatMap_eq_nil_iff.mpr fun other present => foreign other (different other present)
  have own : entry.items.filter (fun row => row.orderID = entry.order.id) = entry.items :=
    List.filter_eq_self.mpr fun row line => by simpa using entry.owned row line
  rw [Db.itemsOf, refines.items, split, List.flatMap_append, List.flatMap_cons, List.filter_append,
    List.filter_append, nowhere before apart.1, nowhere after apart.2, own]
  simp

/-- Units of a product in the orders with certain statuses, in the tables and in the book. -/
theorem units (refines : db.Refines ledger) (counts : OrderStatus → Bool) (productID : Int) :
    ((db.orders.filter fun order => counts order.status).map fun order =>
      quantityOf productID (db.itemsOf order.id)).sum =
    (ledger.book.map fun entry => if counts entry.order.status then quantityOf productID entry.items else 0).sum := by
  have lines : ∀ entry ∈ ledger.book, quantityOf productID (db.itemsOf entry.order.id) =
      quantityOf productID entry.items := fun entry member => by rw [refines.lines_found member]
  rw [refines.orders]
  generalize ledger.book = book at lines
  induction book with
  | nil => rfl
  | cons entry rest ih =>
    have own := lines entry (by simp)
    have others := ih fun other member => lines other (by simp [member])
    rw [List.map_cons, List.filter_cons, List.map_cons, List.sum_cons, ← others]
    cases counted : counts entry.order.status with
    | true => simp only [↓reduceIte, List.map_cons, List.sum_cons, own]
    | false => simp only [Bool.false_eq_true, ↓reduceIte, zero_add]

theorem reserved (refines : db.Refines ledger) (productID : Int) :
    db.reserved productID = ledger.reserved productID := by
  refine Eq.trans ?_ (refines.units OrderStatus.live productID)
  simp only [Db.reserved, OrderStatus.live, Bool.decide_or]

theorem outstanding (refines : db.Refines ledger) (productID : Int) :
    db.outstanding productID = ledger.outstanding productID := by
  refine (refines.units (fun status => status = .pending) productID).trans ?_
  rw [Ledger.outstanding]
  congr 1
  exact List.map_congr_left fun entry _ => by simp [Entry.outstanding]

/-- A level that is in the tables is one the column accepts. -/
theorem level_fits (refines : db.Refines ledger) (productID : Int) : ledger.stock productID ≤ 2147483647 := by
  rw [← refines.stock, Db.quantity]
  cases found : db.stock? productID with
  | none => simp
  | some row => simpa using (refines.stocked row (List.mem_of_find?_eq_some found)).2

/-- The pending row under a payment id belongs to a pending entry. -/
theorem awaiting_entry (refines : db.Refines ledger)
    (waiting : OrderRepository.Awaiting db paymentID) :
    ∃ entry ∈ ledger.book, entry.payment.id = paymentID ∧ entry.Pending := by
  obtain ⟨row, found, pending⟩ := waiting
  have member := List.mem_of_find?_eq_some found
  rw [refines.payments] at member
  obtain ⟨entry, present, same⟩ := List.mem_map.mp member
  have id := payment_id found
  exact ⟨entry, present, by rw [same]; exact id, entry.pending_iff.mpr (by rw [same]; exact pending)⟩

/-- Writing the statuses of one entry settles exactly that entry. -/
theorem settle (refines : db.Refines ⟨level, before ++ entry :: after⟩)
    (staged : Staged status outcome txn)
    (shifted : ({ db with
      payments := db.payments.map (Db.setPaymentStatus entry.payment.id outcome txn)
      orders := db.orders.map (Db.setOrderStatus entry.order.id status) } : Db).Shifted change final) :
    final.Refines ⟨fun productID => level productID + change productID,
      before ++ entry.settle staged :: after⟩ := by
  have others := shifted.others
  have orders : (before ++ entry :: after).map (fun old => Db.setOrderStatus entry.order.id status old.order) =
      (before ++ entry.settle staged :: after).map (·.order) := by
    obtain ⟨left, right⟩ := keyed_split (fun entry : Entry => entry.order.id) refines.orderIDs
    simp only [List.map_append, List.map_cons]
    congr 1
    · exact List.map_congr_left fun old member => by simp [Db.setOrderStatus, left old member]
    · congr 1
      · simp [Db.setOrderStatus, Entry.settle]
      · exact List.map_congr_left fun old member => by simp [Db.setOrderStatus, right old member]
  have payments : (before ++ entry :: after).map
        (fun old => Db.setPaymentStatus entry.payment.id outcome txn old.payment) =
      (before ++ entry.settle staged :: after).map (·.payment) := by
    obtain ⟨left, right⟩ := keyed_split (fun entry : Entry => entry.payment.id) refines.paymentIDs
    simp only [List.map_append, List.map_cons]
    congr 1
    · exact List.map_congr_left fun old member => by simp [Db.setPaymentStatus, left old member]
    · congr 1
      · simp [Db.setPaymentStatus, Entry.settle]
      · exact List.map_congr_left fun old member => by simp [Db.setPaymentStatus, right old member]
  refine { orders := ?_, items := ?_, payments := ?_, stock := ?_, orderIDs := ?_, paymentIDs := ?_,
           keys := ?_, productIDs := ?_, rowIDs := ?_, stocked := ?_, carried := ?_ }
  · rw [others, ← orders, refines.orders]; simp [Function.comp_def]
  · rw [others]; simpa [Entry.settle] using refines.items
  · rw [others, ← payments, refines.payments]; simp [Function.comp_def]
  · intro productID
    rw [shifted.quantity]
    exact congrArg (· + change productID) (refines.stock productID)
  · simpa [Entry.settle] using refines.orderIDs
  · simpa [Entry.settle] using refines.paymentIDs
  · simpa [Entry.settle] using refines.keys
  · rw [shifted.productIDs]; exact refines.productIDs
  · rw [shifted.rowIDs]; exact refines.rowIDs
  · exact shifted.stocked refines.stocked
  · intro item member
    rw [shifted.present]
    rw [others] at member
    exact refines.carried item member

/-- A change of stock levels alone. -/
theorem shift (refines : db.Refines ledger) (shifted : db.Shifted change final) :
    final.Refines ⟨fun productID => ledger.stock productID + change productID, ledger.book⟩ := by
  have others := shifted.others
  refine { orders := ?_, items := ?_, payments := ?_, stock := ?_, orderIDs := refines.orderIDs,
           paymentIDs := refines.paymentIDs, keys := refines.keys, productIDs := ?_, rowIDs := ?_,
           stocked := shifted.stocked refines.stocked, carried := ?_ }
  · rw [others]; exact refines.orders
  · rw [others]; exact refines.items
  · rw [others]; exact refines.payments
  · intro productID
    rw [shifted.quantity]
    exact congrArg (· + change productID) (refines.stock productID)
  · rw [shifted.productIDs]; exact refines.productIDs
  · rw [shifted.rowIDs]; exact refines.rowIDs
  · intro item member
    rw [shifted.present]
    rw [others] at member
    exact refines.carried item member

end Db.Refines

namespace OrderRepository

variable {db final : Db} {ledger : Ledger} {payment : Payment} {entry : Entry} {new : NewOrder}

/-- The entry a stored new order becomes. -/
def newEntry (generated : Generated) (new : NewOrder) (drafted : new.Drafted)
    (accepted : Accepted generated new db) : Entry where
  order := orderRow generated new
  items := itemRows generated new
  payment := paymentRow generated new
  owned := by simp [itemRows, orderRow]
  positive := by
    intro item member
    obtain ⟨line, present, rfl⟩ := List.mem_map.mp member
    exact accepted.positive line present
  distinct := by simpa [itemRows, Function.comp_def] using accepted.distinct
  billed := rfl
  priced := by simpa [orderRow, itemRows, totalOf, Function.comp_def] using drafted.priced
  amount := by simpa [paymentRow, itemRows, totalOf, Function.comp_def] using drafted.amount
  staged := by
    have statuses : Staged new.order.status new.payment.status new.payment.providerTxnID := by
      rw [drafted.orderPending, drafted.paymentPending, drafted.uncharged]
      exact .pending
    exact statuses

theorem createOrder_refines (refines : db.Refines ledger) (drafted : new.Drafted)
    (success : (createOrder generated new).atomic postgres db = ((value, none), final)) :
    value = generated.orderID ∧ ∃ accepted : Accepted generated new db,
      Ledger.Move ledger ⟨fun productID => ledger.stock productID - quantityOf productID new.items,
        ledger.book ++ [newEntry generated new drafted accepted]⟩ ∧
      final.Refines ⟨fun productID => ledger.stock productID - quantityOf productID new.items,
        ledger.book ++ [newEntry generated new drafted accepted]⟩ := by
  obtain ⟨rfl, accepted, middle, shifted, stored⟩ := createOrder_effect success
  have sameLines (productID : Int) : quantityOf productID (itemRows generated new) =
      quantityOf productID new.items := by
    simp [itemRows, quantityOf, Function.comp_def]
  have orderFresh : ∀ other ∈ ledger.book, other.order.id ≠ generated.orderID := by
    intro other member
    exact accepted.freshOrder other.order (by simpa [refines.orders] using ⟨other, member, rfl⟩)
  have paymentFresh : ∀ other ∈ ledger.book, other.payment.id ≠ generated.paymentID := by
    intro other member
    exact accepted.freshPayment other.payment (by simpa [refines.payments] using ⟨other, member, rfl⟩)
  have keyFresh : ∀ other ∈ ledger.book,
      other.payment.idempotencyKey ≠ new.payment.idempotencyKey := by
    intro other member
    exact accepted.freshKey other.payment (by simpa [refines.payments] using ⟨other, member, rfl⟩)
  refine ⟨rfl, accepted, ?_, ?_⟩
  · have placed : Ledger.Move ledger ⟨_, ledger.book ++ [newEntry generated new drafted accepted]⟩ :=
      .place drafted.orderPending orderFresh paymentFresh keyFresh
    have lines : (newEntry generated new drafted accepted).items = itemRows generated new := rfl
    simpa only [lines, sameLines] using placed
  · have moved := refines.shift shifted
    have others := shifted.others
    subst stored
    refine { orders := ?_, items := ?_, payments := ?_, stock := ?_, orderIDs := ?_, paymentIDs := ?_,
             keys := ?_, productIDs := moved.productIDs, rowIDs := moved.rowIDs,
             stocked := moved.stocked, carried := ?_ }
    · simp [refines.orders, newEntry]
    · simp [refines.items, newEntry]
    · simp [refines.payments, newEntry]
    · intro productID
      have level := moved.stock productID
      simp only [Db.quantity, Db.stock?] at level ⊢
      rw [level]
      omega
    · simpa [newEntry, orderRow, List.nodup_append] using ⟨refines.orderIDs, orderFresh⟩
    · simpa [newEntry, paymentRow, List.nodup_append] using ⟨refines.paymentIDs, paymentFresh⟩
    · simpa [newEntry, paymentRow, List.nodup_append] using ⟨refines.keys, keyFresh⟩
    · intro item member
      change (middle.stock? item.productID).isSome
      rw [shifted.present]
      rcases List.mem_append.mp member with old | added
      · exact refines.carried item old
      · obtain ⟨line, present, rfl⟩ := List.mem_map.mp added
        exact accepted.stocked line present

/-- The two guarded updates of a settlement hit the two rows of one entry. -/
theorem advanced_settles (refines : db.Refines ⟨level, before ++ entry :: after⟩) (waiting : entry.Pending) :
    advanced (db.apply (.paymentStatus entry.payment.id outcome txn)) entry.order.id status =
      { db with
        payments := db.payments.map (Db.setPaymentStatus entry.payment.id outcome txn)
        orders := db.orders.map (Db.setOrderStatus entry.order.id status) } := by
  have found : db.order? entry.order.id = some entry.order := refines.order_found (by simp)
  have pending : entry.order.status = .pending := waiting
  have unchanged : (db.apply (.paymentStatus entry.payment.id outcome txn)).order? entry.order.id =
      db.order? entry.order.id := rfl
  simp only [advanced, unchanged, found, pending, ↓reduceIte]
  rfl

/-- The pending entry a snapshot belongs to, in its place in the book. -/
theorem snapshot_split (refines : db.Refines ledger) (member : entry ∈ ledger.book)
    (taken : entry.Snapshot payment) (waiting : Awaiting db payment.id) :
    entry.Pending ∧ ∃ before after, ledger.book = before ++ entry :: after := by
  obtain ⟨other, present, same, pending⟩ := refines.awaiting_entry waiting
  have identical : other = entry :=
    List.inj_on_of_nodup_map refines.paymentIDs present member (same.trans taken.paymentID)
  subst identical
  exact ⟨pending, List.append_of_mem member⟩

/-- A `markPaidAndConfirm` that reports the transition confirms the entry it
was called for; otherwise the entry was settled before and nothing changes. -/
theorem markPaidAndConfirm_refines (refines : db.Refines ledger) (member : entry ∈ ledger.book)
    (taken : entry.Snapshot payment)
    (success : (markPaidAndConfirm payment txnID).atomic postgres db = ((value, none), final)) :
    (value = true ∧ entry.Pending ∧ ∃ before after, ledger.book = before ++ entry :: after ∧
      final.Refines ⟨ledger.stock, before ++ entry.confirm txnID :: after⟩) ∨
      (value = false ∧ ¬ Awaiting db payment.id ∧ final = db) := by
  rcases markPaidAndConfirm_effect db payment txnID with ⟨waiting, effect⟩ | ⟨settled, effect⟩
  · obtain ⟨pending, before, after, split⟩ := snapshot_split refines member taken waiting
    obtain ⟨level, book⟩ := ledger
    simp only at split
    subst split
    rw [effect, taken.paymentID, taken.orderID, advanced_settles refines pending] at success
    simp only [Prod.mk.injEq, and_true] at success
    obtain ⟨rfl, rfl⟩ := success
    have refined := refines.settle (.confirmed txnID) (Db.Shifted.refl _)
    simp only [add_zero] at refined
    exact .inl ⟨rfl, pending, before, after, rfl, refined⟩
  · rw [effect] at success
    simp only [Prod.mk.injEq, and_true] at success
    exact .inr ⟨success.1.symm, settled, success.2.symm⟩

theorem failCancelAndRestock_refines (refines : db.Refines ledger) (member : entry ∈ ledger.book)
    (taken : entry.Snapshot payment)
    (success : (failCancelAndRestock payment scan).atomic postgres db = ((value, none), final)) :
    (value = true ∧ entry.Pending ∧ ∃ before after, ledger.book = before ++ entry :: after ∧
      final.Refines ⟨fun productID => ledger.stock productID + quantityOf productID entry.items,
        before ++ entry.cancel :: after⟩) ∨
      (value = false ∧ ¬ Awaiting db payment.id ∧ final = db) := by
  have lines := refines.lines_found member
  have present : ∀ item ∈ db.itemsOf payment.orderID, (db.stock? item.productID).isSome := by
    intro item line
    exact refines.carried item (List.mem_filter.mp line).1
  rcases failCancelAndRestock_effect present success with ⟨flag, row, found, status, shifted⟩ | unchanged
  · obtain ⟨pending, before, after, split⟩ := snapshot_split refines member taken ⟨row, found, status⟩
    have same : row = entry.payment := by
      have own := refines.payment_found member
      rw [← taken.paymentID, found] at own
      exact Option.some.inj own
    have uncharged : row.providerTxnID = none := by
      have staged := entry.staged
      rw [← same, status] at staged
      generalize row.providerTxnID = txn at staged ⊢
      generalize entry.order.status = own at staged
      cases staged
      rfl
    obtain ⟨level, book⟩ := ledger
    simp only at split
    subst split
    rw [uncharged, taken.paymentID, taken.orderID, advanced_settles refines pending, lines] at shifted
    exact .inl ⟨flag, pending, before, after, rfl, refines.settle .cancelled shifted⟩
  · exact .inr unchanged

end OrderRepository

/-- Users and products do not appear in the ledger. -/
theorem Db.Refines.congr {db : Db} {ledger : Ledger} (refines : db.Refines ledger) (final : Db)
    (inventory : final.inventory = db.inventory) (orders : final.orders = db.orders)
    (items : final.orderItems = db.orderItems) (payments : final.payments = db.payments) :
    final.Refines ledger where
  orders := orders.trans refines.orders
  items := items.trans refines.items
  payments := payments.trans refines.payments
  stock productID := by
    simpa [Db.quantity, Db.stock?, inventory] using refines.stock productID
  orderIDs := refines.orderIDs
  paymentIDs := refines.paymentIDs
  keys := refines.keys
  productIDs := by rw [inventory]; exact refines.productIDs
  rowIDs := by rw [inventory]; exact refines.rowIDs
  stocked := by rw [inventory]; exact refines.stocked
  carried := by
    intro item member
    rw [items] at member
    simpa [Db.stock?, inventory] using refines.carried item member

namespace ProductRepository

variable {db final : Db} {ledger : Ledger} {row : Inventory} {loaded : LoadedProduct}

theorem insertInventory_refines (refines : db.Refines ledger) (row : Inventory)
    (done : postgres.answer (.insertInventory row) db = (.ok answer, final)) :
    final.Refines (ledger.restate row.productID row.quantity) := by
  obtain ⟨checks, _, rfl⟩ := guarded_answer rfl done
  simp only [List.mem_cons, forall_eq_or_imp] at checks
  obtain ⟨range, sign, fresh, _, _⟩ := checks
  have absent : ∀ old ∈ db.inventory, old.id ≠ row.id ∧ old.productID ≠ row.productID := by
    simpa using fresh
  have missing : db.stock? row.productID = none := by
    simpa [Db.stock?] using fun old member => (absent old member).2
  have found (productID : Int) : ({ db with inventory := db.inventory ++ [row] } : Db).stock? productID =
      (db.stock? productID).or (if row.productID = productID then some row else none) := by
    simp [Db.stock?, List.find?_append, List.find?_singleton]
  change ({ db with inventory := db.inventory ++ [row] } : Db).Refines _
  refine { refines with stock := ?_, productIDs := ?_, rowIDs := ?_, stocked := ?_, carried := ?_ }
  · intro productID
    rw [Db.quantity, found, Ledger.restate]
    have before := refines.stock productID
    rw [Db.quantity] at before
    by_cases same : productID = row.productID
    · subst same
      simp [missing]
    · simpa [same, Ne.symm same] using before
  · simpa [List.nodup_append] using ⟨refines.productIDs, fun old member => (absent old member).2⟩
  · simpa [List.nodup_append] using ⟨refines.rowIDs, fun old member => (absent old member).1⟩
  · intro old member
    rcases List.mem_append.mp member with present | added
    · exact refines.stocked old present
    · rw [List.mem_singleton.mp added]
      simp only [fitsInteger] at range
      exact ⟨by simpa using sign, by simp at range; omega⟩
  · intro item member
    rw [found]
    have kept := refines.carried item member
    obtain ⟨old, located⟩ := Option.isSome_iff_exists.mp kept
    simp [located]

/-- Overwriting the inventory row of a product declares its stock level. -/
theorem saveInventory_refines (refines : db.Refines ledger)
    (own : ∀ old ∈ db.inventory, old.id = row.id → old.productID = row.productID)
    (done : postgres.answer (.saveInventory row) db = (.ok answer, final)) :
    final.Refines (ledger.restate row.productID row.quantity) := by
  obtain ⟨checks, _, rfl⟩ := guarded_answer rfl done
  simp only [List.mem_cons, forall_eq_or_imp] at checks
  obtain ⟨range, sign, located, _⟩ := checks
  obtain ⟨current, present, sameID⟩ : ∃ old ∈ db.inventory, old.id = row.id := by simpa using located
  have sameKey : ∀ old ∈ db.inventory, (Db.replaceInventory row old).productID = old.productID := by
    intro old member
    unfold Db.replaceInventory
    split
    · rename_i same; exact (own old member same).symm
    · rfl
  have found (productID : Int) : (postgres.applyAll db [.inventoryRow row]).stock? productID =
      (db.stock? productID).map (Db.replaceInventory row) := find_map_keyed sameKey productID
  refine { refines with stock := ?_, productIDs := ?_, rowIDs := ?_, stocked := ?_, carried := ?_ }
  · intro productID
    have before := refines.stock productID
    rw [Db.quantity] at before
    rw [Db.quantity, found, Ledger.restate]
    by_cases same : productID = row.productID
    · subst same
      have located : db.stock? row.productID = some current := by
        rw [← own current present sameID]
        exact find_keyed refines.productIDs present
      simp [located, Db.replaceInventory, sameID]
    · simp only [same, ↓reduceIte]
      rw [← before]
      cases located : db.stock? productID with
      | none => rfl
      | some old =>
        have key := stock_productID located
        have other : old.id ≠ row.id := fun equal =>
          same (key.symm.trans (own old (List.mem_of_find?_eq_some located) equal))
        simp [Db.replaceInventory, other]
  · have kept : (db.inventory.map (Db.replaceInventory row)).map (·.productID) =
        db.inventory.map (·.productID) := by
      rw [List.map_map]
      exact List.map_congr_left sameKey
    exact kept ▸ refines.productIDs
  · have kept : (db.inventory.map (Db.replaceInventory row)).map (·.id) = db.inventory.map (·.id) := by
      rw [List.map_map]
      refine List.map_congr_left fun old _ => ?_
      simp only [Function.comp_apply, Db.replaceInventory]
      split
      · rename_i same; exact same.symm
      · rfl
    exact kept ▸ refines.rowIDs
  · intro updated member
    obtain ⟨old, located, rfl⟩ := List.mem_map.mp member
    unfold Db.replaceInventory
    split
    · simp only [fitsInteger] at range
      exact ⟨by simpa using sign, by simp at range; omega⟩
    · exact refines.stocked old located
  · intro item member
    rw [found, Option.isSome_map]
    exact refines.carried item member

theorem saveInventory_slots (own : ∀ old ∈ db.inventory, old.id = row.id → old.productID = row.productID)
    (done : postgres.answer (.saveInventory row) db = (.ok answer, final)) : db.slots ⊆ final.slots := by
  obtain ⟨_, _, rfl⟩ := guarded_answer rfl done
  intro slot member
  obtain ⟨old, present, rfl⟩ := List.mem_map.mp member
  refine List.mem_map.mpr ⟨Db.replaceInventory row old, List.mem_map_of_mem present, ?_⟩
  unfold Db.replaceInventory
  split
  · rename_i same
    rw [own old present same, same]
  · rfl

/-- An edit is loaded from the row it will overwrite, or has no row yet. -/
structure Editing (db : Db) (loaded : LoadedProduct) : Prop where
  product : ∀ inventory, loaded.inventory = some inventory → inventory.productID = loaded.product.id
  row : ∀ inventory, loaded.inventory = some inventory → inventory.id ≠ 0 →
    (inventory.id, inventory.productID) ∈ db.slots

theorem Editing.mono (editing : Editing db loaded) (kept : db.slots ⊆ final.slots) : Editing final loaded where
  product := editing.product
  row inventory given numbered := kept (editing.row inventory given numbered)

/-- The row with the id of the edit is the row of its product. -/
theorem Editing.own (editing : Editing db loaded) (refines : db.Refines ledger)
    (given : loaded.inventory = some row) (numbered : row.id ≠ 0) :
    ∀ old ∈ db.inventory, old.id = row.id → old.productID = row.productID := by
  intro old member same
  obtain ⟨current, present, slot⟩ := List.mem_map.mp (editing.row row given numbered)
  obtain ⟨sameID, sameProduct⟩ := Prod.mk.inj slot
  have identical := List.inj_on_of_nodup_map refines.rowIDs member present (same.trans sameID.symm)
  rw [identical, sameProduct]

theorem updateProduct_refines (refines : db.Refines ledger) (editing : Editing db loaded)
    (success : (updateProduct generated loaded).atomic postgres db = ((value, none), final)) :
    db.slots ⊆ final.slots ∧ ((loaded.inventory = none ∧ final.Refines ledger) ∨
      ∃ inventory, loaded.inventory = some inventory ∧
        final.Refines (ledger.restate loaded.product.id inventory.quantity)) := by
  obtain ⟨_, middle, first, success⟩ := Program.answered success fun _ => ⟨_, _, rfl⟩
  obtain ⟨_, _, rfl⟩ := guarded_answer rfl first
  have kept := refines.congr (postgres.applyAll db [.productRow loaded.product]) rfl rfl rfl rfl
  cases given : loaded.inventory with
  | none =>
    simp only [given] at success
    cases success
    exact ⟨List.Subset.refl _, .inl ⟨rfl, kept⟩⟩
  | some inventory =>
    rw [← editing.product inventory given]
    simp only [given, saveInventory] at success
    split at success
    · obtain ⟨_, last, second, success⟩ := Program.answered success fun _ => ⟨_, _, rfl⟩
      cases success
      have slots := answer_slots Unit (.insertInventory { inventory with id := generated })
        (postgres.applyAll db [.productRow loaded.product]) (by simp [KeepsRows, Statement.targets])
      rw [second] at slots
      exact ⟨slots, .inr ⟨inventory, rfl, insertInventory_refines kept { inventory with id := generated } second⟩⟩
    · rename_i numbered
      obtain ⟨_, last, second, success⟩ := Program.answered success fun _ => ⟨_, _, rfl⟩
      cases success
      have own : ∀ old ∈ (postgres.applyAll db [.productRow loaded.product]).inventory,
          old.id = inventory.id → old.productID = inventory.productID := editing.own refines given numbered
      have slots := saveInventory_slots own second
      exact ⟨slots, .inr ⟨inventory, rfl, saveInventory_refines kept own second⟩⟩

/-- A product that was created had its inventory row inserted last. -/
theorem createProduct_inserted (success : (createProduct product row).atomic postgres db = ((value, none), final)) :
    postgres.answer (.insertInventory { row with productID := product.id }) (db.apply (.newProduct product)) =
      (.ok (), final) := by
  obtain ⟨_, middle, first, success⟩ := Program.answered success fun _ => ⟨_, _, rfl⟩
  obtain ⟨_, _, rfl⟩ := guarded_answer rfl first
  obtain ⟨_, last, second, success⟩ := Program.answered success fun _ => ⟨_, _, rfl⟩
  cases success
  exact second

theorem createProduct_refines (refines : db.Refines ledger)
    (success : (createProduct product row).atomic postgres db = ((value, none), final)) :
    final.Refines (ledger.restate product.id row.quantity) := by
  have kept := refines.congr (db.apply (.newProduct product)) rfl rfl rfl rfl
  exact insertInventory_refines kept { row with productID := product.id } (createProduct_inserted success)

theorem createProduct_fresh (success : (createProduct product row).atomic postgres db = ((value, none), final)) :
    db.stock? product.id = none := by
  obtain ⟨checks, _⟩ := guarded_answer rfl (createProduct_inserted success)
  simp only [List.mem_cons, forall_eq_or_imp] at checks
  have absent : ∀ old ∈ db.inventory, old.id ≠ row.id ∧ old.productID ≠ product.id := by
    simpa [Db.apply] using checks.2.2.1
  simpa [Db.stock?] using fun old member => (absent old member).2

end ProductRepository

theorem UserRepository.createUser_refines {db final : Db} {ledger : Ledger} (refines : db.Refines ledger)
    (success : (createUser user).atomic postgres db = ((value, none), final)) : final.Refines ledger := by
  obtain ⟨_, last, first, success⟩ := Program.answered success fun _ => ⟨_, _, rfl⟩
  obtain ⟨_, _, rfl⟩ := guarded_answer rfl first
  cases success
  exact refines.congr _ rfl rfl rfl rfl

end OrderProcessing
