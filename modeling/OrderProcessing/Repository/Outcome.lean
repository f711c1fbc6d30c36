import OrderProcessing.Repository.Refinement

/-! When a transaction of the order repository goes through. -/

namespace OrderProcessing

open Library

/-- The inventory as its columns and its unique index allow it. -/
structure Db.Shelved (db : Db) : Prop where
  keys : (db.inventory.map (·.productID)).Nodup
  stocked : ∀ row ∈ db.inventory, Stocked row

/-- The product has an inventory row, with this many units in it. -/
def Db.Enough (db : Db) (productID quantity : Int) : Prop :=
  ∃ row, db.stock? productID = some row ∧ quantity ≤ row.quantity

instance (db : Db) (productID quantity : Int) : Decidable (db.Enough productID quantity) :=
  decidable_of_iff ((db.stock? productID).any fun row => quantity ≤ row.quantity) (by simp [Db.Enough, Option.any_eq_true])

def lowered (items : List OrderItem) (row : Inventory) : Inventory :=
  { row with quantity := row.quantity - quantityOf row.productID items }

/-- The lines are taken off the inventory. -/
def Db.take (db : Db) (items : List OrderItem) : Db := { db with inventory := db.inventory.map (lowered items) }

@[simp] theorem take_nil (db : Db) : db.take [] = db := by
  have kept : lowered [] = id := funext fun row => by simp [lowered]
  simp [Db.take, kept]

theorem take_take (db : Db) (item : OrderItem) (items : List OrderItem) :
    (db.take [item]).take items = db.take (item :: items) := by
  simp [Db.take, lowered, Function.comp_def, Int.sub_sub]

theorem stock_take (db : Db) (items : List OrderItem) (productID : Int) :
    (db.take items).stock? productID = (db.stock? productID).map (lowered items) := by
  have kept : ∀ row ∈ db.inventory, (lowered items row).productID = row.productID := fun _ _ => rfl
  exact find_map_keyed kept productID

/-- Taking one product leaves the others as they are. -/
theorem enough_take {db : Db} (different : productID ≠ item.productID) :
    (db.take [item]).Enough productID quantity ↔ db.Enough productID quantity := by
  unfold Db.Enough
  rw [stock_take]
  cases found : db.stock? productID with
  | none => simp
  | some row =>
    have key := stock_productID found
    simp [lowered, key, Ne.symm different]

theorem Db.Shelved.take {db : Db} (shelved : db.Shelved) (positive : 0 < item.quantity)
    (enough : db.Enough item.productID item.quantity) : (db.take [item]).Shelved where
  keys := by
    have same : ((db.inventory.map (lowered [item])).map (·.productID)) = db.inventory.map (·.productID) := by
      simp [lowered, Function.comp_def]
    exact same ▸ shelved.keys
  stocked := by
    intro row member
    obtain ⟨old, present, rfl⟩ := List.mem_map.mp member
    obtain ⟨sign, range⟩ := shelved.stocked old present
    by_cases same : item.productID = old.productID
    · obtain ⟨held, found, units⟩ := enough
      have own : held = old := List.inj_on_of_nodup_map shelved.keys (List.mem_of_find?_eq_some found) present
        ((stock_productID found).trans same)
      subst own
      constructor <;> simp [lowered, same] <;> omega
    · constructor <;> simp [lowered, same] <;> omega

namespace OrderRepository

/-- The guarded decrement takes the line off the inventory if there is enough. -/
theorem reserve_enough {db : Db} (shelved : db.Shelved) (positive : 0 < item.quantity)
    (enough : db.Enough item.productID item.quantity) :
    postgres.answer (.reserve item.productID item.quantity) db = (.ok 1, db.take [item]) := by
  obtain ⟨row, found, units⟩ := enough
  have present := List.mem_of_find?_eq_some found
  have key := stock_productID found
  obtain ⟨_, range⟩ := shelved.stocked row present
  have evaluated : postgres.eval (.reserve item.productID item.quantity) db =
      .ok (1, [.quantity item.productID (row.quantity - item.quantity)]) := by
    simp only [postgres, evaluate, found, units, ↓reduceIte]
    exact storeQuantity_ok.mpr ⟨rfl, by omega, by omega⟩
  have written : db.inventory.map (Db.setQuantity item.productID (row.quantity - item.quantity)) =
      db.inventory.map (lowered [item]) := by
    refine List.map_congr_left fun old member => ?_
    by_cases same : old.productID = item.productID
    · have own : old = row := List.inj_on_of_nodup_map shelved.keys member present (same.trans key.symm)
      subst own
      simp [Db.setQuantity, lowered, same]
    · simp [Db.setQuantity, lowered, same, Ne.symm same]
  rw [postgres.answer_eval evaluated]
  simp [Db.apply, Db.take, written]

theorem reserve_short {db : Db} (short : ¬ db.Enough productID quantity) :
    postgres.answer (.reserve productID quantity) db = (.ok 0, db) := by
  have evaluated : postgres.eval (.reserve productID quantity) db = .ok (0, []) := by
    simp only [postgres, evaluate]
    split
    · rename_i row found
      exact if_neg fun units => short ⟨row, found, units⟩
    · rfl
  rw [postgres.answer_eval evaluated]
  rfl

/-- The reserve loop takes all lines if there is enough of each; otherwise it ends at the
first line that is short. -/
theorem reserveItems_outcome {db : Db} (shelved : db.Shelved) (distinct : (items.map (·.productID)).Nodup)
    (positive : ∀ item ∈ items, 0 < item.quantity) (rest : Tx Int) :
    ((∀ item ∈ items, db.Enough item.productID item.quantity) →
      (reserveItems items rest).atomic postgres db = rest.atomic postgres (db.take items)) ∧
    ∀ before item after, items = before ++ item :: after →
      (∀ earlier ∈ before, db.Enough earlier.productID earlier.quantity) →
      ¬ db.Enough item.productID item.quantity →
      ((reserveItems items rest).atomic postgres db).1 = (0, some (.insufficientStock item.productID)) := by
  induction items generalizing db with
  | nil => simp [reserveItems]
  | cons line items ih =>
    obtain ⟨apart, distinct⟩ := List.nodup_cons.mp distinct
    have differs {item : OrderItem} (member : item ∈ items) : item.productID ≠ line.productID :=
      fun same => apart (List.mem_map.mpr ⟨item, member, same⟩)
    have units := positive line (by simp)
    have tail (enough : db.Enough line.productID line.quantity) := ih (shelved.take units enough) distinct
      fun item member => positive item (by simp [member])
    have first (enough : db.Enough line.productID line.quantity) :
        (reserveItems (line :: items) rest).atomic postgres db =
          (reserveItems items rest).atomic postgres (db.take [line]) := by
      simp [reserveItems, Program.atomic, reserve_enough shelved units enough]
    constructor
    · intro enough
      have here := enough line (by simp)
      rw [first here, (tail here).1 fun item member => (enough_take (differs member)).mpr (enough item (by simp [member])),
        take_take]
    · intro before item after split earlier short
      cases before with
      | nil =>
        obtain ⟨rfl, rfl⟩ := List.cons.inj split
        simp [reserveItems, Program.atomic, reserve_short short]
      | cons head before =>
        obtain ⟨rfl, rfl⟩ := List.cons.inj split
        have here := earlier line (by simp)
        rw [first here]
        refine (tail here).2 before item after rfl (fun other member => ?_) ?_
        · exact (enough_take (differs (by simp [member]))).mpr (earlier other (by simp [member]))
        · exact fun enough => short ((enough_take (differs (by simp))).mp enough)

/-- A new order within the columns, under keys that are not taken. -/
structure Storable (generated : Generated) (new : NewOrder) (db : Db) : Prop where
  freshOrder : ∀ row ∈ db.orders, row.id ≠ generated.orderID
  freshItems : ∀ item ∈ db.orderItems, item.orderID ≠ generated.orderID
  freshPayment : ∀ row ∈ db.payments, row.id ≠ generated.paymentID
  freshKey : ∀ row ∈ db.payments, row.idempotencyKey ≠ new.payment.idempotencyKey
  total : 0 ≤ new.order.totalPrice ∧ fitsNumeric new.order.totalPrice
  amount : 0 ≤ new.payment.amount ∧ fitsNumeric new.payment.amount
  nonempty : new.items ≠ []
  distinct : (new.items.map (·.productID)).Nodup
  units : ∀ item ∈ new.items, 0 < item.quantity ∧ item.quantity ≤ 2147483647
  prices : ∀ item ∈ new.items, 0 ≤ item.priceAtPurchase ∧ fitsNumeric item.priceAtPurchase
  products : ∀ item ∈ new.items, (db.product? item.productID).isSome

/-- The tables with the rows of a new order. -/
def withOrder (generated : Generated) (new : NewOrder) (db : Db) : Db :=
  { db with
    orders := db.orders ++ [orderRow generated new]
    orderItems := db.orderItems ++ itemRows generated new
    payments := db.payments ++ [paymentRow generated new] }

theorem Storable.insertOrder {db : Db} (storable : Storable generated new db)
    (buyer : (db.user? new.order.userID).isSome) :
    postgres.eval (.insertOrder (orderRow generated new)) db =
      .ok (generated.orderID, [.newOrder (orderRow generated new)]) := by
  refine guarded_ok.mpr ⟨rfl, ?_⟩
  have absent : db.order? generated.orderID = none := order_absent.mpr storable.freshOrder
  obtain ⟨sign, range⟩ := storable.total
  simp only [orderRow, List.mem_cons, List.not_mem_nil, or_false, forall_eq_or_imp, forall_eq, absent, range]
  exact ⟨rfl, decide_eq_false (not_lt.mpr sign), rfl, Option.isNone_eq_false_iff.mpr buyer⟩

theorem itemRows_any {check : OrderItem → Bool}
    (fine : ∀ item ∈ new.items, check { item with orderID := generated.orderID } = false) :
    (itemRows generated new).any check = false := by
  refine List.any_eq_false.mpr fun row member => ?_
  obtain ⟨item, present, rfl⟩ := List.mem_map.mp member
  simp [fine item present]

theorem Storable.insertItems {db : Db} (storable : Storable generated new db) :
    postgres.eval (.insertItems (itemRows generated new)) (db.apply (.newOrder (orderRow generated new))) =
      .ok ((), [.newItems (itemRows generated new)]) := by
  refine guarded_ok.mpr ⟨rfl, ?_⟩
  have none : db.itemsOf generated.orderID = [] := by simpa [Db.itemsOf] using storable.freshItems
  have found : ((db.apply (.newOrder (orderRow generated new))).order? generated.orderID).isSome := by
    simp [Db.order?, Db.apply, orderRow]
  simp only [Db.itemsValid, List.mem_cons, List.not_mem_nil, or_false, forall_eq_or_imp, forall_eq]
  refine ⟨?_, ?_, ?_, ?_, ?_, ?_⟩
  · simpa [itemRows] using storable.nonempty
  · refine itemRows_any fun item member => ?_
    obtain ⟨sign, range⟩ := storable.units item member
    have fits : fitsInteger item.quantity := by simpa [fitsInteger] using ⟨by omega, range⟩
    simp [fits, (storable.prices item member).2]
  · refine itemRows_any fun item member => ?_
    have units := (storable.units item member).1
    have price := (storable.prices item member).1
    simp [units, price]
  · have pairs : ((itemRows generated new).map fun row => (row.orderID, row.productID)).Nodup := by
      have factored : ((itemRows generated new).map fun row => (row.orderID, row.productID)) =
          (new.items.map (·.productID)).map (Prod.mk generated.orderID) := by
        simp [itemRows, Function.comp_def]
      rw [factored]
      exact storable.distinct.map (Prod.mk_right_injective _)
    simpa using pairs
  · refine itemRows_any fun item member => ?_
    have same : (db.apply (.newOrder (orderRow generated new))).itemsOf generated.orderID = [] := none
    simp [same]
  · refine itemRows_any fun item member => ?_
    have product : ((db.apply (.newOrder (orderRow generated new))).product? item.productID).isSome :=
      storable.products item member
    exact Bool.or_eq_false_iff.mpr ⟨Option.isNone_eq_false_iff.mpr found, Option.isNone_eq_false_iff.mpr product⟩

theorem Storable.insertPayment {db : Db} (storable : Storable generated new db) :
    postgres.eval (.insertPayment (paymentRow generated new))
      ((db.apply (.newOrder (orderRow generated new))).apply (.newItems (itemRows generated new))) =
      .ok ((), [.newPayment (paymentRow generated new)]) := by
  refine guarded_ok.mpr ⟨rfl, ?_⟩
  obtain ⟨sign, range⟩ := storable.amount
  have absent : db.payment? generated.paymentID = none := payment_absent.mpr storable.freshPayment
  have found : ((db.apply (.newOrder (orderRow generated new))).order? generated.orderID).isSome := by
    simp [Db.order?, Db.apply, orderRow]
  simp only [paymentRow, List.mem_cons, List.not_mem_nil, or_false, forall_eq_or_imp, forall_eq, range]
  refine ⟨rfl, decide_eq_false (not_lt.mpr sign), ?_, ?_, ?_⟩
  · exact congrArg Option.isSome absent
  · exact List.any_eq_false.mpr fun row member same => storable.freshKey row member (of_decide_eq_true same)
  · exact Option.isNone_eq_false_iff.mpr found

theorem insertAll_stored {db : Db} (storable : Storable generated new db) (buyer : (db.user? new.order.userID).isSome) :
    (insertAll generated new).atomic postgres db = ((generated.orderID, none), withOrder generated new db) := by
  have inserted := postgres.answer_eval (storable.insertOrder buyer)
  have listed := postgres.answer_eval storable.insertItems
  have billed := postgres.answer_eval storable.insertPayment
  simp only [orderRow, itemRows, paymentRow, Engine.applyAll_cons, Engine.applyAll_nil, postgres_apply] at *
  simp only [insertAll, Program.atomic, inserted, listed, billed]
  rfl

theorem insertAll_unknown {db : Db} (storable : Storable generated new db) (unknown : db.user? new.order.userID = none) :
    ((insertAll generated new).atomic postgres db).1 = (0, some .userNotFound) := by
  have absent : db.order? generated.orderID = none := order_absent.mpr storable.freshOrder
  obtain ⟨sign, range⟩ := storable.total
  have refused : postgres.answer (.insertOrder { new.order with id := generated.orderID }) db =
      (.error .foreignKeyViolated, db) := by
    simp [Engine.answer, postgres, evaluate, guarded, absent, range, not_lt.mpr sign, unknown]
  simp only [insertAll, Program.atomic, refused]

/-- The unguarded increment is refused only for being out of range. -/
theorem restock_answer_iff {db : Db} (present : (db.stock? productID).isSome)
    (sign : 0 ≤ db.quantity productID + quantity) :
    (∃ rows after, postgres.answer (.restock productID quantity) db = (.ok rows, after)) ↔
      db.quantity productID + quantity ≤ 2147483647 := by
  obtain ⟨row, found⟩ := Option.isSome_iff_exists.mp present
  simp only [Db.quantity, found, Option.map_some, Option.getD_some, Engine.answer, postgres, evaluate] at sign ⊢
  constructor
  · rintro ⟨rows, after, done⟩
    cases stored : storeQuantity productID (row.quantity + quantity) with
    | error err => simp [stored] at done
    | ok outcome => exact (storeQuantity_ok.mp stored).2.2
  · intro range
    rw [storeQuantity_ok.mpr ⟨rfl, sign, range⟩]
    exact ⟨_, _, rfl⟩

/-- The restock loop goes through iff no single addition leaves the range. -/
theorem restockItems_ok_iff {db : Db} {items : List OrderItem} (distinct : (items.map (·.productID)).Nodup)
    (present : ∀ item ∈ items, (db.stock? item.productID).isSome)
    (sign : ∀ item ∈ items, 0 ≤ db.quantity item.productID + item.quantity) :
    (∃ final, (restockItems items).atomic postgres db = ((true, none), final)) ↔
      ∀ item ∈ items, db.quantity item.productID + item.quantity ≤ 2147483647 := by
  induction items generalizing db with
  | nil => simp [restockItems, Program.atomic]
  | cons item items ih =>
    obtain ⟨apart, distinct⟩ := List.nodup_cons.mp distinct
    have first := restock_answer_iff (present item (by simp)) (sign item (by simp))
    rw [List.forall_mem_cons, ← first]
    simp only [restockItems, Program.atomic]
    generalize reply : postgres.answer (.restock item.productID item.quantity) db = outcome at *
    obtain ⟨err | rows, after⟩ := outcome
    · simp [Program.atomic]
    · have shifted := restock_answer (present item (by simp)) reply
      have kept : ∀ other ∈ items, after.quantity other.productID = db.quantity other.productID := by
        intro other member
        have different : other.productID ≠ item.productID := fun same =>
          apart (List.mem_map.mpr ⟨other, member, same⟩)
        rw [shifted.quantity, if_neg different, add_zero]
      have rest := @ih after distinct
        (fun other member => by rw [shifted.present]; exact present other (by simp [member]))
        (fun other member => by rw [kept other member]; exact sign other (by simp [member]))
      rw [rest, and_iff_right ⟨rows, after, rfl⟩]
      exact forall₂_congr fun other member => by rw [kept other member]

/-- Cancelling a waiting payment goes through iff none of its lines leaves the range. -/
theorem failCancelAndRestock_ok_iff {db : Db} (waiting : Awaiting db payment.id)
    (distinct : ((db.itemsOf payment.orderID).map (·.productID)).Nodup)
    (present : ∀ item ∈ db.itemsOf payment.orderID, (db.stock? item.productID).isSome)
    (sign : ∀ item ∈ db.itemsOf payment.orderID, 0 ≤ db.quantity item.productID + item.quantity) (scan : Scan) :
    (∃ final, (failCancelAndRestock payment scan).atomic postgres db = ((true, none), final)) ↔
      ∀ item ∈ db.itemsOf payment.orderID, db.quantity item.productID + item.quantity ≤ 2147483647 := by
  rcases markFailed_eval db payment.id with ⟨row, _, _, reply⟩ | ⟨settled, _⟩
  · have marked := postgres.answer_eval reply
    obtain ⟨rows, moved⟩ := advanceOrder_answer
      (db.apply (.paymentStatus payment.id .failed row.providerTxnID)) payment.orderID .cancelled
    generalize middle : advanced (db.apply (.paymentStatus payment.id .failed row.providerTxnID))
      payment.orderID .cancelled = after at moved
    have inventory : after.inventory = db.inventory := by rw [← middle]; simp [Db.apply]
    have lines : after.itemsOf payment.orderID = db.itemsOf payment.orderID := by
      rw [← middle]
      simp [Db.itemsOf, Db.apply]
    have stock (productID : Int) : after.stock? productID = db.stock? productID := by rw [Db.stock?, Db.stock?, inventory]
    have quantity (productID : Int) : after.quantity productID = db.quantity productID := by
      rw [Db.quantity, Db.quantity, stock]
    have perm := scan.perm (db.itemsOf payment.orderID)
    simp only [failCancelAndRestock, Program.atomic, marked, Engine.applyAll_cons, Engine.applyAll_nil,
      postgres_apply, ne_eq, not_true_eq_false, ↓reduceIte, moved, selectItems_answer, lines]
    rw [restockItems_ok_iff ((perm.map _).nodup_iff.mpr distinct)]
    · simp only [quantity, perm.mem_iff]
    · intro item member
      rw [stock]
      exact present item (perm.mem_iff.mp member)
    · intro item member
      rw [quantity]
      exact sign item (perm.mem_iff.mp member)
  · exact absurd waiting settled

end OrderRepository

end OrderProcessing
