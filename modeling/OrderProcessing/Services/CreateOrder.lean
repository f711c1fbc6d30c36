import OrderProcessing.Repository.Outcome
import OrderProcessing.Services.Order

/-! `CreateOrder` from its first check to its answer, and exactly what it does. -/

namespace OrderProcessing

open Library

structure OrderItemResponse where
  productID : Int
  quantity : Int
  priceAtPurchase : Int
  deriving DecidableEq, Repr

structure OrderResponse where
  id : Int
  userID : Int
  status : OrderStatus
  totalPrice : Int
  items : List OrderItemResponse
  deriving DecidableEq, Repr

/-- What the schema promises about rows that a new order refers to. -/
structure Db.Schema (db : Db) : Prop extends db.Shelved where
  priced : ∀ row ∈ db.products, 0 ≤ row.price ∧ fitsNumeric row.price
  owned : ∀ item ∈ db.orderItems, (db.order? item.orderID).isSome

def Db.priceOf (db : Db) (productID : Int) : Int := ((db.product? productID).map (·.price)).getD 0

namespace OrderService

def toOrderResponse (order : Order) (items : List OrderItem) : OrderResponse where
  id := order.id
  userID := order.userID
  status := order.status
  totalPrice := order.totalPrice
  items := items.map fun item => ⟨item.productID, item.quantity, item.priceAtPurchase⟩

/-- The call as far as the database goes. `acquired` is what `Reserve` returned, or none for
its error; the key that a failed call releases and the hand-off to `Process` are left to
the machine in `Backend`. -/
def createOrder (db : Db) (generated : Generated) (uuid : String) (userID : Int) (items : List OrderItemRequest)
    (acquired : Option Bool) (looking : Option DbError) (faults : Faults DbError) :
    Except AppError OrderResponse × Db :=
  if duplicateLine [] items then (.error .duplicateLineItem, db)
  else if acquired = some false then (.error .duplicateOrder, db)
  else
    match ProductRepository.getProductsByIDs db (items.map (·.productID)) looking with
    | .error err => (.error err, db)
    | .ok products =>
      match buildOrder userID uuid products items with
      | .error err => (.error err, db)
      | .ok new =>
        match transact faults 0 (OrderRepository.createOrder generated new) db with
        | ((_, some err), after) => (.error err, after)
        | ((orderID, none), after) => (.ok (toOrderResponse { new.order with id := orderID } new.items), after)

/-- The lines of the request at the present prices. -/
def lines (db : Db) (orderID : Int) (items : List OrderItemRequest) : List OrderItem :=
  items.map fun item => ⟨orderID, item.productID, item.quantity, db.priceOf item.productID⟩

def cartTotal (db : Db) (items : List OrderItemRequest) : Int :=
  (items.map fun item => db.priceOf item.productID * item.quantity).sum

/-- When a cart can be ordered. -/
structure Orderable (db : Db) (userID : Int) (items : List OrderItemRequest) : Prop where
  distinct : (items.map (·.productID)).Nodup
  existing : ∀ item ∈ items, (db.product? item.productID).isSome
  enough : ∀ item ∈ items, db.Enough item.productID item.quantity
  buyer : (db.user? userID).isSome

/-- The keys that the database and the UUID generator hand out are not in use. -/
structure Fresh (db : Db) (generated : Generated) (uuid : String) : Prop where
  order : ∀ row ∈ db.orders, row.id ≠ generated.orderID
  payment : ∀ row ∈ db.payments, row.id ≠ generated.paymentID
  key : ∀ row ∈ db.payments, row.idempotencyKey ≠ uuid

/-- The tables after an order for the cart was placed. -/
def placed (db : Db) (generated : Generated) (uuid : String) (userID : Int) (items : List OrderItemRequest) : Db :=
  { db with
    inventory := db.inventory.map (lowered (lines db generated.orderID items))
    orders := db.orders ++ [⟨generated.orderID, userID, .pending, cartTotal db items⟩]
    orderItems := db.orderItems ++ sortItems (lines db generated.orderID items)
    payments := db.payments ++ [⟨generated.paymentID, generated.orderID, uuid, .pending, cartTotal db items, none,
      generated.createdAt⟩] }

variable {db : Db} {generated : Generated} {uuid : String} {userID : Int} {items : List OrderItemRequest}

/-- Every request finds its price. -/
theorem buildItems_ok {cost : Int → Int} (known : ∀ item ∈ items, price item.productID = some (cost item.productID))
    (earlier : List OrderItem) (total : Int) :
    buildItems price items earlier total = .ok
      (earlier ++ items.map fun item => ⟨0, item.productID, item.quantity, cost item.productID⟩,
        total + (items.map fun item => cost item.productID * item.quantity).sum) := by
  induction items generalizing earlier total with
  | nil => simp [buildItems]
  | cons item rest ih =>
    simp only [buildItems, known item (by simp)]
    rw [ih fun other member => known other (by simp [member])]
    simp [Int.add_assoc]

theorem buildItems_missing (missing : ∃ item ∈ items, price item.productID = none) (earlier : List OrderItem)
    (total : Int) : ∃ productID, buildItems price items earlier total = .error (.productNotFound productID) := by
  induction items generalizing earlier total with
  | nil => simp at missing
  | cons item rest ih =>
    simp only [buildItems]
    cases known : price item.productID with
    | none => exact ⟨_, rfl⟩
    | some cost =>
      refine ih ?_ _ _
      obtain ⟨other, member, absent⟩ := missing
      rcases List.mem_cons.mp member with rfl | tail
      · simp [known] at absent
      · exact ⟨other, tail, absent⟩

/-- The query by ids finds the products that were asked for. -/
theorem priceByID_found (db : Db) {ids : List Int} (member : productID ∈ ids) :
    priceByID (db.products.filter fun row => row.id ∈ ids) productID = (db.product? productID).map (·.price) := by
  rw [priceByID, Db.product?, List.find?_filter]
  congr 2
  funext row
  by_cases same : row.id = productID
  · simp [same, member]
  · simp [same]

/-- The order that the service hands to the repository. -/
def draft (db : Db) (uuid : String) (userID : Int) (items : List OrderItemRequest) : NewOrder where
  order := { id := 0, userID, status := .pending, totalPrice := cartTotal db items }
  items := sortItems (lines db 0 items)
  payment := { id := 0, orderID := 0, idempotencyKey := uuid, status := .pending, amount := cartTotal db items,
               providerTxnID := none, createdAt := 0 }

theorem buildOrder_draft (existing : ∀ item ∈ items, (db.product? item.productID).isSome) :
    buildOrder userID uuid (db.products.filter fun row => row.id ∈ items.map (·.productID)) items =
      .ok (draft db uuid userID items) := by
  have known : ∀ item ∈ items,
      priceByID (db.products.filter fun row => row.id ∈ items.map (·.productID)) item.productID =
        some (db.priceOf item.productID) := by
    intro item member
    rw [priceByID_found db (List.mem_map_of_mem member), Db.priceOf]
    obtain ⟨product, found⟩ := Option.isSome_iff_exists.mp (existing item member)
    simp [found]
  rw [buildOrder, buildItems_ok known]
  simp [draft, lines, cartTotal]

theorem buildOrder_missing (missing : ∃ item ∈ items, db.product? item.productID = none) :
    ∃ productID, buildOrder userID uuid (db.products.filter fun row => row.id ∈ items.map (·.productID)) items =
      .error (.productNotFound productID) := by
  obtain ⟨item, member, absent⟩ := missing
  have unknown : ∃ item ∈ items,
      priceByID (db.products.filter fun row => row.id ∈ items.map (·.productID)) item.productID = none :=
    ⟨item, member, by rw [priceByID_found db (List.mem_map_of_mem member), absent]; rfl⟩
  obtain ⟨productID, failed⟩ := buildItems_missing unknown [] 0
  exact ⟨productID, by rw [buildOrder, failed]⟩

theorem draft_perm : (draft db uuid userID items).items.Perm (lines db 0 items) := sortItems_perm _

theorem draft_distinct (distinct : (items.map (·.productID)).Nodup) :
    ((draft db uuid userID items).items.map (·.productID)).Nodup := by
  have same : (lines db 0 items).map (·.productID) = items.map (·.productID) := by simp [lines, Function.comp_def]
  rw [(draft_perm.map _).nodup_iff, same]
  exact distinct

/-- Each line of the draft comes from a request. -/
theorem draft_line (member : item ∈ (draft db uuid userID items).items) :
    ∃ request ∈ items, item = ⟨0, request.productID, request.quantity, db.priceOf request.productID⟩ := by
  obtain ⟨request, listed, rfl⟩ := List.mem_map.mp (draft_perm.mem_iff.mp member)
  exact ⟨request, listed, rfl⟩

theorem request_line (member : request ∈ items) :
    ⟨0, request.productID, request.quantity, db.priceOf request.productID⟩ ∈ (draft db uuid userID items).items :=
  draft_perm.mem_iff.mpr (List.mem_map.mpr ⟨request, member, rfl⟩)

theorem draft_positive (positive : ∀ item ∈ items, 0 < item.quantity) :
    ∀ item ∈ (draft db uuid userID items).items, 0 < item.quantity := by
  intro item member
  obtain ⟨request, listed, rfl⟩ := draft_line member
  exact positive request listed

theorem priceOf_priced (schema : db.Schema) (productID : Int) :
    0 ≤ db.priceOf productID ∧ fitsNumeric (db.priceOf productID) := by
  unfold Db.priceOf
  cases found : db.product? productID with
  | none => simp [fitsNumeric]
  | some product => exact schema.priced product (List.mem_of_find?_eq_some found)

theorem cartTotal_nonneg (schema : db.Schema) (positive : ∀ item ∈ items, 0 < item.quantity) :
    0 ≤ cartTotal db items := by
  refine List.sum_nonneg fun amount listed => ?_
  obtain ⟨item, member, rfl⟩ := List.mem_map.mp listed
  exact Int.mul_nonneg (priceOf_priced schema item.productID).1 (positive item member).le

theorem itemRows_draft : OrderRepository.itemRows generated (draft db uuid userID items) =
    sortItems (lines db generated.orderID items) := by
  have relabelled : (lines db 0 items).map (fun item => { item with orderID := generated.orderID }) =
      lines db generated.orderID items := by simp [lines, Function.comp_def]
  rw [OrderRepository.itemRows, ← relabelled]
  exact List.map_insertionSort _ _ _ _ fun _ _ _ _ => Iff.rfl

/-- The rows of the draft and what they leave of the inventory make up the new tables. -/
theorem withOrder_placed : OrderRepository.withOrder generated (draft db uuid userID items)
    (db.take (draft db uuid userID items).items) = placed db generated uuid userID items := by
  have taken (productID : Int) : quantityOf productID (draft db uuid userID items).items =
      quantityOf productID (lines db generated.orderID items) := by
    rw [quantityOf_perm draft_perm]
    simp [quantityOf, lines, Function.comp_def]
  have inventory : lowered (draft db uuid userID items).items = lowered (lines db generated.orderID items) := by
    funext row
    rw [lowered, lowered, taken]
  simp only [OrderRepository.withOrder, placed, Db.take, inventory, itemRows_draft]
  rfl

/-- The answer for an order that was placed. -/
def confirmation (db : Db) (generated : Generated) (userID : Int) (items : List OrderItemRequest) : OrderResponse :=
  toOrderResponse ⟨generated.orderID, userID, .pending, cartTotal db items⟩
    (sortItems (lines db generated.orderID items))

theorem toOrderResponse_draft : toOrderResponse { (draft db uuid userID items).order with id := generated.orderID }
    (draft db uuid userID items).items = confirmation db generated userID items := by
  rw [confirmation, ← @itemRows_draft db generated uuid userID items]
  simp [toOrderResponse, OrderRepository.itemRows, Function.comp_def, draft]

/-- The smallest of the requested products that are short. -/
def Scarce (db : Db) (items : List OrderItemRequest) (productID : Int) : Prop :=
  (∃ item ∈ items, item.productID = productID ∧ ¬ db.Enough productID item.quantity) ∧
    ∀ item ∈ items, ¬ db.Enough item.productID item.quantity → productID ≤ item.productID

/-- How a call ends if its key was acquired and nothing fails. -/
inductive Ended (db : Db) (generated : Generated) (uuid : String) (userID : Int) (items : List OrderItemRequest) :
    Except AppError OrderResponse × Db → Prop where
  | duplicated (repeated : ¬ (items.map (·.productID)).Nodup) :
      Ended db generated uuid userID items (.error .duplicateLineItem, db)
  | missing (absent : ∃ item ∈ items, db.product? item.productID = none) (productID : Int) :
      Ended db generated uuid userID items (.error (.productNotFound productID), db)
  | short (scarce : Scarce db items productID) :
      Ended db generated uuid userID items (.error (.insufficientStock productID), db)
  | unknown (absent : db.user? userID = none) : Ended db generated uuid userID items (.error .userNotFound, db)
  | ordered (orderable : Orderable db userID items) :
      Ended db generated uuid userID items
        (.ok (confirmation db generated userID items), placed db generated uuid userID items)

section Outcome

variable (schema : db.Schema) (positive : ∀ item ∈ items, 0 < item.quantity)

include schema positive

theorem draft_storable (fresh : Fresh db generated uuid) (nonempty : items ≠ [])
    (fits : fitsNumeric (cartTotal db items)) (distinct : (items.map (·.productID)).Nodup)
    (existing : ∀ item ∈ items, (db.product? item.productID).isSome)
    (enough : ∀ item ∈ items, db.Enough item.productID item.quantity) :
    OrderRepository.Storable generated (draft db uuid userID items) (db.take (draft db uuid userID items).items) where
  freshOrder := fresh.order
  freshItems item member same := by
    obtain ⟨row, found⟩ := Option.isSome_iff_exists.mp (schema.owned item member)
    exact fresh.order row (List.mem_of_find?_eq_some found) ((order_id found).trans same)
  freshPayment := fresh.payment
  freshKey := fresh.key
  total := ⟨cartTotal_nonneg schema positive, fits⟩
  amount := ⟨cartTotal_nonneg schema positive, fits⟩
  nonempty empty := by
    have length : (draft db uuid userID items).items.length = (lines db 0 items).length := draft_perm.length_eq
    rw [empty] at length
    exact nonempty (List.eq_nil_of_length_eq_zero (by simpa [lines] using length.symm))
  distinct := draft_distinct distinct
  units item member := by
    obtain ⟨request, listed, rfl⟩ := draft_line member
    obtain ⟨row, found, units⟩ := enough request listed
    exact ⟨positive request listed, units.trans (schema.stocked row (List.mem_of_find?_eq_some found)).2⟩
  prices item member := by
    obtain ⟨request, _, rfl⟩ := draft_line member
    exact priceOf_priced schema request.productID
  products item member := by
    obtain ⟨request, listed, rfl⟩ := draft_line member
    exact existing request listed

/-- With enough of everything, the lines are taken and the rows inserted. -/
theorem createOrder_reserved (distinct : (items.map (·.productID)).Nodup)
    (enough : ∀ item ∈ items, db.Enough item.productID item.quantity) :
    (OrderRepository.createOrder generated (draft db uuid userID items)).atomic postgres db =
      (OrderRepository.insertAll generated (draft db uuid userID items)).atomic postgres
        (db.take (draft db uuid userID items).items) := by
  refine (OrderRepository.reserveItems_outcome schema.toShelved (draft_distinct distinct) (draft_positive positive)
    _).1 fun item member => ?_
  obtain ⟨request, listed, rfl⟩ := draft_line member
  exact enough request listed

/-- The sorted loop comes to the smallest of the products that are short first. -/
theorem createOrder_scarce (distinct : (items.map (·.productID)).Nodup)
    (short : ¬ ∀ item ∈ items, db.Enough item.productID item.quantity) :
    ∃ productID, Scarce db items productID ∧
      ((OrderRepository.createOrder generated (draft db uuid userID items)).atomic postgres db).1 =
        (0, some (.insufficientStock productID)) := by
  have found : ((draft db uuid userID items).items.find? fun item =>
      ¬ db.Enough item.productID item.quantity).isSome := by
    push Not at short
    obtain ⟨request, listed, scant⟩ := short
    exact List.find?_isSome.mpr ⟨_, request_line listed, by simpa using scant⟩
  obtain ⟨item, first⟩ := Option.isSome_iff_exists.mp found
  obtain ⟨scant, before, after, split, earlier⟩ := List.find?_eq_some_iff_append.mp first
  simp only [decide_eq_true_eq, Bool.not_eq_eq_eq_not, Bool.not_true, decide_eq_false_iff_not, not_not] at scant earlier
  refine ⟨item.productID, ⟨?_, ?_⟩, ?_⟩
  · obtain ⟨request, listed, rfl⟩ := draft_line (split ▸ List.mem_append_right before List.mem_cons_self)
    exact ⟨request, listed, rfl, scant⟩
  · intro request listed wanting
    have sorted : (draft db uuid userID items).items.Pairwise
        fun first second => first.productID ≤ second.productID := pairwise_sort_by OrderItem.productID _
    have member : ⟨0, request.productID, request.quantity, db.priceOf request.productID⟩ ∈
        (draft db uuid userID items).items := request_line listed
    rw [split] at sorted member
    rcases List.mem_append.mp member with there | here
    · exact absurd (earlier _ there) wanting
    · rcases List.mem_cons.mp here with same | later
      · rw [← same]
      · exact (List.pairwise_cons.mp (List.pairwise_append.mp sorted).2.1).1 _ later
  · exact (OrderRepository.reserveItems_outcome schema.toShelved (draft_distinct distinct) (draft_positive positive)
      _).2 before item after split earlier scant

theorem createOrder_ended (fresh : Fresh db generated uuid) (nonempty : items ≠ [])
    (fits : fitsNumeric (cartTotal db items)) :
    Ended db generated uuid userID items (createOrder db generated uuid userID items (some true) none {}) := by
  unfold createOrder
  by_cases repeated : duplicateLine [] items
  · rw [if_pos repeated]
    refine .duplicated fun distinct => ?_
    rw [(duplicateLine_false [] items).mpr ⟨distinct, by simp⟩] at repeated
    cases repeated
  have distinct := ((duplicateLine_false [] items).mp (by simpa using repeated)).1
  rw [if_neg repeated, if_neg (by simp)]
  simp only [ProductRepository.getProductsByIDs]
  by_cases missing : ∃ item ∈ items, db.product? item.productID = none
  · obtain ⟨productID, failed⟩ := buildOrder_missing missing
    rw [failed]
    exact .missing missing productID
  have existing : ∀ item ∈ items, (db.product? item.productID).isSome := by
    intro item member
    exact Option.isSome_iff_ne_none.mpr fun absent => missing ⟨item, member, absent⟩
  simp only [buildOrder_draft existing, transact, transaction_alone]
  by_cases enough : ∀ item ∈ items, db.Enough item.productID item.quantity
  · have storable : OrderRepository.Storable generated (draft db uuid userID items) _ :=
      draft_storable schema positive fresh nonempty fits distinct existing enough
    cases buyer : db.user? userID with
    | none =>
      have refused := OrderRepository.insertAll_unknown storable buyer
      rw [← createOrder_reserved schema positive distinct enough] at refused
      rw [Program.alone_error refused]
      exact .unknown buyer
    | some user =>
      have stored := OrderRepository.insertAll_stored storable (Option.isSome_iff_exists.mpr ⟨user, buyer⟩)
      rw [← createOrder_reserved schema positive distinct enough, withOrder_placed, ← Program.alone_ok_iff] at stored
      rw [stored]
      simp only [toOrderResponse_draft]
      exact .ordered ⟨distinct, existing, enough, Option.isSome_iff_exists.mpr ⟨user, buyer⟩⟩
  · obtain ⟨productID, scarce, refused⟩ := createOrder_scarce schema positive distinct enough
    rw [Program.alone_error refused]
    exact .short scarce

end Outcome

theorem Scarce.unorderable (scarce : Scarce db items productID) : ¬ Orderable db userID items := by
  rintro ⟨_, _, enough, _⟩
  obtain ⟨⟨item, member, rfl, short⟩, _⟩ := scarce
  exact short (enough item member)

/-- It is refused and the tables stay, or the order is placed. -/
theorem Ended.cases (ended : Ended db generated uuid userID items result) :
    (∃ err, result = (.error err, db) ∧ ¬ Orderable db userID items ∧
      ∀ productID, err = .insufficientStock productID → Scarce db items productID) ∨
    (result = (.ok (confirmation db generated userID items), placed db generated uuid userID items) ∧
      Orderable db userID items) := by
  cases ended with
  | duplicated repeated => exact .inl ⟨_, rfl, fun orderable => repeated orderable.distinct, by simp⟩
  | missing absent =>
    refine .inl ⟨_, rfl, fun orderable => ?_, by simp⟩
    obtain ⟨item, member, gone⟩ := absent
    simpa [gone] using orderable.existing item member
  | short scarce =>
    refine .inl ⟨_, rfl, scarce.unorderable, ?_⟩
    rintro productID ⟨⟩
    exact scarce
  | unknown absent => exact .inl ⟨_, rfl, fun orderable => by simpa [absent] using orderable.buyer, by simp⟩
  | ordered orderable => exact .inr ⟨rfl, orderable⟩

/-- A line that is alone in its product takes just its own units. -/
theorem placed_quantity (orderable : Orderable db userID items) (member : item ∈ items) :
    (placed db generated uuid userID items).quantity item.productID = db.quantity item.productID - item.quantity := by
  have same : (lines db generated.orderID items).map (·.productID) = items.map (·.productID) := by
    simp [lines, Function.comp_def]
  have line : ⟨generated.orderID, item.productID, item.quantity, db.priceOf item.productID⟩ ∈
      lines db generated.orderID items := List.mem_map.mpr ⟨item, member, rfl⟩
  have units := quantityOf_line (same ▸ orderable.distinct) line
  have stored : (placed db generated uuid userID items).stock? item.productID =
      (db.stock? item.productID).map (lowered (lines db generated.orderID items)) := stock_take db _ _
  obtain ⟨row, found, _⟩ := orderable.enough item member
  have key := stock_productID found
  simp only [Db.quantity, stored, found, Option.map_some, Option.getD_some, lowered, key]
  rw [units]

/-- A call whose key was acquired and that meets no fault is all or nothing. It goes through
exactly if the cart can be ordered, and then it takes the lines off the inventory and adds the
order, its lines and its payment; otherwise the tables stay as they were. -/
theorem createOrder_exact (schema : db.Schema) (fresh : Fresh db generated uuid) (nonempty : items ≠ [])
    (positive : ∀ item ∈ items, 0 < item.quantity) (fits : fitsNumeric (cartTotal db items)) :
    ((∃ response, (createOrder db generated uuid userID items (some true) none {}).1 = .ok response) ↔
      Orderable db userID items) ∧
    (∀ response after, createOrder db generated uuid userID items (some true) none {} = (.ok response, after) →
      response = confirmation db generated userID items ∧ after = placed db generated uuid userID items ∧
      ∀ item ∈ items, after.quantity item.productID = db.quantity item.productID - item.quantity) ∧
    ∀ err after, createOrder db generated uuid userID items (some true) none {} = (.error err, after) →
      after = db ∧ ∀ productID, err = .insufficientStock productID → Scarce db items productID := by
  have ended : Ended db generated uuid userID items _ := createOrder_ended schema positive fresh nonempty fits
  rcases ended.cases with ⟨err, refused, barred, named⟩ | ⟨stored, orderable⟩
  · rw [refused]
    refine ⟨⟨by simp, fun orderable => absurd orderable barred⟩, by simp, ?_⟩
    rintro _ _ ⟨⟩
    exact ⟨rfl, named⟩
  · rw [stored]
    refine ⟨⟨fun _ => orderable, fun _ => ⟨_, rfl⟩⟩, ?_, by simp⟩
    rintro _ _ ⟨⟩
    exact ⟨rfl, rfl, fun item member => placed_quantity orderable member⟩

/-- Two products on the shelf and one customer. -/
def kiosk : Db where
  users := [⟨1, "ann", "ann@shop", "", .customer⟩]
  products := [⟨7, "mug", none, none, 500⟩, ⟨9, "pen", none, none, 120⟩]
  inventory := [⟨1, 7, 10⟩, ⟨2, 9, 3⟩]

theorem kiosk_schema : kiosk.Schema where
  keys := by decide
  stocked := by simp [kiosk, Stocked]
  priced := by decide
  owned := by decide

theorem kiosk_fresh : Fresh kiosk ⟨1, 1, 0⟩ "key" where
  order := by decide
  payment := by decide
  key := by decide

/-- Three pens and two mugs are sold. Of five pens and eleven mugs both are short, and the
mugs, which come second in the request, are named. -/
theorem createOrder_exact_kiosk :
    (∃ response after, createOrder kiosk ⟨1, 1, 0⟩ "key" 1 [⟨9, 3⟩, ⟨7, 2⟩] (some true) none {} = (.ok response, after) ∧
      response.totalPrice = 1360 ∧ after.inventory = [⟨1, 7, 8⟩, ⟨2, 9, 0⟩] ∧
      after = placed kiosk ⟨1, 1, 0⟩ "key" 1 [⟨9, 3⟩, ⟨7, 2⟩]) ∧
    createOrder kiosk ⟨1, 1, 0⟩ "key" 1 [⟨9, 5⟩, ⟨7, 11⟩] (some true) none {} =
      (.error (.insufficientStock 7), kiosk) ∧ Scarce kiosk [⟨9, 5⟩, ⟨7, 11⟩] 7 := by
  constructor
  · obtain ⟨response, after, sold, total, left⟩ : ∃ response after,
        createOrder kiosk ⟨1, 1, 0⟩ "key" 1 [⟨9, 3⟩, ⟨7, 2⟩] (some true) none {} = (.ok response, after) ∧
        response.totalPrice = 1360 ∧ after.inventory = [⟨1, 7, 8⟩, ⟨2, 9, 0⟩] := ⟨_, _, rfl, rfl, rfl⟩
    obtain ⟨_, stored, _⟩ :=
      (createOrder_exact kiosk_schema kiosk_fresh (by decide) (by decide) (by decide)).2.1 response after sold
    exact ⟨response, after, sold, total, left, stored⟩
  · have short : createOrder kiosk ⟨1, 1, 0⟩ "key" 1 [⟨9, 5⟩, ⟨7, 11⟩] (some true) none {} =
        (.error (.insufficientStock 7), kiosk) := rfl
    obtain ⟨_, named⟩ :=
      (createOrder_exact kiosk_schema kiosk_fresh (by decide) (by decide) (by decide)).2.2 _ _ short
    exact ⟨short, named 7 rfl⟩

end OrderService

end OrderProcessing
