import OrderProcessing.Library.Rounding
import OrderProcessing.Services.CreateOrder

/-! Money as the service computes with it. A column holds whole cents and a Go variable the
nearest float64; what the driver sends for a float64 is rounded to cents by its column. The
infinities are left out: prices below 10^10 times 64-bit quantities stay far below 2^1024. -/

namespace OrderProcessing

open Library

def binary64 : Format := ⟨53, -1074⟩

def float64 (value : ℚ) : ℚ := binary64.nearest value

/-- A NUMERIC(12,2) as it is scanned, and a number with two decimals as JSON is decoded. -/
def scanAmount (cents : Int) : ℚ := float64 (cents / 100)

/-- The decimal that stands for a float64 in a statement reads back as that float64. -/
structure Driver where
  decimal : ℚ → ℚ
  reads : ∀ value, float64 (decimal (float64 value)) = float64 value

/-- What a NUMERIC(12,2) column makes of a float64. -/
def Driver.column (driver : Driver) (amount : ℚ) : Int := halfAway (driver.decimal amount * 100)

/-- The amount stands for so many cents, after so many roundings. -/
def Carries (steps : ℕ) (cents : Int) (amount : ℚ) : Prop := Near binary64.unit steps (cents / 100) amount

theorem unit64 : binary64.unit = 1 / 2 ^ 53 := by
  norm_num [Format.unit, binary64]

/-- The last digit of the least float64 is nothing against a rounding of a cent. -/
theorem least64 : (2 : ℚ) ^ binary64.least / 2 ≤ 1 / 2 ^ 70 := by
  have positive : (0 : ℚ) ≤ 2 ^ binary64.least := zpow_nonneg (by norm_num) _
  calc (2 : ℚ) ^ binary64.least / 2 ≤ 2 ^ binary64.least := half_le_self positive
    _ ≤ 2 ^ (-70 : ℤ) := zpow_le_zpow_right₀ (by norm_num) (by decide)
    _ = 1 / 2 ^ 70 := by norm_num

theorem normal64 : binary64.normal ≤ 1 / 200 := by
  calc binary64.normal ≤ 2 ^ (-8 : ℤ) := zpow_le_zpow_right₀ (by norm_num) (by decide)
    _ ≤ 1 / 200 := by norm_num

namespace Carries

variable {steps more : ℕ} {cents other : Int} {amount second : ℚ}

theorem nonneg (carries : Carries steps cents amount) (owed : 0 ≤ cents) : 0 ≤ amount := by
  have loss : 0 ≤ (1 - binary64.unit) ^ steps := pow_nonneg (sub_nonneg.mpr binary64.unit_le_one) steps
  have ideal : (0 : ℚ) ≤ cents / 100 := by positivity
  exact (mul_nonneg ideal loss).trans carries.below

theorem mono (carries : Carries steps cents amount) (owed : 0 ≤ cents) (fewer : steps ≤ more) :
    Carries more cents amount :=
  Near.mono binary64.unit_pos.le binary64.unit_le_one (by positivity) (carries.nonneg owed) fewer carries

/-- What is owed is nothing or a cent, so an amount has all its digits. -/
theorem round (carries : Carries steps cents amount) (owed : 0 ≤ cents) (few : steps ≤ 2 ^ 50) :
    Carries (steps + 1) cents (float64 amount) := by
  have positive := carries.nonneg owed
  refine Near.trans binary64.unit_le_one carries (binary64.nearest_near positive ?_)
  have share : steps * binary64.unit ≤ 1 / 2 := by
    have : (steps : ℚ) ≤ 2 ^ 50 := by exact_mod_cast few
    rw [unit64]
    linarith
  have lower := carries.bound binary64.unit_le_one (by positivity)
  have upper := carries.symm.bound binary64.unit_le_one positive
  rcases owed.eq_or_lt with rfl | some
  · left
    rw [Int.cast_zero, zero_div] at upper
    have half : amount * (1 / 2) ≤ amount * (1 - steps * binary64.unit) :=
      mul_le_mul_of_nonneg_left (by linarith) positive
    linarith
  · right
    have cent : (1 : ℚ) ≤ cents := by exact_mod_cast some
    have half : (cents : ℚ) / 100 * (1 / 2) ≤ cents / 100 * (1 - steps * binary64.unit) :=
      mul_le_mul_of_nonneg_left (by linarith) (by positivity)
    linarith [normal64]

theorem add (carries : Carries steps cents amount) (also : Carries steps other second) :
    Carries steps (cents + other) (amount + second) := by
  have sum : ((cents + other : Int) : ℚ) / 100 = cents / 100 + other / 100 := by
    push_cast
    ring
  rw [Carries, sum]
  exact Near.add carries also

end Carries

section Column

variable {steps : ℕ} {cents : Int} {amount : ℚ}

/-- What is sent is off by one more rounding. -/
theorem Driver.sent (driver : Driver) (carries : Carries steps cents (float64 amount)) (owed : 0 ≤ cents)
    (few : steps ≤ 2 ^ 50) :
    cents / 100 * (1 - (steps + 1) * binary64.unit) - 1 / 2 ^ 60 ≤ driver.decimal (float64 amount) ∧
      driver.decimal (float64 amount) * (1 - (steps + 1) * binary64.unit) ≤ cents / 100 + 1 / 2 ^ 60 := by
  have ideal : (0 : ℚ) ≤ cents / 100 := by positivity
  have positive := carries.nonneg owed
  have lower := carries.bound binary64.unit_le_one ideal
  have upper := carries.symm.bound binary64.unit_le_one positive
  have error := binary64.nearest_mixed (driver.decimal (float64 amount))
  change |float64 (driver.decimal (float64 amount)) - _| ≤ _ at error
  rw [driver.reads, abs_le] at error
  have least := least64
  have some : (0 : ℚ) ≤ 2 ^ binary64.least / 2 := div_nonneg (zpow_nonneg (by norm_num) _) (by norm_num)
  have count : (steps : ℚ) ≤ 2 ^ 50 := by exact_mod_cast few
  have none : (0 : ℚ) ≤ steps := by positivity
  rw [unit64] at *
  generalize float64 amount = held at *
  generalize driver.decimal held = sent at *
  generalize (cents : ℚ) / 100 = owed at *
  generalize (2 : ℚ) ^ binary64.least / 2 = rest at *
  generalize (steps : ℚ) = steps at *
  have share : 0 ≤ 1 - steps * (1 / 2 ^ 53) := by linarith
  have taken := mul_nonneg ideal none
  rcases le_total 0 sent with up | down
  · rw [abs_of_nonneg up] at error
    have paid := mul_nonneg up none
    have lost := mul_nonneg some none
    have scaled := mul_le_mul_of_nonneg_right (by linarith : sent * (1 - 1 / 2 ^ 53) - rest ≤ held) share
    constructor
    · linarith
    · linarith
  · rw [abs_of_nonpos down] at error
    have paid : sent * (1 - (steps + 1) * (1 / 2 ^ 53)) ≤ 0 := mul_nonpos_of_nonpos_of_nonneg down (by linarith)
    constructor
    · linarith
    · linarith

/-- The column holds the cents that were owed. -/
theorem Driver.column_carries (driver : Driver) (carries : Carries steps cents (float64 amount)) (owed : 0 ≤ cents)
    (fits : cents < 1000000000000) (few : steps ≤ 4502) : driver.column (float64 amount) = cents := by
  obtain ⟨lower, upper⟩ := driver.sent carries owed (few.trans (by norm_num))
  have none : (0 : ℚ) ≤ cents := by exact_mod_cast owed
  have whole : (cents : ℚ) ≤ 1000000000000 - 1 := by exact_mod_cast Int.le_sub_one_of_lt fits
  have count : (steps : ℚ) ≤ 4502 := by exact_mod_cast few
  have product : (cents : ℚ) * steps ≤ cents * 4502 := mul_le_mul_of_nonneg_left count none
  rw [unit64] at lower upper
  refine halfAway_eq (abs_lt.mpr ⟨by linarith, ?_⟩)
  by_contra far
  have share : (0 : ℚ) ≤ 1 - (steps + 1) * (1 / 2 ^ 53) := by linarith
  have reached := mul_le_mul_of_nonneg_right
    (by linarith : (cents + 1 / 2 : ℚ) / 100 ≤ driver.decimal (float64 amount)) share
  linarith

/-- More than the column can hold stays more than it can hold. -/
theorem Driver.column_large (driver : Driver) (carries : Carries steps cents (float64 amount))
    (large : 1000000000000 ≤ cents) (few : steps ≤ 4502) : 1000000000000 ≤ driver.column (float64 amount) := by
  obtain ⟨lower, _⟩ := driver.sent carries (by omega) (few.trans (by norm_num))
  have whole : (1000000000000 : ℚ) ≤ cents := by exact_mod_cast large
  have count : (steps : ℚ) ≤ 4502 := by exact_mod_cast few
  rw [unit64] at lower
  have share : (1 - (4502 + 1) * (1 / 2 ^ 53) : ℚ) ≤ 1 - (steps + 1) * (1 / 2 ^ 53) := by linarith
  have scaled : (cents : ℚ) / 100 * (1 - (4502 + 1) * (1 / 2 ^ 53)) ≤
      cents / 100 * (1 - (steps + 1) * (1 / 2 ^ 53)) := mul_le_mul_of_nonneg_left share (by linarith)
  exact le_halfAway (by linarith) (by push_cast; linarith)

end Column

structure OrderItem64 where
  productID : Int
  quantity : Int
  priceAtPurchase : ℚ
  deriving DecidableEq

/-- Order, items and payment before they are sent; order and payment carry the same amount. -/
structure NewOrder64 where
  userID : Int
  uuid : String
  items : List OrderItem64
  total : ℚ

structure OrderResponse64 where
  id : Int
  userID : Int
  status : OrderStatus
  totalPrice : ℚ
  items : List OrderItem64
  deriving DecidableEq

def Driver.item (driver : Driver) (item : OrderItem64) : OrderItem :=
  ⟨0, item.productID, item.quantity, driver.column item.priceAtPurchase⟩

/-- The rows that the statements write. -/
def Driver.rows (driver : Driver) (new : NewOrder64) : NewOrder where
  order := { id := 0, userID := new.userID, status := .pending, totalPrice := driver.column new.total }
  items := new.items.map driver.item
  payment := { id := 0, orderID := 0, idempotencyKey := new.uuid, status := .pending, amount := driver.column new.total,
               providerTxnID := none, createdAt := 0 }

/-- A response with its amounts in whole cents. -/
def Driver.response (driver : Driver) (response : OrderResponse64) : OrderResponse where
  id := response.id
  userID := response.userID
  status := response.status
  totalPrice := driver.column response.totalPrice
  items := response.items.map fun item => ⟨item.productID, item.quantity, driver.column item.priceAtPurchase⟩

namespace OrderService

def priceByID64 (products : List Product) (productID : Int) : Option ℚ :=
  (products.find? fun product => product.id = productID).map fun product => scanAmount product.price

/-- `total += price * float64(item.Quantity)`. The compiler may fuse the product into the sum. -/
def addLine (fused : Bool) (total price : ℚ) (quantity : Int) : ℚ :=
  let product := price * float64 quantity
  float64 (total + if fused then product else float64 product)

/-- The build loop with its two accumulators. -/
def buildItems64 (fused : Bool) (price : Int → Option ℚ) :
    List OrderItemRequest → List OrderItem64 → ℚ → Except AppError (List OrderItem64 × ℚ)
  | [], items, total => .ok (items, total)
  | item :: rest, items, total =>
    match price item.productID with
    | none => .error (.productNotFound item.productID)
    | some cost =>
      buildItems64 fused price rest (items ++ [⟨item.productID, item.quantity, cost⟩])
        (addLine fused total cost item.quantity)

def sortItems64 (items : List OrderItem64) : List OrderItem64 :=
  items.insertionSort fun first second => first.productID ≤ second.productID

def buildOrder64 (fused : Bool) (userID : Int) (uuid : String) (products : List Product)
    (requests : List OrderItemRequest) : Except AppError NewOrder64 :=
  match buildItems64 fused (priceByID64 products) requests [] 0 with
  | .error err => .error err
  | .ok (items, total) => .ok { userID, uuid, items := sortItems64 items, total }

/-- `createOrder` with the amounts as the program holds them. -/
def createOrder64 (driver : Driver) (fused : Bool) (db : Db) (generated : Generated) (uuid : String) (userID : Int)
    (items : List OrderItemRequest) (acquired : Option Bool) (looking : Option DbError) (faults : Faults DbError) :
    Except AppError OrderResponse64 × Db :=
  if duplicateLine [] items then (.error .duplicateLineItem, db)
  else if acquired = some false then (.error .duplicateOrder, db)
  else
    match ProductRepository.getProductsByIDs db (items.map (·.productID)) looking with
    | .error err => (.error err, db)
    | .ok products =>
      match buildOrder64 fused userID uuid products items with
      | .error err => (.error err, db)
      | .ok new =>
        match transact faults 0 (OrderRepository.createOrder generated (driver.rows new)) db with
        | ((_, some err), after) => (.error err, after)
        | ((orderID, none), after) => (.ok ⟨orderID, userID, .pending, new.total, new.items⟩, after)

variable {driver : Driver} {fused : Bool} {db : Db} {steps : ℕ} {cents quantity : Int} {amount held : ℚ}

theorem scan_carries (owed : 0 ≤ cents) : Carries 1 cents (scanAmount cents) :=
  Carries.round Near.refl owed (by norm_num)

/-- A price survives the way from its column and back. -/
theorem column_scan (owed : 0 ≤ cents) (fits : fitsNumeric cents) : driver.column (scanAmount cents) = cents := by
  simp only [fitsNumeric, decide_eq_true_eq] at fits
  exact driver.column_carries (scan_carries owed) owed fits.2 (by norm_num)

/-- Price, quantity and product are rounded once each. -/
theorem product_carries (priced : 0 ≤ cents) (positive : 0 < quantity) :
    Carries 2 (cents * quantity) (scanAmount cents * float64 quantity) := by
  have unit : (1 : ℚ) ≤ quantity := by exact_mod_cast positive
  have units : Near binary64.unit 1 (quantity : ℚ) (float64 quantity) :=
    binary64.nearest_near (by linarith) (.inr (by linarith [normal64]))
  have counted : 0 ≤ float64 quantity := by
    have loss : 0 ≤ (1 - binary64.unit) ^ 1 := pow_nonneg (sub_nonneg.mpr binary64.unit_le_one) 1
    exact (mul_nonneg (by linarith) loss).trans units.below
  have product : ((cents * quantity : Int) : ℚ) / 100 = cents / 100 * quantity := by
    push_cast
    ring
  rw [Carries, product]
  exact Near.mul binary64.unit_le_one (by positivity) ((scan_carries priced).nonneg priced) (scan_carries priced) units
    (by linarith) counted

/-- A line adds one rounding to the sum. -/
theorem addLine_carries (carries : Carries (steps + 3) cents held) (owed : 0 ≤ cents) (priced : 0 ≤ price)
    (positive : 0 < quantity) (few : steps ≤ 4499) :
    Carries (steps + 4) (cents + price * quantity) (addLine fused held (scanAmount price) quantity) := by
  have line := product_carries priced positive
  have due : 0 ≤ price * quantity := Int.mul_nonneg priced positive.le
  have term : Carries (steps + 3) (price * quantity)
      (if fused then scanAmount price * float64 quantity else float64 (scanAmount price * float64 quantity)) := by
    split
    · exact line.mono due (by omega)
    · exact (line.round due (by norm_num)).mono due (by omega)
  exact (carries.add term).round (Int.add_nonneg owed due) (by omega)

/-- The float64 and the cents of the build loop. -/
inductive Agrees (driver : Driver) :
    Except AppError (List OrderItem64 × ℚ) → Except AppError (List OrderItem × Int) → Prop where
  | error : Agrees driver (.error err) (.error err)
  | ok (carries : Carries 4502 total (float64 sum)) (owed : 0 ≤ total) :
      Agrees driver (.ok (items, float64 sum)) (.ok (items.map driver.item, total))

/-- Both loops take the same way; the induction is on the requests that are left. -/
theorem buildItems64_agrees {products : List Product} (priced : ∀ row ∈ products, 0 ≤ row.price ∧ fitsNumeric row.price)
    (positive : ∀ item ∈ requests, 0 < item.quantity) (carries : Carries (steps + 3) total (float64 held))
    (owed : 0 ≤ total) (few : steps + requests.length ≤ 4499) :
    Agrees driver (buildItems64 fused (priceByID64 products) requests earlier (float64 held))
      (buildItems (priceByID products) requests (earlier.map driver.item) total) := by
  induction requests generalizing steps earlier held total with
  | nil =>
    simp only [buildItems64, buildItems]
    exact .ok (carries.mono owed (by simp at few; omega)) owed
  | cons item rest ih =>
    simp only [buildItems64, buildItems, priceByID64, priceByID]
    cases found : products.find? fun product => product.id = item.productID with
    | none => exact .error
    | some product =>
      obtain ⟨cost, fits⟩ := priced product (List.mem_of_find?_eq_some found)
      have counted := positive item (by simp)
      have stored : (earlier ++ [(⟨item.productID, item.quantity, scanAmount product.price⟩ : OrderItem64)]).map driver.item =
          earlier.map driver.item ++ [⟨0, item.productID, item.quantity, product.price⟩] := by
        simp [Driver.item, column_scan cost fits]
      simp only [Option.map_some, ← stored]
      simp only [List.length_cons] at few
      exact ih (fun other member => positive other (by simp [member]))
        (addLine_carries carries owed cost counted (by omega)) (Int.add_nonneg owed (Int.mul_nonneg cost counted.le))
        (by omega)

/-- Rows that differ at most in a total that no column holds. -/
inductive Interchangeable (first second : NewOrder) : Prop where
  | same (equal : first = second)
  | unstorable (items : first.items = second.items) (large : fitsNumeric first.order.totalPrice = false)
      (also : fitsNumeric second.order.totalPrice = false)

theorem buildOrder64_agrees {products : List Product} (driver : Driver)
    (priced : ∀ row ∈ products, 0 ≤ row.price ∧ fitsNumeric row.price)
    (positive : ∀ item ∈ requests, 0 < item.quantity) (few : requests.length ≤ 4499) :
    (∃ err, buildOrder64 fused userID uuid products requests = .error err ∧
      buildOrder userID uuid products requests = .error err) ∨
    ∃ new64 new, buildOrder64 fused userID uuid products requests = .ok new64 ∧
      buildOrder userID uuid products requests = .ok new ∧ new64.userID = userID ∧
      Interchangeable (driver.rows new64) new := by
  have nothing : Carries (0 + 3) 0 (float64 0) := by simp [Carries, float64, Near.zero]
  have agrees : Agrees driver (buildItems64 fused (priceByID64 products) requests [] (float64 0))
      (buildItems (priceByID products) requests ([].map driver.item) 0) :=
    buildItems64_agrees priced positive nothing le_rfl (by omega)
  have zero : float64 0 = 0 := binary64.nearest_zero
  rw [zero, List.map_nil] at agrees
  unfold buildOrder64 buildOrder
  generalize buildItems64 fused (priceByID64 products) requests [] 0 = built64 at agrees ⊢
  generalize buildItems (priceByID products) requests [] 0 = built at agrees ⊢
  cases agrees with
  | error => exact .inl ⟨_, rfl, rfl⟩
  | @ok total sum items carries owed =>
    refine .inr ⟨_, _, rfl, rfl, rfl, ?_⟩
    have sorted : (sortItems64 items).map driver.item = sortItems (items.map driver.item) :=
      List.map_insertionSort _ _ _ _ fun _ _ _ _ => Iff.rfl
    by_cases fits : total < 1000000000000
    · have column := driver.column_carries carries owed fits le_rfl
      refine .same ?_
      rw [Driver.rows, column, sorted]
    · refine .unstorable sorted ?_ (by simp [fitsNumeric, fits])
      have column := driver.column_large carries (by omega) le_rfl
      change fitsNumeric (driver.column (float64 sum)) = false
      rw [fitsNumeric, decide_eq_false_iff_not]
      omega

end OrderService

namespace OrderRepository

/-- The first insert refuses a total that is out of range. -/
theorem insertAll_unstorable {db : Db} (large : fitsNumeric new.order.totalPrice = false)
    (faults : Nat → Option DbError) (index : Nat) :
    (insertAll generated new).run postgres faults index db =
      ((0, some (match faults index with
        | some .foreignKeyViolated => .userNotFound
        | some err => .database err
        | none => .database .outOfRange)), db) := by
  have refused : postgres.answer (.insertOrder { new.order with id := generated.orderID }) db =
      (.error .outOfRange, db) := by
    simp [Engine.answer, postgres, evaluate, guarded, large]
  simp only [insertAll, Program.run]
  cases faults index with
  | none => simp only [refused, Program.run]
  | some err => cases err <;> rfl

/-- What is done after the lines were taken decides alone. -/
theorem reserveItems_congr {first second : Tx Int} {faults : Nat → Option DbError}
    (same : ∀ index db, first.run postgres faults index db = second.run postgres faults index db)
    (items : List OrderItem) (index : Nat) (db : Db) :
    (reserveItems items first).run postgres faults index db =
      (reserveItems items second).run postgres faults index db := by
  induction items generalizing index db with
  | nil => exact same index db
  | cons item rest ih =>
    simp only [reserveItems, Program.run]
    cases faults index with
    | some err => rfl
    | none =>
      generalize postgres.answer (.reserve item.productID item.quantity) db = reply
      obtain ⟨err | rows, after⟩ := reply
      · rfl
      · dsimp only
        split
        · rfl
        · exact ih _ _

theorem createOrder_interchangeable {first second : NewOrder} (fine : OrderService.Interchangeable first second)
    (generated : Generated) (faults : Faults DbError) (db : Db) :
    transact faults 0 (createOrder generated first) db = transact faults 0 (createOrder generated second) db := by
  cases fine with
  | same equal => rw [equal]
  | unstorable items large also =>
    have runs : (createOrder generated first).run postgres faults.statement 0 db =
        (createOrder generated second).run postgres faults.statement 0 db := by
      rw [createOrder, createOrder, items]
      refine reserveItems_congr (fun index db => ?_) second.items 0 db
      rw [insertAll_unstorable large, insertAll_unstorable also]
    rw [transact, transact, transaction, transaction, runs]

/-- An order with a total that is out of range is not stored. -/
theorem createOrder_unstorable {db : Db} (large : fitsNumeric new.order.totalPrice = false) :
    (transact faults 0 (createOrder generated new) db).1.2 ≠ none := by
  rcases transaction_cases postgres AppError.database faults 0 db (createOrder_propagates generated new) with
    ⟨_, _, failed⟩ | ⟨_, _, _, alone⟩
  · simp [transact, failed]
  · obtain ⟨middle, _, _, inserted⟩ := reserveItems_effect alone
    rw [← Program.run_faultless postgres _ 0, insertAll_unstorable large] at inserted
    simp at inserted

end OrderRepository

namespace OrderService

variable {driver : Driver} {fused : Bool} {db : Db} {items : List OrderItemRequest}

/-- However the amounts are rounded on the way, a cart of up to 4499 lines is ordered as if
the service had computed in whole cents: with the same answer to the cent, and the same rows. -/
theorem createOrder64_exact (schema : db.Schema) (positive : ∀ item ∈ items, 0 < item.quantity)
    (few : items.length ≤ 4499) :
    (createOrder64 driver fused db generated uuid userID items acquired looking faults).2 =
      (createOrder db generated uuid userID items acquired looking faults).2 ∧
    (createOrder64 driver fused db generated uuid userID items acquired looking faults).1.map driver.response =
      (createOrder db generated uuid userID items acquired looking faults).1 := by
  unfold createOrder64 createOrder
  split
  · exact ⟨rfl, rfl⟩
  split
  · exact ⟨rfl, rfl⟩
  cases found : ProductRepository.getProductsByIDs db (items.map (·.productID)) looking with
  | error err => exact ⟨rfl, rfl⟩
  | ok products =>
    have priced : ∀ row ∈ products, 0 ≤ row.price ∧ fitsNumeric row.price := by
      cases looking with
      | some err => cases found
      | none =>
        cases found
        exact fun row member => schema.priced row (List.mem_filter.mp member).1
    dsimp only
    rcases buildOrder64_agrees driver priced positive few with
      ⟨err, built64, built⟩ | ⟨new64, new, built64, built, buyer, fine⟩
    · rw [built64, built]
      exact ⟨rfl, rfl⟩
    rw [built64, built]
    dsimp only
    rw [OrderRepository.createOrder_interchangeable fine]
    generalize performed : transact faults 0 (OrderRepository.createOrder generated new) db = outcome
    obtain ⟨⟨orderID, err⟩, after⟩ := outcome
    cases err with
    | some err => exact ⟨rfl, rfl⟩
    | none =>
      refine ⟨rfl, congrArg Except.ok ?_⟩
      cases fine with
      | unstorable _ _ also => exact absurd (by rw [performed]) (OrderRepository.createOrder_unstorable also)
      | same equal =>
        rw [← equal]
        simp [Driver.response, toOrderResponse, Driver.rows, Driver.item, buyer, Function.comp_def]

/-- A driver that sends some number from which the float64 comes back. -/
noncomputable def anyDriver : Driver where
  decimal := Function.invFun float64
  reads value := Function.invFun_eq ⟨value, rfl⟩

/-- Three pens for 1.20 and two mugs for 5.00 cost 13.60, in floating point too. -/
theorem createOrder64_exact_kiosk : ∃ response after,
    createOrder64 anyDriver false kiosk ⟨1, 1, 0⟩ "key" 1 [⟨9, 3⟩, ⟨7, 2⟩] (some true) none {} = (.ok response, after) ∧
      anyDriver.column response.totalPrice = 1360 ∧ after.payments.map (·.amount) = [1360] := by
  have exactly : (createOrder64 anyDriver false kiosk ⟨1, 1, 0⟩ "key" 1 [⟨9, 3⟩, ⟨7, 2⟩] (some true) none {}).2 =
        (createOrder kiosk ⟨1, 1, 0⟩ "key" 1 [⟨9, 3⟩, ⟨7, 2⟩] (some true) none {}).2 ∧
      (createOrder64 anyDriver false kiosk ⟨1, 1, 0⟩ "key" 1 [⟨9, 3⟩, ⟨7, 2⟩] (some true) none {}).1.map
        anyDriver.response = (createOrder kiosk ⟨1, 1, 0⟩ "key" 1 [⟨9, 3⟩, ⟨7, 2⟩] (some true) none {}).1 :=
    createOrder64_exact kiosk_schema (by decide) (by decide)
  generalize createOrder64 anyDriver false kiosk ⟨1, 1, 0⟩ "key" 1 [⟨9, 3⟩, ⟨7, 2⟩] (some true) none {} = outcome
    at exactly ⊢
  obtain ⟨result, after⟩ := outcome
  obtain ⟨rows, answer⟩ := exactly
  dsimp only at rows answer
  cases result with
  | error err => cases answer
  | ok response =>
    have total : anyDriver.response response = _ := Except.ok.inj answer
    refine ⟨response, after, rfl, congrArg OrderResponse.totalPrice total, ?_⟩
    rw [rows]
    rfl

end OrderService

end OrderProcessing
