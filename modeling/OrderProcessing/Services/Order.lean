import OrderProcessing.Repository.Refinement

/-! The order service: the checks and the arithmetic `CreateOrder` performs
between its calls to the stores, and the key it derives from a cart. -/

namespace OrderProcessing

open Library

structure OrderItemRequest where
  productID : Int
  quantity : Int
  deriving DecidableEq, Repr

namespace OrderService

/-- The `seen` loop: true at the first product id met a second time. -/
def duplicateLine (seen : List Int) : List OrderItemRequest → Bool
  | [] => false
  | item :: rest => if item.productID ∈ seen then true else duplicateLine (item.productID :: seen) rest

def priceByID (products : List Product) (productID : Int) : Option Int :=
  (products.find? fun product => product.id = productID).map (·.price)

/-- The build loop with its two accumulators. -/
def buildItems (price : Int → Option Int) :
    List OrderItemRequest → List OrderItem → Int → Except AppError (List OrderItem × Int)
  | [], items, total => .ok (items, total)
  | item :: rest, items, total =>
    match price item.productID with
    | none => .error (.productNotFound item.productID)
    | some cost =>
      buildItems price rest
        (items ++ [{ orderID := 0, productID := item.productID, quantity := item.quantity,
                     priceAtPurchase := cost }])
        (total + cost * item.quantity)

def sortItems (items : List OrderItem) : List OrderItem :=
  items.insertionSort fun first second => first.productID ≤ second.productID

/-- Order, items and payment as they are handed to the repository. -/
def buildOrder (userID : Int) (uuid : String) (products : List Product)
    (requests : List OrderItemRequest) : Except AppError NewOrder :=
  match buildItems (priceByID products) requests [] 0 with
  | .error err => .error err
  | .ok (items, total) =>
    .ok {
      order := { id := 0, userID, status := .pending, totalPrice := total }
      items := sortItems items
      payment := { id := 0, orderID := 0, idempotencyKey := uuid, status := .pending, amount := total,
                   providerTxnID := none, createdAt := 0 } }

/-- Five minutes, in nanoseconds. -/
def idempotencyTTL : Nat := 5 * 60 * 1000000000

def itoa : Int → List Char
  | .ofNat value => Nat.toDigits 10 value
  | .negSucc value => '-' :: Nat.toDigits 10 (value + 1)

def sortRequests (items : List OrderItemRequest) : List OrderItemRequest :=
  items.insertionSort fun first second => first.productID ≤ second.productID

/-- The text that is hashed: the user, then every line in product order. -/
def keyText (userID : Int) (items : List OrderItemRequest) : List Char :=
  ['u', ':'] ++ itoa userID ++
    (sortRequests items).flatMap fun item => ['|'] ++ itoa item.productID ++ [':'] ++ itoa item.quantity

def hexDigits : List Char :=
  ['0', '1', '2', '3', '4', '5', '6', '7', '8', '9', 'a', 'b', 'c', 'd', 'e', 'f']

def encodeToString (bytes : List UInt8) : String :=
  String.ofList (bytes.flatMap fun byte =>
    [hexDigits.getD (byte.toNat / 16) '0', hexDigits.getD (byte.toNat % 16) '0'])

def idempotencyKey (sha256 : List Char → List UInt8) (userID : Int) (items : List OrderItemRequest) : String :=
  encodeToString (sha256 (keyText userID items))

theorem duplicateLine_false (seen : List Int) (items : List OrderItemRequest) :
    duplicateLine seen items = false ↔
      (items.map (·.productID)).Nodup ∧ ∀ item ∈ items, item.productID ∉ seen := by
  induction items generalizing seen with
  | nil => simp [duplicateLine]
  | cons item rest ih =>
    by_cases known : item.productID ∈ seen
    · simp [duplicateLine, known]
    · simp only [duplicateLine, known, ↓reduceIte, ih, List.map_cons, List.nodup_cons, List.mem_map,
        List.mem_cons, not_or, forall_eq_or_imp, not_false_eq_true, true_and]
      constructor
      · rintro ⟨distinct, fresh⟩
        refine ⟨⟨?_, distinct⟩, fun other member => (fresh other member).2⟩
        rintro ⟨other, member, same⟩
        exact (fresh other member).1 same
      · rintro ⟨⟨absent, distinct⟩, fresh⟩
        exact ⟨distinct, fun other member => ⟨fun same => absent ⟨other, member, same⟩, fresh other member⟩⟩

theorem buildItems_total {items : List OrderItem} (initial : total = totalOf items)
    (built : buildItems price requests items total = .ok (lines, sum)) : sum = totalOf lines := by
  induction requests generalizing items total with
  | nil =>
    simp only [buildItems, Except.ok.injEq, Prod.mk.injEq] at built
    obtain ⟨rfl, rfl⟩ := built
    exact initial
  | cons item rest ih =>
    simp only [buildItems] at built
    split at built
    · cases built
    · refine ih ?_ built
      simp only [totalOf, List.map_append, List.sum_append, List.map_cons, List.map_nil, List.sum_cons,
        List.sum_nil, add_zero] at initial ⊢
      rw [initial, Int.mul_comm]

theorem sortItems_perm (items : List OrderItem) : (sortItems items).Perm items :=
  List.perm_insertionSort _ items

/-- What the service hands to the repository is a draft: both rows pending and
both amounts equal to the price of the lines. -/
theorem buildOrder_drafted (built : buildOrder userID uuid products requests = .ok new) :
    new.Drafted := by
  unfold buildOrder at built
  split at built
  · cases built
  · rename_i items total lines
    have sum := buildItems_total rfl lines
    have sorted := totalOf_perm (sortItems_perm items)
    cases built
    exact ⟨rfl, rfl, rfl, sum.trans sorted.symm, sum.trans sorted.symm⟩

theorem buildOrder_sorted (built : buildOrder userID uuid products requests = .ok new) :
    new.items.Pairwise fun first second => first.productID ≤ second.productID := by
  unfold buildOrder at built
  split at built
  · cases built
  · cases built
    exact pairwise_sort_by OrderItem.productID _

/-- The key does not depend on the order of the cart lines. -/
theorem idempotencyKey_perm (sha256 : List Char → List UInt8) (userID : Int)
    (distinct : (items.map (·.productID)).Nodup) (same : items.Perm others) :
    idempotencyKey sha256 userID items = idempotencyKey sha256 userID others := by
  rw [idempotencyKey, keyText, sortRequests, sort_by_perm distinct same]
  rfl

end OrderService

end OrderProcessing
