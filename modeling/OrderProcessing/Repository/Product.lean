import OrderProcessing.Repository.Database

/-! The product and user repositories, as far as the order path depends on them. -/

namespace OrderProcessing

open Library

/-- A product as `GetProduct` returns it, with its inventory when it has one. -/
structure LoadedProduct where
  product : Product
  inventory : Option Inventory
  deriving DecidableEq, Repr

namespace ProductRepository

/-- The inventory row hangs below the product: `Create` inserts both. -/
def createProduct (product : Product) (inventory : Inventory) : Tx Unit :=
  .exec (.insertProduct product) fun
    | .error err => .done () (some (.database err))
    | .ok _ =>
      .exec (.insertInventory { inventory with productID := product.id }) fun
        | .error err => .done () (some (.database err))
        | .ok _ => .done () none

/-- `Save` inserts a row whose key is zero, under the generated key, and
overwrites every column of an existing row otherwise. -/
def saveInventory (generated : Int) (inventory : Inventory) : Tx Unit :=
  if inventory.id = 0 then
    .exec (.insertInventory { inventory with id := generated }) fun
      | .error err => .done () (some (.database err))
      | .ok _ => .done () none
  else
    .exec (.saveInventory inventory) fun
      | .error err => .done () (some (.database err))
      | .ok _ => .done () none

def updateProduct (generated : Int) (loaded : LoadedProduct) : Tx Unit :=
  .exec (.saveProduct loaded.product) fun
    | .error err => .done () (some (.database err))
    | .ok _ =>
      match loaded.inventory with
      | some inventory => saveInventory generated inventory
      | none => .done () none

def getProduct (db : Db) (id : Int) (fault : Option DbError) : Except AppError LoadedProduct :=
  match fault with
  | some err => .error (.database err)
  | none =>
    match db.product? id with
    | some product => .ok ⟨product, db.stock? id⟩
    | none => .error (.database .recordNotFound)

def getProductsByIDs (db : Db) (ids : List Int) (fault : Option DbError) : Except AppError (List Product) :=
  match fault with
  | some err => .error (.database err)
  | none => .ok (db.products.filter fun row => row.id ∈ ids)

/-- The count, then one page of the rows by id with their inventory. An OFFSET that is
not positive and a negative LIMIT are left out of the query. -/
def listProducts (db : Db) (limit offset : Int) (counting finding : Option DbError) :
    Except AppError (List LoadedProduct × Nat) :=
  match counting, finding with
  | some err, _ | none, some err => .error (.database err)
  | none, none =>
    let rows := db.products.insertionSort fun first second => first.id ≤ second.id
    let rows := if 0 < offset then rows.drop offset.toNat else rows
    let rows := if 0 ≤ limit then rows.take limit.toNat else rows
    .ok (rows.map fun product => ⟨product, db.stock? product.id⟩, db.products.length)

theorem createProduct_propagates (product : Product) (inventory : Inventory) :
    (createProduct product inventory).Propagates := by
  refine .exec (fun fault => ⟨_, _, rfl⟩) fun _ => ?_
  exact .exec (fun fault => ⟨_, _, rfl⟩) fun _ => .done

theorem saveInventory_propagates (generated : Int) (inventory : Inventory) :
    (saveInventory generated inventory).Propagates := by
  unfold saveInventory
  split
  · exact .exec (fun fault => ⟨_, _, rfl⟩) fun _ => .done
  · exact .exec (fun fault => ⟨_, _, rfl⟩) fun _ => .done

theorem updateProduct_propagates (generated : Int) (loaded : LoadedProduct) :
    (updateProduct generated loaded).Propagates := by
  refine .exec (fun fault => ⟨_, _, rfl⟩) fun _ => ?_
  cases loaded.inventory with
  | none => exact .done
  | some inventory => exact saveInventory_propagates generated inventory

end ProductRepository

namespace UserRepository

def createUser (user : User) : Tx Unit :=
  .exec (.insertUser user) fun
    | .error err => .done () (some (.database err))
    | .ok _ => .done () none

theorem createUser_propagates (user : User) : (createUser user).Propagates :=
  .exec (fun _ => ⟨_, _, rfl⟩) fun _ => .done

end UserRepository

end OrderProcessing
