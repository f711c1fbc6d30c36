import OrderProcessing.Repository.Refinement

/-! The product service: `UpdateProduct` reads the product with its inventory,
overwrites the fields of the request, and saves both rows. -/

namespace OrderProcessing

structure UpdateProductRequest where
  name : String
  image : Option String
  description : Option String
  price : Int
  quantity : Int
  deriving DecidableEq, Repr

namespace ProductService

/-- The loaded rows under the request; a product without an inventory row gets
a new one for its id. -/
def edit (id : Int) (request : UpdateProductRequest) (loaded : LoadedProduct) : LoadedProduct where
  product := { loaded.product with
    name := request.name, image := request.image, description := request.description
    price := request.price }
  inventory :=
    some { loaded.inventory.getD { id := 0, productID := id, quantity := 0 } with
      quantity := request.quantity }

/-- First step of `UpdateProduct`: what will be saved. -/
def load (db : Db) (id : Int) (request : UpdateProductRequest) (fault : Option DbError) :
    Except AppError LoadedProduct :=
  (ProductRepository.getProduct db id fault).map (edit id request)

theorem load_editing {db : Db} (loaded : load db productID request fault = .ok product) :
    product.product.id = productID ∧ ProductRepository.Editing db product := by
  unfold load ProductRepository.getProduct at loaded
  cases fault with
  | some err => simp [Except.map] at loaded
  | none =>
    cases found : db.product? productID with
    | none => simp [found, Except.map] at loaded
    | some row =>
      have key : row.id = productID := by simpa using List.find?_some found
      simp only [found, Except.map, Except.ok.injEq] at loaded
      subst loaded
      refine ⟨key, ?_, ?_⟩
      · intro inventory given
        simp only [edit, Option.some.injEq] at given
        subst given
        cases located : db.stock? productID with
        | none => simpa [edit] using key.symm
        | some old => simpa [edit, key] using stock_productID located
      · intro inventory given numbered
        simp only [edit, Option.some.injEq] at given
        subst given
        cases located : db.stock? productID with
        | none => simp [located] at numbered
        | some current =>
          exact List.mem_map.mpr ⟨current, List.mem_of_find?_eq_some located, rfl⟩

/-- What will be stored is the requested quantity, whatever was read. -/
theorem load_quantity {db : Db} (loaded : load db productID request fault = .ok product) :
    ∃ inventory, product.inventory = some inventory ∧ inventory.quantity = request.quantity := by
  unfold load at loaded
  cases answer : ProductRepository.getProduct db productID fault with
  | error err => simp [answer, Except.map] at loaded
  | ok rows =>
    simp only [answer, Except.map, Except.ok.injEq] at loaded
    subst loaded
    exact ⟨_, rfl, rfl⟩

end ProductService

end OrderProcessing
