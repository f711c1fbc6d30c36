import OrderProcessing.Backend.Invariant
import OrderProcessing.Services.User

/-! The routes, and clients that send any requests to them. A client presents
tokens it holds and passwords it knows; every other token fails verification.
Only the product writes stand behind `RequireAdmin`. -/

namespace OrderProcessing

open Library

structure CreateProductRequest where
  name : String
  image : Option String
  description : Option String
  price : Int
  quantity : Int
  deriving DecidableEq, Repr

def CreateProductRequest.bound (request : CreateProductRequest) : Bool :=
  request.name ≠ "" && request.price ≠ 0 && 0 ≤ request.price && 0 ≤ request.quantity

def UpdateProductRequest.bound (request : UpdateProductRequest) : Bool :=
  request.name ≠ "" && request.price ≠ 0 && 0 ≤ request.price && 0 ≤ request.quantity

def orderBound (items : List OrderItemRequest) : Bool :=
  items ≠ [] && items.all fun item => item.productID ≠ 0 && 0 < item.quantity

/-- A path id is none if it is not a number. -/
inductive Request where
  | createUser (request : CreateUserRequest)
  | getUser (id : Option Int)
  | updateUser (id : Option Int) (request : UpdateUserRequest)
  | login (request : LoginRequest)
  | listProducts
  | getProduct (id : Option Int)
  | getInventory (id : Option Int)
  | createProduct (authorization : String) (request : CreateProductRequest)
  | updateProduct (authorization : String) (id : Option Int) (request : UpdateProductRequest)
  | createOrder (authorization : String) (items : List OrderItemRequest)
  deriving DecidableEq, Repr

inductive Response where
  | answered (status : Nat)
  | token (accessToken : String)
  | refused (status : Nat) (error : Option String)
  /-- An order that was taken on; the call goes on in the backend. -/
  | ordering
  deriving DecidableEq, Repr

/-- What the database decides while a request is handled. -/
structure Chance where
  id : Int
  inventoryID : Int
  reading : Option DbError := none
  saving : Option DbError := none
  faults : Faults DbError := {}

/-- The server, and the clients: which strings are email addresses to the
validator, and which passwords the clients know. -/
structure Setup where
  config : Config
  jwt : Jwt
  ttl : Nat
  email : String → Bool
  knows : String → Bool

structure Api where
  backend : Backend.State
  /-- The tokens that clients hold. -/
  held : List String
  /-- The requests that passed `RequireAdmin`. -/
  admitted : List Request := []

namespace Api

variable (setup : Setup)

/-- A missing row is a 404 of its own text, any other error a 500. -/
def failed (missing : String) : UserError → Response
  | .store (.database .recordNotFound) => .refused 404 (some missing)
  | _ => .refused 500 none

def createUser (backend : Backend.State) (request : CreateUserRequest) (chance : Chance) : Response × Backend.State :=
  if request.bound setup.email then
    match UserService.createUser backend.db chance.id request chance.faults with
    | (.error _, db) => (.refused 500 none, { backend with db })
    | (.ok _, db) => (.answered 201, { backend with db })
  else (.refused 400 none, backend)

def updateUser (backend : Backend.State) (id : Option Int) (request : UpdateUserRequest) (chance : Chance) :
    Response × Backend.State :=
  match id with
  | none => (.refused 400 (some "invalid id"), backend)
  | some id =>
    if request.bound setup.email then
      match UserService.updateUser backend.db id request chance.reading chance.saving with
      | (.error err, db) => (failed "user not found" err, { backend with db })
      | (.ok _, db) => (.answered 200, { backend with db })
    else (.refused 400 none, backend)

def login (backend : Backend.State) (request : LoginRequest) (chance : Chance) : Response :=
  if request.bound setup.email then
    match UserService.login setup.jwt setup.ttl backend.clock backend.db request chance.reading with
    | .ok token => .token token
    | .error .invalidCredentials => .refused 401 (some "invalid email or password")
    | .error _ => .refused 500 none
  else .refused 400 none

/-- The reads by id. -/
def read (missing : String) (id : Option Int) (present : Int → Bool) (fault : Option DbError) : Response :=
  match id with
  | none => .refused 400 (some "invalid id")
  | some id =>
    if fault.isSome then .refused 500 none
    else if present id then .answered 200
    else .refused 404 (some missing)

def createProduct (backend : Backend.State) (request : CreateProductRequest) (chance : Chance) :
    Response × Backend.State :=
  if request.bound then
    let product : Product := ⟨chance.id, request.name, request.image, request.description, request.price⟩
    let inventory : Inventory := ⟨chance.inventoryID, 0, request.quantity⟩
    let outcome := transact chance.faults () (ProductRepository.createProduct product inventory) backend.db
    (if outcome.1.2.isNone then .answered 201 else .refused 500 none, { backend with db := outcome.2 })
  else (.refused 400 none, backend)

def updateProduct (backend : Backend.State) (id : Option Int) (request : UpdateProductRequest) (chance : Chance) :
    Response × Backend.State :=
  match id with
  | none => (.refused 400 (some "invalid id"), backend)
  | some id =>
    if request.bound then
      match ProductService.load backend.db id request chance.reading with
      | .error err => (failed "product not found" (.store err), backend)
      | .ok loaded =>
        let outcome := transact chance.faults () (ProductRepository.updateProduct chance.inventoryID loaded) backend.db
        (if outcome.1.2.isNone then .answered 200 else .refused 500 none, { backend with db := outcome.2 })
    else (.refused 400 none, backend)

/-- The handler behind its middleware. -/
def handle (backend : Backend.State) (request : Request) (chance : Chance) : Response × Backend.State :=
  match request with
  | .createUser request => createUser setup backend request chance
  | .getUser id => (read "user not found" id (fun id => (backend.db.user? id).isSome) chance.reading, backend)
  | .updateUser id request => updateUser setup backend id request chance
  | .login request => (login setup backend request chance, backend)
  | .listProducts => (if chance.reading.isSome then .refused 500 none else .answered 200, backend)
  | .getProduct id => (read "product not found" id (fun id => (backend.db.product? id).isSome) chance.reading, backend)
  | .getInventory id => (read "inventory not found" id (fun id => (backend.db.stock? id).isSome) chance.reading, backend)
  | .createProduct header request =>
    match Middleware.admin setup.jwt backend.clock header with
    | .error (status, message) => (.refused status (some message), backend)
    | .ok _ => createProduct backend request chance
  | .updateProduct header id request =>
    match Middleware.admin setup.jwt backend.clock header with
    | .error (status, message) => (.refused status (some message), backend)
    | .ok _ => updateProduct backend id request chance
  | .createOrder header items =>
    match Middleware.authenticate setup.jwt backend.clock header with
    | .error (status, message) => (.refused status (some message), backend)
    | .ok claims =>
      if orderBound items then (.ordering, Backend.submit backend claims.userID items) else (.refused 400 none, backend)

/-- The header of a product write. -/
def adminHeader : Request → Option String
  | .createProduct header _ | .updateProduct header _ _ => some header
  | _ => none

/-- The request passes `RequireAdmin`. -/
def admits (backend : Backend.State) (request : Request) : Bool :=
  match adminHeader request with
  | some header => (Middleware.admin setup.jwt backend.clock header).toOption.isSome
  | none => false

/-- A token that verifies is one the clients hold. -/
def presentable (held : List String) (header : String) : Bool :=
  match Middleware.bearer header with
  | .ok token => held.contains token || (setup.jwt.verify token).isNone
  | .error _ => true

/-- The clients can send the request. -/
def sendable (held : List String) : Request → Bool
  | .createUser request => setup.knows request.password
  | .login request => setup.knows request.password
  | .createProduct header _ | .updateProduct header _ _ | .createOrder header _ => presentable setup held header
  | _ => true

inductive Action where
  | request (request : Request) (chance : Chance)
  /-- Calls and runs that go on in the backend, and the clock. -/
  | internal (action : Backend.Action)

/-- What the backend does without a request. -/
def internal : Backend.Action → Bool
  | .createUser _ _ | .createProduct _ _ _ | .loadProduct _ _ _ | .saveProduct _ _ _ | .submit _ _ => false
  | _ => true

def receive (held : List String) : Response → List String
  | .token token => held ++ [token]
  | _ => held

def step (api : Api) : Action → Option Api
  | .request request chance =>
    if sendable setup api.held request then
      let outcome := handle setup api.backend request chance
      some {
        backend := outcome.2
        held := receive api.held outcome.1
        admitted := if admits setup api.backend request then api.admitted ++ [request] else api.admitted }
    else none
  | .internal action =>
    if internal action then
      (Backend.step setup.config api.backend action).map fun backend => { api with backend }
    else none

/-- The clients hold no token of an admin and know no admin's password. -/
structure Unprivileged (api : Api) : Prop where
  tokens : ∀ token ∈ api.held, ∀ claims, setup.jwt.verify token = some claims → claims.role ≠ UserRole.admin.name
  passwords : ∀ user ∈ api.backend.db.users, user.role = .admin → setup.knows user.hashedPassword = false

/-- The request stores the role of an admin in a row whose password the clients know. -/
def grants (api : Api) : Action → Bool
  | .request (.createUser request) chance =>
    request.bound setup.email &&
      match (UserService.createUser api.backend.db chance.id request chance.faults).1 with
      | .ok user => user.role = .admin
      | .error _ => false
  | .request (.updateUser (some id) request) chance =>
    request.bound setup.email &&
      match (UserService.updateUser api.backend.db id request chance.reading chance.saving).1 with
      | .ok user => user.role = .admin && setup.knows user.hashedPassword
      | .error _ => false
  | _ => false

variable {setup : Setup} {api next final : Api} {state after : Backend.State} {path : Option Int}

/-- Nobody without an admin's token passes. -/
theorem Unprivileged.rejected (unprivileged : Unprivileged setup api) (presented : presentable setup api.held header) :
    ∃ rejection, Middleware.admin setup.jwt api.backend.clock header = .error rejection := by
  cases passed : Middleware.admin setup.jwt api.backend.clock header with
  | error rejection => exact ⟨rejection, rfl⟩
  | ok claims =>
    obtain ⟨token, given, verified, role⟩ := Middleware.admin_passed passed
    simp only [presentable, given, verified, Option.isNone_some, Bool.or_false, List.contains_iff_mem] at presented
    exact absurd role (unprivileged.tokens token presented claims verified)

theorem Unprivileged.not_admitted (unprivileged : Unprivileged setup api)
    (sent : sendable setup api.held request) : admits setup api.backend request = false := by
  cases request with
  | createProduct header | updateProduct header =>
    obtain ⟨rejection, rejected⟩ := unprivileged.rejected sent
    simp [admits, adminHeader, rejected, Except.toOption]
  | _ => rfl

/-- What a request of such clients does to the tables: it may add or change users
that they have no use for, and it leaves the products alone. -/
theorem Unprivileged.handled (unprivileged : Unprivileged setup api) (sent : sendable setup api.held request)
    (harmless : grants setup api (.request request chance) = false) :
    (∀ user ∈ (handle setup api.backend request chance).2.db.users, user.role = .admin →
      setup.knows user.hashedPassword = false) ∧
    (handle setup api.backend request chance).2.db.products = api.backend.db.products := by
  cases request with
  | createUser request =>
    simp only [handle, createUser]
    split
    · rename_i bound
      rcases UserService.createUser_cases api.backend.db chance.id request chance.faults with
        ⟨err, same⟩ | ⟨role, _, added⟩
      · rw [same]
        exact ⟨unprivileged.passwords, rfl⟩
      · have customer : role ≠ .admin := by
          simpa [grants, bound, added, UserService.newUser] using harmless
        rw [added]
        refine ⟨fun user member admin => ?_, rfl⟩
        rcases List.mem_append.mp member with old | new
        · exact unprivileged.passwords user old admin
        · cases List.mem_singleton.mp new
          exact absurd admin customer
    · exact ⟨unprivileged.passwords, rfl⟩
  | updateUser id request =>
    cases id with
    | none => exact ⟨unprivileged.passwords, rfl⟩
    | some id =>
      simp only [handle, updateUser]
      split
      · rename_i bound
        rcases UserService.updateUser_cases api.backend.db id request chance.reading chance.saving with
          ⟨err, same⟩ | ⟨_, _, edited, after, _, saved, stored⟩
        · rw [same]
          exact ⟨unprivileged.passwords, rfl⟩
        · have useless : edited.role = .admin → setup.knows edited.hashedPassword = false := by
            simpa [grants, bound, saved] using harmless
          obtain ⟨users, rest⟩ := UserRepository.updateUser_saved stored
          rw [saved]
          refine ⟨fun user member admin => ?_, ?_⟩
          · rcases users user member with old | rfl
            · exact unprivileged.passwords user old admin
            · exact useless admin
          · simp only
            rw [rest]
      · exact ⟨unprivileged.passwords, rfl⟩
  | createProduct header | updateProduct header =>
    obtain ⟨rejection, rejected⟩ := unprivileged.rejected sent
    simp only [handle, rejected]
    exact ⟨unprivileged.passwords, trivial⟩
  | createOrder header items =>
    simp only [handle]
    split
    · exact ⟨unprivileged.passwords, rfl⟩
    · split
      · exact ⟨unprivileged.passwords, rfl⟩
      · exact ⟨unprivileged.passwords, rfl⟩
  | getUser | login | listProducts | getProduct | getInventory => exact ⟨unprivileged.passwords, rfl⟩

theorem failed_token : failed missing err ≠ .token token := by
  unfold failed
  split <;> nofun

theorem read_token : read missing path present fault ≠ .token token := by
  unfold read
  split
  · nofun
  · split
    · nofun
    · split <;> nofun

theorem createProduct_token : (createProduct state request chance).1 ≠ .token token := by
  unfold createProduct
  split
  · simp only
    split <;> nofun
  · nofun

theorem updateProduct_token : (updateProduct state path request chance).1 ≠ .token token := by
  unfold updateProduct
  split
  · nofun
  · split
    · split
      · exact failed_token
      · simp only
        split <;> nofun
    · nofun

/-- Only a login answers with a token. -/
theorem handle_token (answer : (handle setup state request chance).1 = .token token) :
    ∃ given, request = .login given ∧
      UserService.login setup.jwt setup.ttl state.clock state.db given chance.reading = .ok token := by
  cases request with
  | login given =>
    refine ⟨given, rfl, ?_⟩
    simp only [handle, login] at answer
    split at answer
    · split at answer <;> cases answer
      assumption
    · cases answer
  | createUser request =>
    simp only [handle, createUser] at answer
    split at answer
    · split at answer <;> cases answer
    · cases answer
  | updateUser id request =>
    simp only [handle, updateUser] at answer
    split at answer
    · cases answer
    · split at answer
      · split at answer
        · exact absurd answer failed_token
        · cases answer
      · cases answer
  | getUser | getProduct | getInventory => exact absurd answer read_token
  | listProducts =>
    simp only [handle] at answer
    split at answer <;> cases answer
  | createProduct =>
    simp only [handle] at answer
    split at answer
    · cases answer
    · exact absurd answer createProduct_token
  | updateProduct =>
    simp only [handle] at answer
    split at answer
    · cases answer
    · exact absurd answer updateProduct_token
  | createOrder =>
    simp only [handle] at answer
    split at answer
    · cases answer
    · split at answer <;> cases answer

/-- A login returns a token for a row whose password the clients know. -/
theorem Unprivileged.received (unprivileged : Unprivileged setup api) (sent : sendable setup api.held request) :
    ∀ token ∈ receive api.held (handle setup api.backend request chance).1, ∀ claims,
      setup.jwt.verify token = some claims → claims.role ≠ UserRole.admin.name := by
  intro token member claims verified
  unfold receive at member
  split at member
  · rename_i fresh answer
    rcases List.mem_append.mp member with old | new
    · exact unprivileged.tokens token old claims verified
    · cases List.mem_singleton.mp new
      obtain ⟨given, rfl, granted⟩ := handle_token answer
      obtain ⟨user, present, same, rfl⟩ := UserService.login_token granted
      rw [TokenManager.generate, setup.jwt.verify_sign] at verified
      cases verified
      intro admin
      have role : user.role = .admin := by
        cases held : user.role with
        | admin => rfl
        | customer => simp [held, UserRole.name] at admin
      have unknown := unprivileged.passwords user present role
      simp only [sendable] at sent
      rw [same, sent] at unknown
      cases unknown
  · exact unprivileged.tokens token member claims verified

/-- What goes on in the backend without a request touches neither users nor products. -/
theorem internal_catalogue (inside : internal action) (moved : Backend.step config state action = some after) :
    after.db.users = state.db.users ∧ after.db.products = state.db.products := by
  cases Backend.step_cases config moved with
  | persist =>
    exact OrderRepository.transact_catalogue (OrderRepository.createOrder_issues _ _)
      (OrderRepository.createOrder_propagates _ _) _ _ _
  | cancel =>
    exact OrderRepository.transact_catalogue (OrderRepository.failCancelAndRestock_issues _ _)
      (OrderRepository.failCancelAndRestock_propagates _ _) _ _ _
  | confirm =>
    exact OrderRepository.transact_catalogue (OrderRepository.markPaidAndConfirm_issues _ _)
      (OrderRepository.markPaidAndConfirm_propagates _ _) _ _ _
  | createUser | createProduct | loadProduct | saveProduct | submit => cases inside
  | tick | reserve | lookup | release | fulfill | load | charge | notify => exact ⟨rfl, rfl⟩

theorem Unprivileged.step (unprivileged : Unprivileged setup api) (harmless : grants setup api action = false)
    (moved : Api.step setup api action = some next) :
    Unprivileged setup next ∧ next.admitted = api.admitted ∧ next.backend.db.products = api.backend.db.products := by
  cases action with
  | request request chance =>
    simp only [Api.step] at moved
    split at moved
    · rename_i sent
      cases moved
      obtain ⟨passwords, products⟩ := unprivileged.handled sent harmless
      exact ⟨⟨unprivileged.received sent, passwords⟩, by simp [unprivileged.not_admitted sent], products⟩
    · cases moved
  | internal action =>
    simp only [Api.step] at moved
    split at moved
    · rename_i inside
      obtain ⟨backend, done, rfl⟩ := Option.map_eq_some_iff.mp moved
      obtain ⟨users, products⟩ := internal_catalogue inside done
      exact ⟨⟨unprivileged.tokens, by rw [users]; exact unprivileged.passwords⟩, rfl, products⟩
    · cases moved

def mug : CreateProductRequest := ⟨"mug", none, none, 500, 10⟩

/-- A customer signs up, and sends a product without a token. -/
def visit : List Action :=
  [.request (.createUser ⟨"eve", "eve@shop", "12345678", ""⟩) { id := 2, inventoryID := 0 },
    .request (.createProduct "" mug) { id := 1, inventoryID := 1 }]

end Api

end OrderProcessing
