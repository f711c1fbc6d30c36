import OrderProcessing.Api.Router

/-! Where the authority behind a request comes from. Tokens are handed out by
logins only, so everything that was done in the name of a user can be traced back to
a login of that user that had not expired: every order in the tables, and every
product write. -/

namespace OrderProcessing

open Library

/-- The order a statement inserts. -/
def Statement.inserted {Answer : Type} : Statement Answer → Option Order
  | .insertOrder row => some row
  | _ => none

/-- Orders are inserted for this user only, for nobody if there is none. -/
def InsertsFor (userID : Option Int) (Answer : Type) (stmt : Statement Answer) : Prop :=
  ∀ row, stmt.inserted = some row → some row.userID = userID

/-- Every order has the owner it had before, or it is new and belongs to the user. -/
def Db.OwnersKept (userID : Option Int) (before after : Db) : Prop :=
  ∀ order ∈ after.orders,
    (∃ old ∈ before.orders, old.id = order.id ∧ old.userID = order.userID) ∨ some order.userID = userID

theorem Db.OwnersKept.of_same {before after : Db} (same : after.orders = before.orders) :
    before.OwnersKept userID after :=
  fun order member => .inl ⟨order, same ▸ member, rfl, rfl⟩

theorem Db.OwnersKept.trans {first second third : Db} (left : first.OwnersKept userID second)
    (right : second.OwnersKept userID third) : first.OwnersKept userID third := by
  intro order member
  rcases right order member with ⟨middle, present, sameID, sameUser⟩ | new
  · rcases left middle present with ⟨old, there, equalID, equalUser⟩ | new
    · exact .inl ⟨old, there, equalID.trans sameID, equalUser.trans sameUser⟩
    · exact .inr (sameUser ▸ new)
  · exact .inr new

theorem apply_ownersKept (db : Db) (write : Write) (fine : ∀ row, write = .newOrder row → some row.userID = userID) :
    db.OwnersKept userID (db.apply write) := by
  cases write with
  | newOrder row =>
    intro order member
    rcases List.mem_append.mp member with old | new
    · exact .inl ⟨order, old, rfl, rfl⟩
    · cases List.mem_singleton.mp new
      exact .inr (fine _ rfl)
  | orderStatus orderID status =>
    intro order member
    obtain ⟨old, present, rfl⟩ := List.mem_map.mp member
    refine .inl ⟨old, present, ?_⟩
    unfold Db.setOrderStatus
    split <;> exact ⟨rfl, rfl⟩
  | _ => exact .of_same rfl

/-- The owners after a transaction that inserts orders for one user. -/
theorem transact_ownersKept {body : Tx Value} (issues : body.Issues (InsertsFor userID)) (propagates : body.Propagates)
    (faults : Faults DbError) (initial : Value) (db : Db) : db.OwnersKept userID (transact faults initial body db).2 := by
  have answered (Answer : Type) (stmt : Statement Answer) (db : Db) (fine : InsertsFor userID Answer stmt) :
      db.OwnersKept userID (postgres.answer stmt db).2 := by
    refine postgres.answer_related (Db.OwnersKept userID) (fun _ => .of_same rfl) (fun _ _ _ => .trans)
      (fun db write fine => apply_ownersKept db write fine) db fun answer writes done write member row same => ?_
    subst same
    cases evaluate_writes done _ member with
    | insertOrder => exact fine row rfl
  rcases transaction_cases postgres AppError.database faults initial db propagates with
    ⟨_, _, failed⟩ | ⟨_, _, done, alone⟩
  · rw [transact, failed]
    exact .of_same rfl
  · have related := Program.atomic_related postgres (Db.OwnersKept userID) (fun _ => .of_same rfl) (fun _ _ _ => .trans)
      answered issues db
    rw [alone] at related
    rw [transact, done]
    exact related

theorem OrderRepository.createOrder_inserts (generated : Generated) (new : NewOrder) :
    (createOrder generated new).Issues (InsertsFor (some new.order.userID)) := by
  have inserts : (insertAll generated new).Issues (InsertsFor (some new.order.userID)) := by
    refine .exec (by simp [InsertsFor, Statement.inserted]) fun
      | .error err => ?_
      | .ok orderID => ?_
    · cases err <;> exact .done
    · refine .exec (by simp [InsertsFor, Statement.inserted]) fun
        | .error _ => .done
        | .ok _ => ?_
      exact .exec (by simp [InsertsFor, Statement.inserted]) fun
        | .error _ => .done
        | .ok _ => .done
  have reserves (items : List OrderItem) :
      (reserveItems items (insertAll generated new)).Issues (InsertsFor (some new.order.userID)) := by
    induction items with
    | nil => exact inserts
    | cons item rest ih =>
      exact .exec (by simp [InsertsFor, Statement.inserted]) fun
        | .error _ => .done
        | .ok _ => .ite .done ih
  exact reserves new.items

theorem OrderRepository.markPaidAndConfirm_inserts (payment : Payment) (txnID : String) :
    (markPaidAndConfirm payment txnID).Issues (InsertsFor none) := by
  refine .exec (by simp [InsertsFor, Statement.inserted]) fun
    | .error _ => .done
    | .ok _ => .ite .done ?_
  exact .exec (by simp [InsertsFor, Statement.inserted]) fun
    | .error _ => .done
    | .ok _ => .done

theorem OrderRepository.failCancelAndRestock_inserts (payment : Payment) (scan : Scan) :
    (failCancelAndRestock payment scan).Issues (InsertsFor none) := by
  have restocks (items : List OrderItem) : (restockItems items).Issues (InsertsFor none) := by
    induction items with
    | nil => exact .done
    | cons item rest ih =>
      exact .exec (by simp [InsertsFor, Statement.inserted]) fun
        | .error _ => .done
        | .ok _ => ih
  refine .exec (by simp [InsertsFor, Statement.inserted]) fun
    | .error _ => .done
    | .ok _ => .ite .done ?_
  refine .exec (by simp [InsertsFor, Statement.inserted]) fun
    | .error _ => .done
    | .ok _ => ?_
  exact .exec (by simp [InsertsFor, Statement.inserted]) fun
    | .error _ => .done
    | .ok items => restocks items

theorem ProductRepository.createProduct_inserts (product : Product) (inventory : Inventory) :
    (createProduct product inventory).Issues (InsertsFor none) := by
  refine .exec (by simp [InsertsFor, Statement.inserted]) fun
    | .error _ => .done
    | .ok _ => ?_
  exact .exec (by simp [InsertsFor, Statement.inserted]) fun
    | .error _ => .done
    | .ok _ => .done

theorem ProductRepository.updateProduct_inserts (generated : Int) (loaded : LoadedProduct) :
    (updateProduct generated loaded).Issues (InsertsFor none) := by
  refine .exec (by simp [InsertsFor, Statement.inserted]) fun
    | .error _ => .done
    | .ok _ => ?_
  cases loaded.inventory with
  | none => exact .done
  | some inventory =>
    refine .ite ?_ ?_
    all_goals exact .exec (by simp [InsertsFor, Statement.inserted]) fun
      | .error _ => .done
      | .ok _ => .done

namespace Backend

variable {config : Config} {state next : State} {action : Action}

/-- Every call was submitted for its user, and what it is about to store is for that user. -/
def CallsOf (submitted : Int → Prop) (state : State) : Prop :=
  ∀ call ∈ state.calls, submitted call.userID ∧ ∀ new, call.phase = .persisting new → new.order.userID = call.userID

theorem buildOrder_user (built : OrderService.buildOrder userID uuid products requests = .ok new) :
    new.order.userID = userID := by
  unfold OrderService.buildOrder at built
  split at built
  · cases built
  · cases built
    rfl

theorem CallsOf.set {call replaced : OrderCall} (calls : CallsOf submitted state)
    (found : state.calls[index]? = some call) (set : next.calls = state.calls.set index replaced)
    (user : replaced.userID = call.userID)
    (own : ∀ new, replaced.phase = .persisting new → new.order.userID = call.userID) : CallsOf submitted next := by
  intro other member
  rw [set] at member
  rcases List.mem_or_eq_of_mem_set member with old | rfl
  · exact calls other old
  · exact ⟨user ▸ (calls call (List.mem_of_getElem? found)).1, fun new phase => (own new phase).trans user.symm⟩

/-- What the backend does without a request adds no call, and stores orders for users that have submitted one. -/
theorem CallsOf.internal_step (calls : CallsOf submitted state) (inside : Api.internal action)
    (moved : step config state action = some next) :
    state.clock ≤ next.clock ∧ CallsOf submitted next ∧
      ∀ order ∈ next.db.orders, (∃ old ∈ state.db.orders, old.id = order.id ∧ old.userID = order.userID) ∨
        submitted order.userID := by
  have untouched (userID : Option Int) (known : ∀ id, some id = userID → submitted id)
      (kept : state.db.OwnersKept userID next.db) :
      ∀ order ∈ next.db.orders, (∃ old ∈ state.db.orders, old.id = order.id ∧ old.userID = order.userID) ∨
        submitted order.userID := by
    intro order member
    rcases kept order member with old | new
    · exact .inl old
    · exact .inr (known _ new)
  cases step_cases config moved with
  | createUser | createProduct | loadProduct | saveProduct | submit => cases inside
  | tick => exact ⟨Nat.le_add_right _ _, calls, untouched none (by simp) (.of_same rfl)⟩
  | fulfill | load | charge | notify => exact ⟨le_refl _, calls, untouched none (by simp) (.of_same rfl)⟩
  | reserve found phase =>
    refine ⟨le_refl _, calls.set found rfl ?_ (fun new phase => ?_), untouched none (by simp) (.of_same rfl)⟩
    · unfold afterReserve
      split <;> rfl
    · unfold afterReserve at phase
      split at phase <;> cases phase
  | lookup found phase =>
    refine ⟨le_refl _, calls.set found rfl rfl (fun new phase => ?_), untouched none (by simp) (.of_same rfl)⟩
    simp only at phase
    split at phase
    · cases phase
    · split at phase
      · cases phase
      · cases phase
        exact buildOrder_user ‹_›
  | @persist index call orderID paymentID faults new found phase =>
    obtain ⟨known, own⟩ := calls call (List.mem_of_getElem? found)
    refine ⟨le_refl _, calls.set found rfl rfl (fun new phase => ?_), ?_⟩
    · simp only at phase
      split at phase <;> cases phase
    · have user := own new phase
      refine untouched (some new.order.userID) (fun id same => ?_) (transact_ownersKept
        (OrderRepository.createOrder_inserts _ new) (OrderRepository.createOrder_propagates _ new) _ _ _)
      rw [Option.some.inj same, user]
      exact known
  | release found =>
    exact ⟨le_refl _, calls.set found rfl rfl (fun new phase => by cases phase),
      untouched none (by simp) (.of_same rfl)⟩
  | cancel =>
    exact ⟨le_refl _, calls, untouched none (by simp) (transact_ownersKept
      (OrderRepository.failCancelAndRestock_inserts _ _) (OrderRepository.failCancelAndRestock_propagates _ _) _ _ _)⟩
  | confirm =>
    exact ⟨le_refl _, calls, untouched none (by simp) (transact_ownersKept
      (OrderRepository.markPaidAndConfirm_inserts _ _) (OrderRepository.markPaidAndConfirm_propagates _ _) _ _ _)⟩

end Backend

theorem UserRole.name_injective {first second : UserRole} (same : first.name = second.name) : first = second := by
  cases first <;> cases second <;> simp_all [UserRole.name]

namespace Api

/-- What was done in somebody's name, and when. -/
inductive AuthEvent where
  | loggedIn (userID : Int) (role : UserRole) (instant : Nat)
  | ordered (userID : Int) (instant : Nat)
  | wrote (userID : Int) (instant : Nat)
  deriving DecidableEq, Repr

/-- A login that was answered with a token, an order that was taken on, and a product write that passed the
middleware. -/
def authEvents (setup : Setup) (api : Api) : Action → List AuthEvent
  | .request (.login request) chance =>
    match login setup api.backend request chance,
        UserRepository.getUserByEmail api.backend.db request.email chance.reading with
    | .token _, .ok user => [.loggedIn user.id user.role api.backend.clock]
    | _, _ => []
  | .request (.createOrder header items) _ =>
    match Middleware.authenticate setup.jwt api.backend.clock header with
    | .ok claims => if orderBound items then [.ordered claims.userID api.backend.clock] else []
    | .error _ => []
  | .request (.createProduct header _) _ | .request (.updateProduct header _ _) _ =>
    match Middleware.admin setup.jwt api.backend.clock header with
    | .ok claims => [.wrote claims.userID api.backend.clock]
    | .error _ => []
  | _ => []

/-- The user logged in before, with that role, and the token was still good. -/
def Authorized (ttl : Nat) (past : List AuthEvent) (userID : Int) (instant : Nat) (role : UserRole) : Prop :=
  ∃ since, .loggedIn userID role since ∈ past ∧ since ≤ instant ∧ instant < since + ttl

/-- Orders need a login, product writes one as an admin. -/
def Backed (ttl : Nat) (past : List AuthEvent) : AuthEvent → Prop
  | .loggedIn _ _ _ => True
  | .ordered userID instant => ∃ role, Authorized ttl past userID instant role
  | .wrote userID instant => Authorized ttl past userID instant .admin

/-- Every event is backed by the events before it. -/
def Rightful (ttl : Nat) (log : List AuthEvent) : Prop :=
  ∀ before event after, log = before ++ event :: after → Backed ttl before event

theorem Rightful.append (rightful : Rightful ttl log) (few : new.length ≤ 1)
    (backed : ∀ event ∈ new, Backed ttl log event) : Rightful ttl (log ++ new) := by
  cases new with
  | nil => simpa using rightful
  | cons event rest =>
    cases List.eq_nil_of_length_eq_zero (Nat.le_zero.mp (Nat.le_of_succ_le_succ few))
    intro before last after split
    rcases List.eq_nil_or_concat after with rfl | ⟨rest, final, rfl⟩
    · obtain ⟨rfl, same⟩ := List.append_inj' split rfl
      cases same
      exact backed event (by simp)
    · rw [List.concat_eq_append, ← List.cons_append, ← List.append_assoc] at split
      obtain ⟨same, _⟩ := List.append_inj' split rfl
      exact rightful before last rest same

variable {setup : Setup} {api next final : Api} {log : List AuthEvent}

/-- The token was handed out by a login. -/
def Issued (setup : Setup) (log : List AuthEvent) (now : Nat) (claims : Claims) : Prop :=
  ∃ role since, .loggedIn claims.userID role since ∈ log ∧ claims.role = role.name ∧
    claims.expiresAt = since + setup.ttl ∧ since ≤ now

/-- Everything that clients hold, calls carry and the tables show comes from a login. -/
structure Traced (setup : Setup) (origin : Db) (api : Api) (log : List AuthEvent) : Prop where
  rightful : Rightful setup.ttl log
  tokens : ∀ token ∈ api.held, ∀ claims, setup.jwt.verify token = some claims →
    Issued setup log api.backend.clock claims
  calls : Backend.CallsOf (fun userID => ∃ instant, .ordered userID instant ∈ log) api.backend
  orders : ∀ order ∈ api.backend.db.orders,
    (∃ old ∈ origin.orders, old.id = order.id ∧ old.userID = order.userID) ∨
      ∃ instant, .ordered order.userID instant ∈ log

/-- A header that passes names a held token that has not expired. -/
theorem authenticate_passed {held : List String} (passed : Middleware.authenticate setup.jwt now header = .ok claims)
    (presented : presentable setup held header) :
    ∃ token ∈ held, setup.jwt.verify token = some claims ∧ now < claims.expiresAt := by
  unfold Middleware.authenticate at passed
  split at passed
  · cases passed
  · rename_i token given
    split at passed
    · cases passed
    · rename_i found parsed
      cases passed
      have verified := TokenManager.parse_verified setup.jwt parsed
      simp only [presentable, given, verified, Option.isNone_some, Bool.or_false, List.contains_iff_mem] at presented
      refine ⟨token, presented, verified, ?_⟩
      simp only [TokenManager.parse, verified] at parsed
      split at parsed
      · assumption
      · cases parsed

theorem Traced.authorized (traced : Traced setup origin api log)
    (passed : Middleware.authenticate setup.jwt api.backend.clock header = .ok claims)
    (presented : presentable setup api.held header) :
    ∃ role, claims.role = role.name ∧ Authorized setup.ttl log claims.userID api.backend.clock role := by
  obtain ⟨token, held, verified, lasting⟩ := authenticate_passed passed presented
  obtain ⟨role, since, logged, named, expiry, past⟩ := traced.tokens token held claims verified
  exact ⟨role, named, since, logged, past, expiry ▸ lasting⟩

/-- Whatever a step adds to the log is backed. -/
theorem Traced.backed (traced : Traced setup origin api log) (moved : step setup api action = some next) :
    (authEvents setup api action).length ≤ 1 ∧ ∀ event ∈ authEvents setup api action, Backed setup.ttl log event := by
  have admin {header : String} (presented : presentable setup api.held header) (claims : Claims)
      (passed : Middleware.admin setup.jwt api.backend.clock header = .ok claims) :
      Authorized setup.ttl log claims.userID api.backend.clock .admin := by
    have role : claims.role = UserRole.admin.name := by
      obtain ⟨_, _, _, role⟩ := Middleware.admin_passed passed
      exact role
    unfold Middleware.admin at passed
    cases authenticated : Middleware.authenticate setup.jwt api.backend.clock header with
    | error rejection => simp [authenticated, Except.bind] at passed
    | ok found =>
      have same : found = claims := by
        simp only [authenticated, Except.bind, Middleware.requireAdmin, Middleware.requireRole] at passed
        split at passed <;> cases passed
        rfl
      subst same
      obtain ⟨granted, named, authorized⟩ := traced.authorized authenticated presented
      rwa [UserRole.name_injective (named.symm.trans role)] at authorized
  cases action with
  | internal => exact ⟨Nat.zero_le 1, by simp [authEvents]⟩
  | request request chance =>
    simp only [step] at moved
    split at moved
    · rename_i sent
      cases request with
      | login request =>
        simp only [authEvents]
        split
        · exact ⟨le_refl 1, by simp [Backed]⟩
        · exact ⟨Nat.zero_le 1, by simp⟩
      | createOrder header items =>
        simp only [authEvents]
        split
        · rename_i claims passed
          obtain ⟨role, _, authorized⟩ := traced.authorized passed sent
          split
          · refine ⟨le_refl 1, fun event member => ?_⟩
            cases List.mem_singleton.mp member
            exact ⟨role, authorized⟩
          · exact ⟨Nat.zero_le 1, by simp⟩
        · exact ⟨Nat.zero_le 1, by simp⟩
      | createProduct header | updateProduct header =>
        simp only [authEvents]
        split
        · refine ⟨le_refl 1, fun event member => ?_⟩
          cases List.mem_singleton.mp member
          exact admin sent _ ‹_›
        · exact ⟨Nat.zero_le 1, by simp⟩
      | _ => exact ⟨Nat.zero_le 1, by simp [authEvents]⟩
    · cases moved

/-- What a request does to the backend: only `Create` of orders adds a call, for the user of the token. -/
theorem handle_backend (setup : Setup) (backend : Backend.State) (request : Request) (chance : Chance) :
    (handle setup backend request chance).2.clock = backend.clock ∧
      (∀ order ∈ (handle setup backend request chance).2.db.orders,
        ∃ old ∈ backend.db.orders, old.id = order.id ∧ old.userID = order.userID) ∧
      ((handle setup backend request chance).2.calls = backend.calls ∨ ∃ header items claims,
        request = .createOrder header items ∧
        Middleware.authenticate setup.jwt backend.clock header = .ok claims ∧ orderBound items ∧
        (handle setup backend request chance).2 = Backend.submit backend claims.userID items) := by
  have kept {db : Db} (same : db.orders = backend.db.orders) : ∀ order ∈ db.orders,
      ∃ old ∈ backend.db.orders, old.id = order.id ∧ old.userID = order.userID :=
    fun order member => ⟨order, same ▸ member, rfl, rfl⟩
  have stored {db : Db} (owners : backend.db.OwnersKept none db) : ∀ order ∈ db.orders,
      ∃ old ∈ backend.db.orders, old.id = order.id ∧ old.userID = order.userID := by
    intro order member
    rcases owners order member with old | impossible
    · exact old
    · cases impossible
  cases request with
  | getUser | login | listProducts | getProduct | getInventory => exact ⟨rfl, kept rfl, .inl rfl⟩
  | createUser request =>
    simp only [handle, createUser]
    split
    · rcases UserService.createUser_cases backend.db chance.id request chance.faults with ⟨_, same⟩ | ⟨_, _, added⟩
      · rw [same]
        exact ⟨rfl, kept rfl, .inl rfl⟩
      · rw [added]
        exact ⟨rfl, kept rfl, .inl rfl⟩
    · exact ⟨rfl, kept rfl, .inl rfl⟩
  | updateUser id request =>
    cases id with
    | none => exact ⟨rfl, kept rfl, .inl rfl⟩
    | some id =>
      simp only [handle, updateUser]
      split
      · rcases UserService.updateUser_cases backend.db id request chance.reading chance.saving with
          ⟨_, same⟩ | ⟨_, _, _, after, _, saved, stored⟩
        · rw [same]
          exact ⟨rfl, kept rfl, .inl rfl⟩
        · rw [saved]
          obtain ⟨_, users⟩ := UserRepository.updateUser_saved stored
          exact ⟨rfl, kept (by rw [users]), .inl rfl⟩
      · exact ⟨rfl, kept rfl, .inl rfl⟩
  | createProduct header request =>
    simp only [handle, createProduct]
    split
    · exact ⟨rfl, kept rfl, .inl rfl⟩
    · split
      · exact ⟨rfl, stored (transact_ownersKept (ProductRepository.createProduct_inserts _ _)
          (ProductRepository.createProduct_propagates _ _) _ _ _), .inl rfl⟩
      · exact ⟨rfl, kept rfl, .inl rfl⟩
  | updateProduct header id request =>
    simp only [handle, updateProduct]
    split
    · exact ⟨rfl, kept rfl, .inl rfl⟩
    · cases id with
      | none => exact ⟨rfl, kept rfl, .inl rfl⟩
      | some id =>
        simp only
        split
        · split
          · exact ⟨rfl, kept rfl, .inl rfl⟩
          · exact ⟨rfl, stored (transact_ownersKept (ProductRepository.updateProduct_inserts _ _)
              (ProductRepository.updateProduct_propagates _ _) _ _ _), .inl rfl⟩
        · exact ⟨rfl, kept rfl, .inl rfl⟩
  | createOrder header items =>
    simp only [handle]
    split
    · exact ⟨rfl, kept rfl, .inl rfl⟩
    · rename_i claims passed
      split
      · rename_i bound
        exact ⟨rfl, kept rfl, .inr ⟨header, items, claims, rfl, passed, bound, rfl⟩⟩
      · exact ⟨rfl, kept rfl, .inl rfl⟩

/-- A token that a request is answered with was handed out by the login it is. -/
theorem handle_issued (answer : (handle setup api.backend request chance).1 = .token token)
    (verified : setup.jwt.verify token = some claims) :
    Issued setup (authEvents setup api (.request request chance)) api.backend.clock claims := by
  obtain ⟨given, rfl, granted⟩ := handle_token answer
  unfold UserService.login at granted
  split at granted
  · cases granted
  · cases granted
  · rename_i user read
    split at granted
    · cases granted
      rw [TokenManager.generate, setup.jwt.verify_sign] at verified
      cases verified
      have logged : authEvents setup api (.request (.login given) chance) =
          [.loggedIn user.id user.role api.backend.clock] := by
        simp only [handle] at answer
        simp only [authEvents, answer, read]
      exact ⟨user.role, api.backend.clock, by simp [logged], rfl, rfl, le_refl _⟩
    · cases granted

theorem Issued.keep (issued : Issued setup log now claims) (after : now ≤ time) (new : List AuthEvent) :
    Issued setup (log ++ new) time claims := by
  obtain ⟨role, since, logged, named, expiry, past⟩ := issued
  exact ⟨role, since, List.mem_append_left _ logged, named, expiry, past.trans after⟩

theorem Traced.step (traced : Traced setup origin api log) (moved : Api.step setup api action = some next) :
    Traced setup origin next (log ++ authEvents setup api action) := by
  obtain ⟨few, backed⟩ := traced.backed moved
  have rightful := traced.rightful.append few backed
  have submitted (new : List AuthEvent) : Backend.CallsOf (fun userID => ∃ instant, .ordered userID instant ∈ log ++ new)
      api.backend := by
    intro call member
    obtain ⟨⟨instant, logged⟩, own⟩ := traced.calls call member
    exact ⟨⟨instant, List.mem_append_left _ logged⟩, own⟩
  have known (new : List AuthEvent) : ∀ order ∈ api.backend.db.orders,
      (∃ old ∈ origin.orders, old.id = order.id ∧ old.userID = order.userID) ∨
        ∃ instant, .ordered order.userID instant ∈ log ++ new := by
    intro order member
    rcases traced.orders order member with old | ⟨instant, logged⟩
    · exact .inl old
    · exact .inr ⟨instant, List.mem_append_left _ logged⟩
  cases action with
  | request request chance =>
    simp only [Api.step] at moved
    split at moved
    · cases moved
      obtain ⟨clock, owners, calls⟩ := handle_backend setup api.backend request chance
      refine ⟨rightful, fun token member claims verified => ?_, ?_, fun order member => ?_⟩
      · simp only [clock]
        unfold receive at member
        split at member
        · rename_i fresh answer
          rcases List.mem_append.mp member with old | new
          · exact (traced.tokens token old claims verified).keep (le_refl _) _
          · cases List.mem_singleton.mp new
            obtain ⟨role, since, logged, rest⟩ := handle_issued answer verified
            exact ⟨role, since, List.mem_append_right _ logged, rest⟩
        · exact (traced.tokens token member claims verified).keep (le_refl _) _
      · rcases calls with same | ⟨header, items, claims, rfl, passed, bound, submit⟩
        · intro call member
          simp only [same] at member
          exact submitted _ call member
        · have logged : authEvents setup api (.request (.createOrder header items) chance) =
              [.ordered claims.userID api.backend.clock] := by
            simp [authEvents, passed, bound]
          intro call member
          simp only [submit, Backend.submit] at member
          rcases List.mem_append.mp member with old | new
          · exact submitted _ call old
          · cases List.mem_singleton.mp new
            refine ⟨⟨api.backend.clock, by simp [logged]⟩, fun new phase => ?_⟩
            simp only at phase
            split at phase <;> cases phase
      · obtain ⟨old, present, sameID, sameUser⟩ := owners order member
        rw [← sameID, ← sameUser]
        exact known _ old present
    · cases moved
  | internal action =>
    simp only [Api.step] at moved
    split at moved
    · rename_i inside
      obtain ⟨backend, done, rfl⟩ := Option.map_eq_some_iff.mp moved
      obtain ⟨clock, calls, orders⟩ := (submitted (authEvents setup api (.internal action))).internal_step inside done
      refine ⟨rightful, fun token member claims verified => ?_, calls, fun order member => ?_⟩
      · exact (traced.tokens token member claims verified).keep clock _
      · rcases orders order member with ⟨old, present, sameID, sameUser⟩ | new
        · rw [← sameID, ← sameUser]
          exact known _ old present
        · exact .inr new
    · cases moved

/-- A shop with one customer and one product; the clients know every password. -/
def counter (jwt : Jwt) : Setup where
  config := ⟨3, fun _ => []⟩
  jwt := jwt
  ttl := 60
  email _ := true
  knows _ := true

def opened : Api where
  backend := { db := {
    users := [⟨1, "ann", "ann@shop", "12345678", .customer⟩]
    products := [⟨7, "mug", none, none, 500⟩]
    inventory := [⟨1, 7, 10⟩] } }
  held := []

end Api

end OrderProcessing
