import OrderProcessing.Idempotency.RedisStore
import OrderProcessing.Library.Machine
import OrderProcessing.Services.Fulfillment
import OrderProcessing.Services.Order
import OrderProcessing.Services.Product

/-! The backend as one machine: database, gateway, Redis and clock, with any
number of `CreateOrder` and `UpdateProduct` calls and of `Fulfill` runs in
progress. An action is one call of one party; its arguments carry whatever the
environment decides, so every interleaving and every fault is a list of actions.
`Process` and the sweeper only start runs, which may start here at any time. -/

namespace OrderProcessing

open Library

structure Config where
  maxRetries : Int
  sha256 : List Char → List UInt8

namespace Backend

/-- Where a call of `orderService.CreateOrder` stands. -/
inductive CallPhase where
  | reserving
  | lookingUp
  | persisting (new : NewOrder)
  | releasing (err : AppError)
  | returned (result : Except AppError Int)

structure OrderCall where
  userID : Int
  items : List OrderItemRequest
  phase : CallPhase
  /-- The instant at which `Reserve` returned acquired. -/
  acquiredAt : Option Nat := none

/-- An `UpdateProduct` call that has read its product. -/
inductive ProductEdit where
  | saving (loaded : LoadedProduct)
  | returned
  deriving DecidableEq, Repr

/-- A completed `MarkPaidAndConfirm` or `FailCancelAndRestock` call. -/
structure Outcome where
  payment : Payment
  target : PaymentStatus
  transitioned : Bool
  err : Option AppError
  deriving DecidableEq, Repr

/-- The call returned (true, nil). -/
def Outcome.won (outcome : Outcome) : Bool := outcome.transitioned && outcome.err.isNone

structure State where
  clock : Nat := 0
  redis : RedisStore := {}
  db : Db := {}
  gateway : FakeGateway := {}
  calls : List OrderCall := []
  edits : List ProductEdit := []
  runs : List Fulfiller.Run := []
  outcomes : List Outcome := []
  requests : List ChargeRequest := []
  sent : List (Int × String) := []

inductive Action where
  | tick (elapsed : Nat)
  | createUser (user : User) (faults : Faults DbError)
  | createProduct (product : Product) (inventory : Inventory) (faults : Faults DbError)
  | loadProduct (productID : Int) (request : UpdateProductRequest) (fault : Option DbError)
  | saveProduct (edit : Nat) (generated : Int) (faults : Faults DbError)
  | submit (userID : Int) (items : List OrderItemRequest)
  | reserve (call : Nat) (reply : RedisReply)
  | lookup (call : Nat) (uuid : String) (fault : Option DbError)
  | persist (call : Nat) (orderID paymentID : Int) (faults : Faults DbError)
  | release (call : Nat) (reply : RedisReply)
  | fulfill (orderID : Int)
  | load (run : Nat) (fault : Option DbError)
  | charge (run : Nat) (draw : Draw)
  | cancel (run : Nat) (scan : Scan) (faults : Faults DbError)
  | confirm (run : Nat) (faults : Faults DbError)
  | notify (run : Nat)

variable (config : Config)

def submit (state : State) (userID : Int) (items : List OrderItemRequest) : State :=
  let phase := if OrderService.duplicateLine [] items then .returned (.error .duplicateLineItem) else .reserving
  { state with calls := state.calls ++ [{ userID, items, phase }] }

/-- How a call goes on after `Reserve`, whose error is logged and ignored. -/
def afterReserve (call : OrderCall) (now : Nat) : Option Bool → OrderCall
  | none => { call with phase := .lookingUp }
  | some true => { call with phase := .lookingUp, acquiredAt := some now }
  | some false => { call with phase := .returned (.error .duplicateOrder) }

def reserve (state : State) (index : Nat) (call : OrderCall) (reply : RedisReply) : State :=
  let key := OrderService.idempotencyKey config.sha256 call.userID call.items
  let outcome := state.redis.reserve state.clock OrderService.idempotencyTTL index key reply
  { state with redis := outcome.2, calls := state.calls.set index (afterReserve call state.clock outcome.1) }

/-- The product lookup and the assembly of the order from its answer. -/
def lookup (state : State) (index : Nat) (call : OrderCall) (uuid : String) (fault : Option DbError) : State :=
  let phase : CallPhase :=
    match ProductRepository.getProductsByIDs state.db (call.items.map (·.productID)) fault with
    | .error err => .releasing err
    | .ok products =>
      match OrderService.buildOrder call.userID uuid products call.items with
      | .error err => .releasing err
      | .ok new => .persisting new
  { state with calls := state.calls.set index { call with phase } }

def persist (state : State) (index : Nat) (call : OrderCall) (new : NewOrder) (orderID paymentID : Int)
    (faults : Faults DbError) : State :=
  let generated : Generated := ⟨orderID, paymentID, state.clock⟩
  let outcome := transact faults 0 (OrderRepository.createOrder generated new) state.db
  let phase : CallPhase :=
    match outcome.1 with
    | (_, some err) => .releasing err
    | (orderID, none) => .returned (.ok orderID)
  { state with db := outcome.2, calls := state.calls.set index { call with phase } }

/-- `release` ignores the error of the store; the call returns its own error. -/
def release (state : State) (index : Nat) (call : OrderCall) (err : AppError) (reply : RedisReply) : State :=
  let key := OrderService.idempotencyKey config.sha256 call.userID call.items
  { state with
    redis := state.redis.release key reply
    calls := state.calls.set index { call with phase := .returned (.error err) } }

def loadProduct (state : State) (productID : Int) (request : UpdateProductRequest)
    (fault : Option DbError) : State :=
  match ProductService.load state.db productID request fault with
  | .error _ => state
  | .ok loaded => { state with edits := state.edits ++ [.saving loaded] }

def saveProduct (state : State) (index : Nat) (loaded : LoadedProduct) (generated : Int)
    (faults : Faults DbError) : State :=
  { state with
    db := (transact faults () (ProductRepository.updateProduct generated loaded) state.db).2
    edits := state.edits.set index .returned }

def load (state : State) (index : Nat) (run : Fulfiller.Run) (fault : Option DbError) : State :=
  let loaded := OrderRepository.getPendingByOrderID state.db run.orderID fault
  { state with
    runs := state.runs.set index { run with phase := Fulfiller.afterLoad config.maxRetries loaded } }

def charge (state : State) (index : Nat) (run : Fulfiller.Run) (payment : Payment) (attempt : Nat)
    (draw : Draw) : State :=
  let request := Fulfiller.request payment
  let outcome := state.gateway.charge request draw
  { state with
    gateway := outcome.2
    requests := state.requests ++ [request]
    runs := state.runs.set index
      { run with phase := Fulfiller.afterAttempt config.maxRetries payment attempt outcome.1 } }

/-- The shared end of both finalizing calls. -/
def finalize (state : State) (index : Nat) (run : Fulfiller.Run) (payment : Payment)
    (target : PaymentStatus) (message : String) (outcome : (Bool × Option AppError) × Db) : State :=
  { state with
    db := outcome.2
    outcomes := state.outcomes ++ [⟨payment, target, outcome.1.1, outcome.1.2⟩]
    runs := state.runs.set index { run with phase := Fulfiller.afterFinalize message outcome.1 } }

def cancel (state : State) (index : Nat) (run : Fulfiller.Run) (payment : Payment) (scan : Scan)
    (faults : Faults DbError) : State :=
  finalize state index run payment .failed (Fulfiller.cancelledMessage run.orderID)
    (transact faults false (OrderRepository.failCancelAndRestock payment scan) state.db)

def confirm (state : State) (index : Nat) (run : Fulfiller.Run) (payment : Payment) (txnID : String)
    (faults : Faults DbError) : State :=
  finalize state index run payment .paid (Fulfiller.confirmedMessage run.orderID)
    (transact faults false (OrderRepository.markPaidAndConfirm payment txnID) state.db)

def notify (state : State) (index : Nat) (run : Fulfiller.Run) (message : String) : State :=
  { state with
    sent := state.sent ++ [(run.orderID, message)]
    runs := state.runs.set index { run with phase := .finished } }

/-- One action; `none` when the party it names does not stand at that point. -/
def step (state : State) : Action → Option State
  | .tick elapsed => some { state with clock := state.clock + elapsed }
  | .createUser user faults =>
    some { state with db := (transact faults () (UserRepository.createUser user) state.db).2 }
  | .createProduct product inventory faults =>
    some { state with
      db := (transact faults () (ProductRepository.createProduct product inventory) state.db).2 }
  | .loadProduct productID request fault => some (loadProduct state productID request fault)
  | .saveProduct index generated faults =>
    match state.edits[index]? with
    | some (.saving loaded) => some (saveProduct state index loaded generated faults)
    | _ => none
  | .submit userID items => some (submit state userID items)
  | .reserve index reply =>
    match state.calls[index]? with
    | some call => if call.phase matches .reserving then some (reserve config state index call reply) else none
    | none => none
  | .lookup index uuid fault =>
    match state.calls[index]? with
    | some call => if call.phase matches .lookingUp then some (lookup state index call uuid fault) else none
    | none => none
  | .persist index orderID paymentID faults =>
    match state.calls[index]? with
    | some call =>
      match call.phase with
      | .persisting new => some (persist state index call new orderID paymentID faults)
      | _ => none
    | none => none
  | .release index reply =>
    match state.calls[index]? with
    | some call =>
      match call.phase with
      | .releasing err => some (release config state index call err reply)
      | _ => none
    | none => none
  | .fulfill orderID => some { state with runs := state.runs ++ [⟨orderID, .loading⟩] }
  | .load index fault =>
    match state.runs[index]? with
    | some run => if run.phase = .loading then some (load config state index run fault) else none
    | none => none
  | .charge index draw =>
    match state.runs[index]? with
    | some run =>
      match run.phase with
      | .charging payment attempt => some (charge config state index run payment attempt draw)
      | _ => none
    | none => none
  | .cancel index scan faults =>
    match state.runs[index]? with
    | some run =>
      match run.phase with
      | .cancelling payment => some (cancel state index run payment scan faults)
      | _ => none
    | none => none
  | .confirm index faults =>
    match state.runs[index]? with
    | some run =>
      match run.phase with
      | .confirming payment txnID => some (confirm state index run payment txnID faults)
      | _ => none
    | none => none
  | .notify index =>
    match state.runs[index]? with
    | some run =>
      match run.phase with
      | .notifying message => some (notify state index run message)
      | _ => none
    | none => none

/-- What an enabled action does, and where the party it names stands. -/
inductive Stepped (state : State) : Action → State → Prop where
  | tick : Stepped state (.tick elapsed) { state with clock := state.clock + elapsed }
  | createUser : Stepped state (.createUser user faults)
      { state with db := (transact faults () (UserRepository.createUser user) state.db).2 }
  | createProduct : Stepped state (.createProduct product inventory faults)
      { state with db := (transact faults () (ProductRepository.createProduct product inventory) state.db).2 }
  | loadProduct : Stepped state (.loadProduct productID request fault) (loadProduct state productID request fault)
  | saveProduct (found : state.edits[index]? = some (.saving loaded)) :
      Stepped state (.saveProduct index generated faults) (saveProduct state index loaded generated faults)
  | submit : Stepped state (.submit userID items) (submit state userID items)
  | reserve (found : state.calls[index]? = some call) (phase : call.phase = .reserving) :
      Stepped state (.reserve index reply) (reserve config state index call reply)
  | lookup (found : state.calls[index]? = some call) (phase : call.phase = .lookingUp) :
      Stepped state (.lookup index uuid fault) (lookup state index call uuid fault)
  | persist (found : state.calls[index]? = some call) (phase : call.phase = .persisting new) :
      Stepped state (.persist index orderID paymentID faults)
        (persist state index call new orderID paymentID faults)
  | release (found : state.calls[index]? = some call) (phase : call.phase = .releasing err) :
      Stepped state (.release index reply) (release config state index call err reply)
  | fulfill : Stepped state (.fulfill orderID) { state with runs := state.runs ++ [⟨orderID, .loading⟩] }
  | load (found : state.runs[index]? = some worker) (phase : worker.phase = .loading) :
      Stepped state (.load index fault) (load config state index worker fault)
  | charge (found : state.runs[index]? = some worker) (phase : worker.phase = .charging payment attempt) :
      Stepped state (.charge index draw) (charge config state index worker payment attempt draw)
  | cancel (found : state.runs[index]? = some worker) (phase : worker.phase = .cancelling payment) :
      Stepped state (.cancel index scan faults) (cancel state index worker payment scan faults)
  | confirm (found : state.runs[index]? = some worker) (phase : worker.phase = .confirming payment txnID) :
      Stepped state (.confirm index faults) (confirm state index worker payment txnID faults)
  | notify (found : state.runs[index]? = some worker) (phase : worker.phase = .notifying message) :
      Stepped state (.notify index) (notify state index worker message)

theorem step_cases (moved : step config state action = some next) : Stepped config state action next := by
  cases action with
  | tick | createUser | createProduct | loadProduct | submit | fulfill =>
    cases moved
    constructor
  | saveProduct =>
    simp only [step] at moved
    split at moved
    · cases moved
      exact .saveProduct ‹_›
    · cases moved
  | reserve | lookup | persist | release | load | charge | cancel | confirm | notify =>
    simp only [step] at moved
    split at moved
    · split at moved
      · cases moved
        constructor <;> assumption
      · cases moved
    · cases moved

/-- The server right after its first migration: empty tables, nothing running. -/
def initial : State := {}

/-- A history of the backend: the actions of a run from the initial state. -/
def History (actions : List Action) (state : State) : Prop :=
  run (step config) initial actions = some state

end Backend

end OrderProcessing
