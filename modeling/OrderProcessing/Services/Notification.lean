import Mathlib.Data.List.Sort
import OrderProcessing.Repository.Database
import OrderProcessing.Ws.Hub

/-! The table of notifications, and the service that stores one, has it pushed
and marks what became of it. -/

namespace OrderProcessing

inductive NotificationStatus where
  | pending
  | sent
  | failed
  deriving DecidableEq, Repr

structure Notification where
  id : Int
  orderID : Int
  message : String
  status : NotificationStatus
  sentAt : Option Nat := none
  deriving DecidableEq, Repr

/-- `NewNotificationEvent`. Its JSON is a function of the event. -/
def NotificationEvent.new (note : Notification) : NotificationEvent := ⟨note.id, note.orderID, note.message⟩

namespace NotificationRepository

def create (db : Db) (rows : List Notification) (note : Notification) (fault : Option DbError) :
    Except DbError (List Notification) :=
  match fault with
  | some err => .error err
  | none =>
    if rows.any fun row => row.id = note.id then .error .duplicatedKey
    else if (db.order? note.orderID).isNone then .error .foreignKeyViolated
    else .ok (rows ++ [note])

/-- An UPDATE by id. -/
def update (rows : List Notification) (id : Int) (change : Notification → Notification) (fault : Option DbError) :
    Except DbError (List Notification) :=
  match fault with
  | some err => .error err
  | none => .ok (rows.map fun row => if row.id = id then change row else row)

def markSent (rows : List Notification) (now : Nat) (id : Int) (fault : Option DbError) :
    Except DbError (List Notification) :=
  update rows id (fun row => { row with status := .sent, sentAt := some now }) fault

def markFailed (rows : List Notification) (id : Int) (fault : Option DbError) : Except DbError (List Notification) :=
  update rows id (fun row => { row with status := .failed }) fault

def listByOrder (rows : List Notification) (orderID : Int) (fault : Option DbError) :
    Except DbError (List Notification) :=
  match fault with
  | some err => .error err
  | none => .ok ((rows.filter fun row => row.orderID = orderID).insertionSort fun first second => first.id ≤ second.id)

end NotificationRepository

/-- Where a call of `Send` stands: before `Create`, at the first select of
`Hub.Notify`, at its second one without and with an answer of the hub, and before
the row is marked. -/
inductive SendPhase where
  | creating (orderID : Int) (message : String)
  | notifying (note : Notification)
  | awaiting (note : Notification)
  | answered (note : Notification) (delivered : Bool)
  | marking (note : Notification) (delivered : Bool)
  deriving DecidableEq, Repr

/-- The row of the call, once it is created. -/
def SendPhase.note? : SendPhase → Option Notification
  | .creating _ _ => none
  | .notifying note | .awaiting note | .answered note _ | .marking note _ => some note

namespace NotificationService

/-- `Create` and what follows: an error is logged and ends the call. -/
def create (db : Db) (rows : List Notification) (id orderID : Int) (message : String) (fault : Option DbError) :
    Option SendPhase × List Notification :=
  let note : Notification := { id, orderID, message, status := .pending }
  match NotificationRepository.create db rows note fault with
  | .error _ => (none, rows)
  | .ok rows => (some (.notifying note), rows)

/-- The call of `MarkSent` or `MarkFailed`, whose error is logged. -/
def mark (rows : List Notification) (now : Nat) (note : Notification) (delivered : Bool) (fault : Option DbError) :
    List Notification :=
  let result :=
    if delivered then NotificationRepository.markSent rows now note.id fault
    else NotificationRepository.markFailed rows note.id fault
  match result with
  | .error _ => rows
  | .ok rows => rows

/-- A call that goes on has a new pending row in the table. -/
theorem create_cases {id : Int} (outcome : create db rows id orderID message fault = (send, table)) :
    (send = none ∧ table = rows) ∨
      (send = some (.notifying ⟨id, orderID, message, .pending, none⟩) ∧
        table = rows ++ [⟨id, orderID, message, .pending, none⟩] ∧ ∀ row ∈ rows, row.id ≠ id) := by
  cases fault with
  | some err =>
    cases outcome
    exact .inl ⟨rfl, rfl⟩
  | none =>
    simp only [create, NotificationRepository.create] at outcome
    split at outcome
    · cases outcome
      exact .inl ⟨rfl, rfl⟩
    · rename_i stored
      split at stored
      · cases stored
      · split at stored
        · cases stored
        · rename_i free _
          cases stored
          cases outcome
          exact .inr ⟨rfl, rfl, by simpa using free⟩

/-- Marking writes one row, and only its status and its time. -/
theorem mark_cases (rows : List Notification) (now : Nat) (note : Notification) (delivered : Bool)
    (fault : Option DbError) :
    mark rows now note delivered fault = rows ∨
      ∃ time : Notification → Option Nat, mark rows now note delivered fault = rows.map fun row =>
        if row.id = note.id then
          { row with status := if delivered then .sent else .failed, sentAt := time row }
        else row := by
  cases fault with
  | some err => exact .inl (by cases delivered <;> rfl)
  | none =>
    cases delivered with
    | true => exact .inr ⟨fun _ => some now, rfl⟩
    | false => exact .inr ⟨(·.sentAt), rfl⟩

end NotificationService

end OrderProcessing
