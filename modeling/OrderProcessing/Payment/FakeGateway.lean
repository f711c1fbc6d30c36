import Mathlib.Data.List.Nodup
import OrderProcessing.Models

/-! The payment gateway. An accepted key is remembered and replayed; every
attempt, also a replay, may run into its deadline before the gateway answers. -/

namespace OrderProcessing

structure ChargeRequest where
  idempotencyKey : String
  orderID : Int
  amount : Int
  deriving DecidableEq, Repr

structure ChargeResult where
  transactionID : String
  deriving DecidableEq, Repr

inductive ChargeError where
  | contextDone
  | transientFailure (orderID : Int)
  deriving DecidableEq, Repr

/-- An accepted charge: the map entry under its key, with the request it answered. -/
structure Charged where
  request : ChargeRequest
  result : ChargeResult
  deriving DecidableEq, Repr

structure FakeGateway where
  charged : List Charged := []
  deriving DecidableEq, Repr

/-- What the environment decides during one attempt: whether the deadline
passes first, the random draw against the failure rate, and the fresh id. -/
inductive Draw where
  | deadline
  | latency (fails : Bool) (uuid : String)
  deriving DecidableEq, Repr

namespace FakeGateway

/-- The recorded result for a key. -/
def recorded (gateway : FakeGateway) (key : String) : Option ChargeResult :=
  (gateway.charged.find? fun charge => charge.request.idempotencyKey = key).map (·.result)

def charge (gateway : FakeGateway) (request : ChargeRequest) :
    Draw → Except ChargeError ChargeResult × FakeGateway
  | .deadline => (.error .contextDone, gateway)
  | .latency fails uuid =>
    match gateway.recorded request.idempotencyKey with
    | some result => (.ok result, gateway)
    | none =>
      if fails then (.error (.transientFailure request.orderID), gateway)
      else
        let result : ChargeResult := ⟨"txn_" ++ uuid⟩
        (.ok result, { gateway with charged := gateway.charged ++ [⟨request, result⟩] })

/-- An attempt fails and changes nothing, replays the recorded result, or
records a first charge for the key. -/
theorem charge_cases (gateway : FakeGateway) (request : ChargeRequest) (draw : Draw) :
    (∃ err, gateway.charge request draw = (.error err, gateway)) ∨
      (∃ result, gateway.recorded request.idempotencyKey = some result ∧
        gateway.charge request draw = (.ok result, gateway)) ∨
      ∃ uuid, draw = .latency false uuid ∧ gateway.recorded request.idempotencyKey = none ∧
        gateway.charge request draw =
          (.ok ⟨"txn_" ++ uuid⟩, ⟨gateway.charged ++ [⟨request, ⟨"txn_" ++ uuid⟩⟩]⟩) := by
  cases draw with
  | deadline => exact .inl ⟨_, rfl⟩
  | latency fails uuid =>
    cases known : gateway.recorded request.idempotencyKey with
    | some result => exact .inr (.inl ⟨result, rfl, by simp [charge, known]⟩)
    | none =>
      cases fails with
      | true => exact .inl ⟨.transientFailure request.orderID, by simp [charge, known]⟩
      | false => exact .inr (.inr ⟨uuid, rfl, rfl, by simp [charge, known]⟩)

theorem recorded_none {gateway : FakeGateway} : gateway.recorded key = none ↔
    ∀ charge ∈ gateway.charged, charge.request.idempotencyKey ≠ key := by
  simp [recorded]

theorem recorded_append (gateway : FakeGateway) (charge : Charged) (key : String) :
    (FakeGateway.mk (gateway.charged ++ [charge])).recorded key =
      (gateway.recorded key).or
        (if charge.request.idempotencyKey = key then some charge.result else none) := by
  simp only [recorded, List.find?_append, List.find?_singleton, Option.map_or]
  by_cases same : charge.request.idempotencyKey = key <;> simp [same]

/-- The caller of an accepted attempt holds the result recorded for its key. -/
theorem charge_recorded {gateway : FakeGateway} (accepted : gateway.charge request draw = (.ok result, after)) :
    after.recorded request.idempotencyKey = some result := by
  rcases gateway.charge_cases request draw with ⟨_, same⟩ | ⟨_, known, same⟩ | ⟨_, _, fresh, added⟩
  · rw [same] at accepted; cases accepted
  · rw [same] at accepted; cases accepted; exact known
  · rw [added] at accepted
    cases accepted
    rw [recorded_append, fresh]
    simp

end FakeGateway

end OrderProcessing
