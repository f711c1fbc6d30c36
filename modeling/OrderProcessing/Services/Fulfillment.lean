import OrderProcessing.Payment.FakeGateway
import OrderProcessing.Repository.Order

/-! The fulfiller as a machine of one run of `Fulfill`: load, the bounded charge
loop, and the transaction that records the outcome. Each call to a store or to
the gateway is one step, so that runs can be interleaved between them. -/

namespace OrderProcessing

namespace Fulfiller

/-- Where a run of `Fulfill` stands. -/
inductive Phase where
  | loading
  | charging (payment : Payment) (attempt : Nat)
  | cancelling (payment : Payment)
  | confirming (payment : Payment) (txnID : String)
  | notifying (message : String)
  | finished
  deriving DecidableEq, Repr

/-- The payment a run holds in its local state. -/
def Phase.payment? : Phase → Option Payment
  | .charging payment _ => some payment
  | .cancelling payment => some payment
  | .confirming payment _ => some payment
  | _ => none

structure Run where
  orderID : Int
  phase : Phase
  deriving DecidableEq, Repr

def request (payment : Payment) : ChargeRequest :=
  ⟨payment.idempotencyKey, payment.orderID, payment.amount⟩

/-- The head of the retry loop: another attempt, or the exit with the last
error. Without an attempt there is no last error, and the zero result is
returned as a success. -/
def loopHead (maxRetries : Int) (payment : Payment) (attempt : Nat) (lastErr : Option ChargeError) : Phase :=
  if (attempt : Int) ≤ maxRetries then .charging payment attempt
  else
    match lastErr with
    | none => .confirming payment ""
    | some _ => .cancelling payment

def afterLoad (maxRetries : Int) : Except AppError Payment → Phase
  | .error _ => .finished
  | .ok payment => loopHead maxRetries payment 1 none

def afterAttempt (maxRetries : Int) (payment : Payment) (attempt : Nat) :
    Except ChargeError ChargeResult → Phase
  | .ok result => .confirming payment result.transactionID
  | .error err => loopHead maxRetries payment (attempt + 1) (some err)

def cancelledMessage (orderID : Int) : String :=
  "Order #" ++ toString orderID ++ " was cancelled: payment could not be processed."

def confirmedMessage (orderID : Int) : String :=
  "Order #" ++ toString orderID ++ " is confirmed. Payment received."

/-- A notification follows only the call that performed the transition. -/
def afterFinalize (message : String) (outcome : Bool × Option AppError) : Phase :=
  match outcome with
  | (_, some _) => .finished
  | (true, none) => .notifying message
  | (false, none) => .finished

theorem loopHead_payment : (loopHead maxRetries payment attempt lastErr).payment? = some payment := by
  unfold loopHead
  split
  · rfl
  · split <;> rfl

theorem afterAttempt_payment : (afterAttempt maxRetries payment attempt outcome).payment? = some payment := by
  unfold afterAttempt
  split
  · rfl
  · exact loopHead_payment

theorem afterFinalize_payment : (afterFinalize message outcome).payment? = none := by
  unfold afterFinalize
  split <;> rfl

theorem afterFinalize_confirming : afterFinalize message outcome ≠ .confirming payment txnID := by
  unfold afterFinalize
  split <;> simp

/-- With at least one attempt, loading a payment never leads straight to its
confirmation. -/
theorem afterLoad_confirming (attempts : 1 ≤ maxRetries) :
    afterLoad maxRetries loaded ≠ .confirming payment txnID := by
  cases loaded with
  | error err => simp [afterLoad]
  | ok row => simp [afterLoad, loopHead, attempts]

/-- An attempt leads to a confirmation only when the gateway accepted it. -/
theorem afterAttempt_confirming
    (exit : afterAttempt maxRetries payment attempt outcome = .confirming held txnID) :
    held = payment ∧ ∃ result, outcome = .ok result ∧ result.transactionID = txnID := by
  cases outcome with
  | ok result =>
    cases exit
    exact ⟨rfl, result, rfl, rfl⟩
  | error err =>
    simp only [afterAttempt, loopHead] at exit
    split at exit <;> cases exit

end Fulfiller

end OrderProcessing
