import OrderProcessing.Services.Fulfillment

/-! The retry loop of the fulfiller as one call: every attempt it makes, and how
it ends. The counter is a 64-bit integer and wraps. -/

namespace OrderProcessing.Fulfiller

/-- The largest and the smallest Go int. -/
def maxInt : Int := 9223372036854775807

def minInt : Int := -9223372036854775808

/-- `attempt++`. -/
def increment (attempt : Int) : Int := if attempt = maxInt then minInt else attempt + 1

/-- The shift in `backoff` is by `attempt - 1`, and a negative count panics. -/
def backoffPanics (attempt : Int) : Bool := attempt ≠ minInt ∧ attempt - 1 < 0

inductive ChargeExit where
  | returned (result : ChargeResult) (err : Option ChargeError)
  | panicked
  deriving DecidableEq, Repr

/-- The loop of `charge` with the calls it has made; the gateway answers the
calls in order. It ends long before the fuel does. -/
def chargeLoop (maxRetries : Int) (request : ChargeRequest) (answers : Nat → Except ChargeError ChargeResult) :
    Nat → Int → List ChargeRequest → Option ChargeError → Option (List ChargeRequest × ChargeExit)
  | 0, _, _, _ => none
  | fuel + 1, attempt, calls, lastErr =>
    if attempt ≤ maxRetries then
      match answers calls.length with
      | .ok result => some (calls ++ [request], .returned result none)
      | .error err =>
        if attempt < maxRetries ∧ backoffPanics attempt then some (calls ++ [request], .panicked)
        else chargeLoop maxRetries request answers fuel (increment attempt) (calls ++ [request]) (some err)
    else some (calls, .returned ⟨""⟩ lastErr)

def charge (maxRetries : Int) (payment : Payment) (answers : Nat → Except ChargeError ChargeResult) :
    Option (List ChargeRequest × ChargeExit) :=
  chargeLoop maxRetries (request payment) answers (maxInt.toNat + 3) 1 [] none

/-- How `Fulfill` goes on after `charge`. -/
def afterCharge (payment : Payment) : ChargeExit → Option Phase
  | .returned result none => some (.confirming payment result.transactionID)
  | .returned _ (some _) => some (.cancelling payment)
  | .panicked => none

def Accepted (answers : Nat → Except ChargeError ChargeResult) (call : Nat) : Prop :=
  ∃ result, answers call = .ok result

/-- The first accepting answer. -/
structure FirstAccepted (answers : Nat → Except ChargeError ChargeResult) (call : Nat) (result : ChargeResult) :
    Prop where
  accepts : answers call = .ok result
  earlier : ∀ other < call, ¬ Accepted answers other

/-- `charge` returns, without an error iff a call of its own was accepted, and
then with that call's result. It makes as many calls as it takes to get one
accepted, at most `maxRetries`, all alike; `Fulfill` confirms only after one. -/
structure Truthful (maxRetries : Int) (payment : Payment) (answers : Nat → Except ChargeError ChargeResult)
    (calls : List ChargeRequest) (result : ChargeResult) (err : Option ChargeError) : Prop where
  returns : charge maxRetries payment answers = some (calls, .returned result err)
  accepted : err = none ↔ ∃ call < calls.length, Accepted answers call
  exact : ∀ call < calls.length, ∀ answer, answers call = .ok answer → result = answer
  alike : ∀ call ∈ calls, call = request payment
  first : ∀ call answer, FirstAccepted answers call answer → calls.length = min (call + 1) maxRetries.toNat
  never : (∀ call, ¬ Accepted answers call) → calls.length = maxRetries.toNat
  confirms : ∀ txnID, afterCharge payment (.returned result err) = some (.confirming payment txnID) →
    ∃ call < calls.length, Accepted answers call

variable {maxRetries : Int} {request : ChargeRequest} {payment : Payment}
  {answers : Nat → Except ChargeError ChargeResult}

/-- The error of the last of so many calls. -/
def lastError (answers : Nat → Except ChargeError ChargeResult) : Nat → Option ChargeError
  | 0 => none
  | calls + 1 =>
    match answers calls with
    | .ok _ => none
    | .error err => some err

/-- The counter after so many increments. -/
def attemptAfter (calls : Nat) : Int := if calls = maxInt.toNat then minInt else calls + 1

theorem maxInt_pos : 0 < maxInt := by decide

theorem attemptAfter_below {calls : Nat} (within : (calls : Int) < maxInt) : attemptAfter calls = calls + 1 := by
  unfold attemptAfter
  rw [if_neg (by omega)]

theorem attemptAfter_last : attemptAfter maxInt.toNat = minInt := by
  unfold attemptAfter
  rw [if_pos rfl]

theorem increment_attemptAfter {calls : Nat} (within : (calls : Int) < maxInt) :
    increment (attemptAfter calls) = attemptAfter (calls + 1) := by
  rw [attemptAfter_below within, increment]
  by_cases last : (calls : Int) + 1 = maxInt
  · rw [if_pos last, show calls + 1 = maxInt.toNat by omega, attemptAfter_last]
  · rw [if_neg last, attemptAfter_below (by push_cast; omega)]
    push_cast
    rfl

/-- As long as nothing is accepted, the loop goes on up to its bound. -/
theorem chargeLoop_skip {calls : Nat} (refused : ∀ call < calls, ¬ Accepted answers call)
    (bound : (calls : Int) ≤ maxRetries) (ranged : maxRetries ≤ maxInt) (fuel : Nat) :
    chargeLoop maxRetries request answers (fuel + calls) 1 [] none =
      chargeLoop maxRetries request answers fuel (attemptAfter calls) (List.replicate calls request)
        (lastError answers calls) := by
  induction calls generalizing fuel with
  | zero =>
    rw [attemptAfter_below (by simpa using maxInt_pos)]
    rfl
  | succ calls ih =>
    have within : (calls : Int) < maxInt := by omega
    have before := ih (fun call below => refused call (by omega)) (by omega) (fuel + 1)
    rw [show fuel + (calls + 1) = fuel + 1 + calls by omega, before, chargeLoop, List.length_replicate]
    have counter := attemptAfter_below within
    have continued : ¬ (attemptAfter calls < maxRetries ∧ backoffPanics (attemptAfter calls)) := by
      rintro ⟨_, panics⟩
      rw [counter] at panics
      simp only [backoffPanics, decide_eq_true_eq] at panics
      omega
    rw [if_pos (by rw [counter]; push_cast at bound; omega)]
    cases answer : answers calls with
    | ok result => exact absurd ⟨result, answer⟩ (refused calls (by omega))
    | error err =>
      simp only [continued, if_false, increment_attemptAfter within, lastError, answer, List.replicate_succ']

/-- The loop stops at the first accepting answer within its bound. -/
theorem charge_accepted (first : FirstAccepted answers call result) (bound : (call : Int) < maxRetries)
    (ranged : maxRetries ≤ maxInt) :
    charge maxRetries payment answers =
      some (List.replicate (call + 1) (Fulfiller.request payment), .returned result none) := by
  have counter := attemptAfter_below (bound.trans_le ranged)
  rw [charge, show maxInt.toNat + 3 = maxInt.toNat - call + 2 + 1 + call by omega,
    chargeLoop_skip first.earlier bound.le ranged, chargeLoop, counter, if_pos (by omega), List.length_replicate,
    first.accepts, List.replicate_succ']

/-- Without one it makes all its calls and returns the last error. -/
theorem charge_exhausted (refused : ∀ call < maxRetries.toNat, ¬ Accepted answers call) (attempts : 1 ≤ maxRetries)
    (ranged : maxRetries < maxInt) : ∃ err, charge maxRetries payment answers =
      some (List.replicate maxRetries.toNat (Fulfiller.request payment), .returned ⟨""⟩ (some err)) := by
  have counter : attemptAfter maxRetries.toNat = maxRetries + 1 := by
    rw [attemptAfter_below (by omega)]
    omega
  rw [charge, show maxInt.toNat + 3 = maxInt.toNat - maxRetries.toNat + 2 + 1 + maxRetries.toNat by omega,
    chargeLoop_skip refused (by omega) ranged.le, chargeLoop, counter, if_neg (by omega)]
  obtain ⟨calls, last⟩ : ∃ calls, maxRetries.toNat = calls + 1 := ⟨maxRetries.toNat - 1, by omega⟩
  rw [last, lastError]
  cases answer : answers calls with
  | ok result => exact absurd ⟨result, answer⟩ (refused calls (by omega))
  | error err => exact ⟨err, rfl⟩

/-- A bound below one lets the loop return the zero result without an error. -/
theorem charge_unattempted (none : maxRetries < 1) :
    charge maxRetries payment answers = some ([], .returned ⟨""⟩ .none) := by
  rw [charge, chargeLoop, if_neg (by omega)]

theorem chargeLoop_length (done : chargeLoop maxRetries request answers fuel attempt calls lastErr = some (made, exit)) :
    calls.length ≤ made.length ∧ (attempt ≤ maxRetries → calls.length < made.length) := by
  induction fuel generalizing attempt calls lastErr with
  | zero => cases done
  | succ fuel ih =>
    rw [chargeLoop] at done
    split at done
    · split at done
      · cases done
        simp
      · split at done
        · cases done
          simp
        · obtain ⟨more, _⟩ := ih done
          simp only [List.length_append, List.length_cons, List.length_nil] at more
          exact ⟨by omega, fun _ => by omega⟩
    · rename_i stopped
      cases done
      exact ⟨le_refl _, fun within => absurd within stopped⟩

/-- With the largest bound the counter wraps, and the loop makes more calls. -/
theorem charge_wraps (refused : ∀ call < maxInt.toNat, ¬ Accepted answers call)
    (done : charge maxInt payment answers = some (made, exit)) : maxInt.toNat < made.length := by
  rw [charge, show maxInt.toNat + 3 = 3 + maxInt.toNat by omega,
    chargeLoop_skip refused (by have := maxInt_pos; omega) le_rfl, attemptAfter_last] at done
  have more := (chargeLoop_length done).2 (by decide)
  rwa [List.length_replicate] at more

theorem first_accepted (accepted : Accepted answers call) :
    ∃ first ≤ call, ∃ result, FirstAccepted answers first result := by
  classical
  obtain ⟨result, answer⟩ := Nat.find_spec ⟨call, accepted⟩
  exact ⟨Nat.find ⟨call, accepted⟩, Nat.find_le accepted, result, answer, fun other => Nat.find_min ⟨call, accepted⟩⟩

theorem Truthful.calls_le (truthful : Truthful maxRetries payment answers calls result err) :
    calls.length ≤ maxRetries.toNat := by
  by_cases accepted : ∃ call, Accepted answers call
  · obtain ⟨call, accepts⟩ := accepted
    obtain ⟨call, _, answer, first⟩ := first_accepted accepts
    exact (truthful.first call answer first).trans_le (min_le_right _ _)
  · exact (truthful.never (not_exists.mp accepted)).le

/-- A call that was accepted in time makes `charge` return its result. -/
theorem truthful_accepted (first : FirstAccepted answers call result) (bound : (call : Int) < maxRetries)
    (ranged : maxRetries ≤ maxInt) :
    Truthful maxRetries payment answers (List.replicate (call + 1) (Fulfiller.request payment)) result none where
  returns := charge_accepted first bound ranged
  accepted := by
    rw [List.length_replicate]
    exact ⟨fun _ => ⟨call, by omega, result, first.accepts⟩, fun _ => rfl⟩
  exact other below answer accepts := by
    rw [List.length_replicate] at below
    obtain rfl | earlier : other = call ∨ other < call := by omega
    · exact Except.ok.inj (first.accepts.symm.trans accepts)
    · exact absurd ⟨answer, accepts⟩ (first.earlier other earlier)
  alike other member := List.eq_of_mem_replicate member
  first other answer alsoFirst := by
    have same : other = call := by
      rcases lt_trichotomy other call with before | same | after
      · exact absurd ⟨answer, alsoFirst.accepts⟩ (first.earlier other before)
      · exact same
      · exact absurd ⟨result, first.accepts⟩ (alsoFirst.earlier call after)
    rw [List.length_replicate, same]
    omega
  never refused := absurd ⟨result, first.accepts⟩ (refused call)
  confirms _ _ := ⟨call, by simp, result, first.accepts⟩

/-- Without one, it returns the last error after all its calls. -/
theorem truthful_exhausted (refused : ∀ call < maxRetries.toNat, ¬ Accepted answers call) (attempts : 1 ≤ maxRetries)
    (ranged : maxRetries < maxInt) : ∃ err, Truthful maxRetries payment answers
      (List.replicate maxRetries.toNat (Fulfiller.request payment)) ⟨""⟩ (some err) := by
  obtain ⟨err, returns⟩ := charge_exhausted refused attempts ranged
  refine ⟨err, returns, ?_, ?_, fun call member => List.eq_of_mem_replicate member, ?_, fun _ => List.length_replicate,
    fun txnID confirms => by cases confirms⟩
  · rw [List.length_replicate]
    exact ⟨nofun, fun ⟨call, below, accepts⟩ => absurd accepts (refused call below)⟩
  · rw [List.length_replicate]
    exact fun call below answer accepts => absurd ⟨answer, accepts⟩ (refused call below)
  · intro call answer first
    have late : ¬ call < maxRetries.toNat := fun below => refused call below ⟨answer, first.accepts⟩
    rw [List.length_replicate]
    omega

/-- The retry loop tells the truth exactly for a positive bound; with the largest
integer as its bound, only when some answer ends it before its counter wraps. -/
theorem charge_truthful_iff (maxRetries : Int) (ranged : minInt ≤ maxRetries ∧ maxRetries ≤ maxInt) (payment : Payment)
    (answers : Nat → Except ChargeError ChargeResult) :
    (∃ calls result err, Truthful maxRetries payment answers calls result err) ↔
      1 ≤ maxRetries ∧ (maxRetries < maxInt ∨ ∃ call < maxInt.toNat, ∃ result, answers call = .ok result) := by
  constructor
  · rintro ⟨calls, result, err, truthful⟩
    refine ⟨?_, ?_⟩
    · by_contra unattempted
      have returned := truthful.returns
      rw [charge_unattempted (by omega)] at returned
      cases returned
      obtain ⟨call, below, _⟩ := truthful.accepted.mp rfl
      exact absurd below (Nat.not_lt_zero call)
    · by_contra neither
      obtain ⟨large, refused⟩ := not_or.mp neither
      obtain rfl : maxRetries = maxInt := by omega
      have wrapped := charge_wraps (fun call below accepts => refused ⟨call, below, accepts⟩) truthful.returns
      exact absurd truthful.calls_le (by omega)
  · rintro ⟨attempts, ends⟩
    by_cases accepted : ∃ call < maxRetries.toNat, Accepted answers call
    · obtain ⟨call, below, accepts⟩ := accepted
      obtain ⟨call, earlier, result, first⟩ := first_accepted accepts
      exact ⟨_, result, none, truthful_accepted first (by omega) ranged.2⟩
    · have refused : ∀ call < maxRetries.toNat, ¬ Accepted answers call :=
        fun call below accepts => accepted ⟨call, below, accepts⟩
      have small : maxRetries < maxInt := by
        rcases ends with small | ⟨call, below, accepts⟩
        · exact small
        · by_contra large
          exact refused call (by omega) accepts
      obtain ⟨err, truthful⟩ := truthful_exhausted refused attempts small
      exact ⟨_, _, some err, truthful⟩

/-- Two failures and an acceptance, within a bound of three. -/
theorem charge_truthful_third_attempt :
    let payment : Payment := ⟨1, 1, "key", .pending, 500, none, 0⟩
    let answers : Nat → Except ChargeError ChargeResult := fun call =>
      if call < 2 then .error (.transientFailure 1) else .ok ⟨"txn_a"⟩
    ∃ calls result err, Truthful 3 payment answers calls result err :=
  (charge_truthful_iff 3 (by decide) ⟨1, 1, "key", .pending, 500, none, 0⟩ _).mpr ⟨by decide, .inl (by decide)⟩

/-- With `WORKER_MAX_RETRIES=0` no call is made, yet no error is returned and the
order is confirmed, whatever the gateway would have answered. -/
theorem unattempted_charge_confirms :
    let payment : Payment := ⟨1, 1, "key", .pending, 500, none, 0⟩
    let answers : Nat → Except ChargeError ChargeResult := fun _ => .error (.transientFailure 1)
    charge 0 payment answers = some ([], .returned ⟨""⟩ none) ∧
      afterCharge payment (.returned ⟨""⟩ none) = some (.confirming payment "") ∧
      ¬ ∃ calls result err, Truthful 0 payment answers calls result err := by
  refine ⟨charge_unattempted (by decide), rfl, ?_⟩
  rintro ⟨calls, result, err, truthful⟩
  have returned := truthful.returns
  rw [charge_unattempted (by decide)] at returned
  cases returned
  obtain ⟨call, below, _⟩ := truthful.accepted.mp rfl
  exact absurd below (Nat.not_lt_zero call)

/-- The attempts of one run of `Fulfill` as its phases go through them. -/
def attempts (maxRetries : Int) (answers : Nat → Except ChargeError ChargeResult) : Nat → Nat → Phase → Phase
  | made, more + 1, .charging payment attempt =>
    attempts maxRetries answers (made + 1) more (afterAttempt maxRetries payment attempt (answers made))
  | _, _, phase => phase

theorem chargeLoop_attempts (below : maxRetries < maxInt) {attempt : Nat} (counted : 1 ≤ attempt)
    (done : chargeLoop maxRetries (Fulfiller.request payment) answers fuel attempt calls lastErr = some (made, exit)) :
    ∃ more, made.length = calls.length + more ∧
      afterCharge payment exit =
        some (attempts maxRetries answers calls.length more (loopHead maxRetries payment attempt lastErr)) := by
  induction fuel generalizing attempt calls lastErr with
  | zero => cases done
  | succ fuel ih =>
    rw [chargeLoop] at done
    by_cases within : (attempt : Int) ≤ maxRetries
    · rw [if_pos within] at done
      simp only [loopHead, within, if_true]
      cases answer : answers calls.length with
      | ok result =>
        simp only [answer] at done
        cases done
        exact ⟨1, by simp, by simp [attempts, answer, afterAttempt, afterCharge]⟩
      | error err =>
        have quiet : ¬ ((attempt : Int) < maxRetries ∧ backoffPanics attempt) := by
          rintro ⟨_, panics⟩
          simp only [backoffPanics, decide_eq_true_eq] at panics
          omega
        have next : increment (attempt : Int) = ((attempt + 1 : Nat) : Int) := by
          rw [increment, if_neg (by omega)]
          rfl
        simp only [answer, quiet, if_false, next] at done
        obtain ⟨more, count, follows⟩ := ih (by omega) done
        refine ⟨more + 1, ?_, ?_⟩
        · simp only [count, List.length_append, List.length_cons, List.length_nil]
          omega
        · rw [follows]
          simp [attempts, answer, afterAttempt]
    · rw [if_neg within] at done
      cases done
      simp only [loopHead, within, if_false]
      refine ⟨0, rfl, ?_⟩
      cases lastErr <;> rfl

/-- The phases that the interleaved machine steps through are the loop's: after
as many attempts as `charge` makes calls, the run stands where `charge` leaves it. -/
theorem charge_attempts (below : maxRetries < maxInt)
    (done : charge maxRetries payment answers = some (made, exit)) :
    afterCharge payment exit =
      some (attempts maxRetries answers 0 made.length (loopHead maxRetries payment 1 none)) := by
  obtain ⟨more, count, follows⟩ := chargeLoop_attempts below (le_refl 1) done
  rw [count, List.length_nil, Nat.zero_add]
  exact follows

end OrderProcessing.Fulfiller
