import Mathlib.Algebra.Order.BigOperators.Group.List
import Mathlib.Algebra.Order.Group.Nat
import OrderProcessing.Backend
import OrderProcessing.Server.Shutdown

/-! One round of the sweeper: `reclaim` reads the ids of the orders that have been
pending for too long and hands them to the pool, and the workers carry out
`Fulfill` for each of them. Nothing else happens meanwhile. A round ends after a
bounded number of steps with an empty queue and all workers waiting, whatever the
gateway and the database do. -/

namespace OrderProcessing

open Library

structure WorkerConfig where
  count : Int
  queueSize : Nat
  staleAfter : Int
  sweepBatchSize : Int

/-- The size of a batch; a setting that is not positive falls back to that of the queue. -/
def WorkerConfig.batch (settings : WorkerConfig) : Int :=
  if settings.sweepBatchSize ≤ 0 then settings.queueSize else settings.sweepBatchSize

/-- The ids that the sweeper has yet to hand over. -/
def Sweeper.left : Sweeper → List Int
  | .enqueueing orderIDs => orderIDs
  | _ => []

structure Sweep where
  backend : Backend.State
  pool : Pool
  sweeper : Sweeper := .listing
  /-- The run of `Fulfill` that each worker carries out. -/
  jobs : List (Option Nat)
  /-- The calls of `Process` that have returned. -/
  calls : List ProcessResult := []

namespace Sweep

inductive Action where
  | reclaim (scan : OrderRepository.PaymentScan) (fault : Option DbError)
  | enqueue (choice : ProcessCase)
  | work (worker : Nat)
  | begin (worker : Nat)
  | proceed (worker : Nat) (action : Backend.Action)
  | fulfilled (worker : Nat)

/-- The action is a step of this run of `Fulfill`. -/
def advances (place : Nat) : Backend.Action → Bool
  | .load index _ | .charge index _ | .cancel index _ _ | .confirm index _ | .notify index => index = place
  | _ => false

/-- The pool is idle when the round begins. -/
def start (settings : WorkerConfig) (state : Backend.State) : Sweep :=
  { backend := state
    pool := Pool.start settings.count settings.queueSize
    jobs := List.replicate settings.count.toNat none }

variable (config : Config) (settings : WorkerConfig) (now : Int)

def step (sweep : Sweep) : Action → Option Sweep
  | .reclaim scan fault =>
    if sweep.sweeper = .listing then
      match OrderRepository.listStalePending sweep.backend.db now settings.staleAfter settings.batch scan fault with
      | .error _ => some { sweep with sweeper := .enqueueing [] }
      | .ok orderIDs => some { sweep with sweeper := .enqueueing orderIDs }
    else none
  | .enqueue choice =>
    match sweep.sweeper with
    | .enqueueing (orderID :: rest) =>
      (sweep.pool.process orderID choice).map fun (result, pool) =>
        { sweep with pool, sweeper := .enqueueing rest, calls := sweep.calls ++ [result] }
    | _ => none
  | .work worker => (sweep.pool.work worker).map fun pool => { sweep with pool }
  | .begin worker =>
    match sweep.pool.workers[worker]?, sweep.jobs[worker]? with
    | some (.fulfilling orderID), some none =>
      (Backend.step config sweep.backend (.fulfill orderID)).map fun backend =>
        { sweep with backend, jobs := sweep.jobs.set worker (some sweep.backend.runs.length) }
    | _, _ => none
  | .proceed worker action =>
    match sweep.jobs[worker]? with
    | some (some run) =>
      if advances run action then
        (Backend.step config sweep.backend action).map fun backend => { sweep with backend }
      else none
    | _ => none
  | .fulfilled worker =>
    match sweep.jobs[worker]? with
    | some (some run) =>
      if (sweep.backend.runs[run]?).any fun run => run.phase = .finished then
        (sweep.pool.fulfilled worker).map fun pool => { sweep with pool, jobs := sweep.jobs.set worker none }
      else none
    | _ => none

/-- All ids are handed over, the queue is empty and every worker waits at it. -/
def drained (sweep : Sweep) : Bool :=
  sweep.sweeper = .enqueueing [] && sweep.pool.jobs.buffer.isEmpty && sweep.pool.workers.all fun worker => worker = .idle

/-- What an enabled action does, and where the party it names stands. -/
inductive Stepped (sweep : Sweep) : Action → Sweep → Prop where
  | reclaim (waiting : sweep.sweeper = .listing)
      (answer : OrderRepository.listStalePending sweep.backend.db now settings.staleAfter settings.batch scan fault =
        .ok orderIDs) : Stepped sweep (.reclaim scan fault) { sweep with sweeper := .enqueueing orderIDs }
  | failed (waiting : sweep.sweeper = .listing)
      (answer : OrderRepository.listStalePending sweep.backend.db now settings.staleAfter settings.batch scan fault =
        .error err) : Stepped sweep (.reclaim scan fault) { sweep with sweeper := .enqueueing [] }
  | enqueue (upcoming : sweep.sweeper = .enqueueing (orderID :: rest))
      (done : sweep.pool.process orderID choice = some (result, after)) :
      Stepped sweep (.enqueue choice)
        { sweep with pool := after, sweeper := .enqueueing rest, calls := sweep.calls ++ [result] }
  | work (done : Pool.Worked sweep.pool worker after) : Stepped sweep (.work worker) { sweep with pool := after }
  | begin (busy : sweep.pool.workers[worker]? = some (.fulfilling orderID)) (free : sweep.jobs[worker]? = some none) :
      Stepped sweep (.begin worker)
        { sweep with
          backend := { sweep.backend with runs := sweep.backend.runs ++ [⟨orderID, .loading⟩] }
          jobs := sweep.jobs.set worker (some sweep.backend.runs.length) }
  | proceed (found : sweep.jobs[worker]? = some (some place)) (own : advances place action)
      (done : Backend.step config sweep.backend action = some store) :
      Stepped sweep (.proceed worker action) { sweep with backend := store }
  | fulfilled (found : sweep.jobs[worker]? = some (some place)) (task : sweep.backend.runs[place]? = some ended)
      (finished : ended.phase = .finished) (busy : sweep.pool.workers[worker]? = some (.fulfilling orderID)) :
      Stepped sweep (.fulfilled worker)
        { sweep with
          pool := { sweep.pool with workers := sweep.pool.workers.set worker .idle }
          jobs := sweep.jobs.set worker none }

variable {config settings now} {sweep next : Sweep} {action : Action}

theorem step_cases (moved : step config settings now sweep action = some next) :
    Stepped config settings now sweep action next := by
  cases action with
  | reclaim scan fault =>
    simp only [step] at moved
    split at moved
    · split at moved <;> cases moved
      · exact .failed ‹_› ‹_›
      · exact .reclaim ‹_› ‹_›
    · cases moved
  | enqueue choice =>
    simp only [step] at moved
    split at moved
    · obtain ⟨⟨result, pool⟩, done, rfl⟩ := Option.map_eq_some_iff.mp moved
      exact .enqueue ‹_› done
    · cases moved
  | work worker =>
    obtain ⟨pool, done, rfl⟩ := Option.map_eq_some_iff.mp moved
    exact .work (Pool.work_cases done)
  | begin worker =>
    simp only [step] at moved
    split at moved
    · cases moved
      exact .begin ‹_› ‹_›
    · cases moved
  | proceed worker action =>
    simp only [step] at moved
    split at moved
    · split at moved
      · obtain ⟨store, done, rfl⟩ := Option.map_eq_some_iff.mp moved
        exact .proceed ‹_› ‹_› done
      · cases moved
    · cases moved
  | fulfilled worker =>
    simp only [step] at moved
    split at moved
    · split at moved
      · rename_i ended
        obtain ⟨task, found, finished⟩ := (Option.any_eq_true _ _).mp ended
        obtain ⟨pool, done, rfl⟩ := Option.map_eq_some_iff.mp moved
        obtain ⟨orderID, busy, rfl⟩ := Pool.fulfilled_cases done
        exact .fulfilled ‹_› found (of_decide_eq_true finished) busy
      · cases moved
    · cases moved

/-- Steps that a run of `Fulfill` has left at most, with its return. -/
def rank (retries : Nat) : Fulfiller.Phase → Nat
  | .loading => retries + 5
  | .charging _ attempt => retries + 1 - attempt + 4
  | .cancelling _ | .confirming _ _ => 3
  | .notifying _ => 2
  | .finished => 1

theorem rank_loopHead (maxRetries : Int) (payment : Payment) (attempt : Nat) (lastErr : Option ChargeError) :
    rank maxRetries.toNat (Fulfiller.loopHead maxRetries payment attempt lastErr) ≤ 3 ∨
      (attempt ≤ maxRetries.toNat ∧ rank maxRetries.toNat (Fulfiller.loopHead maxRetries payment attempt lastErr) =
        maxRetries.toNat + 1 - attempt + 4) := by
  unfold Fulfiller.loopHead
  split
  · exact .inr ⟨by omega, rfl⟩
  · cases lastErr <;> exact .inl (le_refl 3)

theorem rank_afterFinalize : rank retries (Fulfiller.afterFinalize message outcome) < 3 := by
  unfold Fulfiller.afterFinalize
  split <;> simp [rank]

/-- What a step of a run does to the runs. -/
theorem advance_runs {state store : Backend.State} {action : Backend.Action} (own : advances place action)
    (done : Backend.step config state action = some store) :
    ∃ task phase, state.runs[place]? = some task ∧ store.runs = state.runs.set place { task with phase } ∧
      rank config.maxRetries.toNat phase < rank config.maxRetries.toNat task.phase := by
  cases Backend.step_cases config done with
  | @load index task fault found phase =>
    cases of_decide_eq_true own
    refine ⟨task, _, found, rfl, ?_⟩
    rw [phase]
    cases OrderRepository.getPendingByOrderID state.db task.orderID fault with
    | error err => simp [Fulfiller.afterLoad, rank]
    | ok payment =>
      have head := rank_loopHead config.maxRetries payment 1 none
      simp only [Fulfiller.afterLoad, rank] at head ⊢
      omega
  | @charge index task draw payment attempt found phase =>
    cases of_decide_eq_true own
    refine ⟨task, _, found, rfl, ?_⟩
    rw [phase]
    cases (state.gateway.charge (Fulfiller.request payment) draw).1 with
    | ok result =>
      simp only [Fulfiller.afterAttempt, rank]
      omega
    | error err =>
      have head := rank_loopHead config.maxRetries payment (attempt + 1) (some err)
      simp only [Fulfiller.afterAttempt, rank] at head ⊢
      omega
  | @cancel index task scan faults payment found phase =>
    cases of_decide_eq_true own
    exact ⟨task, _, found, rfl, by rw [phase]; exact rank_afterFinalize⟩
  | @confirm index task faults payment txnID found phase =>
    cases of_decide_eq_true own
    exact ⟨task, _, found, rfl, by rw [phase]; exact rank_afterFinalize⟩
  | @notify index task message found phase =>
    cases of_decide_eq_true own
    exact ⟨task, _, found, rfl, by simp [phase, rank]⟩
  | _ => cases own

/-- The queue is open, has room for what is left of the batch, and every run is
carried out by a worker of its order. -/
structure Staffed (settings : WorkerConfig) (sweep : Sweep) : Prop where
  manned : 0 < sweep.pool.workers.length
  paired : sweep.jobs.length = sweep.pool.workers.length
  opened : sweep.pool.jobs.closed = false
  intake : sweep.pool.quit = false
  present : ∀ worker ∈ sweep.pool.workers, worker ≠ .exited
  going : sweep.sweeper ≠ .returned
  fresh : sweep.sweeper = .listing → sweep.pool.jobs.buffer.length + settings.batch.toNat ≤ sweep.pool.jobs.capacity
  room : sweep.pool.jobs.buffer.length + sweep.sweeper.left.length ≤ sweep.pool.jobs.capacity
  busy : ∀ (worker place : Nat), sweep.jobs[worker]? = some (some place) →
    ∃ task, sweep.backend.runs[place]? = some task ∧ sweep.pool.workers[worker]? = some (.fulfilling task.orderID)
  calls : ∀ result ∈ sweep.calls, result = .enqueued

theorem start_staffed (manned : 1 ≤ settings.count) (fits : settings.batch ≤ settings.queueSize)
    (state : Backend.State) : Staffed settings (start settings state) where
  manned := by simp only [start, Pool.start, List.length_replicate]; omega
  paired := by simp [start, Pool.start]
  opened := rfl
  intake := rfl
  present worker member := by simp [List.eq_of_mem_replicate member]
  going := nofun
  fresh _ := by simp only [start, Pool.start, List.length_nil]; omega
  room := Nat.zero_le _
  busy worker place found := by
    obtain ⟨_, impossible⟩ := List.getElem?_eq_some_iff.mp found
    simp [start] at impossible
  calls := nofun

theorem listed_length
    (answer : OrderRepository.listStalePending db now olderThan limit scan fault = .ok orderIDs) :
    orderIDs.length ≤ limit.toNat := by
  unfold OrderRepository.listStalePending at answer
  split at answer
  · cases answer
  · cases answer
    rw [List.length_map]
    exact List.length_take_le _ _

/-- With room in an open queue a call of `Process` puts its id there. -/
theorem process_room {pool after : Pool} (opened : pool.jobs.closed = false) (intake : pool.quit = false)
    (room : pool.jobs.room) (done : pool.process orderID choice = some (result, after)) :
    result = .enqueued ∧ after = { pool with jobs := pool.jobs.push orderID } := by
  cases choice with
  | enqueue =>
    simp only [Pool.process, Pool.enqueue, opened, room] at done
    cases done
    exact ⟨rfl, rfl⟩
  | quit => simp [Pool.process, intake] at done
  | default => simp [Pool.process, Pool.enqueue, opened, room] at done

theorem Staffed.processed (staffed : Staffed settings sweep) (upcoming : sweep.sweeper = .enqueueing (orderID :: rest))
    (done : sweep.pool.process orderID choice = some (result, after)) :
    result = .enqueued ∧ after = { sweep.pool with jobs := sweep.pool.jobs.push orderID } := by
  refine process_room staffed.opened staffed.intake ?_ done
  have room := staffed.room
  simp only [upcoming, Sweeper.left, List.length_cons] at room
  simp only [Channel.room, decide_eq_true_eq]
  omega

theorem Staffed.step (staffed : Staffed settings sweep)
    (moved : Sweep.step config settings now sweep action = some next) : Staffed settings next := by
  obtain ⟨manned, paired, opened, intake, present, going, fresh, room, busy, calls⟩ := id staffed
  cases step_cases moved with
  | reclaim waiting answer =>
    have few := listed_length answer
    have space := fresh waiting
    refine ⟨manned, paired, opened, intake, present, nofun, nofun, ?_, busy, calls⟩
    simp only [Sweeper.left]
    omega
  | failed waiting =>
    rw [waiting] at room
    exact ⟨manned, paired, opened, intake, present, nofun, nofun, room, busy, calls⟩
  | enqueue upcoming done =>
    obtain ⟨rfl, rfl⟩ := staffed.processed upcoming done
    simp only [upcoming, Sweeper.left, List.length_cons] at room
    refine ⟨manned, paired, opened, intake, present, nofun, nofun, ?_, busy, fun call member => ?_⟩
    · simp only [Channel.push, Sweeper.left, List.length_append, List.length_singleton]
      omega
    · rcases List.mem_append.mp member with old | new
      · exact calls call old
      · exact List.mem_singleton.mp new
  | @work worker after done =>
    cases done with
    | @received orderID rest waiting upcoming =>
      simp only [upcoming, List.length_cons] at fresh room
      refine ⟨by simpa using manned, by simpa using paired, opened, intake, fun other member => ?_, going,
        fun listing => ?_, ?_, fun other place found => ?_, calls⟩
      · rcases List.mem_or_eq_of_mem_set member with old | rfl
        · exact present other old
        · nofun
      · have space := fresh listing
        simp only
        omega
      · simp only
        omega
      · obtain ⟨task, running, carried⟩ := busy other place found
        refine ⟨task, running, getElem_set_other carried ?_ _⟩
        rintro rfl
        cases waiting.symm.trans carried
    | left _ _ closed => simp [opened] at closed
  | @begin worker orderID fulfilling free =>
    refine ⟨manned, by simpa using paired, opened, intake, present, going, fresh, room, fun other place found => ?_, calls⟩
    rcases getElem_set_cases found with ⟨rfl, same⟩ | ⟨_, there⟩
    · cases same
      exact ⟨⟨orderID, .loading⟩, by simp, fulfilling⟩
    · obtain ⟨task, running, carried⟩ := busy other place there
      have inside := (List.getElem?_eq_some_iff.mp running).1
      exact ⟨task, by rw [List.getElem?_append_left inside]; exact running, carried⟩
  | @proceed worker place action store found own done =>
    obtain ⟨task, phase, running, runs, _⟩ := advance_runs own done
    refine ⟨manned, paired, opened, intake, present, going, fresh, room, fun other held there => ?_, calls⟩
    obtain ⟨work, located, carried⟩ := busy other held there
    simp only [runs]
    by_cases same : held = place
    · subst same
      cases running.symm.trans located
      exact ⟨_, getElem_set_found running _, carried⟩
    · exact ⟨work, getElem_set_other located same _, carried⟩
  | @fulfilled worker place ended orderID found =>
    refine ⟨by simpa using manned, by simpa using paired, opened, intake, fun other member => ?_, going, fresh, room,
      fun other held there => ?_, calls⟩
    · rcases List.mem_or_eq_of_mem_set member with old | rfl
      · exact present other old
      · nofun
    · rcases getElem_set_cases there with ⟨_, impossible⟩ | ⟨different, before⟩
      · cases impossible
      · obtain ⟨task, running, carried⟩ := busy other held before
        exact ⟨task, running, getElem_set_other carried different _⟩

/-- Steps left at most for the worker, and for the run that it has or may get. -/
def workerRank (retries : Nat) : Worker → Nat
  | .fulfilling _ => retries + 6
  | _ => 0

def jobRank (retries : Nat) (runs : List Fulfiller.Run) : Option Nat → Nat
  | none => retries + 6
  | some place => (runs[place]?).elim 0 fun task => rank retries task.phase

def sweeperRank (retries batch : Nat) : Sweeper → Nat
  | .listing => 1 + batch * (retries + 8)
  | .enqueueing orderIDs => orderIDs.length * (retries + 8)
  | .returned => 0

def measure (retries batch : Nat) (sweep : Sweep) : Nat :=
  sweeperRank retries batch sweep.sweeper + sweep.pool.jobs.buffer.length * (retries + 7) +
    (sweep.pool.workers.map (workerRank retries)).sum + (sweep.jobs.map (jobRank retries sweep.backend.runs)).sum

theorem measure_lower (staffed : Staffed settings sweep)
    (moved : Sweep.step config settings now sweep action = some next) :
    measure config.maxRetries.toNat settings.batch.toNat next <
      measure config.maxRetries.toNat settings.batch.toNat sweep := by
  unfold measure
  cases step_cases moved with
  | reclaim waiting answer =>
    have few := Nat.mul_le_mul_right (config.maxRetries.toNat + 8) (listed_length answer)
    simp only [waiting, sweeperRank]
    omega
  | failed waiting =>
    simp only [waiting, sweeperRank, List.length_nil]
    omega
  | enqueue upcoming done =>
    obtain ⟨_, rfl⟩ := staffed.processed upcoming done
    simp only [upcoming, sweeperRank, List.length_cons, Channel.push, List.length_append, List.length_nil, Nat.succ_mul]
    omega
  | work done =>
    cases done with
    | @received orderID rest waiting upcoming =>
      have moved := sum_set_found waiting (workerRank config.maxRetries.toNat) (.fulfilling orderID)
      simp only [workerRank] at moved
      simp only [upcoming, List.length_cons, Nat.succ_mul]
      omega
    | left _ _ closed => simp [staffed.opened] at closed
  | @begin worker orderID fulfilling free =>
    have later := sum_set_found free (jobRank config.maxRetries.toNat (sweep.backend.runs ++ [⟨orderID, .loading⟩]))
      (some sweep.backend.runs.length)
    have others : sweep.jobs.map (jobRank config.maxRetries.toNat (sweep.backend.runs ++ [⟨orderID, .loading⟩])) =
        sweep.jobs.map (jobRank config.maxRetries.toNat sweep.backend.runs) := by
      refine List.map_congr_left fun job member => ?_
      cases job with
      | none => rfl
      | some place =>
        obtain ⟨other, found⟩ := List.getElem?_of_mem member
        obtain ⟨task, running, _⟩ := staffed.busy other place found
        rw [jobRank, jobRank, List.getElem?_append_left (List.getElem?_eq_some_iff.mp running).1]
    rw [others] at later
    simp only [jobRank, List.getElem?_concat_length, Option.elim_some, rank] at later
    simp only
    omega
  | @proceed worker place action store found own done =>
    obtain ⟨task, phase, running, runs, lower⟩ := advance_runs own done
    have decreased : (sweep.jobs.map (jobRank config.maxRetries.toNat store.runs)).sum <
        (sweep.jobs.map (jobRank config.maxRetries.toNat sweep.backend.runs)).sum := by
      rw [runs]
      refine List.sum_lt_sum _ _ (fun job _ => ?_) ⟨some place, List.mem_of_getElem? found, ?_⟩
      · cases job with
        | none => exact le_refl _
        | some held =>
          by_cases same : held = place
          · subst same
            simp only [jobRank, getElem_set_found running, running, Option.elim_some]
            exact lower.le
          · rw [jobRank, jobRank, List.getElem?_set_ne (Ne.symm same)]
      · simp only [jobRank, getElem_set_found running, running, Option.elim_some]
        exact lower
    simp only
    omega
  | @fulfilled worker place ended orderID found task finished busy =>
    have idle := sum_set_found busy (workerRank config.maxRetries.toNat) .idle
    have free := sum_set_found found (jobRank config.maxRetries.toNat sweep.backend.runs) none
    simp only [workerRank, jobRank, task, Option.elim_some, finished, rank] at idle free
    simp only
    omega

theorem advance_enabled (config : Config) {state : Backend.State} (found : state.runs[place]? = some task)
    (unfinished : task.phase ≠ .finished) :
    ∃ action store, advances place action ∧ Backend.step config state action = some store := by
  have named : decide (place = place) = true := decide_eq_true rfl
  cases phase : task.phase with
  | loading => exact ⟨.load place none, _, named, by simp only [Backend.step, found, phase]; rfl⟩
  | charging => exact ⟨.charge place .deadline, _, named, by simp only [Backend.step, found, phase]; rfl⟩
  | cancelling => exact ⟨.cancel place .stored {}, _, named, by simp only [Backend.step, found, phase]; rfl⟩
  | confirming => exact ⟨.confirm place {}, _, named, by simp only [Backend.step, found, phase]; rfl⟩
  | notifying => exact ⟨.notify place, _, named, by simp only [Backend.step, found, phase]; rfl⟩
  | finished => exact absurd phase unfinished

/-- A worker that has an order can go on with it. -/
theorem Staffed.busy_progress {worker : Nat} (staffed : Staffed settings sweep)
    (busy : sweep.pool.workers[worker]? = some (.fulfilling orderID)) :
    ∃ action next, Sweep.step config settings now sweep action = some next := by
  have inside : worker < sweep.jobs.length := staffed.paired ▸ (List.getElem?_eq_some_iff.mp busy).1
  cases job : sweep.jobs[worker] with
  | none =>
    have free : sweep.jobs[worker]? = some none := List.getElem?_eq_some_iff.mpr ⟨inside, job⟩
    exact ⟨.begin worker, _, by simp only [Sweep.step, busy, free, Backend.step]; rfl⟩
  | some place =>
    have found : sweep.jobs[worker]? = some (some place) := List.getElem?_eq_some_iff.mpr ⟨inside, job⟩
    obtain ⟨task, running, _⟩ := staffed.busy worker place found
    by_cases finished : task.phase = .finished
    · exact ⟨.fulfilled worker, _, by
        simp only [Sweep.step, found, running, Option.any_some, finished, decide_true, if_true, Pool.fulfilled, busy]
        rfl⟩
    · obtain ⟨action, store, own, done⟩ := advance_enabled config running finished
      exact ⟨.proceed worker action, _, by simp only [Sweep.step, found, own, if_true, done]; rfl⟩

/-- Short of its end a round can go on. -/
theorem Staffed.progress (staffed : Staffed settings sweep) :
    sweep.drained ∨ ∃ action next, Sweep.step config settings now sweep action = some next := by
  by_cases busy : ∃ (worker : Nat) (orderID : Int), sweep.pool.workers[worker]? = some (.fulfilling orderID)
  · obtain ⟨worker, orderID, found⟩ := busy
    exact .inr (staffed.busy_progress found)
  · have idle (worker) (member : worker ∈ sweep.pool.workers) : worker = .idle := by
      obtain ⟨index, found⟩ := List.getElem?_of_mem member
      cases worker with
      | idle => rfl
      | fulfilling orderID => exact absurd ⟨index, orderID, found⟩ busy
      | exited => exact absurd rfl (staffed.present _ member)
    cases sweeper : sweep.sweeper with
    | listing =>
      exact .inr ⟨.reclaim .stored none, _, by simp only [Sweep.step, sweeper]; rfl⟩
    | enqueueing orderIDs =>
      cases orderIDs with
      | nil =>
        cases buffer : sweep.pool.jobs.buffer with
        | nil => exact .inl (by simpa [drained, sweeper, buffer] using idle)
        | cons orderID rest =>
          have first : sweep.pool.workers[0]? = some .idle := by
            rw [List.getElem?_eq_getElem staffed.manned]
            exact congrArg some (idle _ (List.getElem_mem staffed.manned))
          exact .inr ⟨.work 0, _, by simp only [Sweep.step, Pool.work, first, Channel.receive, buffer]; rfl⟩
      | cons orderID rest =>
        have room := staffed.room
        have space : sweep.pool.jobs.room := by
          simp only [sweeper, Sweeper.left, List.length_cons] at room
          simp only [Channel.room, decide_eq_true_eq]
          omega
        exact .inr ⟨.enqueue .enqueue, _, by
          simp only [Sweep.step, sweeper, Pool.process, Pool.enqueue, staffed.opened, space]
          rfl⟩
    | returned => exact absurd sweeper staffed.going

theorem staffed_run (staffed : Staffed settings sweep)
    (done : run (step config settings now) sweep actions = some final) : Staffed settings final :=
  run_invariant (Staffed settings) (fun _ _ _ staffed moved => staffed.step moved) staffed done

/-- A round takes a bounded number of steps. -/
theorem start_bounded (manned : 1 ≤ settings.count) (fits : settings.batch ≤ settings.queueSize)
    (done : run (step config settings now) (start settings state) actions = some sweep) :
    actions.length ≤ 1 + settings.batch.toNat * (config.maxRetries.toNat + 8) +
      settings.count.toNat * (config.maxRetries.toNat + 6) := by
  have bounded := run_bounded (measure config.maxRetries.toNat settings.batch.toNat) (Staffed settings)
    (fun _ _ _ staffed moved => ⟨staffed.step moved, measure_lower staffed moved⟩)
    (start_staffed manned fits state) done
  have initial : measure config.maxRetries.toNat settings.batch.toNat (start settings state) =
      1 + settings.batch.toNat * (config.maxRetries.toNat + 8) +
        settings.count.toNat * (config.maxRetries.toNat + 6) := by
    simp [measure, start, Pool.start, sweeperRank, workerRank, jobRank]
  omega

end Sweep

end OrderProcessing
