import Mathlib.Data.Multiset.AddSub
import OrderProcessing.Library.Keyed
import OrderProcessing.Library.Machine
import OrderProcessing.Workers.Pool

/-! The pool over its whole life: workers that are launched one by one, calls of
`Process` that return before `Stop` is called, and `Stop`, which waits for all
workers. Jobs are counted from `Process` to the return of `Fulfill`. -/

namespace OrderProcessing

open Library

/-- How far `Stop` has come. -/
inductive StopPhase where
  | running
  | quitting
  | waiting
  | returned
  deriving DecidableEq, Repr

structure Intake where
  /-- The number of workers `Start` launches. -/
  count : Nat
  pool : Pool
  stop : StopPhase := .running
  /-- The calls of `Process` that have returned. -/
  calls : List (Int × ProcessResult) := []
  /-- The calls of `Fulfill` that have returned. -/
  completed : List Int := []
  deriving DecidableEq, Repr

namespace Intake

inductive Action where
  | launch
  | process (orderID : Int) (choice : ProcessCase)
  | work (index : Nat)
  | fulfilled (index : Nat)
  | stop
  | closeJobs
  | wait
  deriving DecidableEq, Repr

/-- `NewPool`, and `Start` with its workers still to run. -/
def new (count queueSize : Nat) : Intake := { count, pool := Pool.start 0 queueSize }

def accepted (calls : List (Int × ProcessResult)) : List Int :=
  (calls.filter fun call => call.2 = .enqueued).map (·.1)

/-- The orders the workers are fulfilling. -/
def inProgress (workers : List Worker) : List Int :=
  workers.filterMap fun
    | .fulfilling orderID => some orderID
    | _ => none

def step (intake : Intake) : Action → Option Intake
  | .launch =>
    if intake.pool.workers.length < intake.count then
      some { intake with pool := { intake.pool with workers := intake.pool.workers ++ [.idle] } }
    else none
  | .process orderID choice =>
    if intake.stop = .running then
      (intake.pool.process orderID choice).map fun (result, pool) =>
        { intake with pool, calls := intake.calls ++ [(orderID, result)] }
    else none
  | .work index => (intake.pool.work index).map fun pool => { intake with pool }
  | .fulfilled index =>
    match intake.pool.workers[index]? with
    | some (.fulfilling orderID) =>
      (intake.pool.fulfilled index).map fun pool =>
        { intake with pool, completed := intake.completed ++ [orderID] }
    | _ => none
  | .stop =>
    if intake.stop = .running then some { intake with pool := intake.pool.closeQuit, stop := .quitting } else none
  | .closeJobs =>
    if intake.stop = .quitting then some { intake with pool := intake.pool.closeJobs, stop := .waiting } else none
  | .wait =>
    -- The wait group counts every worker that `Start` launches.
    if intake.stop = .waiting ∧ intake.pool.workers.length = intake.count ∧ intake.pool.drained then
      some { intake with stop := .returned }
    else none

/-- What an enabled action does. -/
inductive Stepped (intake : Intake) : Action → Intake → Prop where
  | launch (missing : intake.pool.workers.length < intake.count) :
      Stepped intake .launch { intake with pool := { intake.pool with workers := intake.pool.workers ++ [.idle] } }
  | process (running : intake.stop = .running) (done : Pool.Processed intake.pool orderID choice result after) :
      Stepped intake (.process orderID choice)
        { intake with pool := after, calls := intake.calls ++ [(orderID, result)] }
  | work (done : Pool.Worked intake.pool index after) : Stepped intake (.work index) { intake with pool := after }
  | fulfilled (found : intake.pool.workers[index]? = some (.fulfilling orderID)) :
      Stepped intake (.fulfilled index)
        { intake with
          pool := { intake.pool with workers := intake.pool.workers.set index .idle }
          completed := intake.completed ++ [orderID] }
  | stop (running : intake.stop = .running) :
      Stepped intake .stop { intake with pool := intake.pool.closeQuit, stop := .quitting }
  | closeJobs (quitting : intake.stop = .quitting) :
      Stepped intake .closeJobs { intake with pool := intake.pool.closeJobs, stop := .waiting }
  | wait (waiting : intake.stop = .waiting) (all : intake.pool.workers.length = intake.count)
      (drained : ∀ worker ∈ intake.pool.workers, worker = .exited) :
      Stepped intake .wait { intake with stop := .returned }

variable {intake next final : Intake} {action : Action}

theorem step_cases (moved : step intake action = some next) : Stepped intake action next := by
  cases action with
  | launch | stop | closeJobs =>
    simp only [step] at moved
    split at moved <;> cases moved
    constructor
    assumption
  | process orderID choice =>
    simp only [step] at moved
    split at moved
    · obtain ⟨⟨result, pool⟩, done, rfl⟩ := Option.map_eq_some_iff.mp moved
      exact .process ‹_› (Pool.process_cases done)
    · cases moved
  | work index =>
    obtain ⟨pool, done, rfl⟩ := Option.map_eq_some_iff.mp moved
    exact .work (Pool.work_cases done)
  | fulfilled index =>
    simp only [step] at moved
    split at moved
    · rename_i found
      obtain ⟨pool, done, rfl⟩ := Option.map_eq_some_iff.mp moved
      obtain ⟨_, _, rfl⟩ := Pool.fulfilled_cases done
      exact .fulfilled found
    · cases moved
  | wait =>
    simp only [step] at moved
    split at moved <;> cases moved
    rename_i holds
    exact .wait holds.1 holds.2.1 (by simpa [Pool.drained] using holds.2.2)

theorem count_inProgress (orderID : Int) (workers : List Worker) :
    (inProgress workers).count orderID = workers.count (.fulfilling orderID) := by
  unfold inProgress
  induction workers with
  | nil => rfl
  | cons worker rest ih => cases worker <;> simp [ih, List.count_cons]

/-- Every accepted job is in the buffer, with a worker, or done; workers leave
only a closed and empty queue. -/
structure Balanced (intake : Intake) : Prop where
  jobs : ∀ orderID, (accepted intake.calls).count orderID = intake.pool.jobs.buffer.count orderID +
    intake.pool.workers.count (.fulfilling orderID) + intake.completed.count orderID
  closed : intake.pool.jobs.closed ↔ intake.stop = .waiting ∨ intake.stop = .returned
  within : intake.pool.workers.length ≤ intake.count
  exited : .exited ∈ intake.pool.workers → intake.pool.jobs.closed ∧ intake.pool.jobs.buffer = []
  returned : intake.stop = .returned →
    intake.pool.workers.length = intake.count ∧ ∀ worker ∈ intake.pool.workers, worker = .exited
  safe : ∀ call ∈ intake.calls, call.2 ≠ .panicked

theorem balanced_new (count queueSize : Nat) : Balanced (new count queueSize) where
  jobs _ := rfl
  closed := by simp [new, Pool.start]
  within := Nat.zero_le _
  exited := by simp [new, Pool.start]
  returned := by simp [new]
  safe := by simp [new]

theorem accepted_append (other orderID : Int) (result : ProcessResult) (calls : List (Int × ProcessResult)) :
    (accepted (calls ++ [(orderID, result)])).count other =
      (accepted calls).count other + if result = .enqueued ∧ orderID = other then 1 else 0 := by
  unfold accepted
  rw [List.filter_append, List.map_append, List.count_append]
  by_cases taken : result = .enqueued <;> simp [taken, List.count_singleton]

/-- A call of `Process` while the queue is open. -/
theorem Balanced.process (balanced : Balanced intake) (running : intake.stop = .running)
    (done : Pool.Processed intake.pool orderID choice result after) :
    Balanced { intake with pool := after, calls := intake.calls ++ [(orderID, result)] } := by
  have opened : intake.pool.jobs.closed = false := by
    rw [← Bool.not_eq_true, balanced.closed, running]
    simp
  have stays : .exited ∉ intake.pool.workers := fun member => by
    have closed := (balanced.exited member).1
    simp [opened] at closed
  have calls (fine : result ≠ .panicked) :
      ∀ call ∈ intake.calls ++ [(orderID, result)], call.2 ≠ .panicked := by
    intro call member
    rcases List.mem_append.mp member with old | added
    · exact balanced.safe call old
    · cases List.mem_singleton.mp added
      exact fine
  cases done with
  | panicked closed => simp [opened] at closed
  | queued _ room =>
    refine ⟨fun other => ?_, balanced.closed, balanced.within, fun member => absurd member stays, balanced.returned,
      calls (by simp)⟩
    rw [accepted_append, balanced.jobs other]
    simp only [Channel.push, List.count_append, List.count_singleton, true_and, beq_iff_eq]
    omega
  | handedOff _ empty taken =>
    obtain ⟨before, rest, split, rfl⟩ := Pool.handOff_split taken
    refine ⟨fun other => ?_, balanced.closed, ?_, fun member => ?_, fun impossible => ?_, calls (by simp)⟩
    · rw [accepted_append, balanced.jobs other, split]
      simp [List.count_cons]
      omega
    · simpa [split] using balanced.within
    · exact absurd member (by simpa [split] using stays)
    · simp [running] at impossible
  | stopping | deferred =>
    refine ⟨fun other => ?_, balanced.closed, balanced.within, balanced.exited, balanced.returned, calls (by simp)⟩
    rw [accepted_append, balanced.jobs other]
    simp

/-- After `Stop` has returned no worker is left to move. -/
theorem Balanced.active {worker : Worker} {index : Nat} (balanced : Balanced intake)
    (found : intake.pool.workers[index]? = some worker) (active : worker ≠ .exited) : intake.stop ≠ .returned :=
  fun returned => active ((balanced.returned returned).2 worker (List.mem_of_getElem? found))

theorem Balanced.work (balanced : Balanced intake) (done : Pool.Worked intake.pool index after) :
    Balanced { intake with pool := after } := by
  cases done with
  | received found buffer =>
    rename_i orderID rest
    refine ⟨fun other => ?_, balanced.closed, by simpa using balanced.within, fun member => ?_, fun returned => ?_,
      balanced.safe⟩
    · have moved := count_set_found found (.fulfilling other) (.fulfilling orderID)
      have jobs := balanced.jobs other
      simp only [reduceCtorEq, if_false, Worker.fulfilling.injEq] at moved
      simp only [buffer, List.count_cons, beq_iff_eq] at jobs
      simp only
      omega
    · rcases List.mem_or_eq_of_mem_set member with old | impossible
      · have empty := (balanced.exited old).2
        simp [buffer] at empty
      · cases impossible
    · exact absurd returned (balanced.active found (by simp))
  | left found empty closed =>
    refine ⟨fun other => ?_, balanced.closed, by simpa using balanced.within, fun _ => ⟨closed, empty⟩,
      fun returned => ?_, balanced.safe⟩
    · have moved := count_set_found found (.fulfilling other) .exited
      have jobs := balanced.jobs other
      simp only [reduceCtorEq, if_false] at moved
      simp only
      omega
    · exact absurd returned (balanced.active found (by simp))

theorem Balanced.fulfilled (balanced : Balanced intake)
    (found : intake.pool.workers[index]? = some (.fulfilling orderID)) :
    Balanced { intake with
      pool := { intake.pool with workers := intake.pool.workers.set index .idle }
      completed := intake.completed ++ [orderID] } := by
  refine ⟨fun other => ?_, balanced.closed, by simpa using balanced.within, fun member => ?_, fun returned => ?_,
    balanced.safe⟩
  · have moved := count_set_found found (.fulfilling other) .idle
    have jobs := balanced.jobs other
    simp only [reduceCtorEq, if_false, Worker.fulfilling.injEq] at moved
    simp only [List.count_append, List.count_singleton, beq_iff_eq]
    omega
  · rcases List.mem_or_eq_of_mem_set member with old | impossible
    · exact balanced.exited old
    · cases impossible
  · exact absurd returned (balanced.active found (by simp))

theorem Balanced.step (balanced : Balanced intake) (moved : Intake.step intake action = some next) :
    Balanced next := by
  cases step_cases moved with
  | launch missing =>
    refine ⟨fun other => ?_, balanced.closed, by simpa [Nat.succ_le_iff] using missing, fun member => ?_, fun returned => ?_,
      balanced.safe⟩
    · simpa [List.count_append] using balanced.jobs other
    · rcases List.mem_append.mp member with old | added
      · exact balanced.exited old
      · cases List.mem_singleton.mp added
    · exact absurd (balanced.returned returned).1 (by omega)
  | process running done => exact balanced.process running done
  | work done => exact balanced.work done
  | fulfilled found => exact balanced.fulfilled found
  | stop running =>
    have closed := balanced.closed
    rw [running] at closed
    exact ⟨balanced.jobs, by simpa [Pool.closeQuit] using closed, balanced.within, balanced.exited, by simp,
      balanced.safe⟩
  | closeJobs quitting =>
    have opened : intake.pool.jobs.closed = false := by
      rw [← Bool.not_eq_true, balanced.closed, quitting]
      simp
    have stays : .exited ∉ intake.pool.workers := fun member => by
      have closed := (balanced.exited member).1
      simp [opened] at closed
    exact ⟨balanced.jobs, by simp [Pool.closeJobs, Channel.close], balanced.within, fun member => absurd member stays, by simp,
      balanced.safe⟩
  | wait waiting all drained =>
    have closed := balanced.closed
    rw [waiting] at closed
    exact ⟨balanced.jobs, by simpa using closed, balanced.within, balanced.exited,
      fun _ => ⟨all, drained⟩, balanced.safe⟩

theorem balanced_run {count queueSize : Nat} (done : run Intake.step (new count queueSize) actions = some final) : Balanced final :=
  run_invariant Balanced (fun _ _ _ balanced moved => balanced.step moved) (balanced_new _ _) done

theorem count_run (done : run Intake.step intake actions = some final) : final.count = intake.count := by
  refine run_invariant (fun state => state.count = intake.count) ?_ rfl done
  intro state action next same moved
  cases step_cases moved <;> exact same

/-- In every state of every run the accepted ids are those in the buffer, those
being fulfilled and those fulfilled, each as often as it was accepted. When
`Stop` has returned, `Fulfill` has returned once for each accepted occurrence
and was called for nothing else. No call of `Process` panicked. -/
theorem accepted_jobs_fulfilled {count queueSize : Nat} (workers : 1 ≤ count)
    (done : run step (new count queueSize) actions = some intake) :
    (accepted intake.calls : Multiset Int) =
      intake.pool.jobs.buffer + inProgress intake.pool.workers + intake.completed ∧
    (intake.stop = .returned → intake.pool.jobs.buffer = [] ∧ inProgress intake.pool.workers = [] ∧
      (intake.completed : Multiset Int) = accepted intake.calls) ∧
    ∀ call ∈ intake.calls, call.2 ≠ .panicked := by
  have balanced := balanced_run done
  have jobs : (accepted intake.calls : Multiset Int) =
      intake.pool.jobs.buffer + inProgress intake.pool.workers + intake.completed := by
    ext orderID
    simp only [Multiset.coe_count, Multiset.count_add, count_inProgress]
    exact balanced.jobs orderID
  refine ⟨jobs, fun returned => ?_, balanced.safe⟩
  obtain ⟨all, exited⟩ := balanced.returned returned
  rw [count_run done] at all
  obtain ⟨worker, member⟩ : ∃ worker, worker ∈ intake.pool.workers :=
    List.exists_mem_of_length_pos (by rw [all]; exact workers)
  have empty := (balanced.exited (exited worker member ▸ member)).2
  have idle : inProgress intake.pool.workers = [] := by
    refine List.filterMap_eq_nil_iff.mpr fun other present => ?_
    rw [exited other present]
  refine ⟨empty, idle, ?_⟩
  rw [jobs, empty, idle]
  simp

/-- Steps of the workers and of `Stop` that are still to come. -/
def workerSteps : Worker → Nat
  | .idle => 1
  | .fulfilling _ => 2
  | .exited => 0

def stopSteps : StopPhase → Nat
  | .running => 3
  | .quitting => 2
  | .waiting => 1
  | .returned => 0

def remaining (intake : Intake) : Nat :=
  stopSteps intake.stop + 2 * intake.pool.jobs.buffer.length + (intake.pool.workers.map workerSteps).sum +
    2 * (intake.count - intake.pool.workers.length)

theorem remaining_lowered (stopping : intake.stop ≠ .running) (moved : step intake action = some next) :
    next.stop ≠ .running ∧ next.remaining < intake.remaining := by
  cases step_cases moved with
  | launch missing =>
    refine ⟨stopping, ?_⟩
    simp only [remaining, workerSteps, List.map_append, List.sum_append, List.length_append, List.map_cons,
      List.map_nil, List.sum_cons, List.sum_nil, List.length_cons, List.length_nil]
    omega
  | process running => exact absurd running stopping
  | work done =>
    refine ⟨stopping, ?_⟩
    cases done with
    | received found buffer =>
      rename_i orderID rest
      have weights := sum_set_found found workerSteps (.fulfilling orderID)
      simp only [remaining, buffer, List.length_cons, List.length_set]
      simp only [workerSteps] at weights
      omega
    | left found =>
      have weights := sum_set_found found workerSteps .exited
      simp only [remaining, List.length_set]
      simp only [workerSteps] at weights
      omega
  | fulfilled found =>
    refine ⟨stopping, ?_⟩
    have weights := sum_set_found found workerSteps .idle
    simp only [remaining, List.length_set]
    simp only [workerSteps] at weights
    omega
  | stop running => exact absurd running stopping
  | closeJobs quitting => simp [remaining, stopSteps, quitting, Pool.closeJobs, Channel.close]
  | wait waiting => simp [remaining, stopSteps, waiting]

/-- Until `Stop` returns, a worker or `Stop` itself can move. -/
theorem Balanced.progress (balanced : Balanced intake) (stopping : intake.stop ≠ .running)
    (pending : intake.stop ≠ .returned) : ∃ action next, Intake.step intake action = some next := by
  cases phase : intake.stop with
  | running => exact absurd phase stopping
  | returned => exact absurd phase pending
  | quitting => exact ⟨.closeJobs, _, if_pos phase⟩
  | waiting =>
    have closed : intake.pool.jobs.closed := balanced.closed.mpr (.inl phase)
    by_cases missing : intake.pool.workers.length < intake.count
    · exact ⟨.launch, _, if_pos missing⟩
    · by_cases drained : intake.pool.drained
      · exact ⟨.wait, _, if_pos ⟨phase, le_antisymm balanced.within (not_lt.mp missing), drained⟩⟩
      · obtain ⟨worker, member, active⟩ : ∃ worker ∈ intake.pool.workers, worker ≠ .exited := by
          simpa [Pool.drained] using drained
        obtain ⟨index, found⟩ := List.mem_iff_getElem?.mp member
        cases worker with
        | exited => exact absurd rfl active
        | fulfilling orderID =>
          refine ⟨.fulfilled index, ?_⟩
          simp only [Intake.step, found, Pool.fulfilled, Option.map_some]
          exact ⟨_, rfl⟩
        | idle =>
          refine ⟨.work index, ?_⟩
          simp only [Intake.step, Pool.work, found, Channel.receive]
          cases intake.pool.jobs.buffer with
          | nil => simp [closed]
          | cons => simp

/-- Once it was called, `Stop` returns if `Fulfill` always does: no run goes on
longer than the jobs and workers left, and one can always go on until then. -/
theorem stop_returns {count queueSize : Nat} (done : run step (new count queueSize) actions = some intake)
    (stopping : intake.stop ≠ .running) :
    (∀ later final, run step intake later = some final → later.length ≤ intake.remaining) ∧
      ∃ later final, run step intake later = some final ∧ final.stop = .returned := by
  refine ⟨fun later final onward => ?_, ?_⟩
  · have bounded := run_bounded remaining (fun intake => intake.stop ≠ .running)
      (fun _ _ _ => remaining_lowered) stopping onward
    omega
  · refine run_reaches remaining (fun intake => Balanced intake ∧ intake.stop ≠ .running) _ ?_
      ⟨balanced_run done, stopping⟩
    rintro state ⟨balanced, halting⟩ pending
    obtain ⟨action, next, moved⟩ := balanced.progress halting pending
    obtain ⟨still, lower⟩ := remaining_lowered halting moved
    exact ⟨action, next, moved, ⟨balanced.step moved, still⟩, lower⟩

/-- Two workers at an unbuffered queue, with a repeated id and a refused one. -/
def shift : List Action :=
  [.launch, .process 4 .enqueue, .process 4 .default, .launch, .process 4 .enqueue, .fulfilled 1, .stop, .closeJobs,
   .work 1, .fulfilled 0, .work 0, .wait]

theorem accepted_jobs_fulfilled_shift : ∃ intake, run step (new 2 0) shift = some intake ∧
    intake.stop = .returned ∧ intake.calls = [(4, .enqueued), (4, .deferred), (4, .enqueued)] ∧
    intake.completed = [4, 4] ∧
    (accepted intake.calls : Multiset Int) =
      intake.pool.jobs.buffer + inProgress intake.pool.workers + intake.completed ∧
    (intake.stop = .returned → intake.pool.jobs.buffer = [] ∧ inProgress intake.pool.workers = [] ∧
      (intake.completed : Multiset Int) = accepted intake.calls) ∧
    ∀ call ∈ intake.calls, call.2 ≠ .panicked := by
  obtain ⟨intake, done, returned, calls, completed⟩ : ∃ intake, run step (new 2 0) shift = some intake ∧
    intake.stop = .returned ∧ intake.calls = [(4, .enqueued), (4, .deferred), (4, .enqueued)] ∧
    intake.completed = [4, 4] := ⟨_, rfl, rfl, rfl, rfl⟩
  exact ⟨intake, done, returned, calls, completed, accepted_jobs_fulfilled (by decide) done⟩

end Intake

end OrderProcessing
