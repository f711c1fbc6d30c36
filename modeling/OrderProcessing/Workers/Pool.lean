import OrderProcessing.Library.Channel
import OrderProcessing.Library.Keyed

/-! The worker pool: the queue of order ids, the quit channel and the workers.
`Process` is a select with three cases; which one is taken when several are
ready is up to the runtime. -/

namespace OrderProcessing

open Library

/-- Where a worker stands in its loop over the queue. -/
inductive Worker where
  | idle
  | fulfilling (orderID : Int)
  | exited
  deriving DecidableEq, Repr

structure Pool where
  jobs : Channel Int
  quit : Bool := false
  workers : List Worker
  deriving DecidableEq, Repr

/-- The cases of the select in `Process`. -/
inductive ProcessCase where
  | enqueue
  | quit
  | default
  deriving DecidableEq, Repr

/-- How a call of `Process` ends. Only `enqueued` hands the order to a worker. -/
inductive ProcessResult where
  | enqueued
  | stopping
  | deferred
  | panicked
  deriving DecidableEq, Repr

namespace Pool

/-- `NewPool` followed by `Start`; a pool without workers if the count is not positive. -/
def start (count : Int) (queueSize : Nat) : Pool :=
  { jobs := { capacity := queueSize }, workers := List.replicate count.toNat .idle }

/-- A worker that waits at an empty queue takes the id directly. -/
def handOff (orderID : Int) : List Worker → Option (List Worker)
  | [] => none
  | .idle :: rest => some (.fulfilling orderID :: rest)
  | worker :: rest => (handOff orderID rest).map (worker :: ·)

/-- The send of `Process`, if the runtime can choose it. -/
def enqueue (pool : Pool) (orderID : Int) : Option (ProcessResult × Pool) :=
  if pool.jobs.closed then some (.panicked, pool)
  else if pool.jobs.room then some (.enqueued, { pool with jobs := pool.jobs.push orderID })
  else if pool.jobs.buffer.isEmpty then
    (handOff orderID pool.workers).map fun workers => (.enqueued, { pool with workers })
  else none

/-- One call of `Process`; the default case is taken only if no other is ready. -/
def process (pool : Pool) (orderID : Int) : ProcessCase → Option (ProcessResult × Pool)
  | .enqueue => pool.enqueue orderID
  | .quit => if pool.quit then some (.stopping, pool) else none
  | .default => if (pool.enqueue orderID).isSome || pool.quit then none else some (.deferred, pool)

/-- An open queue takes no id: its buffer is full, and nobody waits at it. -/
def full (pool : Pool) : Bool :=
  !pool.jobs.room && (!pool.jobs.buffer.isEmpty || pool.workers.all fun worker => worker ≠ .idle)

/-- A worker at the head of its loop receives the next id, or leaves the loop
when the queue is closed and drained. -/
def work (pool : Pool) (index : Nat) : Option Pool :=
  match pool.workers[index]? with
  | some .idle =>
    match pool.jobs.receive with
    | some (some orderID, jobs) =>
      some { pool with jobs, workers := pool.workers.set index (.fulfilling orderID) }
    | some (none, jobs) => some { pool with jobs, workers := pool.workers.set index .exited }
    | none => none
  | _ => none

/-- `Fulfill` returns. -/
def fulfilled (pool : Pool) (index : Nat) : Option Pool :=
  match pool.workers[index]? with
  | some (.fulfilling _) => some { pool with workers := pool.workers.set index .idle }
  | _ => none

/-- The three statements of `Stop`. -/
def closeQuit (pool : Pool) : Pool := { pool with quit := true }

def closeJobs (pool : Pool) : Pool := { pool with jobs := pool.jobs.close }

def drained (pool : Pool) : Bool := pool.workers.all fun worker => worker = .exited

/-- What a call of `Process` can do. -/
inductive Processed (pool : Pool) (orderID : Int) : ProcessCase → ProcessResult → Pool → Prop where
  | panicked (closed : pool.jobs.closed) : Processed pool orderID .enqueue .panicked pool
  | queued (opened : pool.jobs.closed = false) (room : pool.jobs.room) :
      Processed pool orderID .enqueue .enqueued { pool with jobs := pool.jobs.push orderID }
  | handedOff (opened : pool.jobs.closed = false) (empty : pool.jobs.buffer = [])
      (taken : handOff orderID pool.workers = some served) :
      Processed pool orderID .enqueue .enqueued { pool with workers := served }
  | stopping (quit : pool.quit) : Processed pool orderID .quit .stopping pool
  | deferred (busy : pool.enqueue orderID = none) (intake : pool.quit = false) :
      Processed pool orderID .default .deferred pool

theorem process_cases {pool after : Pool} (done : pool.process orderID choice = some (result, after)) :
    Processed pool orderID choice result after := by
  cases choice with
  | enqueue =>
    simp only [process, enqueue] at done
    split at done
    · cases done
      exact .panicked ‹_›
    · rename_i opened
      split at done
      · cases done
        exact .queued (by simpa using opened) ‹_›
      · split at done
        · rename_i empty
          obtain ⟨workers, taken, same⟩ := Option.map_eq_some_iff.mp done
          cases same
          exact .handedOff (by simpa using opened) (by simpa using empty) taken
        · cases done
  | quit =>
    simp only [process] at done
    split at done
    · cases done
      exact .stopping ‹_›
    · cases done
  | default =>
    simp only [process] at done
    split at done
    · cases done
    · rename_i idle
      cases done
      simp only [Bool.or_eq_true, Option.isSome_iff_ne_none, not_or, Bool.not_eq_true, ne_eq, Decidable.not_not] at idle
      exact .deferred idle.1 idle.2

/-- What a worker does at the head of its loop. -/
inductive Worked (pool : Pool) (index : Nat) : Pool → Prop where
  | received (found : pool.workers[index]? = some .idle) (next : pool.jobs.buffer = orderID :: rest) :
      Worked pool index
        { pool with
          jobs := { pool.jobs with buffer := rest }
          workers := pool.workers.set index (.fulfilling orderID) }
  | left (found : pool.workers[index]? = some .idle) (empty : pool.jobs.buffer = []) (closed : pool.jobs.closed) :
      Worked pool index { pool with workers := pool.workers.set index .exited }

theorem work_cases {pool after : Pool} (done : pool.work index = some after) : Worked pool index after := by
  simp only [work, Channel.receive] at done
  split at done
  · rename_i found
    cases buffer : pool.jobs.buffer with
    | cons orderID rest =>
      simp only [buffer] at done
      cases done
      exact .received found buffer
    | nil =>
      simp only [buffer] at done
      cases closed : pool.jobs.closed with
      | true =>
        simp only [closed, if_true] at done
        cases done
        exact .left found buffer closed
      | false => simp [closed] at done
  · cases done

theorem fulfilled_cases {pool after : Pool} (done : pool.fulfilled index = some after) :
    ∃ orderID, pool.workers[index]? = some (.fulfilling orderID) ∧
      after = { pool with workers := pool.workers.set index .idle } := by
  simp only [fulfilled] at done
  split at done
  · rename_i orderID found
    cases done
    exact ⟨orderID, found, rfl⟩
  · cases done

/-- The hand-off replaces one worker that waits by one that fulfils the order. -/
theorem handOff_split {workers served : List Worker} (taken : handOff orderID workers = some served) :
    ∃ before after, workers = before ++ .idle :: after ∧ served = before ++ .fulfilling orderID :: after := by
  induction workers generalizing served with
  | nil => cases taken
  | cons worker rest ih =>
    cases worker with
    | idle =>
      cases taken
      exact ⟨[], rest, rfl, rfl⟩
    | fulfilling other =>
      obtain ⟨more, later, rfl⟩ := Option.map_eq_some_iff.mp taken
      obtain ⟨before, after, rfl, rfl⟩ := ih later
      exact ⟨.fulfilling other :: before, after, rfl, rfl⟩
    | exited =>
      obtain ⟨more, later, rfl⟩ := Option.map_eq_some_iff.mp taken
      obtain ⟨before, after, rfl, rfl⟩ := ih later
      exact ⟨.exited :: before, after, rfl, rfl⟩

/-- Only a worker that waits is handed an id. -/
theorem handOff_kept {workers served : List Worker} {index : Nat} {worker : Worker}
    (taken : handOff orderID workers = some served) (found : workers[index]? = some worker) (busy : worker ≠ .idle) :
    served[index]? = some worker := by
  obtain ⟨before, after, rfl, rfl⟩ := handOff_split taken
  rw [List.getElem?_append] at found ⊢
  split at found
  · rename_i inside
    rwa [if_pos inside]
  · rename_i beyond
    rw [if_neg beyond]
    cases place : index - before.length with
    | zero =>
      rw [place] at found
      exact absurd (Option.some.inj found).symm busy
    | succ rest =>
      rw [place] at found
      exact found

theorem handOff_none (orderID : Int) (workers : List Worker) :
    handOff orderID workers = none ↔ ∀ worker ∈ workers, worker ≠ .idle := by
  induction workers with
  | nil => simp [handOff]
  | cons worker rest ih => cases worker <;> simp [handOff, ih]

/-- The send of `Process` cannot proceed on an open queue that is full, and only then. -/
theorem enqueue_none (pool : Pool) (orderID : Int) :
    pool.enqueue orderID = none ↔ pool.jobs.closed = false ∧ pool.full := by
  unfold enqueue full
  split
  · simp [*]
  · split
    · simp [*]
    · split <;> simp_all [handOff_none]

/-- The flags of the pool change in `Stop` alone. -/
theorem process_flags {pool after : Pool} (done : pool.process orderID choice = some (result, after)) :
    after.quit = pool.quit ∧ after.jobs.closed = pool.jobs.closed := by
  cases process_cases done <;> exact ⟨rfl, rfl⟩

theorem work_flags {pool after : Pool} (done : pool.work index = some after) :
    after.quit = pool.quit ∧ after.jobs.closed = pool.jobs.closed := by
  cases work_cases done <;> exact ⟨rfl, rfl⟩

theorem fulfilled_flags {pool after : Pool} (done : pool.fulfilled index = some after) :
    after.quit = pool.quit ∧ after.jobs.closed = pool.jobs.closed := by
  obtain ⟨_, _, rfl⟩ := fulfilled_cases done
  exact ⟨rfl, rfl⟩

/-- A worker that does not wait is left alone by `Process` and by the other workers. -/
theorem process_kept {pool after : Pool} {index : Nat} {worker : Worker}
    (done : pool.process orderID choice = some (result, after))
    (found : pool.workers[index]? = some worker) (busy : worker ≠ .idle) : after.workers[index]? = some worker := by
  cases process_cases done with
  | handedOff _ _ taken => exact handOff_kept taken found busy
  | _ => exact found

theorem work_kept {pool after : Pool} {index : Nat} {worker : Worker} (done : pool.work actor = some after)
    (found : pool.workers[index]? = some worker) (busy : worker ≠ .idle) : after.workers[index]? = some worker := by
  have different (waiting : pool.workers[actor]? = some .idle) : index ≠ actor := by
    rintro rfl
    exact busy (Option.some.inj (found.symm.trans waiting))
  cases work_cases done with
  | received waiting => exact getElem_set_other found (different waiting) _
  | left waiting => exact getElem_set_other found (different waiting) _

/-- Nobody is left to take an id or to finish one. -/
theorem drained_process {pool after : Pool} (drained : pool.drained)
    (done : pool.process orderID choice = some (result, after)) : after.drained := by
  cases process_cases done with
  | handedOff _ _ taken =>
    obtain ⟨before, rest, same, _⟩ := handOff_split taken
    simp [Pool.drained, same] at drained
  | _ => exact drained

theorem drained_exited {pool : Pool} {index : Nat} {worker : Worker} (drained : pool.drained)
    (found : pool.workers[index]? = some worker) : worker = .exited := by
  simp only [Pool.drained, List.all_eq_true, decide_eq_true_eq] at drained
  exact drained worker (List.mem_of_getElem? found)

end Pool

end OrderProcessing
