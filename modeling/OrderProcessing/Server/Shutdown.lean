import OrderProcessing.Library.Keyed
import OrderProcessing.Library.Machine
import OrderProcessing.Workers.Pool

/-! The server from start to shutdown: HTTP handlers, the sweeper, the worker
pool, and `Run`, which stops the components one after the other. The HTTP drain
is bounded by a timeout and may end with handlers in flight. -/

namespace OrderProcessing

open Library

/-- A `CreateOrder` request on an accepted connection. It has yet to commit its
order, it is about to hand the order to the pool, or it has been answered. -/
inductive Handler where
  | serving
  | processing (orderID : Int)
  | returned
  deriving DecidableEq, Repr

/-- The sweeper's loop: the query, then one call of `Process` for each id. With
none left it waits for its ticker or for `Stop`. -/
inductive Sweeper where
  | listing
  | enqueueing (orderIDs : List Int)
  | returned
  deriving DecidableEq, Repr

/-- Where `Run` stands. After the signal these are the calls of `Stop` in the
order of the stoppers, split at every point where others can run in between. -/
inductive Stage where
  | serving
  | drainingHttp
  | closingSweeper
  | joiningSweeper
  | closingQuit
  | closingJobs
  | joiningWorkers
  | stoppingHub
  | closingStores
  | stopped
  deriving DecidableEq, Repr

/-- `Pool.Stop` has closed the quit channel. -/
def Stage.quitClosed : Stage → Bool
  | .closingJobs | .joiningWorkers | .stoppingHub | .closingStores | .stopped => true
  | _ => false

/-- `Pool.Stop` has closed the queue. -/
def Stage.jobsClosed : Stage → Bool
  | .joiningWorkers | .stoppingHub | .closingStores | .stopped => true
  | _ => false

/-- `Sweeper.Stop` has returned. -/
def Stage.sweeperJoined : Stage → Bool
  | .closingQuit | .closingJobs | .joiningWorkers | .stoppingHub | .closingStores | .stopped => true
  | _ => false

/-- `Pool.Stop` has returned. -/
def Stage.poolJoined : Stage → Bool
  | .stoppingHub | .closingStores | .stopped => true
  | _ => false

/-- A finished call of `Process`, and whether the pool was stopping when it was made. -/
structure ProcessCall where
  orderID : Int
  stopping : Bool
  result : ProcessResult
  deriving DecidableEq, Repr

structure Server where
  pool : Pool
  sweeper : Sweeper := .listing
  sweeperQuit : Bool := false
  handlers : List Handler := []
  stage : Stage := .serving
  calls : List ProcessCall := []
  deriving DecidableEq, Repr

namespace Server

inductive Action where
  | accept
  | persist (handler : Nat) (orderID : Int)
  | answer (handler : Nat)
  | process (handler : Nat) (choice : ProcessCase)
  | list (orderIDs : List Int)
  | enqueue (choice : ProcessCase)
  | tick
  | leave
  | work (worker : Nat)
  | fulfilled (worker : Nat)
  | signal
  | drained
  | timeout
  | advance
  deriving DecidableEq, Repr

/-- The call of `Process` by a handler or the sweeper. -/
def callProcess (server : Server) (orderID : Int) (choice : ProcessCase) : Option Server :=
  (server.pool.process orderID choice).map fun (result, pool) =>
    { server with pool, calls := server.calls ++ [⟨orderID, server.pool.quit, result⟩] }

/-- The next step of `Run` after the HTTP drain. The joins wait. -/
def advance (server : Server) : Option Server :=
  match server.stage with
  | .closingSweeper => some { server with sweeperQuit := true, stage := .joiningSweeper }
  | .joiningSweeper => if server.sweeper = .returned then some { server with stage := .closingQuit } else none
  | .closingQuit => some { server with pool := server.pool.closeQuit, stage := .closingJobs }
  | .closingJobs => some { server with pool := server.pool.closeJobs, stage := .joiningWorkers }
  | .joiningWorkers => if server.pool.drained then some { server with stage := .stoppingHub } else none
  | .stoppingHub => some { server with stage := .closingStores }
  | .closingStores => some { server with stage := .stopped }
  | _ => none

def step (server : Server) : Action → Option Server
  | .accept =>
    -- the listener is closed before the drain begins
    if server.stage = .serving then some { server with handlers := server.handlers ++ [.serving] } else none
  | .persist index orderID =>
    if server.handlers[index]? = some .serving then
      some { server with handlers := server.handlers.set index (.processing orderID) }
    else none
  | .answer index =>
    if server.handlers[index]? = some .serving then
      some { server with handlers := server.handlers.set index .returned }
    else none
  | .process index choice =>
    match server.handlers[index]? with
    | some (.processing orderID) =>
      callProcess { server with handlers := server.handlers.set index .returned } orderID choice
    | _ => none
  | .list orderIDs =>
    if server.sweeper = .listing then some { server with sweeper := .enqueueing orderIDs } else none
  | .enqueue choice =>
    match server.sweeper with
    | .enqueueing (orderID :: rest) => callProcess { server with sweeper := .enqueueing rest } orderID choice
    | _ => none
  | .tick => if server.sweeper = .enqueueing [] then some { server with sweeper := .listing } else none
  | .leave =>
    if server.sweeper = .enqueueing [] ∧ server.sweeperQuit then some { server with sweeper := .returned } else none
  | .work index => (server.pool.work index).map fun pool => { server with pool }
  | .fulfilled index => (server.pool.fulfilled index).map fun pool => { server with pool }
  | .signal => if server.stage = .serving then some { server with stage := .drainingHttp } else none
  | .drained =>
    if server.stage = .drainingHttp ∧ server.handlers.all (· = .returned) then
      some { server with stage := .closingSweeper }
    else none
  | .timeout => if server.stage = .drainingHttp then some { server with stage := .closingSweeper } else none
  | .advance => server.advance

/-- The server after `New`: workers and sweeper are running. -/
def start (count : Int) (queueSize : Nat) : Server := { pool := Pool.start count queueSize }

/-- What an enabled action does, and where the party it names stands. -/
inductive Stepped (server : Server) : Action → Server → Prop where
  | accept (stage : server.stage = .serving) :
      Stepped server .accept { server with handlers := server.handlers ++ [.serving] }
  | persist (found : server.handlers[index]? = some .serving) :
      Stepped server (.persist index orderID)
        { server with handlers := server.handlers.set index (.processing orderID) }
  | answer (found : server.handlers[index]? = some .serving) :
      Stepped server (.answer index) { server with handlers := server.handlers.set index .returned }
  | process (found : server.handlers[index]? = some (.processing orderID))
      (done : server.pool.process orderID choice = some (result, after)) :
      Stepped server (.process index choice) { server with
        handlers := server.handlers.set index .returned
        pool := after, calls := server.calls ++ [⟨orderID, server.pool.quit, result⟩] }
  | list (sweeping : server.sweeper = .listing) :
      Stepped server (.list orderIDs) { server with sweeper := .enqueueing orderIDs }
  | enqueue (sweeping : server.sweeper = .enqueueing (orderID :: rest))
      (done : server.pool.process orderID choice = some (result, after)) :
      Stepped server (.enqueue choice) { server with
        sweeper := .enqueueing rest
        pool := after, calls := server.calls ++ [⟨orderID, server.pool.quit, result⟩] }
  | tick (sweeping : server.sweeper = .enqueueing []) : Stepped server .tick { server with sweeper := .listing }
  | leave (sweeping : server.sweeper = .enqueueing []) (quit : server.sweeperQuit) :
      Stepped server .leave { server with sweeper := .returned }
  | work (done : server.pool.work index = some after) : Stepped server (.work index) { server with pool := after }
  | fulfilled (done : server.pool.fulfilled index = some after) :
      Stepped server (.fulfilled index) { server with pool := after }
  | signal (stage : server.stage = .serving) : Stepped server .signal { server with stage := .drainingHttp }
  | drained (stage : server.stage = .drainingHttp) (idle : ∀ handler ∈ server.handlers, handler = .returned) :
      Stepped server .drained { server with stage := .closingSweeper }
  | timeout (stage : server.stage = .drainingHttp) :
      Stepped server .timeout { server with stage := .closingSweeper }
  | advance (moved : server.advance = some after) : Stepped server .advance after

theorem step_cases (moved : step server action = some next) : Stepped server action next := by
  cases action with
  | process | enqueue =>
    simp only [step, callProcess] at moved
    split at moved
    · obtain ⟨⟨result, after⟩, done, rfl⟩ := Option.map_eq_some_iff.mp moved
      constructor <;> assumption
    · cases moved
  | work | fulfilled =>
    obtain ⟨after, done, rfl⟩ := Option.map_eq_some_iff.mp moved
    constructor
    assumption
  | advance => exact .advance moved
  | drained | leave =>
    simp only [step] at moved
    split at moved
    · rename_i fine
      cases moved
      constructor
      · exact fine.1
      · simpa using fine.2
    · cases moved
  | _ =>
    simp only [step] at moved
    split at moved
    · cases moved
      constructor
      assumption
    · cases moved

/-- What the stage of `Run` says about the sweeper and the channels of the pool. -/
structure Staged (server : Server) : Prop where
  quit : server.pool.quit = server.stage.quitClosed
  closed : server.pool.jobs.closed = server.stage.jobsClosed
  joined : server.stage.sweeperJoined → server.sweeper = .returned

theorem start_staged (count : Int) (queueSize : Nat) : (start count queueSize).Staged where
  quit := rfl
  closed := rfl
  joined := nofun

theorem Staged.advance (staged : Staged server) (moved : server.advance = some next) : next.Staged := by
  obtain ⟨quit, closed, joined⟩ := staged
  unfold Server.advance at moved
  split at moved <;> rename_i stage
  case h_8 => cases moved
  all_goals rw [stage] at quit closed joined
  · cases moved
    exact ⟨quit, closed, nofun⟩
  · split at moved
    · rename_i returned
      cases moved
      exact ⟨quit, closed, fun _ => returned⟩
    · cases moved
  · cases moved
    exact ⟨rfl, closed, joined⟩
  · cases moved
    exact ⟨quit, rfl, joined⟩
  · split at moved
    · cases moved
      exact ⟨quit, closed, joined⟩
    · cases moved
  · cases moved
    exact ⟨quit, closed, joined⟩
  · cases moved
    exact ⟨quit, closed, joined⟩

/-- The sweeper never finds the pool stopping: it is joined before. -/
theorem Staged.sweeping (staged : Staged server) (busy : server.sweeper ≠ .returned) :
    server.stage.sweeperJoined = false := by
  by_contra late
  exact busy (staged.joined (by simpa using late))

theorem Staged.step (staged : Staged server) (moved : step server action = some next) : next.Staged := by
  obtain ⟨quit, closed, joined⟩ := id staged
  cases step_cases moved with
  | accept | persist | answer => exact ⟨quit, closed, joined⟩
  | process _ done =>
    obtain ⟨sameQuit, sameJobs⟩ := Pool.process_flags done
    exact ⟨sameQuit.trans quit, sameJobs.trans closed, joined⟩
  | list sweeping | tick sweeping =>
    have early := staged.sweeping (by simp [sweeping])
    exact ⟨quit, closed, fun late => by simp [early] at late⟩
  | enqueue sweeping done =>
    obtain ⟨sameQuit, sameJobs⟩ := Pool.process_flags done
    have early := staged.sweeping (by simp [sweeping])
    exact ⟨sameQuit.trans quit, sameJobs.trans closed, fun late => by simp [early] at late⟩
  | leave => exact ⟨quit, closed, fun _ => rfl⟩
  | work done =>
    obtain ⟨sameQuit, sameJobs⟩ := Pool.work_flags done
    exact ⟨sameQuit.trans quit, sameJobs.trans closed, joined⟩
  | fulfilled done =>
    obtain ⟨sameQuit, sameJobs⟩ := Pool.fulfilled_flags done
    exact ⟨sameQuit.trans quit, sameJobs.trans closed, joined⟩
  | signal stage | drained stage _ | timeout stage =>
    rw [stage] at quit closed
    exact ⟨quit, closed, nofun⟩
  | advance moved => exact staged.advance moved

/-- A handler calls `Process` before the pool is stopping, or while the queue is
open and full. -/
def sendBlocked (server : Server) : Action → Bool
  | .process _ _ => !server.pool.quit || (!server.pool.jobs.closed && server.pool.full)
  | _ => true

/-- The call ended normally, and left its order alone if the pool was stopping. -/
def Safe (call : ProcessCall) : Prop :=
  call.result ≠ .panicked ∧ (call.stopping → call.result = .stopping)

/-- The queue is closed after the quit channel. -/
theorem Staged.closed_quit (staged : Staged server) (closed : server.pool.jobs.closed) : server.pool.quit := by
  rw [staged.closed] at closed
  rw [staged.quit]
  generalize server.stage = stage at closed ⊢
  cases stage <;> first | rfl | cases closed

theorem Staged.call (staged : Staged server)
    (blocked : server.pool.quit → server.pool.enqueue orderID = none)
    (done : server.pool.process orderID choice = some (result, after)) :
    Safe ⟨orderID, server.pool.quit, result⟩ := by
  -- a call that sends was made before the pool was stopping
  have sending (sent : server.pool.enqueue orderID = some (result, after)) : server.pool.quit = false := by
    by_contra late
    rw [blocked (by simpa using late)] at sent
    cases sent
  cases Pool.process_cases done with
  | panicked closed =>
    have late := staged.closed_quit closed
    rw [sending done] at late
    cases late
  | queued | handedOff => exact ⟨nofun, fun stopping => by simp [sending done] at stopping⟩
  | stopping => exact ⟨nofun, fun _ => rfl⟩
  | deferred _ intake => exact ⟨nofun, fun stopping => by simp [intake] at stopping⟩

/-- The sweeper is joined before the pool is stopping. -/
theorem Staged.intake (staged : Staged server) (busy : server.sweeper ≠ .returned) : server.pool.quit = false := by
  have unjoined := staged.sweeping busy
  rw [staged.quit]
  generalize server.stage = stage at unjoined ⊢
  cases stage <;> first | rfl | cases unjoined

/-- Every finished call was safe. -/
structure Quiet (server : Server) : Prop where
  staged : server.Staged
  calls : ∀ call ∈ server.calls, Safe call

theorem Quiet.record (quiet : Quiet server) (blocked : server.pool.quit → server.pool.enqueue orderID = none)
    (done : server.pool.process orderID choice = some (result, after)) :
    ∀ call ∈ server.calls ++ [⟨orderID, server.pool.quit, result⟩], Safe call := by
  intro call member
  rcases List.mem_append.mp member with old | new
  · exact quiet.calls call old
  · rw [List.mem_singleton.mp new]
    exact quiet.staged.call blocked done

theorem advance_calls (moved : advance server = some next) : next.calls = server.calls := by
  unfold advance at moved
  split at moved
  case h_2 | h_5 => split at moved <;> cases moved; rfl
  case h_8 => cases moved
  all_goals cases moved; rfl

theorem Quiet.step (quiet : Quiet server) (fine : sendBlocked server action)
    (moved : step server action = some next) : next.Quiet := by
  refine ⟨quiet.staged.step moved, ?_⟩
  cases step_cases moved with
  | @process index orderID choice result after found done =>
    refine quiet.record (fun quit => (server.pool.enqueue_none orderID).mpr ?_) done
    simpa [sendBlocked, quit] using fine
  | enqueue sweeping done =>
    have intake := quiet.staged.intake (by simp [sweeping])
    exact quiet.record (fun quit => by simp [intake] at quit) done
  | advance moved => exact advance_calls moved ▸ quiet.calls
  | _ => exact quiet.calls

/-- As long as no handler calls `Process` on a stopping pool whose queue could be
sent on, no call ever sends on the closed queue, and one that finds the pool
stopping leaves its order pending. The calls of the sweeper need no such care. -/
theorem shutdown_never_panics (count : Int) (queueSize : Nat)
    (orderly : Along step (fun server action => sendBlocked server action) (start count queueSize) actions)
    (reached : run step (start count queueSize) actions = some server) :
    ∀ call ∈ server.calls, call.result ≠ .panicked ∧ (call.stopping → call.result = .stopping) := by
  have quiet : server.Quiet := run_invariant_along Quiet (fun _ _ _ holds fine moved => holds.step fine moved)
    ⟨start_staged count queueSize, by simp [start]⟩ orderly reached
  exact quiet.calls

/-- The one worker is busy and the queue full when the drain times out; the last
request in flight finds the pool stopping. -/
def graceful : List Action :=
  [.list [], .accept, .accept, .accept, .persist 0 7, .process 0 .enqueue, .work 0, .persist 1 8,
   .process 1 .enqueue, .signal, .timeout, .advance, .leave, .advance, .advance, .persist 2 9, .process 2 .quit,
   .advance, .fulfilled 0, .work 0, .fulfilled 0, .work 0, .advance, .advance, .advance]

theorem shutdown_never_panics_graceful :
    ∃ server, run step (start 1 1) graceful = some server ∧ server.stage = .stopped ∧
      server.calls = [⟨7, false, .enqueued⟩, ⟨8, false, .enqueued⟩, ⟨9, true, .stopping⟩] ∧
      ∀ call ∈ server.calls, call.result ≠ .panicked ∧ (call.stopping → call.result = .stopping) := by
  obtain ⟨server, reached, stage, calls⟩ : ∃ server, run step (start 1 1) graceful = some server ∧
      server.stage = .stopped ∧
      server.calls = [⟨7, false, .enqueued⟩, ⟨8, false, .enqueued⟩, ⟨9, true, .stopping⟩] := ⟨_, rfl, rfl, rfl⟩
  exact ⟨server, reached, stage, calls, shutdown_never_panics 1 1 (by decide) reached⟩

/-- The drain times out while an order is being stored. -/
def overrun : List Action :=
  [.list [], .accept, .signal, .timeout, .advance, .leave, .advance, .advance, .advance, .persist 0 7,
   .process 0 .enqueue]

theorem shutdown_panics :
    ∃ server, run step (start 1 2) overrun = some server ∧ server.calls = [⟨7, true, .panicked⟩] :=
  ⟨_, rfl, rfl⟩

/-- A handler that calls `Process` at any other moment may send: the runtime is
free to choose that case. -/
theorem late_handler_sends {index : Nat} (found : server.handlers[index]? = some (.processing orderID))
    (late : sendBlocked server (.process index .enqueue) = false) :
    ∃ next, step server (.process index .enqueue) = some next ∧ ∃ call ∈ next.calls, ¬ Safe call := by
  simp only [sendBlocked, Bool.or_eq_false_iff, Bool.not_eq_false'] at late
  obtain ⟨quit, ready⟩ := late
  have sendable : server.pool.enqueue orderID ≠ none := by
    rw [Ne, Pool.enqueue_none]
    simpa using ready
  obtain ⟨⟨result, after⟩, sent⟩ : ∃ sent, server.pool.process orderID .enqueue = some sent :=
    Option.ne_none_iff_exists'.mp sendable
  refine ⟨_, by simp only [step, found, callProcess, sent, Option.map_some]; rfl,
    ⟨orderID, server.pool.quit, result⟩, by simp, fun safe => ?_⟩
  have stopped : result = .stopping := safe.2 quit
  cases Pool.process_cases sent <;> cases stopped

variable {server next : Server} {action : Action} {index : Nat} {worker : Worker}

theorem advance_workers (moved : advance server = some next) :
    next.pool.workers = server.pool.workers := by
  unfold advance at moved
  split at moved
  case h_2 | h_5 => split at moved <;> cases moved; rfl
  case h_8 => cases moved
  all_goals cases moved; rfl

/-- A worker that carries out a run goes on until the run is finished. -/
theorem step_kept (moved : step server action = some next) (found : server.pool.workers[index]? = some worker)
    (busy : worker ≠ .idle) (unfinished : action ≠ .fulfilled index) : next.pool.workers[index]? = some worker := by
  cases step_cases moved with
  | process _ done | enqueue _ done => exact Pool.process_kept done found busy
  | work done => exact Pool.work_kept done found busy
  | @fulfilled _ actor done =>
    obtain ⟨_, _, rfl⟩ := Pool.fulfilled_cases done
    exact getElem_set_other found (fun same => unfinished (same ▸ rfl)) _
  | advance done => rwa [advance_workers done]
  | _ => exact found

/-- `Run` does not go back. -/
theorem step_poolJoined (moved : step server action = some next) (late : server.stage.poolJoined) :
    next.stage.poolJoined := by
  cases step_cases moved with
  | signal stage | drained stage | timeout stage => simp [stage, Stage.poolJoined] at late
  | advance done =>
    unfold advance at done
    split at done <;> rename_i stage
    case h_6 | h_7 => cases done; rfl
    case h_8 => cases done
    all_goals simp [stage, Stage.poolJoined] at late
  | _ => exact late

theorem step_drained (moved : step server action = some next) (drained : server.pool.drained) :
    next.pool.drained := by
  cases step_cases moved with
  | process _ done | enqueue _ done => exact Pool.drained_process drained done
  | work done =>
    cases Pool.work_cases done with
    | received waiting | left waiting => cases Pool.drained_exited drained waiting
  | fulfilled done =>
    obtain ⟨_, running, _⟩ := Pool.fulfilled_cases done
    cases Pool.drained_exited drained running
  | advance done =>
    unfold Pool.drained
    rwa [advance_workers done]
  | _ => exact drained

/-- Once `Pool.Stop` has returned, every worker has left its loop. -/
def Joined (server : Server) : Prop := server.stage.poolJoined → server.pool.drained

theorem Joined.step (joined : Joined server) (moved : Server.step server action = some next) : Joined next := by
  intro late
  by_cases before : server.stage.poolJoined
  · exact step_drained moved (joined before)
  · cases step_cases moved with
    | signal | drained | timeout => cases late
    | advance done =>
      unfold Server.advance at done
      split at done <;> rename_i stage
      case h_5 =>
        split at done <;> cases done
        assumption
      case h_2 => split at done <;> cases done; cases late
      case h_8 => cases done
      case h_6 | h_7 => simp [stage, Stage.poolJoined] at before
      all_goals
        cases done
        cases late
    | _ => exact absurd late before

end Server

end OrderProcessing
