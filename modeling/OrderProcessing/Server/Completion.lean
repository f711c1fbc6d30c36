import OrderProcessing.Server.Shutdown
import OrderProcessing.Workers.Drain

/-! `Run` returns after the signal: what the parties have left to do, that one of them can
always go on, and that nothing is left in the queue at the end. -/

namespace OrderProcessing

open Library

/-- `Run` has told the sweeper to stop. -/
def Stage.told : Stage → Bool
  | .serving | .drainingHttp | .closingSweeper => false
  | _ => true

namespace Pool

/-- Steps that the workers have left. -/
def weight (pool : Pool) : Nat :=
  2 * pool.jobs.buffer.length + (pool.workers.map Intake.workerSteps).sum

variable {pool after : Pool}

theorem process_weight (done : pool.process orderID choice = some (result, after)) : after.weight ≤ pool.weight + 2 := by
  cases process_cases done with
  | queued =>
    simp only [weight, Channel.push, List.length_append, List.length_singleton]
    omega
  | handedOff _ _ taken =>
    obtain ⟨before, rest, split, rfl⟩ := handOff_split taken
    simp only [weight, split, List.map_append, List.map_cons, List.sum_append, List.sum_cons, Intake.workerSteps]
    omega
  | panicked | stopping | deferred => omega

theorem work_weight (done : pool.work index = some after) : after.weight < pool.weight := by
  cases work_cases done with
  | @received orderID rest found full =>
    have weights := sum_set_found found Intake.workerSteps (.fulfilling orderID)
    simp only [Intake.workerSteps] at weights
    simp only [weight, full, List.length_cons]
    omega
  | left found =>
    have weights := sum_set_found found Intake.workerSteps .exited
    simp only [Intake.workerSteps] at weights
    simp only [weight]
    omega

theorem fulfilled_weight (done : pool.fulfilled index = some after) : after.weight < pool.weight := by
  obtain ⟨orderID, found, rfl⟩ := fulfilled_cases done
  have weights := sum_set_found found Intake.workerSteps .idle
  simp only [Intake.workerSteps] at weights
  simp only [weight]
  omega

/-- A call of `Process` never waits. -/
theorem process_returns (pool : Pool) (orderID : Int) : ∃ choice result after,
    pool.process orderID choice = some (result, after) := by
  cases sent : pool.enqueue orderID with
  | some outcome => exact ⟨.enqueue, outcome.1, outcome.2, sent⟩
  | none =>
    cases stopping : pool.quit with
    | true => exact ⟨.quit, .stopping, pool, if_pos stopping⟩
    | false => exact ⟨.default, .deferred, pool, by simp [process, sent, stopping]⟩

/-- Workers leave a closed and empty queue only. -/
def Abandoned (pool : Pool) : Prop := .exited ∈ pool.workers → pool.jobs.closed ∧ pool.jobs.buffer = []

theorem Abandoned.process (abandoned : pool.Abandoned) (done : pool.process orderID choice = some (result, after)) :
    after.Abandoned := by
  cases process_cases done with
  | panicked | stopping | deferred => exact abandoned
  | queued opened =>
    intro member
    have closed := (abandoned member).1
    rw [opened] at closed
    cases closed
  | handedOff opened _ taken =>
    obtain ⟨before, rest, split, rfl⟩ := handOff_split taken
    intro member
    have closed := (abandoned (by simpa [split] using member)).1
    rw [opened] at closed
    cases closed

theorem Abandoned.work (abandoned : pool.Abandoned) (done : pool.work index = some after) : after.Abandoned := by
  cases work_cases done with
  | received _ full =>
    intro member
    rcases List.mem_or_eq_of_mem_set member with old | impossible
    · have empty := (abandoned old).2
      rw [full] at empty
      cases empty
    · cases impossible
  | left _ empty closed => exact fun _ => ⟨closed, empty⟩

theorem Abandoned.fulfilled (abandoned : pool.Abandoned) (done : pool.fulfilled index = some after) :
    after.Abandoned := by
  obtain ⟨_, _, rfl⟩ := fulfilled_cases done
  intro member
  rcases List.mem_or_eq_of_mem_set member with old | impossible
  · exact abandoned old
  · cases impossible

/-- Short of the end, a worker at a closed queue can go on. -/
theorem worker_moves (closed : pool.jobs.closed) (undrained : pool.drained = false) :
    ∃ index after, pool.work index = some after ∨ pool.fulfilled index = some after := by
  obtain ⟨worker, member, active⟩ : ∃ worker ∈ pool.workers, worker ≠ .exited := by
    simpa [drained] using undrained
  obtain ⟨index, found⟩ := List.mem_iff_getElem?.mp member
  cases worker with
  | exited => exact absurd rfl active
  | fulfilling orderID => exact ⟨index, _, .inr (by rw [Pool.fulfilled, found])⟩
  | idle =>
    cases full : pool.jobs.buffer with
    | nil => exact ⟨index, _, .inl (by simp only [Pool.work, found, Channel.receive, full, closed, if_true]; rfl)⟩
    | cons orderID rest => exact ⟨index, _, .inl (by simp only [Pool.work, found, Channel.receive, full]; rfl)⟩

end Pool

namespace Server

def stageSteps : Stage → Nat
  | .serving => 9
  | .drainingHttp => 8
  | .closingSweeper => 7
  | .joiningSweeper => 6
  | .closingQuit => 5
  | .closingJobs => 4
  | .joiningWorkers => 3
  | .stoppingHub => 2
  | .closingStores => 1
  | .stopped => 0

/-- A request may still add an order to the queue. -/
def handlerSteps : Handler → Nat
  | .serving => 4
  | .processing _ => 3
  | .returned => 0

def sweeperSteps : Sweeper → Nat
  | .listing => 2
  | .enqueueing orderIDs => 3 * orderIDs.length + 1
  | .returned => 0

/-- Steps that are left until `Run` returns. -/
def remaining (server : Server) : Nat :=
  stageSteps server.stage + (server.handlers.map handlerSteps).sum + sweeperSteps server.sweeper + server.pool.weight

/-- What a further round of the sweeper adds. -/
def extra : Action → Nat
  | .tick => 2
  | .list orderIDs => 3 * orderIDs.length
  | _ => 0

variable {server next final : Server} {action : Action}

theorem advance_lowered (moved : server.advance = some next) :
    next.stage ≠ .serving ∧ next.remaining < server.remaining := by
  unfold advance at moved
  split at moved <;> rename_i stage
  case h_2 | h_5 =>
    split at moved <;> cases moved
    exact ⟨by simp, by simp [remaining, stageSteps, stage]⟩
  case h_8 => cases moved
  all_goals
    cases moved
    exact ⟨by simp, by simp [remaining, stageSteps, stage, Pool.weight, Pool.closeQuit, Pool.closeJobs, Channel.close]⟩

/-- A handler goes on. -/
theorem handler_lowered {index : Nat} {handler new : Handler} (found : server.handlers[index]? = some handler)
    (less : handlerSteps new < handlerSteps handler) :
    { server with handlers := server.handlers.set index new }.remaining < server.remaining := by
  have weights := sum_set_found found handlerSteps new
  simp only [remaining]
  omega

/-- After the signal every step of a party leaves it less to do, but for the rounds that
the sweeper begins. -/
theorem remaining_lowered (stopping : server.stage ≠ .serving) (moved : step server action = some next) :
    next.stage ≠ .serving ∧ next.remaining < server.remaining + extra action := by
  cases step_cases moved with
  | accept stage | signal stage => exact absurd stage stopping
  | persist found | answer found => exact ⟨stopping, handler_lowered found (by simp [handlerSteps])⟩
  | @process index orderID choice result after found done =>
    have more := Pool.process_weight done
    have weights := sum_set_found found handlerSteps .returned
    simp only [handlerSteps] at weights
    refine ⟨stopping, ?_⟩
    simp only [remaining, extra]
    omega
  | list sweeping =>
    refine ⟨stopping, ?_⟩
    simp only [remaining, sweeping, sweeperSteps, extra]
    omega
  | enqueue sweeping done =>
    have more := Pool.process_weight done
    refine ⟨stopping, ?_⟩
    simp only [remaining, sweeping, sweeperSteps, List.length_cons, extra]
    omega
  | tick sweeping | leave sweeping =>
    refine ⟨stopping, ?_⟩
    simp only [remaining, sweeping, sweeperSteps, List.length_nil, extra]
    omega
  | work done =>
    have less := Pool.work_weight done
    refine ⟨stopping, ?_⟩
    simp only [remaining, extra]
    omega
  | fulfilled done =>
    have less := Pool.fulfilled_weight done
    refine ⟨stopping, ?_⟩
    simp only [remaining, extra]
    omega
  | drained stage | timeout stage =>
    refine ⟨nofun, ?_⟩
    simp only [remaining, stage, stageSteps, extra]
    omega
  | advance done => exact advance_lowered done

/-- What holds in every state of the server. -/
structure Orderly (server : Server) : Prop where
  staged : server.Staged
  told : server.stage.told → server.sweeperQuit
  joined : server.Joined
  abandoned : server.pool.Abandoned

theorem advance_told (told : server.stage.told → server.sweeperQuit) (moved : server.advance = some next) :
    next.stage.told → next.sweeperQuit := by
  unfold advance at moved
  split at moved <;> rename_i stage
  case h_8 => cases moved
  all_goals rw [stage] at told
  case h_1 => cases moved; exact fun _ => rfl
  case h_2 | h_5 => split at moved <;> cases moved; exact fun _ => told rfl
  all_goals cases moved; exact fun _ => told rfl

theorem advance_abandoned (abandoned : server.pool.Abandoned) (moved : server.advance = some next) :
    next.pool.Abandoned := by
  unfold advance at moved
  split at moved
  case h_2 | h_5 => split at moved <;> cases moved; exact abandoned
  case h_4 => cases moved; exact fun member => ⟨rfl, (abandoned member).2⟩
  case h_8 => cases moved
  all_goals cases moved; exact abandoned

theorem Orderly.step (orderly : Orderly server) (moved : Server.step server action = some next) : Orderly next := by
  obtain ⟨staged, told, joined, abandoned⟩ := orderly
  refine ⟨staged.step moved, ?_, joined.step moved, ?_⟩
  · cases step_cases moved with
    | signal | drained | timeout => nofun
    | advance done => exact advance_told told done
    | _ => exact told
  · cases step_cases moved with
    | process _ done | enqueue _ done => exact abandoned.process done
    | work done => exact abandoned.work done
    | fulfilled done => exact abandoned.fulfilled done
    | advance done => exact advance_abandoned abandoned done
    | _ => exact abandoned

theorem start_orderly (count : Int) (queueSize : Nat) : (start count queueSize).Orderly where
  staged := start_staged count queueSize
  told := nofun
  joined := nofun
  abandoned member := by simp [start, Pool.start] at member

/-- Until the sweeper has left, it can take a step towards that. -/
theorem sweeper_moves (quit : server.sweeperQuit) (busy : server.sweeper ≠ .returned) :
    ∃ action next, step server action = some next ∧ extra action = 0 := by
  cases sweeping : server.sweeper with
  | returned => exact absurd sweeping busy
  | listing => exact ⟨.list [], _, if_pos sweeping, rfl⟩
  | enqueueing orderIDs =>
    cases orderIDs with
    | nil => exact ⟨.leave, _, if_pos ⟨sweeping, quit⟩, rfl⟩
    | cons orderID rest =>
      obtain ⟨choice, result, after, done⟩ := server.pool.process_returns orderID
      exact ⟨.enqueue choice, _, by simp only [step, sweeping, callProcess, done, Option.map_some]; rfl, rfl⟩

/-- Until `Run` returns, somebody can go on without a new round of the sweeper. -/
theorem Orderly.progress (orderly : Orderly server) (stopping : server.stage ≠ .serving)
    (pending : server.stage ≠ .stopped) : ∃ action next, Server.step server action = some next ∧ extra action = 0 := by
  obtain ⟨staged, told, joined, abandoned⟩ := orderly
  cases stage : server.stage with
  | serving => exact absurd stage stopping
  | stopped => exact absurd stage pending
  | drainingHttp => exact ⟨.timeout, _, if_pos stage, rfl⟩
  | closingSweeper | closingQuit | closingJobs | stoppingHub | closingStores =>
    exact ⟨.advance, _, by simp only [Server.step, advance, stage]; rfl, rfl⟩
  | joiningSweeper =>
    by_cases left : server.sweeper = .returned
    · exact ⟨.advance, _, by simp only [Server.step, advance, stage, left, if_true]; rfl, rfl⟩
    · exact sweeper_moves (told (by rw [stage]; rfl)) left
  | joiningWorkers =>
    have closed : server.pool.jobs.closed := by rw [staged.closed, stage]; rfl
    cases drained : server.pool.drained with
    | true => exact ⟨.advance, _, by simp only [Server.step, advance, stage, drained, if_true]; rfl, rfl⟩
    | false =>
      obtain ⟨index, after, done | done⟩ := Pool.worker_moves closed drained
      · exact ⟨.work index, _, by simp only [Server.step, done, Option.map_some]; rfl, rfl⟩
      · exact ⟨.fulfilled index, _, by simp only [Server.step, done, Option.map_some]; rfl, rfl⟩

/-- Nobody joins the workers, and none of them is lost. -/
theorem step_workers (moved : step server action = some next) :
    next.pool.workers.length = server.pool.workers.length := by
  have processed {orderID : Int} {choice : ProcessCase} {result : ProcessResult} {after : Pool}
      (done : server.pool.process orderID choice = some (result, after)) :
      after.workers.length = server.pool.workers.length := by
    cases Pool.process_cases done with
    | handedOff _ _ taken =>
      obtain ⟨before, rest, split, rfl⟩ := Pool.handOff_split taken
      simp [split]
    | _ => rfl
  cases step_cases moved with
  | process _ done | enqueue _ done => exact processed done
  | work done => cases Pool.work_cases done <;> simp
  | fulfilled done =>
    obtain ⟨_, _, rfl⟩ := Pool.fulfilled_cases done
    simp
  | advance done => rw [advance_workers done]
  | _ => rfl

/-- Once the signal has come, `Run` returns. A run of the shutdown takes no more steps than the
parties have left to do and the sweeper's further rounds add to that; until it is over, somebody
can go on without such a round. In the end the sweeper and all workers have left, and no accepted
order is left in the queue. -/
theorem shutdown_completes (reached : run step (start count queueSize) actions = some server)
    (signalled : server.stage ≠ .serving) (done : run step server later = some final) :
    later.length ≤ server.remaining + (later.map extra).sum ∧
    (final.stage ≠ .stopped → ∃ action next, step final action = some next ∧ extra action = 0) ∧
    (final.stage = .stopped → final.sweeper = .returned ∧ final.pool.drained ∧
      (0 < count → final.pool.jobs.buffer = [])) := by
  have along : Along step (fun _ _ => True) server later := .of_forall fun _ _ _ => trivial
  obtain ⟨stopping, bounded⟩ := run_charged remaining extra (fun server => server.stage ≠ .serving)
    (fun _ _ _ before _ moved => remaining_lowered before moved) signalled along done
  have whole := run_append_done reached done
  have orderly : final.Orderly :=
    run_invariant Orderly (fun _ _ _ holds moved => holds.step moved) (start_orderly count queueSize) whole
  refine ⟨by omega, orderly.progress stopping, fun stopped => ?_⟩
  have drained : final.pool.drained := orderly.joined (by rw [stopped]; rfl)
  refine ⟨orderly.staged.joined (by rw [stopped]; rfl), drained, fun some => ?_⟩
  have staffed : final.pool.workers.length = count.toNat := by
    refine run_invariant (fun server => server.pool.workers.length = count.toNat) (fun _ _ _ same moved => ?_)
      (by simp [start, Pool.start]) whole
    exact (step_workers moved).trans same
  obtain ⟨worker, member⟩ : ∃ worker, worker ∈ final.pool.workers :=
    List.exists_mem_of_length_pos (by omega)
  have left : worker = .exited := by simpa [Pool.drained] using List.all_eq_true.mp drained worker member
  exact (orderly.abandoned (left ▸ member)).2

/-- The server of `graceful` takes fifteen steps from the signal to the end. -/
theorem shutdown_completes_graceful : ∃ server final,
    run step (start 1 1) (graceful.take 10) = some server ∧ server.stage = .drainingHttp ∧
    run step server (graceful.drop 10) = some final ∧ final.stage = .stopped ∧
    (graceful.drop 10).length ≤ server.remaining + ((graceful.drop 10).map extra).sum ∧
    final.sweeper = .returned ∧ final.pool.jobs.buffer = [] := by
  obtain ⟨server, final, reached, stage, done, stopped⟩ : ∃ server final,
      run step (start 1 1) (graceful.take 10) = some server ∧ server.stage = .drainingHttp ∧
      run step server (graceful.drop 10) = some final ∧ final.stage = .stopped := ⟨_, _, rfl, rfl, rfl, rfl⟩
  obtain ⟨bounded, _, ended⟩ := shutdown_completes reached (by rw [stage]; decide) done
  obtain ⟨left, _, empty⟩ := ended stopped
  exact ⟨server, final, reached, stage, done, stopped, bounded, left, empty (by decide)⟩

end Server

end OrderProcessing
