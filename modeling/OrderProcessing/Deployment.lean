import OrderProcessing.Api.WebSocket
import OrderProcessing.Backend
import OrderProcessing.Server.Shutdown
import OrderProcessing.Services.Notification
import OrderProcessing.Services.User
import OrderProcessing.Ws.Placement

/-! The parts put together: the backend with the table of notifications, the
server with its pool, and the hub with its connections. A worker carries out one
run of `Fulfill` at a time, and the call of `Send` in it; `Run` stops the hub after
the pool. The process may crash at any moment and be started again on the same
database. Which order ids the handlers and the sweeper hand to the pool is left
open. -/

namespace OrderProcessing

open Library

/-- The run of `Fulfill` that a worker carries out, and its call of `Send`. -/
structure Job where
  run : Nat
  send : Option SendPhase := none

/-- An event that was put into the queue of a client. -/
structure Placement where
  client : Nat
  event : NotificationEvent
  /-- By the fan-out of the hub; otherwise by a replay. -/
  live : Bool
  /-- The client stood in the map under the order of the event. -/
  subscribed : Bool
  deriving DecidableEq, Repr

structure Deployment where
  backend : Backend.State := {}
  notifications : List Notification := []
  server : Server
  /-- One for each worker of the pool. -/
  jobs : List (Option Job)
  sockets : Sockets := {}
  /-- The worker whose message the hub fans out. -/
  serving : Option Nat := none
  /-- The token that was verified for each connection. -/
  tokens : List String := []
  placed : List Placement := []

namespace Deployment

inductive Action where
  | request (action : Backend.Action)
  | updateUser (id : Int) (request : UpdateUserRequest) (reading saving : Option DbError)
  | serve (action : Server.Action)
  | stopHub
  | begin (worker : Nat)
  | proceed (worker : Nat) (action : Backend.Action)
  | send (worker : Nat)
  | create (worker : Nat) (id : Int) (fault : Option DbError)
  | notify (worker : Nat) (order : List Nat)
  | skipNotify (worker : Nat)
  | fanOut
  | result (worker : Nat)
  | skipResult (worker : Nat)
  | mark (worker : Nat) (fault : Option DbError)
  | fulfilled (worker : Nat)
  | connect (protocols : List String) (path : Option Int) (fault : Option DbError)
  | load (client : Nat) (fault : Option DbError)
  | socket (action : Sockets.Action)
  | restart (count : Int) (queueSize : Nat)

/-- What happens in the backend outside of the runs of `Fulfill`. -/
def byRequest : Backend.Action → Bool
  | .fulfill _ | .load _ _ | .charge _ _ | .cancel _ _ _ | .confirm _ _ | .notify _ => false
  | _ => true

/-- A step of the run before its call of `Send`. -/
def ofRun (run : Nat) : Backend.Action → Bool
  | .load index _ | .charge index _ | .cancel index _ _ | .confirm index _ => index = run
  | _ => false

/-- What the server does without the hub and without the end of a run. -/
def ofServer (server : Server) : Server.Action → Bool
  | .fulfilled _ => false
  | .advance => server.stage ≠ .stoppingHub
  | _ => true

/-- What a handler, a pump or the hub does without the database and the workers. -/
def ofSocket : Sockets.Action → Bool
  | .connect _ | .load _ _ | .notify _ _ _ | .fanOut | .stop => false
  | _ => true

theorem ofSocket_calm (fine : ofSocket action) :
    (∀ orderID payload order, action ≠ .notify orderID payload order) ∧ action ≠ .fanOut := by
  constructor
  · rintro _ _ _ rfl
    cases fine
  · rintro rfl
    cases fine

def record (sockets : Sockets) (action : Sockets.Action) : Option Placement :=
  (sockets.places action).map fun (client, event) =>
    { client, event, live := action = .fanOut, subscribed := client ∈ sockets.hub.members event.orderID }

/-- A step of the connections, with what it puts into a queue. -/
def move (state : Deployment) (action : Sockets.Action) : Option Deployment :=
  (Sockets.step state.sockets action).map fun sockets =>
    { state with sockets, placed := state.placed ++ (record state.sockets action).toList }

def act (config : Config) (state : Deployment) (action : Backend.Action) : Option Deployment :=
  (Backend.step config state.backend action).map fun backend => { state with backend }

def setJob (state : Deployment) (worker : Nat) (job : Option Job) : Deployment :=
  { state with jobs := state.jobs.set worker job }

/-- The call of `Send` goes on. -/
def setSend (state : Deployment) (worker : Nat) (job : Job) (send : Option SendPhase) : Deployment :=
  state.setJob worker (some { job with send })

/-- The job of a worker that has one. -/
def job? (state : Deployment) (worker : Nat) : Option Job := (state.jobs[worker]?).join

/-- At the end of the fan-out the hub puts the result into the channel of the
call, unless the call has given up. -/
def answer (state : Deployment) (delivered : Bool) : Deployment :=
  match state.serving with
  | none => state
  | some worker =>
    match state.job? worker with
    | some ⟨run, some (.awaiting note)⟩ =>
      { state with serving := none }.setSend worker ⟨run, none⟩ (some (.answered note delivered))
    | _ => { state with serving := none }

variable (config : Config) (jwt : Jwt)

def step (state : Deployment) : Action → Option Deployment
  | .request action => if byRequest action then state.act config action else none
  | .updateUser id request reading saving =>
    some { state with
      backend := { state.backend with db := (UserService.updateUser state.backend.db id request reading saving).2 } }
  | .serve action =>
    if ofServer state.server action then
      (Server.step state.server action).map fun server => { state with server }
    else none
  | .stopHub =>
    if state.server.stage = .stoppingHub then
      (state.server.advance).bind fun server => { state with server }.move .stop
    else none
  | .begin worker =>
    match state.server.pool.workers[worker]?, state.jobs[worker]? with
    | some (.fulfilling orderID), some none =>
      (state.setJob worker (some ⟨state.backend.runs.length, none⟩)).act config (.fulfill orderID)
    | _, _ => none
  | .proceed worker action =>
    match state.job? worker with
    | some ⟨run, none⟩ => if ofRun run action then state.act config action else none
    | _ => none
  | .send worker =>
    match state.job? worker with
    | some ⟨run, none⟩ =>
      match state.backend.runs[run]? with
      | some ⟨orderID, .notifying message⟩ =>
        (state.setSend worker ⟨run, none⟩ (some (.creating orderID message))).act config (.notify run)
      | _ => none
    | _ => none
  | .create worker id fault =>
    match state.job? worker with
    | some ⟨run, some (.creating orderID message)⟩ =>
      let outcome := NotificationService.create state.backend.db state.notifications id orderID message fault
      some ({ state with notifications := outcome.2 }.setSend worker ⟨run, none⟩ outcome.1)
    | _ => none
  | .notify worker order =>
    match state.job? worker with
    | some ⟨run, some (.notifying note)⟩ =>
      ({ state with serving := some worker }.setSend worker ⟨run, none⟩ (some (.awaiting note))).move
        (.notify note.orderID (.new note) order)
    | _ => none
  | .skipNotify worker =>
    match state.job? worker with
    | some ⟨run, some (.notifying note)⟩ =>
      if state.sockets.hub.done then some (state.setSend worker ⟨run, none⟩ (some (.marking note false))) else none
    | _ => none
  | .fanOut =>
    match state.sockets.hub.phase with
    | .fanning _ [] delivered => (state.answer delivered).move .fanOut
    | _ => state.move .fanOut
  | .result worker =>
    match state.job? worker with
    | some ⟨run, some (.answered note delivered)⟩ =>
      some (state.setSend worker ⟨run, none⟩ (some (.marking note delivered)))
    | _ => none
  | .skipResult worker =>
    match state.job? worker with
    | some ⟨run, some (.awaiting note)⟩ | some ⟨run, some (.answered note _)⟩ =>
      if state.sockets.hub.done then some (state.setSend worker ⟨run, none⟩ (some (.marking note false))) else none
    | _ => none
  | .mark worker fault =>
    match state.job? worker with
    | some ⟨run, some (.marking note delivered)⟩ =>
      let notifications := NotificationService.mark state.notifications state.backend.clock note delivered fault
      some ({ state with notifications }.setSend worker ⟨run, none⟩ none)
    | _ => none
  | .fulfilled worker =>
    match state.job? worker with
    | some ⟨run, none⟩ =>
      if (state.backend.runs[run]?).any fun run => run.phase = .finished then
        (Server.step state.server (.fulfilled worker)).map fun server => { state with server }.setJob worker none
      else none
    | _ => none
  | .connect protocols path fault =>
    match WebSocketHandler.authorize jwt state.backend.clock state.backend.db protocols path fault with
    | .error _ => some state
    | .ok (token, orderID) => { state with tokens := state.tokens ++ [token] }.move (.connect orderID)
  | .load index fault =>
    match state.sockets.clients[index]? with
    | some client =>
      let notes := NotificationRepository.listByOrder state.notifications client.orderID fault
      state.move (.load index (notes.toOption.map (List.map .new)))
    | none => none
  | .socket action => if ofSocket action then state.move action else none
  | .restart count queueSize =>
    some { state with
      server := Server.start count queueSize
      jobs := List.replicate count.toNat none
      sockets := state.sockets.restart
      serving := none }

/-- The first process, on an empty database. -/
def start (count : Int) (queueSize : Nat) : Deployment :=
  { server := Server.start count queueSize, jobs := List.replicate count.toNat none }

/-- What an enabled action does, and where the party it names stands. -/
inductive Stepped (state : Deployment) : Action → Deployment → Prop where
  | request (outside : byRequest action) (moved : Backend.step config state.backend action = some store) :
      Stepped state (.request action) { state with backend := store }
  | updateUser : Stepped state (.updateUser key request reading saving)
      { state with
        backend := { state.backend with db := (UserService.updateUser state.backend.db key request reading saving).2 } }
  | serve (fine : ofServer state.server action) (moved : Server.step state.server action = some served) :
      Stepped state (.serve action) { state with server := served }
  | stopHub (stage : state.server.stage = .stoppingHub) (moved : Server.step state.server .advance = some served)
      (stopped : Sockets.step state.sockets .stop = some wired) :
      Stepped state .stopHub { state with server := served, sockets := wired }
  | begin (busy : state.server.pool.workers[worker]? = some (.fulfilling orderID))
      (free : state.jobs[worker]? = some none)
      (moved : Backend.step config state.backend (.fulfill orderID) = some store) :
      Stepped state (.begin worker) { state.setJob worker (some ⟨state.backend.runs.length, none⟩) with backend := store }
  | proceed (found : state.jobs[worker]? = some (some ⟨place, none⟩)) (own : ofRun place action)
      (moved : Backend.step config state.backend action = some store) :
      Stepped state (.proceed worker action) { state with backend := store }
  | send (found : state.jobs[worker]? = some (some ⟨place, none⟩))
      (due : state.backend.runs[place]? = some ⟨orderID, .notifying message⟩)
      (moved : Backend.step config state.backend (.notify place) = some store) :
      Stepped state (.send worker)
        { state.setSend worker ⟨place, none⟩ (some (.creating orderID message)) with backend := store }
  | create (found : state.jobs[worker]? = some (some ⟨place, some (.creating orderID message)⟩))
      (outcome : NotificationService.create state.backend.db state.notifications key orderID message fault =
        (send, rows)) :
      Stepped state (.create worker key fault) ({ state with notifications := rows }.setSend worker ⟨place, none⟩ send)
  | notify (found : state.jobs[worker]? = some (some ⟨place, some (.notifying note)⟩))
      (moved : Sockets.step state.sockets (.notify note.orderID (.new note) order) = some wired) :
      Stepped state (.notify worker order)
        ({ state with sockets := wired, serving := some worker }.setSend worker ⟨place, none⟩ (some (.awaiting note)))
  | skipNotify (found : state.jobs[worker]? = some (some ⟨place, some (.notifying note)⟩))
      (stopped : state.sockets.hub.done) :
      Stepped state (.skipNotify worker) (state.setSend worker ⟨place, none⟩ (some (.marking note false)))
  | fanOut (further : ∀ payload delivered, state.sockets.hub.phase ≠ .fanning payload [] delivered)
      (moved : Sockets.step state.sockets .fanOut = some wired) :
      Stepped state .fanOut
        { state with sockets := wired, placed := state.placed ++ (record state.sockets .fanOut).toList }
  | answered (phase : state.sockets.hub.phase = .fanning payload [] delivered)
      (moved : Sockets.step state.sockets .fanOut = some wired) (served : state.serving = some worker)
      (found : state.jobs[worker]? = some (some ⟨place, some (.awaiting note)⟩)) :
      Stepped state .fanOut
        ({ state with sockets := wired, serving := none }.setSend worker ⟨place, none⟩ (some (.answered note delivered)))
  | unanswered (phase : state.sockets.hub.phase = .fanning payload [] delivered)
      (moved : Sockets.step state.sockets .fanOut = some wired)
      (gone : ∀ worker, state.serving = some worker → ∀ place note,
        state.jobs[worker]? ≠ some (some ⟨place, some (.awaiting note)⟩)) :
      Stepped state .fanOut { state with sockets := wired, serving := none }
  | result (found : state.jobs[worker]? = some (some ⟨place, some (.answered note delivered)⟩)) :
      Stepped state (.result worker) (state.setSend worker ⟨place, none⟩ (some (.marking note delivered)))
  | skipResult (found : state.jobs[worker]? = some (some ⟨place, some send⟩)) (held : send.note? = some note)
      (stopped : state.sockets.hub.done) :
      Stepped state (.skipResult worker) (state.setSend worker ⟨place, none⟩ (some (.marking note false)))
  | mark (found : state.jobs[worker]? = some (some ⟨place, some (.marking note delivered)⟩)) :
      Stepped state (.mark worker fault)
        ({ state with
          notifications := NotificationService.mark state.notifications state.backend.clock note delivered fault
          }.setSend worker ⟨place, none⟩ none)
  | fulfilled (found : state.jobs[worker]? = some (some ⟨place, none⟩))
      (moved : Server.step state.server (.fulfilled worker) = some served) :
      Stepped state (.fulfilled worker) ({ state with server := served }.setJob worker none)
  | rejected : Stepped state (.connect protocols path fault) state
  | connect (passed : WebSocketHandler.authorize jwt state.backend.clock state.backend.db protocols path fault =
        .ok (token, orderID)) (moved : Sockets.step state.sockets (.connect orderID) = some wired) :
      Stepped state (.connect protocols path fault) { state with sockets := wired, tokens := state.tokens ++ [token] }
  | load {client : Client} {index : Nat} (found : state.sockets.clients[index]? = some client)
      (moved : Sockets.step state.sockets (.load index
        ((NotificationRepository.listByOrder state.notifications client.orderID fault).toOption.map (List.map .new))) =
        some wired) :
      Stepped state (.load index fault) { state with sockets := wired }
  | socket (fine : ofSocket action) (moved : Sockets.step state.sockets action = some wired) :
      Stepped state (.socket action)
        { state with sockets := wired, placed := state.placed ++ (record state.sockets action).toList }
  | restart : Stepped state (.restart count queueSize)
      { state with
        server := Server.start count queueSize
        jobs := List.replicate count.toNat none
        sockets := state.sockets.restart
        serving := none }

variable {config : Config} {jwt : Jwt} {state next : Deployment} {action : Action}

theorem job_found {worker : Nat} {job : Job} (found : state.job? worker = some job) :
    state.jobs[worker]? = some (some job) := Option.join_eq_some_iff.mp found

theorem act_cases {action : Backend.Action} (moved : state.act config action = some next) :
    ∃ backend, Backend.step config state.backend action = some backend ∧ next = { state with backend } := by
  obtain ⟨backend, done, rfl⟩ := Option.map_eq_some_iff.mp moved
  exact ⟨backend, done, rfl⟩

theorem move_cases {action : Sockets.Action} (moved : state.move action = some next) :
    ∃ sockets, Sockets.step state.sockets action = some sockets ∧
      next = { state with sockets, placed := state.placed ++ (record state.sockets action).toList } := by
  obtain ⟨sockets, done, rfl⟩ := Option.map_eq_some_iff.mp moved
  exact ⟨sockets, done, rfl⟩

theorem answer_cases (state : Deployment) (delivered : Bool) :
    (∃ worker run note, state.serving = some worker ∧
      state.jobs[worker]? = some (some ⟨run, some (.awaiting note)⟩) ∧ state.answer delivered =
        { state with serving := none }.setSend worker ⟨run, none⟩ (some (.answered note delivered))) ∨
    ((∀ worker, state.serving = some worker → ∀ run note,
        state.jobs[worker]? ≠ some (some ⟨run, some (.awaiting note)⟩)) ∧
      state.answer delivered = { state with serving := none }) := by
  unfold answer
  cases served : state.serving with
  | none =>
    obtain ⟨⟩ := state
    cases served
    exact .inr ⟨nofun, rfl⟩
  | some worker =>
    simp only
    split
    · rename_i run note found
      exact .inl ⟨worker, run, note, rfl, job_found found, rfl⟩
    · rename_i other
      refine .inr ⟨fun named same run note found => ?_, rfl⟩
      cases same
      exact other run note (Option.join_eq_some_iff.mpr found)

theorem step_cases (moved : step config jwt state action = some next) : Stepped config jwt state action next := by
  cases action with
  | request action =>
    simp only [step] at moved
    split at moved
    · obtain ⟨backend, done, rfl⟩ := act_cases moved
      exact .request ‹_› done
    · cases moved
  | updateUser =>
    cases moved
    exact .updateUser
  | serve action =>
    simp only [step] at moved
    split at moved
    · obtain ⟨server, done, rfl⟩ := Option.map_eq_some_iff.mp moved
      exact .serve ‹_› done
    · cases moved
  | stopHub =>
    simp only [step] at moved
    split at moved
    · obtain ⟨server, advanced, moved⟩ := Option.bind_eq_some_iff.mp moved
      obtain ⟨sockets, done, rfl⟩ := move_cases moved
      simp only [record, Sockets.places, Option.map_none, Option.toList_none, List.append_nil]
      exact .stopHub ‹_› advanced done
    · cases moved
  | begin worker =>
    simp only [step] at moved
    split at moved
    · obtain ⟨backend, done, rfl⟩ := act_cases moved
      exact .begin ‹_› ‹_› done
    · cases moved
  | proceed worker action =>
    simp only [step] at moved
    split at moved
    · rename_i found
      split at moved
      · obtain ⟨backend, done, rfl⟩ := act_cases moved
        exact .proceed (job_found found) ‹_› done
      · cases moved
    · cases moved
  | send worker =>
    simp only [step] at moved
    split at moved
    · rename_i found
      split at moved
      · obtain ⟨backend, done, rfl⟩ := act_cases moved
        exact .send (job_found found) ‹_› done
      · cases moved
    · cases moved
  | create | result | mark =>
    simp only [step] at moved
    split at moved <;> cases moved
    rename_i found
    first
      | exact .create (job_found found) rfl
      | exact .result (job_found found)
      | exact .mark (job_found found)
  | notify worker order =>
    simp only [step] at moved
    split at moved
    · rename_i found
      obtain ⟨sockets, done, rfl⟩ := move_cases moved
      simp only [record, Sockets.places, Option.map_none, Option.toList_none, List.append_nil]
      exact .notify (job_found found) done
    · cases moved
  | skipNotify worker =>
    simp only [step] at moved
    split at moved
    · rename_i found
      split at moved <;> cases moved
      exact .skipNotify (job_found found) ‹_›
    · cases moved
  | fanOut =>
    simp only [step] at moved
    split at moved
    · rename_i payload delivered phase
      obtain ⟨sockets, done, rfl⟩ := move_cases moved
      rcases answer_cases state delivered with ⟨worker, run, note, served, found, same⟩ | ⟨gone, same⟩
      all_goals
        rw [same] at done ⊢
        simp only [record, Sockets.places, setSend, setJob, phase, Option.map_none, Option.toList_none,
          List.append_nil] at done ⊢
      · exact .answered phase done served found
      · exact .unanswered phase done gone
    · rename_i further
      obtain ⟨sockets, done, rfl⟩ := move_cases moved
      exact .fanOut further done
  | skipResult worker =>
    simp only [step] at moved
    split at moved
    · rename_i found
      split at moved <;> cases moved
      exact .skipResult (job_found found) rfl ‹_›
    · rename_i found
      split at moved <;> cases moved
      exact .skipResult (job_found found) rfl ‹_›
    · cases moved
  | fulfilled worker =>
    simp only [step] at moved
    split at moved
    · rename_i found
      split at moved
      · obtain ⟨server, done, rfl⟩ := Option.map_eq_some_iff.mp moved
        exact .fulfilled (job_found found) done
      · cases moved
    · cases moved
  | connect protocols path fault =>
    simp only [step] at moved
    split at moved
    · cases moved
      exact .rejected
    · rename_i passed
      obtain ⟨sockets, done, rfl⟩ := move_cases moved
      simp only [record, Sockets.places, Option.map_none, Option.toList_none, List.append_nil]
      exact .connect passed done
  | load index fault =>
    simp only [step] at moved
    split at moved
    · rename_i found
      obtain ⟨sockets, done, rfl⟩ := move_cases moved
      simp only [record, Sockets.places, Option.map_none, Option.toList_none, List.append_nil]
      exact .load found done
    · cases moved
  | socket action =>
    simp only [step] at moved
    split at moved
    · obtain ⟨sockets, done, rfl⟩ := move_cases moved
      exact .socket ‹_› done
    · cases moved
  | restart =>
    cases moved
    exact .restart

/-- Every step is a step of the backend, an edit of the users, or leaves it alone. -/
theorem step_backend (moved : step config jwt state action = some next) :
    next.backend = state.backend ∨ (∃ inner, Backend.step config state.backend inner = some next.backend) ∨
      ∃ users, next.backend = { state.backend with db := { state.backend.db with users } } := by
  cases step_cases moved with
  | request _ done | begin _ _ done | proceed _ _ done | send _ _ done => exact .inr (.inl ⟨_, done⟩)
  | @updateUser key request reading saving =>
    rcases UserService.updateUser_cases state.backend.db key request reading saving with
      ⟨err, same⟩ | ⟨_, _, _, after, _, saved, stored⟩
    · exact .inl (by rw [same])
    · refine .inr (.inr ⟨after.users, ?_⟩)
      rw [saved, ← (UserRepository.updateUser_saved stored).2]
  | _ => exact .inl rfl

/-- Every step is a step of the connections, with what it puts into a queue and what
it reads out of the table, or their end, or it leaves them alone. -/
theorem step_sockets (moved : step config jwt state action = some next) :
    (next.sockets = state.sockets ∧ next.placed = state.placed) ∨
    (∃ inner, Sockets.step state.sockets inner = some next.sockets ∧
      next.placed = state.placed ++ (record state.sockets inner).toList ∧
      ∀ index notes, inner = .load index (some notes) → ∃ client fault, state.sockets.clients[index]? = some client ∧
        (NotificationRepository.listByOrder state.notifications client.orderID fault).toOption.map
          (List.map NotificationEvent.new) = some notes) ∨
    (next.sockets = state.sockets.restart ∧ next.placed = state.placed) := by
  cases step_cases moved with
  | stopHub _ _ done | notify _ done | connect _ done =>
    exact .inr (.inl ⟨_, done, (List.append_nil _).symm, nofun⟩)
  | answered phase done | unanswered phase done =>
    exact .inr (.inl ⟨_, done, by simp [record, Sockets.places, phase, setSend, setJob], nofun⟩)
  | fanOut _ done => exact .inr (.inl ⟨_, done, rfl, nofun⟩)
  | socket fine done =>
    refine .inr (.inl ⟨_, done, rfl, ?_⟩)
    rintro index notes rfl
    cases fine
  | @load fault wiring client index found done =>
    refine .inr (.inl ⟨_, done, (List.append_nil _).symm, fun other notes named => ?_⟩)
    obtain ⟨rfl, answer⟩ := Sockets.Action.load.inj named
    exact ⟨client, fault, found, answer⟩
  | restart => exact .inr (.inr ⟨rfl, rfl⟩)
  | _ => exact .inl ⟨rfl, rfl⟩

end Deployment

end OrderProcessing
