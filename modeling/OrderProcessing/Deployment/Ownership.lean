import OrderProcessing.Deployment.Wiring

/-! What ends up in the queue of a client: notifications of its own order, which
belongs to the user whose token was verified when the client connected. -/

namespace OrderProcessing.Deployment

open Library

variable {config : Config} {jwt : Jwt} {state next : Deployment} {action : Action} {inner : Sockets.Action}

/-- The event is that of a row in the table. -/
def Recorded (state : Deployment) (event : NotificationEvent) : Prop :=
  ∃ note ∈ state.notifications, NotificationEvent.new note = event

theorem Recorded.step (recorded : Recorded state event) (moved : Deployment.step config jwt state action = some next) :
    Recorded next event := by
  obtain ⟨note, member, rfl⟩ := recorded
  rcases step_table moved with same | ⟨new, grown⟩ | ⟨_, _, marked, delivered, time, _, written⟩
  · exact ⟨note, same ▸ member, rfl⟩
  · exact ⟨note, by rw [grown]; exact List.mem_append_left _ member, rfl⟩
  · refine ⟨_, written ▸ List.mem_map_of_mem member, ?_⟩
    split <;> rfl

/-- Queues and replays hold events of the client's order, out of the table, and
every event in a queue was put there. -/
structure Logged (state : Deployment) : Prop where
  recorded : ∀ placement ∈ state.placed, Recorded state placement.event
  addressed : ∀ placement ∈ state.placed, ∃ client, state.sockets.clients[placement.client]? = some client ∧
    placement.event.orderID = client.orderID
  subscribed : ∀ placement ∈ state.placed, placement.live → placement.subscribed
  replays : ∀ (index : Nat) client notes, state.sockets.clients[index]? = some client →
    client.handler = .replaying notes → ∀ event ∈ notes, event.orderID = client.orderID ∧ Recorded state event
  queued : ∀ (index : Nat) client, state.sockets.clients[index]? = some client →
    (∀ event ∈ client.send.buffer, ∃ placement ∈ state.placed, placement.client = index ∧ placement.event = event) ∧
    client.send.capacity = sendBuffer ∧
    client.send.buffer.length ≤ state.placed.countP fun placement => placement.client = index

/-- What the step puts into a queue is an event of the client's order, out of the table. -/
theorem Logged.places (logged : Logged state) (wired : Wired state)
    (placed : state.sockets.places inner = some (index, event)) :
    Recorded state event ∧ (inner = .fanOut → index ∈ state.sockets.hub.members event.orderID) ∧
      ∃ client, state.sockets.clients[index]? = some client ∧ event.orderID = client.orderID := by
  cases inner with
  | fanOut =>
    simp only [Sockets.places] at placed
    split at placed
    · rename_i payload actor rest delivered phase
      split at placed
      · rename_i client found
        split at placed <;> cases placed
        obtain ⟨targets, worker, job, note, _, held, waits, rfl⟩ := wired.served.fanned _ _ _ phase
        have member := targets index List.mem_cons_self
        obtain ⟨_, located, same, _⟩ := wired.parts.sound.known _ index member
        have noted : noteOf job = some note := by
          unfold awaits at waits
          split at waits <;> cases waits
          rfl
        exact ⟨⟨note, (wired.rows.held worker job note held noted).1, rfl⟩, fun _ => member, _, located, same.symm⟩
      · cases placed
    · cases placed
  | replay actor =>
    simp only [Sockets.places] at placed
    split at placed
    · rename_i client found
      split at placed
      · rename_i note rest waiting
        split at placed <;> cases placed
        obtain ⟨same, recorded⟩ := logged.replays index client _ found waiting event List.mem_cons_self
        exact ⟨recorded, by simp, client, found, same⟩
      · cases placed
    · cases placed
  | _ => cases placed

/-- A step of the connections, with what it puts into a queue. -/
theorem Logged.move (logged : Logged state) (wired : Wired state)
    (moved : Deployment.step config jwt state action = some next)
    (done : Sockets.step state.sockets inner = some next.sockets)
    (placed : next.placed = state.placed ++ (record state.sockets inner).toList)
    (listed : ∀ index notes, inner = .load index (some notes) → ∀ client, state.sockets.clients[index]? = some client →
      ∀ event ∈ notes, event.orderID = client.orderID ∧ Recorded state event) : Logged next := by
  -- a placement is an old one or the one of this step
  have entries (placement : Placement) (member : placement ∈ next.placed) : placement ∈ state.placed ∨
      ∃ index event, state.sockets.places inner = some (index, event) ∧
        placement = ⟨index, event, inner = .fanOut, index ∈ state.sockets.hub.members event.orderID⟩ := by
    rw [placed, List.mem_append, Option.mem_toList] at member
    refine member.imp_right fun new => ?_
    obtain ⟨⟨index, event⟩, there, rfl⟩ := Option.map_eq_some_iff.mp new
    exact ⟨index, event, there, rfl⟩
  refine ⟨fun placement member => ?_, fun placement member => ?_, fun placement member live => ?_, ?_, ?_⟩
  · rcases entries placement member with old | ⟨index, event, there, rfl⟩
    · exact (logged.recorded placement old).step moved
    · exact (logged.places wired there).1.step moved
  · obtain ⟨client, found, same⟩ : ∃ client, state.sockets.clients[placement.client]? = some client ∧
        placement.event.orderID = client.orderID := by
      rcases entries placement member with old | ⟨index, event, there, rfl⟩
      · exact logged.addressed placement old
      · exact (logged.places wired there).2.2
    obtain ⟨new, located, touched⟩ := Sockets.step_located done found
    exact ⟨new, located, same.trans touched.orderID.symm⟩
  · rcases entries placement member with old | ⟨index, event, there, rfl⟩
    · exact logged.subscribed placement old live
    · exact decide_eq_true ((logged.places wired there).2.1 (of_decide_eq_true live))
  · intro index new notes located replaying event member
    rcases Sockets.step_touched done located with ⟨_, _, _, rfl⟩ | ⟨client, found, touched⟩
    · cases replaying
    · rw [touched.orderID]
      rcases touched.replaying replaying with ⟨earlier, before, rest⟩ | rfl
      · obtain ⟨same, recorded⟩ := logged.replays index client earlier found before event (rest.subset member)
        exact ⟨same, recorded.step moved⟩
      · obtain ⟨same, recorded⟩ := listed index notes rfl client found event member
        exact ⟨same, recorded.step moved⟩
  · intro index new located
    rcases Sockets.step_touched done located with ⟨_, _, _, rfl⟩ | ⟨client, found, touched⟩
    · exact ⟨nofun, rfl, Nat.zero_le _⟩
    · obtain ⟨held, capacity, bounded⟩ := logged.queued index client found
      obtain ⟨size, ⟨event, there, longer⟩ | shorter⟩ := touched.queue
      · have new : record state.sockets inner =
            some ⟨index, event, inner = .fanOut, index ∈ state.sockets.hub.members event.orderID⟩ := by
          simp [record, there]
        rw [placed, new, longer]
        refine ⟨fun other member => ?_, size.trans capacity, ?_⟩
        · rcases List.mem_append.mp member with old | added
          · obtain ⟨placement, present, facts⟩ := held other old
            exact ⟨placement, List.mem_append_left _ present, facts⟩
          · cases List.mem_singleton.mp added
            exact ⟨_, List.mem_append_right _ (List.mem_singleton.mpr rfl), rfl, rfl⟩
        · simpa using bounded
      · rw [placed]
        refine ⟨fun other member => ?_, size.trans capacity, ?_⟩
        · obtain ⟨placement, present, facts⟩ := held other (shorter.subset member)
          exact ⟨placement, List.mem_append_left _ present, facts⟩
        · rw [List.countP_append]
          exact (shorter.length_le.trans bounded).trans (Nat.le_add_right _ _)

/-- A step that leaves the connections alone. -/
theorem Logged.of_same (logged : Logged state) (moved : Deployment.step config jwt state action = some next)
    (sockets : next.sockets = state.sockets) (placed : next.placed = state.placed) : Logged next where
  recorded placement member := (logged.recorded placement (placed ▸ member)).step moved
  addressed placement member := by
    rw [sockets]
    exact logged.addressed placement (placed ▸ member)
  subscribed placement member := logged.subscribed placement (placed ▸ member)
  replays index client notes found replaying event member := by
    obtain ⟨same, recorded⟩ := logged.replays index client notes (sockets ▸ found) replaying event member
    exact ⟨same, recorded.step moved⟩
  queued index client found := by
    rw [placed]
    exact logged.queued index client (sockets ▸ found)

/-- The rows that a handler replays are those of its order. -/
theorem listed_rows (found : event ∈ notes)
    (answer : (NotificationRepository.listByOrder state.notifications orderID fault).toOption.map
      (List.map NotificationEvent.new) = some notes) :
    event.orderID = orderID ∧ Recorded state event := by
  cases fault with
  | some err => cases answer
  | none =>
    cases answer
    obtain ⟨note, member, rfl⟩ := List.mem_map.mp found
    obtain ⟨stored, own⟩ := List.mem_filter.mp ((List.perm_insertionSort _ _).mem_iff.mp member)
    exact ⟨of_decide_eq_true own, note, stored, rfl⟩

theorem Logged.step (logged : Logged state) (wired : Wired state)
    (moved : Deployment.step config jwt state action = some next) : Logged next := by
  rcases step_sockets moved with ⟨sockets, placed⟩ | ⟨inner, done, placed, read⟩ | ⟨sockets, placed⟩
  · exact logged.of_same moved sockets placed
  · refine logged.move wired moved done placed fun index notes named holder located event member => ?_
    obtain ⟨client, fault, found, answer⟩ := read index notes named
    cases found.symm.trans located
    exact listed_rows member answer
  · refine ⟨fun placement member => ?_, fun placement member => ?_, fun placement member => ?_, ?_, ?_⟩
    · exact (logged.recorded placement (placed ▸ member)).step moved
    · obtain ⟨client, found, same⟩ := logged.addressed placement (placed ▸ member)
      exact ⟨{ client with handler := .returned, pump := .returned },
        by rw [sockets, Sockets.restart_located, found]; rfl, same⟩
    · exact logged.subscribed placement (placed ▸ member)
    · intro index new notes located replaying
      rw [sockets, Sockets.restart_located] at located
      obtain ⟨client, _, rfl⟩ := Option.map_eq_some_iff.mp located
      cases replaying
    · intro index new located
      rw [sockets, Sockets.restart_located] at located
      obtain ⟨client, found, rfl⟩ := Option.map_eq_some_iff.mp located
      rw [placed]
      exact logged.queued index client found

theorem start_logged (count : Int) (queueSize : Nat) : Logged (start count queueSize) where
  recorded := nofun
  addressed := nofun
  subscribed := nofun
  replays := nofun
  queued := nofun

/-- Every client connected with a token of the owner of its order. -/
structure Owned (jwt : Jwt) (state : Deployment) : Prop where
  issued : state.tokens.length = state.sockets.clients.length
  owner : ∀ (index : Nat) client token, state.sockets.clients[index]? = some client →
    state.tokens[index]? = some token → ∃ claims order, jwt.verify token = some claims ∧
      state.backend.db.order? client.orderID = some order ∧ order.userID = claims.userID

/-- Nobody connects; orders keep their owners. -/
theorem Owned.keep (owned : Owned jwt state) (parts : Parts state)
    (moved : Deployment.step config jwt state action = some next) (tokens : next.tokens = state.tokens)
    (length : next.sockets.clients.length = state.sockets.clients.length)
    (clients : ∀ (index : Nat) new, next.sockets.clients[index]? = some new →
      ∃ client, state.sockets.clients[index]? = some client ∧ new.orderID = client.orderID) : Owned jwt next := by
  refine ⟨by rw [tokens, length]; exact owned.issued, fun index new token located given => ?_⟩
  obtain ⟨client, found, same⟩ := clients index new located
  obtain ⟨claims, order, verified, stored, owner⟩ := owned.owner index client token found (tokens ▸ given)
  obtain ⟨later, kept, unchanged⟩ := parts.order_kept moved stored
  exact ⟨claims, later, verified, same ▸ kept, unchanged.trans owner⟩

theorem Owned.move (owned : Owned jwt state) (parts : Parts state)
    (moved : Deployment.step config jwt state action = some next) (tokens : next.tokens = state.tokens)
    (done : Sockets.step state.sockets inner = some next.sockets) (inside : ∀ orderID, inner ≠ .connect orderID) :
    Owned jwt next := by
  refine owned.keep parts moved tokens ?_ fun index new located => ?_
  · rcases Sockets.step_length done with same | ⟨orderID, named, _⟩
    · exact same
    · exact absurd named (inside orderID)
  · rcases Sockets.step_touched done located with ⟨orderID, named, _⟩ | ⟨client, found, touched⟩
    · exact absurd named (inside orderID)
    · exact ⟨client, found, touched.orderID⟩

theorem Owned.step (owned : Owned jwt state) (parts : Parts state)
    (moved : Deployment.step config jwt state action = some next) : Owned jwt next := by
  cases step_cases moved with
  | request | updateUser | serve | begin | proceed | send | create | skipNotify | result | skipResult | mark
  | fulfilled | rejected => exact owned.keep parts moved rfl rfl fun _ new located => ⟨new, located, rfl⟩
  | stopHub _ _ done | notify _ done | fanOut _ done | answered _ done | unanswered _ done | load _ done =>
    exact owned.move parts moved rfl done nofun
  | socket fine done =>
    refine owned.move parts moved rfl done ?_
    rintro orderID rfl
    cases fine
  | @connect protocols path fault token orderID wiring passed done =>
    cases done
    refine ⟨by simp [owned.issued], fun index new held located given => ?_⟩
    rw [List.getElem?_append] at located given
    rw [owned.issued] at given
    split at located
    · rename_i inside
      rw [if_pos inside] at given
      exact owned.owner index new held located given
    · rename_i beyond
      rw [if_neg beyond] at given
      cases place : index - state.sockets.clients.length with
      | succ rest => simp [place] at located
      | zero =>
        rw [place] at located given
        cases located
        cases given
        exact WebSocketHandler.authorize_passed passed
  | restart =>
    refine owned.keep parts moved rfl (by simp [Sockets.restart]) fun index new located => ?_
    rw [Sockets.restart_located] at located
    obtain ⟨client, found, rfl⟩ := Option.map_eq_some_iff.mp located
    exact ⟨client, found, rfl⟩

/-- All that is known of the queues. -/
structure Tracked (jwt : Jwt) (state : Deployment) : Prop where
  wired : Wired state
  logged : Logged state
  owned : Owned jwt state

theorem tracked_run (reached : run (step config jwt) (start count queueSize) actions = some state) :
    Tracked jwt state := by
  refine run_invariant (Tracked jwt) (fun _ _ _ tracked moved => ?_)
    ⟨start_wired count queueSize, start_logged count queueSize, ⟨rfl, nofun⟩⟩ reached
  exact ⟨tracked.wired.step moved, tracked.logged.step tracked.wired moved,
    tracked.owned.step tracked.wired.parts moved⟩

/-- Every event that was ever put into the queue of a client is about the order
the client watches, and that order belongs to the user of the client's token. -/
theorem subscribers_see_own_orders (reached : run (step config jwt) (start count queueSize) actions = some state) :
    (∀ placement ∈ state.placed, ∃ client token claims order,
      state.sockets.clients[placement.client]? = some client ∧ state.tokens[placement.client]? = some token ∧
      jwt.verify token = some claims ∧ placement.event.orderID = client.orderID ∧
      state.backend.db.order? client.orderID = some order ∧ order.userID = claims.userID) ∧
    ∀ (index : Nat) client, state.sockets.clients[index]? = some client → ∀ event ∈ client.send.buffer,
      ∃ placement ∈ state.placed, placement.client = index ∧ placement.event = event := by
  obtain ⟨wired, logged, owned⟩ := tracked_run reached
  refine ⟨fun placement member => ?_, fun index client found => (logged.queued index client found).1⟩
  obtain ⟨client, found, about⟩ := logged.addressed placement member
  have inside : placement.client < state.tokens.length :=
    owned.issued ▸ (List.getElem?_eq_some_iff.mp found).1
  have given := List.getElem?_eq_getElem inside
  obtain ⟨claims, order, verified, stored, owner⟩ := owned.owner placement.client client _ found given
  exact ⟨client, _, claims, order, found, given, verified, about, stored, owner⟩

/-- An order is stored, charged and confirmed; its message is about to be sent. -/
def settling : List Action :=
  Backend.ordered.map .request ++
    [.serve .accept, .serve (.persist 0 1), .serve (.process 0 .enqueue), .serve (.work 0), .begin 0,
     .proceed 0 (.load 0 none), .proceed 0 (.charge 0 (.latency false "a")), .proceed 0 (.confirm 0 {}), .send 0]

def customer : Claims := ⟨1, "customer", 60⟩

/-- The handler has read the notification when the hub pushes it. -/
def watching : List Action :=
  [.socket (.register 0), .socket (.startPump 0), .create 0 5 none, .load 0 none, .notify 0 [0], .fanOut, .fanOut,
   .socket (.replay 0), .result 0, .mark 0 none, .fulfilled 0]

/-- The owner of the order connects, and then the rest happens. -/
def visit (jwt : Jwt) (rest : List Action) : List Action :=
  settling ++ .connect [WebSocketHandler.subprotocolSentinel, jwt.sign customer] (some 1) none :: rest

def settled (jwt : Jwt) : Deployment := (run (step Backend.demo jwt) (start 1 4) settling).getD (start 1 4)

def arrived (jwt : Jwt) : Deployment :=
  { settled jwt with tokens := [jwt.sign customer], sockets := { clients := [{ orderID := 1 }] } }

theorem visit_run (jwt : Jwt) (rest : List Action) : run (step Backend.demo jwt) (start 1 4) (visit jwt rest) =
    run (step Backend.demo jwt) (arrived jwt) rest := by
  have lasting : (settled jwt).backend.clock < customer.expiresAt := show 0 < 60 by decide
  have passed : WebSocketHandler.authorize jwt (settled jwt).backend.clock (settled jwt).backend.db
      [WebSocketHandler.subprotocolSentinel, jwt.sign customer] (some 1) none = .ok (jwt.sign customer, 1) :=
    WebSocketHandler.authorize_sign lasting (by decide) rfl rfl
  have done : run (step Backend.demo jwt) (start 1 4) settling = some (settled jwt) := rfl
  rw [visit, run_append, done, Option.bind_some, run_cons, step, passed]
  rfl

def confirmation : NotificationEvent := ⟨5, 1, Fulfiller.confirmedMessage 1⟩

theorem subscribers_see_own_orders_visit : ∃ state,
    run (step Backend.demo .unary) (start 1 4) (visit .unary watching) = some state ∧
    state.placed = [⟨0, confirmation, true, true⟩, ⟨0, confirmation, false, true⟩] ∧
    (∀ placement ∈ state.placed, ∃ client token claims order,
      state.sockets.clients[placement.client]? = some client ∧ state.tokens[placement.client]? = some token ∧
      Jwt.unary.verify token = some claims ∧ placement.event.orderID = client.orderID ∧
      state.backend.db.order? client.orderID = some order ∧ order.userID = claims.userID) ∧
    ∀ (index : Nat) client, state.sockets.clients[index]? = some client → ∀ event ∈ client.send.buffer,
      ∃ placement ∈ state.placed, placement.client = index ∧ placement.event = event := by
  obtain ⟨state, done, placed⟩ : ∃ state, run (step Backend.demo .unary) (arrived .unary) watching = some state ∧
      state.placed = [⟨0, confirmation, true, true⟩, ⟨0, confirmation, false, true⟩] := ⟨_, rfl, rfl⟩
  have reached := (visit_run .unary watching).trans done
  exact ⟨state, reached, placed, subscribers_see_own_orders reached⟩

end OrderProcessing.Deployment
