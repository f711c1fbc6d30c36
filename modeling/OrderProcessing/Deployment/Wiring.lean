import OrderProcessing.Backend.Notification
import OrderProcessing.Deployment
import OrderProcessing.Ws.Invariant

/-! How the parts hold together: the invariants of the backend and of the hub
carry over, a call of `Send` is made by a worker with its own row of the table, the
hub fans out for one such call, and it is stopped when no worker is left. -/

namespace OrderProcessing

open Library

namespace Backend

variable {config : Config} {state next : State} {action : Action} {ledger : Ledger}

/-- The users are no part of what is known of the orders. -/
theorem Announcements.users (known : Announcements state ledger) (users : List User) :
    Announcements { state with db := { state.db with users } } ledger := by
  obtain ⟨⟨refines, drafts, edits, held⟩, tallied, own, counted, truthful⟩ := known
  refine ⟨⟨?_, drafts, fun loaded member => ?_, held⟩, tallied, own, counted, ⟨truthful.due, truthful.sent⟩⟩
  · exact { refines with }
  · exact { edits loaded member with }

/-- An order keeps its owner. -/
theorem Announcements.order_kept (known : Announcements state ledger) (kept : Announcements next after)
    (extended : Ledger.Extends ledger after) (found : state.db.order? orderID = some order) :
    ∃ later, next.db.order? orderID = some later ∧ later.userID = order.userID := by
  have stored := List.mem_of_find?_eq_some found
  rw [known.inv.refines.orders] at stored
  obtain ⟨entry, member, rfl⟩ := List.mem_map.mp stored
  obtain ⟨later, present, moved⟩ := extended entry member
  have named : later.order.id = orderID := by
    rw [moved.order]
    simpa using List.find?_some found
  refine ⟨later.order, named ▸ kept.inv.refines.order_found present, ?_⟩
  rw [moved.order]

theorem step_sent (moved : step config state action = some next) :
    next.sent = state.sent ∨ ∃ index, action = .notify index := by
  cases step_cases config moved with
  | notify => exact .inr ⟨_, rfl⟩
  | loadProduct =>
    unfold loadProduct
    split <;> exact .inl rfl
  | _ => exact .inl rfl

theorem notify_sent (due : state.runs[index]? = some ⟨orderID, .notifying message⟩)
    (moved : step config state (.notify index) = some next) : next.sent = state.sent ++ [(orderID, message)] := by
  simp only [step, due] at moved
  cases moved
  rfl

end Backend

namespace Sockets

theorem restart_sound (sockets : Sockets) : Sound sockets.restart where
  known := by simp [restart, Hub.members]
  fresh index client located waiting := by
    obtain ⟨old, _, rfl⟩ := List.mem_map.mp (List.mem_of_getElem? located)
    cases waiting
  distinct := .nil
  pending := by simp [restart, HubPhase.remaining]
  running := by simp [restart]

theorem closeSend_done (sockets : Sockets) (index : Nat) (client : Client) :
    (closeSend sockets index client).hub.done = sockets.hub.done := by
  unfold closeSend
  split <;> rfl

theorem remove_done (sockets : Sockets) (index : Nat) (client : Client) :
    (remove sockets index client).hub.done = sockets.hub.done := by
  unfold remove
  split
  · exact closeSend_done _ _ _
  · rfl

/-- Only `Stop` closes the channel on which the hub is told to stop. -/
theorem step_done {sockets next : Sockets} (moved : step sockets action = some next) (going : action ≠ .stop) :
    next.hub.done = sockets.hub.done := by
  cases step_cases moved with
  | connect | register | own | notify | shutDown => rfl
  | unregister => exact remove_done _ _ _
  | stop => exact absurd rfl going
  | fanOut done =>
    unfold Sockets.fanOut at done
    split at done
    · cases done; rfl
    · split at done
      · cases done
      · split at done <;> cases done
        · rfl
        · exact remove_done _ _ _
        · rfl
    · cases done
  | closeNext done =>
    unfold Sockets.closeNext at done
    split at done
    · cases done; rfl
    · split at done
      · cases done
      · cases done
        exact closeSend_done _ _ _
    · cases done

end Sockets

namespace Deployment

variable {config : Config} {jwt : Jwt} {state next : Deployment} {action : Action}

/-- The backend and the connections are in order, each by itself. -/
structure Parts (state : Deployment) : Prop where
  known : ∃ ledger, Backend.Announcements state.backend ledger
  sound : Sockets.Sound state.sockets

theorem Parts.step (parts : Parts state) (moved : Deployment.step config jwt state action = some next) :
    Parts next := by
  obtain ⟨⟨ledger, known⟩, sound⟩ := parts
  constructor
  · rcases step_backend moved with same | ⟨inner, done⟩ | ⟨users, same⟩
    · exact ⟨ledger, same ▸ known⟩
    · obtain ⟨after, kept, _⟩ := known.step done
      exact ⟨after, kept⟩
    · exact ⟨ledger, same ▸ known.users users⟩
  · rcases step_sockets moved with ⟨same, _⟩ | ⟨inner, done, _⟩ | ⟨same, _⟩
    · exact same ▸ sound
    · exact sound.step done
    · exact same ▸ Sockets.restart_sound _

/-- An order keeps its owner over every step. -/
theorem Parts.order_kept (parts : Parts state) (moved : Deployment.step config jwt state action = some next)
    (found : state.backend.db.order? orderID = some order) :
    ∃ later, next.backend.db.order? orderID = some later ∧ later.userID = order.userID := by
  obtain ⟨⟨ledger, known⟩, _⟩ := parts
  rcases step_backend moved with same | ⟨inner, done⟩ | ⟨users, same⟩
  · exact ⟨order, same ▸ found, rfl⟩
  · obtain ⟨after, kept, extended⟩ := known.step done
    exact known.order_kept kept extended found
  · exact ⟨order, same ▸ found, rfl⟩

/-- Jobs are carried out by workers, and the hub is stopped after the last of them. -/
structure Employed (state : Deployment) : Prop where
  busy : ∀ (worker : Nat) (job : Job), state.jobs[worker]? = some (some job) →
    ∃ orderID, state.server.pool.workers[worker]? = some (.fulfilling orderID)
  joined : state.server.Joined
  stopped : state.sockets.hub.done → state.server.stage.poolJoined

/-- Once the hub is stopped no worker has a job. -/
theorem Employed.halted (employed : Employed state) (done : state.sockets.hub.done) (worker : Nat) (job : Job) :
    state.jobs[worker]? ≠ some (some job) := by
  intro found
  obtain ⟨orderID, running⟩ := employed.busy worker job found
  cases Pool.drained_exited (employed.joined (employed.stopped done)) running

theorem setJob_cases {other : Nat} {job : Option Job} {new : Job}
    (located : (state.jobs.set worker job)[other]? = some (some new)) :
    (other = worker ∧ job = some new) ∨ (other ≠ worker ∧ state.jobs[other]? = some (some new)) := by
  rcases getElem_set_cases located with ⟨same, named⟩ | apart
  · exact .inl ⟨same, named.symm⟩
  · exact .inr apart

/-- A job goes on. -/
theorem Employed.advance (employed : Employed state) (found : state.jobs[worker]? = some (some job)) (new : Job)
    (jobs : next.jobs = state.jobs.set worker (some new)) (server : next.server = state.server)
    (done : next.sockets.hub.done = state.sockets.hub.done) : Employed next := by
  obtain ⟨busy, joined, stopped⟩ := employed
  refine ⟨fun other held located => ?_, server ▸ joined, by rw [done, server]; exact stopped⟩
  rw [jobs] at located
  rw [server]
  rcases setJob_cases located with ⟨rfl, _⟩ | ⟨_, before⟩
  · exact busy other job found
  · exact busy other held before

theorem Employed.step (employed : Employed state) (moved : Deployment.step config jwt state action = some next) :
    Employed next := by
  obtain ⟨busy, joined, stopped⟩ := id employed
  cases step_cases moved with
  | request | updateUser | proceed | rejected => exact ⟨busy, joined, stopped⟩
  | serve fine done =>
    refine ⟨fun worker job found => ?_, joined.step done, fun halted => Server.step_poolJoined done (stopped halted)⟩
    obtain ⟨orderID, running⟩ := busy worker job found
    refine ⟨orderID, Server.step_kept done running nofun ?_⟩
    rintro rfl
    cases fine
  | stopHub stage done halted =>
    refine ⟨fun worker job found => ?_, joined.step done, fun _ => Server.step_poolJoined done ?_⟩
    · obtain ⟨orderID, running⟩ := busy worker job found
      exact ⟨orderID, Server.step_kept done running nofun nofun⟩
    · rw [stage]
      rfl
  | begin running free done =>
    refine ⟨fun other held located => ?_, joined, stopped⟩
    rcases setJob_cases located with ⟨rfl, _⟩ | ⟨_, before⟩
    · exact ⟨_, running⟩
    · exact busy other held before
  | send found | create found | skipNotify found | result found | skipResult found | mark found =>
    exact employed.advance found _ rfl rfl rfl
  | notify found done | answered _ done _ found =>
    exact employed.advance found _ rfl rfl (Sockets.step_done done nofun)
  | fanOut _ done | unanswered _ done | connect _ done | load _ done =>
    exact ⟨busy, joined, fun halted => stopped (Sockets.step_done done nofun ▸ halted)⟩
  | socket fine done =>
    refine ⟨busy, joined, fun halted => stopped ?_⟩
    rw [← Sockets.step_done done (by rintro rfl; cases fine)]
    exact halted
  | @fulfilled worker place served found done =>
    refine ⟨fun other held located => ?_, joined.step done, fun halted => Server.step_poolJoined done (stopped halted)⟩
    rcases setJob_cases located with ⟨_, impossible⟩ | ⟨different, before⟩
    · cases impossible
    · obtain ⟨orderID, running⟩ := busy other held before
      refine ⟨orderID, Server.step_kept done running nofun ?_⟩
      rintro same
      cases same
      exact different rfl
  | restart =>
    refine ⟨fun worker job found => ?_, nofun, nofun⟩
    obtain ⟨_, impossible⟩ := List.getElem?_eq_some_iff.mp found
    simp at impossible

/-- The row of the table that the call of `Send` in the job is about. -/
def noteOf (job : Option Job) : Option Notification := job.bind fun job => job.send.bind SendPhase.note?

/-- The job is about to store a notification for the order. -/
def creates (orderID : Int) : Option Job → Bool
  | some ⟨_, some (.creating other _)⟩ => other = orderID
  | _ => false

/-- Rows and calls of `Send` that may add one are no more than the messages of the
fulfiller, and no two calls share a row. -/
structure Rows (state : Deployment) : Prop where
  ids : (state.notifications.map (·.id)).Nodup
  counted : ∀ orderID, state.jobs.countP (creates orderID) +
    state.notifications.countP (fun row => row.orderID = orderID) ≤ Backend.sentFor orderID state.backend.sent
  held : ∀ (worker : Nat) job note, state.jobs[worker]? = some job → noteOf job = some note →
    note ∈ state.notifications ∧ note.status = .pending
  distinct : ∀ (first second : Nat) job other note twin, state.jobs[first]? = some job → noteOf job = some note →
    state.jobs[second]? = some other → noteOf other = some twin → note.id = twin.id → first = second

theorem Rows.of_same (rows : Rows state) (jobs : next.jobs = state.jobs)
    (table : next.notifications = state.notifications) (sent : next.backend.sent = state.backend.sent) : Rows next where
  ids := table ▸ rows.ids
  counted orderID := by rw [jobs, table, sent]; exact rows.counted orderID
  held worker job note found := by rw [table]; exact rows.held worker job note (jobs ▸ found)
  distinct first second job other note twin found has located := by
    rw [jobs] at found located
    exact rows.distinct first second job other note twin found has located

/-- A job goes on with its row, or without one. -/
theorem Rows.replace (rows : Rows state) {old new : Option Job} (found : state.jobs[worker]? = some old)
    (jobs : next.jobs = state.jobs.set worker new) (table : next.notifications = state.notifications)
    (note : noteOf new = noteOf old ∨ noteOf new = none)
    (budget : ∀ orderID, (if creates orderID new then 1 else 0) + Backend.sentFor orderID state.backend.sent ≤
      (if creates orderID old then 1 else 0) + Backend.sentFor orderID next.backend.sent) : Rows next := by
  have before {other : Nat} {job : Option Job} {held : Notification}
      (located : next.jobs[other]? = some job) (has : noteOf job = some held) :
      ∃ earlier, state.jobs[other]? = some earlier ∧ noteOf earlier = some held := by
    rw [jobs] at located
    rcases getElem_set_cases located with ⟨rfl, rfl⟩ | ⟨_, same⟩
    · rcases note with kept | gone
      · exact ⟨old, found, kept ▸ has⟩
      · rw [gone] at has
        cases has
    · exact ⟨job, same, has⟩
  refine ⟨table ▸ rows.ids, fun orderID => ?_, fun other job held located has => ?_, ?_⟩
  · have total := rows.counted orderID
    have count := countP_set_found found (creates orderID) new
    have allowed := budget orderID
    rw [jobs, table]
    omega
  · obtain ⟨earlier, there, had⟩ := before located has
    rw [table]
    exact rows.held other earlier held there had
  · intro first second job other held twin located has again having same
    obtain ⟨one, there, had⟩ := before located has
    obtain ⟨two, here, kept⟩ := before again having
    exact rows.distinct first second one two held twin there had here kept same

/-- A new row belongs to the call that stored it. -/
theorem Rows.create (rows : Rows state)
    (found : state.jobs[worker]? = some (some ⟨place, some (.creating orderID message)⟩))
    (fresh : ∀ row ∈ state.notifications, row.id ≠ key)
    (jobs : next.jobs =
      state.jobs.set worker (some ⟨place, some (.notifying ⟨key, orderID, message, .pending, none⟩)⟩))
    (table : next.notifications = state.notifications ++ [⟨key, orderID, message, .pending, none⟩])
    (sent : next.backend.sent = state.backend.sent) : Rows next := by
  refine ⟨?_, fun wanted => ?_, fun other job held located has => ?_, ?_⟩
  · rw [table, List.map_append, List.nodup_append]
    refine ⟨rows.ids, by simp, fun id member other named same => ?_⟩
    obtain ⟨row, present, rfl⟩ := List.mem_map.mp member
    simp only [List.map_cons, List.map_nil, List.mem_singleton] at named
    exact fresh row present (same.trans named)
  · have total := rows.counted wanted
    have count := countP_set_found found (creates wanted)
      (some ⟨place, some (.notifying ⟨key, orderID, message, .pending, none⟩)⟩)
    simp only [creates, decide_eq_true_eq, Bool.false_eq_true, if_false] at count
    rw [jobs, table, sent, List.countP_append, List.countP_singleton]
    simp only [decide_eq_true_eq]
    omega
  · rw [jobs] at located
    rw [table]
    rcases getElem_set_cases located with ⟨rfl, rfl⟩ | ⟨_, same⟩
    · cases has
      exact ⟨by simp, rfl⟩
    · obtain ⟨present, pending⟩ := rows.held other job held same has
      exact ⟨by simp [present], pending⟩
  · intro first second job other held twin located has again having same
    rw [jobs] at located again
    rcases getElem_set_cases located with ⟨rfl, rfl⟩ | ⟨apart, there⟩
    · rcases getElem_set_cases again with ⟨rfl, rfl⟩ | ⟨_, here⟩
      · rfl
      · cases has
        exact absurd same.symm (fresh twin (rows.held second other twin here having).1)
    · rcases getElem_set_cases again with ⟨rfl, rfl⟩ | ⟨_, here⟩
      · cases having
        exact absurd same (fresh held (rows.held first job held there has).1)
      · exact rows.distinct first second job other held twin there has here having same

/-- Marking a row does not touch the rows of other calls. -/
theorem Rows.mark (rows : Rows state) {new : Job} {change : Notification → Notification}
    (found : state.jobs[worker]? = some (some ⟨place, some (.marking note delivered)⟩))
    (jobs : next.jobs = state.jobs.set worker (some new)) (gone : new.send = none)
    (table : next.notifications = state.notifications.map fun row => if row.id = note.id then change row else row)
    (kept : ∀ row, (change row).id = row.id ∧ (change row).orderID = row.orderID)
    (sent : next.backend.sent = state.backend.sent) : Rows next := by
  have same (row : Notification) : (if row.id = note.id then change row else row).id = row.id ∧
      (if row.id = note.id then change row else row).orderID = row.orderID := by
    split
    · exact kept row
    · exact ⟨rfl, rfl⟩
  have noted : noteOf (some new) = none := by simp [noteOf, gone]
  have calm : Rows { state with jobs := state.jobs.set worker (some new) } :=
    rows.replace found rfl rfl (.inr noted) fun orderID => by
      obtain ⟨run, send⟩ := new
      cases gone
      simp [creates]
  refine ⟨?_, fun orderID => ?_, fun other job held located has => ?_, ?_⟩
  · rw [table, List.map_map]
    simpa [Function.comp_def, same] using rows.ids
  · rw [jobs, table, sent, List.countP_map]
    simpa [Function.comp_def, same] using calm.counted orderID
  · rw [jobs] at located
    obtain ⟨present, pending⟩ := calm.held other job held located has
    refine ⟨table ▸ List.mem_map.mpr ⟨held, present, if_neg fun marked => ?_⟩, pending⟩
    rcases getElem_set_cases located with ⟨rfl, rfl⟩ | ⟨apart, there⟩
    · rw [noted] at has
      cases has
    · exact apart (rows.distinct other worker job _ held note there has found rfl marked)
  · intro first second job other held twin located has again having
    rw [jobs] at located again
    exact calm.distinct first second job other held twin located has again having

theorem Rows.step (rows : Rows state) (moved : Deployment.step config jwt state action = some next) : Rows next := by
  cases step_cases moved with
  | request outside done =>
    refine rows.of_same rfl rfl ?_
    rcases Backend.step_sent done with same | ⟨index, rfl⟩
    · exact same
    · cases outside
  | proceed found own done =>
    refine rows.of_same rfl rfl ?_
    rcases Backend.step_sent done with same | ⟨index, rfl⟩
    · exact same
    · cases own
  | updateUser | serve | stopHub | fanOut | unanswered | rejected | connect | load | socket =>
    exact rows.of_same rfl rfl rfl
  | begin running free done =>
    refine rows.replace free rfl rfl (.inr rfl) fun orderID => ?_
    rcases Backend.step_sent done with same | ⟨index, impossible⟩
    · simp [creates, same]
    · cases impossible
  | @send worker place orderID message store found due done =>
    refine rows.replace found rfl rfl (.inr rfl) fun wanted => ?_
    simp only [creates, Backend.notify_sent due done, Backend.sentFor, List.countP_append, List.countP_singleton,
      decide_eq_true_eq, Bool.false_eq_true, if_false]
    omega
  | @create worker key orderID message fault send table place found outcome =>
    rcases NotificationService.create_cases outcome with ⟨rfl, rfl⟩ | ⟨rfl, rfl, fresh⟩
    · exact rows.replace found rfl rfl (.inr rfl) fun wanted => by simp [creates, setSend, setJob]
    · exact rows.create found fresh rfl rfl rfl
  | notify found | answered _ _ _ found | skipNotify found | result found =>
    exact rows.replace found rfl rfl (.inl rfl) fun wanted => by simp [creates, setSend, setJob]
  | skipResult found held =>
    exact rows.replace found rfl rfl (.inl held.symm) fun wanted => by simp [creates, setSend, setJob]
  | @mark worker fault place note delivered found =>
    rcases NotificationService.mark_cases state.notifications state.backend.clock note delivered fault with
      failed | ⟨time, written⟩
    · exact rows.replace found rfl failed (.inr rfl) fun wanted => by simp [creates, setSend, setJob]
    · exact rows.mark found rfl rfl written (fun row => ⟨rfl, rfl⟩) rfl
  | fulfilled found =>
    exact rows.replace found rfl rfl (.inl rfl) fun wanted => by simp [creates, setJob]
  | @restart count queueSize =>
    have idle {worker : Nat} {job : Option Job} (found : (List.replicate count.toNat none)[worker]? = some job) :
        noteOf job = none := by
      obtain ⟨_, rfl⟩ := List.getElem?_eq_some_iff.mp found
      simp [noteOf]
    refine ⟨rows.ids, fun orderID => ?_, fun worker job note found has => ?_, ?_⟩
    · have total := rows.counted orderID
      simp only [List.countP_replicate, creates, Bool.false_eq_true, if_false]
      omega
    · simp [idle found] at has
    · intro first _ job _ note _ found has
      simp [idle found] at has

/-- The call waits for the hub, which has taken its message. -/
def awaits : Option Job → Option Notification
  | some ⟨_, some (.awaiting note)⟩ => some note
  | _ => none

/-- The hub fans out the message of the one call that waits for it, to clients
that watch its order. -/
structure Served (state : Deployment) : Prop where
  fanned : ∀ payload remaining delivered, state.sockets.hub.phase = .fanning payload remaining delivered →
    (∀ client ∈ remaining, client ∈ state.sockets.hub.members payload.orderID) ∧
    ∃ (worker : Nat) (job : Option Job) (note : Notification), state.serving = some worker ∧
      state.jobs[worker]? = some job ∧ awaits job = some note ∧ payload = .new note
  awaited : ∀ (worker : Nat) job note, state.jobs[worker]? = some job → awaits job = some note →
    state.serving = some worker ∧
      ∃ remaining delivered, state.sockets.hub.phase = .fanning (.new note) remaining delivered

/-- Nobody waits for a hub that does not fan out. -/
theorem Served.idle (served : Served state) (resting : state.sockets.hub.phase.fans = false)
    {worker : Nat} (found : state.jobs[worker]? = some job) : awaits job = none := by
  cases waits : awaits job with
  | none => rfl
  | some note =>
    obtain ⟨_, remaining, delivered, phase⟩ := served.awaited worker job note found waits
    simp [phase, HubPhase.fans] at resting

/-- A step that leaves calls that wait and the fan-out alone. -/
theorem Served.of_calm (served : Served state)
    (jobs : ∀ (worker : Nat) note, (∃ job, next.jobs[worker]? = some job ∧ awaits job = some note) ↔
      ∃ job, state.jobs[worker]? = some job ∧ awaits job = some note)
    (serving : next.serving = state.serving)
    (hub : (next.sockets.hub.phase = state.sockets.hub.phase ∧ next.sockets.hub.clients = state.sockets.hub.clients) ∨
      (state.sockets.hub.phase.fans = false ∧ next.sockets.hub.phase.fans = false)) : Served next := by
  rcases hub with ⟨phase, clients⟩ | ⟨resting, calm⟩
  · refine ⟨fun payload remaining delivered fanning => ?_, fun worker job note found waits => ?_⟩
    · obtain ⟨targets, worker, job, note, named, found, waits, same⟩ :=
        served.fanned payload remaining delivered (phase ▸ fanning)
      obtain ⟨other, located, still⟩ := (jobs worker note).mpr ⟨job, found, waits⟩
      refine ⟨fun client member => ?_, worker, other, note, serving.trans named, located, still, same⟩
      unfold Hub.members
      rw [clients]
      exact targets client member
    · obtain ⟨other, located, still⟩ := (jobs worker note).mp ⟨job, found, waits⟩
      rw [serving, phase]
      exact served.awaited worker other note located still
  · refine ⟨fun payload remaining delivered fanning => ?_, fun worker job note found waits => ?_⟩
    · simp [fanning, HubPhase.fans] at calm
    · obtain ⟨other, located, still⟩ := (jobs worker note).mp ⟨job, found, waits⟩
      rw [served.idle resting located] at still
      cases still

/-- A job that did not wait goes on, and still does not. -/
theorem Served.replace (served : Served state) {old new : Option Job} (found : state.jobs[worker]? = some old)
    (before : awaits old = none) (after : awaits new = none) (jobs : next.jobs = state.jobs.set worker new)
    (serving : next.serving = state.serving) (sockets : next.sockets = state.sockets) : Served next := by
  refine served.of_calm (fun other note => ?_) serving (.inl (by rw [sockets]; exact ⟨rfl, rfl⟩))
  rw [jobs]
  constructor
  · rintro ⟨job, located, waits⟩
    rcases getElem_set_cases located with ⟨rfl, rfl⟩ | ⟨_, there⟩
    · rw [after] at waits
      cases waits
    · exact ⟨job, there, waits⟩
  · rintro ⟨job, located, waits⟩
    refine ⟨job, getElem_set_other located ?_ _, waits⟩
    rintro rfl
    cases found.symm.trans located
    rw [before] at waits
    cases waits

/-- One client later the hub fans out for the same call. -/
theorem Served.onward (served : Served state)
    (phase : state.sockets.hub.phase = .fanning payload (index :: rest) delivered)
    (jobs : next.jobs = state.jobs) (serving : next.serving = state.serving)
    (fanning : next.sockets.hub.phase = .fanning payload rest again)
    (members : ∀ client ∈ rest, client ∈ state.sockets.hub.members payload.orderID →
      client ∈ next.sockets.hub.members payload.orderID) : Served next := by
  obtain ⟨targets, worker, job, note, named, found, waits, rfl⟩ := served.fanned _ _ _ phase
  refine ⟨fun other remaining delivered same => ?_, fun other held twin there waiting => ?_⟩
  · cases fanning.symm.trans same
    refine ⟨fun client member => members client member (targets client (List.mem_cons_of_mem _ member)), ?_⟩
    exact ⟨worker, job, note, serving.trans named, jobs ▸ found, waits, rfl⟩
  · rw [jobs] at there
    obtain ⟨unique, _⟩ := served.awaited other held twin there waiting
    cases named.symm.trans unique
    cases found.symm.trans there
    cases waits.symm.trans waiting
    exact ⟨serving.trans named, rest, again, fanning⟩

theorem Served.step (served : Served state) (parts : Parts state) (employed : Employed state)
    (moved : Deployment.step config jwt state action = some next) : Served next := by
  cases step_cases moved with
  | request | updateUser | serve | proceed | rejected =>
    exact served.of_calm (fun _ _ => .rfl) rfl (.inl ⟨rfl, rfl⟩)
  | stopHub _ _ done | connect _ done | load _ done =>
    exact served.of_calm (fun _ _ => .rfl) rfl (Sockets.step_calm done nofun nofun)
  | socket fine done =>
    obtain ⟨unasked, still⟩ := ofSocket_calm fine
    exact served.of_calm (fun _ _ => .rfl) rfl (Sockets.step_calm done unasked still)
  | begin _ free => exact served.replace free rfl rfl rfl rfl rfl
  | send found | result found | mark found | fulfilled found => exact served.replace found rfl rfl rfl rfl rfl
  | @create worker key orderID message fault send table place found outcome =>
    refine served.replace found rfl ?_ rfl rfl rfl
    rcases NotificationService.create_cases outcome with ⟨rfl, rfl⟩ | ⟨rfl, rfl, _⟩
    · rfl
    · rfl
  | skipNotify found stopped | skipResult found _ stopped => exact absurd found (employed.halted stopped _ _)
  | @notify worker note order wired place found done =>
    obtain ⟨phase, distinct, all, rfl⟩ := Sockets.notify_cases done
    refine ⟨fun payload remaining delivered fanning => ?_, fun other job held located waits => ?_⟩
    · cases fanning
      refine ⟨fun client member => ?_, worker, _, note, rfl, getElem_set_found found _, rfl, rfl⟩
      have present := List.mem_toFinset.mpr member
      rwa [all] at present
    · rcases getElem_set_cases located with ⟨rfl, rfl⟩ | ⟨_, there⟩
      · cases waits
        exact ⟨rfl, order, false, rfl⟩
      · rw [served.idle (by rw [phase]; rfl) there] at waits
        cases waits
  | fanOut further done =>
    cases Sockets.fanOut_cases parts.sound done with
    | finished phase => exact absurd phase (further _ _)
    | sent phase => exact served.onward phase rfl rfl rfl fun _ _ member => member
    | dropped phase =>
      have distinct := parts.sound.distinct
      rw [phase] at distinct
      refine served.onward phase rfl rfl rfl fun other queued member => ?_
      change other ∈ (state.sockets.hub.delete _ _).members _
      rw [Hub.members_delete]
      split
      · refine Finset.mem_erase.mpr ⟨?_, member⟩
        rintro rfl
        exact (List.nodup_cons.mp distinct).1 queued
      · exact member
  | @answered payload delivered wired worker place note phase done named found =>
    cases Sockets.fanOut_finished phase done
    refine ⟨nofun, fun other job held located waits => ?_⟩
    rcases getElem_set_cases located with ⟨rfl, rfl⟩ | ⟨apart, there⟩
    · cases waits
    · obtain ⟨unique, _⟩ := served.awaited other job held there waits
      cases named.symm.trans unique
      exact absurd rfl apart
  | unanswered phase done gone =>
    obtain ⟨_, worker, job, note, named, found, waits, _⟩ := served.fanned _ _ _ phase
    unfold awaits at waits
    split at waits
    · exact absurd found (gone worker named _ _)
    · cases waits
  | restart =>
    refine ⟨nofun, fun worker job note found waits => ?_⟩
    obtain ⟨_, rfl⟩ := List.getElem?_eq_some_iff.mp found
    simp [awaits] at waits

/-- All of it. -/
structure Wired (state : Deployment) : Prop where
  parts : Parts state
  employed : Employed state
  rows : Rows state
  served : Served state

theorem Wired.step (wired : Wired state) (moved : Deployment.step config jwt state action = some next) : Wired next where
  parts := wired.parts.step moved
  employed := wired.employed.step moved
  rows := wired.rows.step moved
  served := wired.served.step wired.parts wired.employed moved

theorem start_wired (count : Int) (queueSize : Nat) : Wired (start count queueSize) := by
  have idle {worker : Nat} {job : Option Job} (found : (start count queueSize).jobs[worker]? = some job) : job = none := by
    obtain ⟨_, rfl⟩ := List.getElem?_eq_some_iff.mp found
    simp [start]
  refine ⟨⟨⟨_, Backend.announcements_initial⟩, Sockets.start_sound⟩, ⟨fun worker job found => ?_, nofun, nofun⟩,
    ⟨.nil, fun orderID => ?_, fun worker job note found has => ?_, ?_⟩, ⟨nofun, fun worker job note found waits => ?_⟩⟩
  · cases idle found
  · simp [start, creates, List.countP_replicate]
  · cases idle found
    cases has
  · intro first _ job _ _ _ found has
    cases idle found
    cases has
  · cases idle found
    cases waits

/-- An order has at most one row in the table. -/
theorem Wired.one_row (wired : Wired state) (orderID : Int) :
    state.notifications.countP (fun row => row.orderID = orderID) ≤ 1 := by
  obtain ⟨ledger, known⟩ := wired.parts.known
  have sent := known.sent_le_one orderID
  have counted := wired.rows.counted orderID
  omega

/-- What a step does to the table: a new row, or one marked by the call it belongs to. -/
theorem step_table (moved : step config jwt state action = some next) :
    next.notifications = state.notifications ∨ (∃ note, next.notifications = state.notifications ++ [note]) ∨
      ∃ (worker place : Nat) (note : Notification) (delivered : Bool) (time : Notification → Option Nat),
        state.jobs[worker]? = some (some ⟨place, some (.marking note delivered)⟩) ∧
        next.notifications = state.notifications.map fun row =>
          if row.id = note.id then
            { row with status := if delivered then .sent else .failed, sentAt := time row }
          else row := by
  cases step_cases moved with
  | @create worker key orderID message fault send table place found outcome =>
    rcases NotificationService.create_cases outcome with ⟨rfl, rfl⟩ | ⟨rfl, rfl, fresh⟩
    · exact .inl rfl
    · exact .inr (.inl ⟨_, rfl⟩)
  | @mark worker fault place note delivered found =>
    rcases NotificationService.mark_cases state.notifications state.backend.clock note delivered fault with
      failed | ⟨time, written⟩
    · exact .inl failed
    · exact .inr (.inr ⟨worker, place, note, delivered, time, found, written⟩)
  | _ => exact .inl rfl

end Deployment

end OrderProcessing
