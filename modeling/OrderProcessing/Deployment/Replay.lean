import OrderProcessing.Deployment.Delivery

/-! Between the replay and the live push no notification is missed: the handler
registers its client before it reads the table, and `Send` stores the row before it
has it pushed. Since an order has one notification, the queue of a client never
fills. -/

namespace OrderProcessing.Deployment

open Library

variable {config : Config} {jwt : Jwt} {state next : Deployment} {action : Action} {inner : Sockets.Action}

/-- Events put into the queue of the client by fan-outs or by its replay. -/
def placedTo (live : Bool) (index : Nat) (placed : List Placement) : Nat :=
  placed.countP fun placement => placement.client = index && placement.live == live

/-- Events that the handler may still send: an order has at most one. -/
def replayLeft : ConnectPhase → Nat
  | .registering | .starting | .loading => 1
  | .replaying notes => notes.length
  | .returned | .panicked => 0

/-- The replay and the fan-outs serve a client once each. -/
structure Bounded (state : Deployment) : Prop where
  replayed : ∀ (index : Nat) client, state.sockets.clients[index]? = some client →
    placedTo false index state.placed + replayLeft client.handler ≤ 1
  pushed : ∀ index, placedTo true index state.placed ≤ 1
  fanned : ∀ payload remaining delivered, state.sockets.hub.phase = .fanning payload remaining delivered →
    ∀ index ∈ remaining, placedTo true index state.placed = 0

section

variable {log : List Placement} {sockets : Sockets}

theorem placedTo_elsewhere (other : ∀ event, sockets.places inner ≠ some (index, event)) :
    placedTo live index (log ++ (record sockets inner).toList) = placedTo live index log := by
  unfold placedTo record
  rw [List.countP_append]
  cases placed : sockets.places inner with
  | none => simp
  | some entry =>
    have different : entry.1 ≠ index := by
      rintro rfl
      exact other entry.2 placed
    simp [different]

theorem placedTo_other (different : decide (inner = .fanOut) ≠ live) :
    placedTo live index (log ++ (record sockets inner).toList) = placedTo live index log := by
  unfold placedTo record
  rw [List.countP_append]
  cases sockets.places inner <;> simp [different]

theorem placedTo_here (placed : sockets.places inner = some (index, event)) (kind : decide (inner = .fanOut) = live) :
    placedTo live index (log ++ (record sockets inner).toList) = placedTo live index log + 1 := by
  unfold placedTo record
  rw [List.countP_append, placed]
  simp [kind]

end

/-- Nothing was put into the queue of a client to come. -/
theorem Logged.unplaced (logged : Logged state) (live : Bool) :
    placedTo live state.sockets.clients.length state.placed = 0 := by
  refine List.countP_eq_zero.mpr fun placement member => ?_
  obtain ⟨client, found, _⟩ := logged.addressed placement member
  have inside := (List.getElem?_eq_some_iff.mp found).1
  simp only [Bool.and_eq_true, decide_eq_true_eq, not_and]
  omega

/-- Every step of the connections keeps the replay within its bound. -/
theorem Bounded.replay (bounded : Bounded state) (logged : Logged state) {wiring : Sockets} {index : Nat} {new : Client}
    (done : Sockets.step state.sockets inner = some wiring)
    (listed : ∀ index notes, inner = .load index (some notes) → notes.length ≤ 1)
    (located : wiring.clients[index]? = some new) :
    placedTo false index (state.placed ++ (record state.sockets inner).toList) + replayLeft new.handler ≤ 1 := by
  rcases Sockets.step_touched done located with ⟨orderID, rfl, rfl, rfl⟩ | ⟨client, found, touched⟩
  · rw [placedTo_elsewhere (by simp [Sockets.places]), logged.unplaced]
    exact le_refl _
  · have before := bounded.replayed index client found
    cases touched with
    | pumped silent | written silent | closed silent =>
      rw [placedTo_elsewhere (by simp [silent])]
      exact before
    | elsewhere other =>
      rw [placedTo_elsewhere other]
      exact before
    | registered silent waiting | started silent waiting | failed silent waiting =>
      rw [placedTo_elsewhere (by simp [silent])]
      simp only [waiting, replayLeft] at before ⊢
      omega
    | listed named waiting =>
      have few := listed index _ named
      rw [placedTo_elsewhere (by simp [named, Sockets.places])]
      simp only [waiting, replayLeft] at before ⊢
      omega
    | replayed named waiting _ _ placed =>
      rw [placedTo_here placed (by simp [named])]
      simp only [waiting, replayLeft, List.length_cons] at before ⊢
      omega
    | lost silent waiting _ onward =>
      rw [placedTo_elsewhere (by simp [silent])]
      rcases onward with rfl | rfl
      all_goals
        simp only [waiting, replayLeft, List.length_cons] at before ⊢
        omega
    | pushed named =>
      rw [placedTo_other (by simp [named])]
      exact before

/-- All events that a client was given are of one row. -/
theorem one_event (wired : Wired state) (logged : Logged state) (found : state.sockets.clients[index]? = some client)
    (member : note ∈ state.notifications) (about : note.orderID = client.orderID)
    (present : placement ∈ state.placed) (given : placement.client = index) : placement.event = .new note := by
  obtain ⟨holder, located, same⟩ := logged.addressed placement present
  rw [given] at located
  cases found.symm.trans located
  obtain ⟨row, stored, event⟩ := logged.recorded placement present
  have few := wired.one_row client.orderID
  have own : row.orderID = client.orderID := by
    rw [← same, ← event]
    rfl
  have equal : row = note := by
    rw [List.countP_eq_length_filter] at few
    have first : row ∈ state.notifications.filter fun row => row.orderID = client.orderID := by simp [stored, own]
    have second : note ∈ state.notifications.filter fun row => row.orderID = client.orderID := by simp [member, about]
    generalize state.notifications.filter (fun row => row.orderID = client.orderID) = rows at few first second
    match rows, few with
    | [], _ => cases first
    | [only], _ => rw [List.mem_singleton.mp first, List.mem_singleton.mp second]
  rw [← event, equal]

/-- The handler reads at most one notification. -/
theorem Wired.few_listed (wired : Wired state)
    (answer : (NotificationRepository.listByOrder state.notifications orderID fault).toOption.map
      (List.map NotificationEvent.new) = some notes) : notes.length ≤ 1 := by
  cases fault with
  | some err => cases answer
  | none =>
    cases answer
    rw [List.length_map, (List.perm_insertionSort _ _).length_eq, ← List.countP_eq_length_filter]
    exact wired.one_row orderID

/-- The hub has not yet served the clients that watch the order of a call that is
about to notify it. -/
theorem unserved {note : Notification} {worker index : Nat} (wired : Wired state) (logged : Logged state)
    (truthful : Truthful state) (found : state.jobs[worker]? = some (some ⟨place, some (.notifying note)⟩))
    (member : index ∈ state.sockets.hub.members note.orderID) : placedTo true index state.placed = 0 := by
  obtain ⟨client, located, own, _⟩ := wired.parts.sound.known note.orderID index member
  have unpushed : ¬ Pushed state.placed (.new note) := truthful.jobs worker _ found
  refine List.countP_eq_zero.mpr fun placement present => ?_
  simp only [Bool.and_eq_true, decide_eq_true_eq, beq_iff_eq, not_and]
  intro given live
  have stored := (wired.rows.held worker _ note found rfl).1
  exact unpushed ⟨placement, present, live, one_event wired logged located stored own.symm present given⟩

/-- The replays stay within their bound. -/
theorem Bounded.replay_step (bounded : Bounded state) (wired : Wired state) (logged : Logged state)
    (moved : Deployment.step config jwt state action = some next) (index : Nat) (new : Client)
    (located : next.sockets.clients[index]? = some new) :
    placedTo false index next.placed + replayLeft new.handler ≤ 1 := by
  rcases step_sockets moved with ⟨sockets, placed⟩ | ⟨inner, done, placed, read⟩ | ⟨sockets, placed⟩
  · rw [placed]
    exact bounded.replayed index new (sockets ▸ located)
  · rw [placed]
    refine bounded.replay logged done (fun reader notes named => ?_) located
    obtain ⟨_, _, _, answer⟩ := read reader notes named
    exact wired.few_listed answer
  · rw [placed]
    rw [sockets, Sockets.restart_located] at located
    obtain ⟨client, found, rfl⟩ := Option.map_eq_some_iff.mp located
    exact (Nat.le_add_right _ _).trans (bounded.replayed index client found)

/-- The hub does not push, and does not begin to. -/
theorem Bounded.carry (bounded : Bounded state) (wired : Wired state) (logged : Logged state)
    (moved : Deployment.step config jwt state action = some next)
    (silent : ∀ index, placedTo true index next.placed = placedTo true index state.placed)
    (phase : next.sockets.hub.phase = state.sockets.hub.phase ∨ next.sockets.hub.phase.fans = false) : Bounded next where
  replayed := bounded.replay_step wired logged moved
  pushed index := (silent index).trans_le (bounded.pushed index)
  fanned payload remaining delivered fanning index member := by
    rw [silent]
    rcases phase with same | calm
    · exact bounded.fanned payload remaining delivered (same ▸ fanning) index member
    · simp [fanning, HubPhase.fans] at calm

/-- The connections move on without a fan-out. -/
theorem Bounded.move (bounded : Bounded state) (wired : Wired state) (logged : Logged state)
    (moved : Deployment.step config jwt state action = some next)
    (done : Sockets.step state.sockets inner = some next.sockets)
    (unasked : ∀ orderID payload order, inner ≠ .notify orderID payload order) (still : inner ≠ .fanOut)
    (placed : next.placed = state.placed ++ (record state.sockets inner).toList) : Bounded next := by
  refine bounded.carry wired logged moved (fun index => ?_) ?_
  · rw [placed]
    exact placedTo_other (by simp [still])
  · exact (Sockets.step_calm done unasked still).imp And.left And.right

theorem Bounded.step (bounded : Bounded state) (wired : Wired state) (logged : Logged state) (truthful : Truthful state)
    (moved : Deployment.step config jwt state action = some next) : Bounded next := by
  have replayed := bounded.replay_step wired logged moved
  cases step_cases moved with
  | request | updateUser | serve | begin | proceed | send | create | skipNotify | result | skipResult | mark
  | fulfilled | rejected => exact bounded.carry wired logged moved (fun _ => rfl) (.inl rfl)
  | restart => exact bounded.carry wired logged moved (fun _ => rfl) (.inr rfl)
  | stopHub _ _ done | connect _ done | load _ done =>
    exact bounded.move wired logged moved done nofun nofun (List.append_nil _).symm
  | socket fine done =>
    obtain ⟨unasked, still⟩ := ofSocket_calm fine
    exact bounded.move wired logged moved done unasked still rfl
  | answered phase done | unanswered phase done =>
    cases Sockets.fanOut_finished phase done
    exact bounded.carry wired logged moved (fun _ => rfl) (.inr rfl)
  | @notify worker note order wiring place found done =>
    refine ⟨replayed, bounded.pushed, fun payload remaining delivered phase index member => ?_⟩
    obtain ⟨_, _, all, rfl⟩ := Sockets.notify_cases done
    cases phase
    have fresh := unserved wired logged truthful found (all ▸ List.mem_toFinset.mpr member)
    exact fresh
  | fanOut further done =>
    cases Sockets.fanOut_cases wired.parts.sound done with
    | finished phase => exact absurd phase (further _ _)
    | @sent payload rest delivered index client phase found placed =>
      have distinct := wired.parts.sound.distinct
      rw [phase] at distinct
      obtain ⟨apart, _⟩ := List.nodup_cons.mp distinct
      have fresh := bounded.fanned _ _ _ phase
      have others {other : Nat} (different : other ≠ index) :
          placedTo true other (state.placed ++ (record state.sockets .fanOut).toList) =
            placedTo true other state.placed := by
        refine placedTo_elsewhere fun event same => different ?_
        rw [placed] at same
        cases same
        rfl
      refine ⟨replayed, fun other => ?_, fun event remaining again fanning other member => ?_⟩
      · by_cases same : other = index
        · subst same
          have more : placedTo true other (state.placed ++ (record state.sockets .fanOut).toList) =
              placedTo true other state.placed + 1 := placedTo_here placed rfl
          exact (more.trans (by rw [fresh other List.mem_cons_self])).le
        · rw [others same]
          exact bounded.pushed other
      · cases fanning
        rw [others fun same => apart (same ▸ member)]
        exact fresh other (List.mem_cons_of_mem _ member)
    | dropped phase found full silent =>
      have nothing (index : Nat) : placedTo true index (state.placed ++ (record state.sockets .fanOut).toList) =
          placedTo true index state.placed := placedTo_elsewhere (by simp [silent])
      refine ⟨replayed, fun index => ?_, fun event remaining again fanning index member => ?_⟩
      · rw [nothing]
        exact bounded.pushed index
      · cases fanning
        rw [nothing]
        exact bounded.fanned _ _ _ phase index (List.mem_cons_of_mem _ member)

/-- At most two events are put into the queue of a client. -/
theorem Bounded.few (bounded : Bounded state) (found : state.sockets.clients[index]? = some client) :
    state.placed.countP (fun placement => placement.client = index) ≤ 2 := by
  have replayed : placedTo false index state.placed ≤ 1 :=
    (Nat.le_add_right _ _).trans (bounded.replayed index client found)
  have pushed := bounded.pushed index
  unfold placedTo at replayed pushed
  rw [List.countP_eq_countP_filter_add _ _ fun placement => placement.live, List.countP_filter, List.countP_filter]
  simp only [beq_true, beq_false] at replayed pushed
  omega

/-- The queue of a client never fills. -/
theorem Bounded.room {index : Nat} {client : Client} (bounded : Bounded state) (logged : Logged state)
    (found : state.sockets.clients[index]? = some client) : client.send.room := by
  obtain ⟨_, capacity, queued⟩ := logged.queued index client found
  have few := bounded.few found
  have short : client.send.buffer.length ≤ 2 := queued.trans few
  simp only [Channel.room, capacity, sendBuffer, decide_eq_true_eq]
  omega

/-- The event reaches the client: the handler has it, or it is in the queue, or
the hub will come to the client with it. -/
inductive Reaches (state : Deployment) (index : Nat) (notes : List NotificationEvent) (event : NotificationEvent) : Prop where
  | listed (member : event ∈ notes)
  | placed (placement : Placement) (member : placement ∈ state.placed) (given : placement.client = index)
      (same : placement.event = event)
  | announced {worker place : Nat} {note : Notification}
      (found : state.jobs[worker]? = some (some ⟨place, some (.notifying note)⟩)) (same : .new note = event)
  | fanned (phase : state.sockets.hub.phase = .fanning event remaining delivered) (member : index ∈ remaining)

/-- Every stored event of its order reaches a client that has read the table. -/
def Covered (state : Deployment) : Prop :=
  state.sockets.hub.phase.serving → ∀ (index : Nat) client notes event, state.sockets.clients[index]? = some client →
    index ∈ state.sockets.hub.members client.orderID → client.handler = .replaying notes → Recorded state event →
    event.orderID = client.orderID → Reaches state index notes event

/-- A new event is that of a call that is about to notify the hub. -/
theorem recorded_before (moved : step config jwt state action = some next) (recorded : Recorded next event) :
    Recorded state event ∨ ∃ (worker place : Nat) (note : Notification),
      next.jobs[worker]? = some (some ⟨place, some (.notifying note)⟩) ∧ .new note = event := by
  cases step_cases moved with
  | @create worker key orderID message fault send table place found outcome =>
    rcases NotificationService.create_cases outcome with ⟨rfl, rfl⟩ | ⟨rfl, rfl, fresh⟩
    · exact .inl recorded
    · obtain ⟨note, member, rfl⟩ := recorded
      rcases List.mem_append.mp member with old | new
      · exact .inl ⟨note, old, rfl⟩
      · cases List.mem_singleton.mp new
        exact .inr ⟨worker, place, _, getElem_set_found found _, rfl⟩
  | @mark worker fault place note delivered found =>
    obtain ⟨row, member, rfl⟩ := recorded
    rcases NotificationService.mark_cases state.notifications state.backend.clock note delivered fault with
      failed | ⟨time, written⟩
    · exact .inl ⟨row, failed ▸ member, rfl⟩
    · obtain ⟨old, present, rfl⟩ := List.mem_map.mp (written ▸ member : row ∈ _)
      refine .inl ⟨old, present, ?_⟩
      split <;> rfl
  | _ => exact .inl recorded

/-- A call that is about to notify the hub stays so until the hub takes its
message, unless the process ends. -/
theorem announced_step {worker : Nat} {note : Notification} (employed : Employed state)
    (moved : step config jwt state action = some next)
    (found : state.jobs[worker]? = some (some ⟨place, some (.notifying note)⟩)) :
    next.jobs[worker]? = some (some ⟨place, some (.notifying note)⟩) ∨
      (∃ order, next.sockets.hub.phase = .fanning (.new note) order false ∧
        order.toFinset = next.sockets.hub.members note.orderID) ∨ next.sockets = state.sockets.restart := by
  have kept {actor : Nat} {old : Option Job} (there : state.jobs[actor]? = some old)
      (different : old ≠ some ⟨place, some (.notifying note)⟩) (new : Option Job) :
      (state.jobs.set actor new)[worker]? = some (some ⟨place, some (.notifying note)⟩) := by
    refine getElem_set_other found ?_ new
    rintro rfl
    cases found.symm.trans there
    exact different rfl
  cases step_cases moved with
  | request | updateUser | serve | stopHub | proceed | fanOut | unanswered | rejected | connect | load | socket =>
    exact .inl found
  | begin _ there | send there | create there | answered _ _ _ there | result there | mark there | fulfilled there =>
    exact .inl (kept there nofun _)
  | skipNotify there stopped | skipResult there _ stopped => exact absurd there (employed.halted stopped _ _)
  | @notify actor other order wiring room there done =>
    by_cases same : actor = worker
    · subst same
      cases found.symm.trans there
      obtain ⟨_, _, all, rfl⟩ := Sockets.notify_cases done
      exact .inr (.inl ⟨order, rfl, all⟩)
    · exact .inl (getElem_set_other found (Ne.symm same) _)
  | restart => exact .inr (.inr rfl)

theorem placed_kept (moved : step config jwt state action = some next) (member : placement ∈ state.placed) :
    placement ∈ next.placed := by
  rcases step_sockets moved with ⟨_, same⟩ | ⟨_, _, grown, _⟩ | ⟨_, same⟩
  · exact same ▸ member
  · exact grown ▸ List.mem_append_left _ member
  · exact same ▸ member

theorem place_reaches {index : Nat} (placed : state.sockets.places inner = some (index, event))
    (grown : next.placed = state.placed ++ (record state.sockets inner).toList) : Reaches next index notes event := by
  refine .placed ⟨index, event, inner = .fanOut, index ∈ state.sockets.hub.members event.orderID⟩ ?_ rfl rfl
  rw [grown]
  simp [record, placed]

/-- An event on its way to a client that stays registered remains so. -/
theorem Reaches.step {index : Nat} (reaches : Reaches state index earlier event) (wired : Wired state)
    (logged : Logged state) (bounded : Bounded state) (moved : Deployment.step config jwt state action = some next)
    (member : index ∈ next.sockets.hub.members event.orderID)
    (left : event ∈ earlier → Reaches next index notes event) : Reaches next index notes event := by
  have alive : next.sockets ≠ state.sockets.restart := by
    intro ended
    simp [ended, Sockets.restart, Hub.members] at member
  cases reaches with
  | listed has => exact left has
  | placed placement present given same => exact .placed placement (placed_kept moved present) given same
  | announced found same =>
    subst same
    rcases announced_step wired.employed moved found with still | ⟨order, phase, all⟩ | ended
    · exact .announced still rfl
    · exact .fanned phase (List.mem_toFinset.mp (all ▸ member))
    · exact absurd ended alive
  | fanned phase queued =>
    rcases step_sockets moved with ⟨sockets, _⟩ | ⟨inner, done, grown, _⟩ | ⟨ended, _⟩
    · exact .fanned (sockets ▸ phase) queued
    · by_cases pushing : inner = .fanOut
      · subst pushing
        generalize wiring : next.sockets = after at done
        cases Sockets.fanOut_cases wired.parts.sound done with
        | finished ended =>
          cases phase.symm.trans ended
          cases queued
        | sent started found placed =>
          cases phase.symm.trans started
          rcases List.mem_cons.mp queued with rfl | later
          · exact place_reaches placed grown
          · exact .fanned (by rw [wiring]) later
        | dropped started found full => simp [bounded.room logged found] at full
      · have unasked (orderID payload order) : inner ≠ .notify orderID payload order := by
          rintro rfl
          simp [Sockets.step, phase] at done
        rcases Sockets.step_calm done unasked pushing with ⟨same, _⟩ | ⟨resting, _⟩
        · exact .fanned (same.trans phase) queued
        · simp [phase, HubPhase.fans] at resting
    · exact absurd ended alive

/-- A handler that reads the table reads every event of its order. -/
theorem Recorded.listed (recorded : Recorded state event) (about : event.orderID = orderID)
    (answer : (NotificationRepository.listByOrder state.notifications orderID fault).toOption.map
      (List.map NotificationEvent.new) = some notes) : event ∈ notes := by
  cases fault with
  | some err => cases answer
  | none =>
    cases answer
    obtain ⟨note, member, rfl⟩ := recorded
    refine List.mem_map_of_mem ((List.perm_insertionSort _ _).mem_iff.mpr (List.mem_filter.mpr ⟨member, ?_⟩))
    exact decide_eq_true about

theorem Covered.step (covered : Covered state) (wired : Wired state) (logged : Logged state) (bounded : Bounded state)
    (moved : Deployment.step config jwt state action = some next) : Covered next := by
  intro serving index new notes event located member replaying recorded about
  rcases recorded_before moved recorded with before | ⟨worker, place, note, found, same⟩
  · have watched : index ∈ next.sockets.hub.members event.orderID := about ▸ member
    rcases step_sockets moved with ⟨sockets, _⟩ | ⟨inner, done, grown, read⟩ | ⟨ended, _⟩
    · rw [sockets] at serving located member
      exact (covered serving index new notes event located member replaying before about).step wired logged bounded
        moved watched .listed
    · rcases Sockets.step_touched done located with ⟨_, _, _, rfl⟩ | ⟨client, found, touched⟩
      · cases replaying
      · rw [touched.orderID] at about member
        rcases touched.replaying replaying with ⟨earlier, waiting, _⟩ | named
        · have present : index ∈ state.sockets.hub.members client.orderID := by
            refine (Sockets.member_before wired.parts.sound done member).resolve_right ?_
            rintro rfl
            simp [Sockets.step, found, waiting] at done
          have running := Sockets.step_serving done serving
          refine (covered running index client earlier event found present waiting before about).step wired logged
            bounded moved watched fun has => ?_
          have unclosed := wired.parts.sound.opened running present found
          rcases touched.delivers waiting replaying unclosed (bounded.room logged found) has with still | placed
          · exact .listed still
          · exact place_reaches placed grown
        · obtain ⟨holder, fault, held, answer⟩ := read index notes named
          cases found.symm.trans held
          exact .listed (before.listed about answer)
    · simp [ended, Sockets.restart, Hub.members] at member
  · exact .announced found same

/-- A call of `Send` that still has to bring its event to a client is in `Notify`. -/
theorem Reaches.settled {index : Nat} (reaches : Reaches state index [] (.new note)) (wired : Wired state)
    (member : note ∈ state.notifications)
    (returned : ∀ job ∈ state.jobs, noteOf job = some note → notifies job = false) :
    ∃ placement ∈ state.placed, placement.client = index ∧ placement.event = .new note := by
  have busy {worker : Nat} {job : Option Job} {held : Notification} (found : state.jobs[worker]? = some job)
      (has : noteOf job = some held) (same : NotificationEvent.new held = .new note) : notifies job = false := by
    have stored := (wired.rows.held worker job held found has).1
    cases wired.rows.unique stored member (congrArg NotificationEvent.id same)
    exact returned job (List.mem_of_getElem? found) has
  cases reaches with
  | listed has => cases has
  | placed placement present given same => exact ⟨placement, present, given, same⟩
  | announced found same => cases busy found rfl same
  | fanned phase =>
    obtain ⟨_, worker, job, held, _, found, waits, same⟩ := wired.served.fanned _ _ _ phase
    have waiting := busy found (awaits_note waits) same.symm
    unfold awaits at waits
    split at waits
    · cases waiting
    · cases waits

end OrderProcessing.Deployment
