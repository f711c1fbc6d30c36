import OrderProcessing.Deployment.Ownership

/-! The recorded status of a notification over whole runs of the server: `sent` if
the hub put it into a queue, `failed` if it did not, and never changed again. It
rests on the order in which `Run` stops the parts, since a hub that is stopped
while `Notify` waits would answer false for a message it delivered. -/

namespace OrderProcessing.Deployment

open Library

variable {config : Config} {jwt : Jwt} {state next final : Deployment} {action : Action} {inner : Sockets.Action}

/-- The hub put the event into a queue. -/
def Pushed (placed : List Placement) (event : NotificationEvent) : Prop :=
  ∃ placement ∈ placed, placement.live ∧ placement.event = event

/-- The status of the row is true. -/
structure Agrees (placed : List Placement) (note : Notification) : Prop where
  sent : note.status = .sent → Pushed placed (.new note)
  failed : note.status = .failed → ¬ Pushed placed (.new note)

/-- What the call of `Send` is about to do is true. -/
def Faithful (placed : List Placement) : Option Job → Prop
  | some ⟨_, some (.notifying note)⟩ => ¬ Pushed placed (.new note)
  | some ⟨_, some (.answered note delivered)⟩ | some ⟨_, some (.marking note delivered)⟩ =>
    delivered ↔ Pushed placed (.new note)
  | _ => True

structure Truthful (state : Deployment) : Prop where
  rows : ∀ note ∈ state.notifications, Agrees state.placed note
  jobs : ∀ (worker : Nat) job, state.jobs[worker]? = some job → Faithful state.placed job
  hub : ∀ payload remaining delivered, state.sockets.hub.phase = .fanning payload remaining delivered →
    (delivered ↔ Pushed state.placed payload)

theorem Agrees.of_iff (agrees : Agrees log note) (pushed : Pushed later (.new note) ↔ Pushed log (.new note)) :
    Agrees later note where
  sent status := pushed.mpr (agrees.sent status)
  failed status := mt pushed.mp (agrees.failed status)

theorem Faithful.of_iff (faithful : Faithful log job)
    (pushed : ∀ note, noteOf job = some note → awaits job = none →
      (Pushed later (.new note) ↔ Pushed log (.new note))) : Faithful later job := by
  unfold Faithful at faithful ⊢
  split
  · exact mt (pushed _ rfl rfl).mp faithful
  · exact faithful.trans (pushed _ rfl rfl).symm
  · exact faithful.trans (pushed _ rfl rfl).symm
  · trivial

/-- A step that pushes nothing and leaves the table alone. -/
theorem Truthful.carry (truthful : Truthful state) (pushed : ∀ event, Pushed next.placed event ↔ Pushed state.placed event)
    (table : next.notifications = state.notifications)
    (jobs : ∀ (worker : Nat) job, next.jobs[worker]? = some job →
      state.jobs[worker]? = some job ∨ Faithful state.placed job)
    (hub : ∀ payload remaining delivered, next.sockets.hub.phase = .fanning payload remaining delivered →
      (delivered ↔ Pushed state.placed payload)) : Truthful next where
  rows note member := (truthful.rows note (table ▸ member)).of_iff (pushed _)
  jobs worker job found := by
    refine Faithful.of_iff ?_ fun note _ _ => pushed _
    rcases jobs worker job found with same | faithful
    · exact truthful.jobs worker job same
    · exact faithful
  hub payload remaining delivered phase := (hub payload remaining delivered phase).trans (pushed payload).symm

/-- One job goes on. -/
theorem Truthful.replace (truthful : Truthful state) {new : Option Job} (jobs : next.jobs = state.jobs.set worker new)
    (faithful : Faithful state.placed new) (table : next.notifications = state.notifications)
    (placed : next.placed = state.placed)
    (hub : ∀ payload remaining delivered, next.sockets.hub.phase = .fanning payload remaining delivered →
      (delivered ↔ Pushed state.placed payload)) : Truthful next := by
  refine truthful.carry (fun event => by rw [placed]) table (fun other job found => ?_) hub
  rw [jobs] at found
  rcases getElem_set_cases found with ⟨_, rfl⟩ | ⟨_, same⟩
  · exact .inr faithful
  · exact .inl same

/-- The hub moves on without a fan-out. -/
theorem Truthful.move (truthful : Truthful state) (done : Sockets.step state.sockets inner = some next.sockets)
    (unasked : ∀ orderID payload order, inner ≠ .notify orderID payload order) (still : inner ≠ .fanOut)
    (placed : next.placed = state.placed ++ (record state.sockets inner).toList) (jobs : next.jobs = state.jobs)
    (table : next.notifications = state.notifications) : Truthful next := by
  refine truthful.carry (fun event => ?_) table (fun worker job found => .inl (jobs ▸ found)) ?_
  · constructor
    · rintro ⟨placement, member, live, same⟩
      rw [placed] at member
      rcases List.mem_append.mp member with old | new
      · exact ⟨placement, old, live, same⟩
      · obtain ⟨_, _, rfl⟩ := Option.map_eq_some_iff.mp (Option.mem_toList.mp new)
        exact absurd (of_decide_eq_true live) still
    · rintro ⟨placement, member, facts⟩
      exact ⟨placement, placed ▸ List.mem_append_left _ member, facts⟩
  · intro payload remaining delivered phase
    rcases Sockets.step_calm done unasked still with ⟨same, _⟩ | ⟨_, calm⟩
    · exact truthful.hub payload remaining delivered (same ▸ phase)
    · simp [phase, HubPhase.fans] at calm

/-- Two rows of the table with one id are the same. -/
theorem Rows.unique (rows : Rows state) (first : note ∈ state.notifications) (second : twin ∈ state.notifications)
    (same : note.id = twin.id) : note = twin := List.inj_on_of_nodup_map rows.ids first second same

theorem awaits_note (waits : awaits job = some note) : noteOf job = some note := by
  unfold awaits at waits
  split at waits <;> cases waits
  rfl

/-- The hub puts the message of the call that waits for it into a queue. -/
theorem Truthful.push (truthful : Truthful state) (wired : Wired state)
    (phase : state.sockets.hub.phase = .fanning payload remaining delivered)
    (placed : next.placed = state.placed ++ [⟨client, payload, true, subscribed⟩])
    (jobs : next.jobs = state.jobs) (table : next.notifications = state.notifications)
    (hub : ∀ event others flag, next.sockets.hub.phase = .fanning event others flag → event = payload ∧ flag = true) :
    Truthful next := by
  obtain ⟨_, worker, job, note, _, held, waits, rfl⟩ := wired.served.fanned _ _ _ phase
  obtain ⟨present, pending⟩ := wired.rows.held worker job note held (awaits_note waits)
  have pushed (event : NotificationEvent) :
      Pushed next.placed event ↔ Pushed state.placed event ∨ NotificationEvent.new note = event := by
    rw [placed]
    constructor
    · rintro ⟨placement, member, live, same⟩
      rcases List.mem_append.mp member with old | new
      · exact .inl ⟨placement, old, live, same⟩
      · cases List.mem_singleton.mp new
        exact .inr same
    · rintro (⟨placement, member, facts⟩ | same)
      · exact ⟨placement, List.mem_append_left _ member, facts⟩
      · exact ⟨_, List.mem_append_right _ (List.mem_singleton.mpr rfl), rfl, same⟩
  -- the event is that of no other row
  have other {row : Notification} (different : row.id ≠ note.id) :
      Pushed next.placed (.new row) ↔ Pushed state.placed (.new row) := by
    rw [pushed, or_iff_left]
    intro same
    exact different (congrArg NotificationEvent.id same).symm
  refine ⟨fun row member => ?_, fun actor busy found => ?_, fun event others flag fanning => ?_⟩
  · rw [table] at member
    by_cases same : row.id = note.id
    · cases wired.rows.unique member present same
      constructor <;> intro status <;> cases pending.symm.trans status
    · exact (truthful.rows row member).of_iff (other same)
  · rw [jobs] at found
    refine (truthful.jobs actor busy found).of_iff fun row has idle => other fun same => ?_
    cases wired.rows.distinct actor worker busy job row note found has held (awaits_note waits) same
    cases found.symm.trans held
    rw [idle] at waits
    cases waits
  · obtain ⟨rfl, rfl⟩ := hub event others flag fanning
    simp [pushed]

/-- A new row was never pushed. -/
theorem Truthful.create (truthful : Truthful state) (logged : Logged state)
    (fresh : ∀ row ∈ state.notifications, row.id ≠ note.id) (status : note.status = .pending)
    (jobs : next.jobs = state.jobs.set worker (some ⟨place, some (.notifying note)⟩))
    (table : next.notifications = state.notifications ++ [note]) (placed : next.placed = state.placed)
    (sockets : next.sockets = state.sockets) : Truthful next := by
  have unpushed : ¬ Pushed state.placed (.new note) := by
    rintro ⟨placement, member, _, same⟩
    obtain ⟨row, present, event⟩ := logged.recorded placement member
    exact fresh row present (congrArg NotificationEvent.id (event.trans same))
  refine ⟨fun row member => ?_, fun other job found => ?_, ?_⟩
  · rw [placed]
    rw [table] at member
    rcases List.mem_append.mp member with old | new
    · exact truthful.rows row old
    · cases List.mem_singleton.mp new
      constructor <;> intro other <;> cases status.symm.trans other
  · rw [placed]
    rw [jobs] at found
    rcases getElem_set_cases found with ⟨_, rfl⟩ | ⟨_, same⟩
    · exact unpushed
    · exact truthful.jobs other job same
  · rw [placed, sockets]
    exact truthful.hub

/-- The row is marked as the hub answered. -/
theorem Truthful.mark (truthful : Truthful state) (rows : Rows state) {time : Notification → Option Nat}
    (found : state.jobs[worker]? = some (some ⟨place, some (.marking note delivered)⟩))
    (jobs : next.jobs = state.jobs.set worker (some ⟨place, none⟩))
    (table : next.notifications = state.notifications.map fun row =>
      if row.id = note.id then { row with status := if delivered then .sent else .failed, sentAt := time row } else row)
    (placed : next.placed = state.placed) (sockets : next.sockets = state.sockets) : Truthful next := by
  have told : delivered ↔ Pushed state.placed (.new note) := truthful.jobs worker _ found
  refine ⟨fun row member => ?_, fun other job located => ?_, ?_⟩
  · rw [placed]
    rw [table] at member
    obtain ⟨old, present, rfl⟩ := List.mem_map.mp member
    split
    · rename_i same
      cases rows.unique present (rows.held worker _ note found rfl).1 same
      cases delivered with
      | true => exact ⟨fun _ => told.mp rfl, nofun⟩
      | false => exact ⟨nofun, fun _ pushed => Bool.false_ne_true (told.mpr pushed)⟩
    · exact truthful.rows old present
  · rw [placed]
    rw [jobs] at located
    rcases getElem_set_cases located with ⟨_, rfl⟩ | ⟨_, same⟩
    · trivial
    · exact truthful.jobs other job same
  · rw [placed, sockets]
    exact truthful.hub

theorem Truthful.step (truthful : Truthful state) (wired : Wired state) (logged : Logged state)
    (moved : Deployment.step config jwt state action = some next) : Truthful next := by
  cases step_cases moved with
  | request | updateUser | serve | proceed | rejected =>
    exact truthful.carry (fun _ => .rfl) rfl (fun _ _ => .inl) truthful.hub
  | begin | send | fulfilled => exact truthful.replace rfl trivial rfl rfl truthful.hub
  | result found =>
    have told := truthful.jobs _ _ found
    exact truthful.replace rfl told rfl rfl truthful.hub
  | @create worker key orderID message fault send table place found outcome =>
    rcases NotificationService.create_cases outcome with ⟨rfl, rfl⟩ | ⟨rfl, rfl, fresh⟩
    · exact truthful.replace rfl trivial rfl rfl truthful.hub
    · exact truthful.create logged fresh rfl rfl rfl rfl rfl
  | @mark worker fault place note delivered found =>
    rcases NotificationService.mark_cases state.notifications state.backend.clock note delivered fault with
      failed | ⟨time, written⟩
    · exact truthful.replace rfl trivial failed rfl truthful.hub
    · exact truthful.mark wired.rows found rfl written rfl rfl
  | skipNotify found stopped | skipResult found _ stopped => exact absurd found (wired.employed.halted stopped _ _)
  | stopHub _ _ done | connect _ done | load _ done =>
    exact truthful.move done (by simp) (by simp) (List.append_nil _).symm rfl rfl
  | socket fine done =>
    obtain ⟨unasked, still⟩ := ofSocket_calm fine
    exact truthful.move done unasked still rfl rfl rfl
  | @notify worker note order wiring place found done =>
    have unpushed := truthful.jobs _ _ found
    refine truthful.replace rfl trivial rfl rfl fun payload remaining delivered phase => ?_
    obtain ⟨_, _, _, rfl⟩ := Sockets.notify_cases done
    cases phase
    exact ⟨by simp, fun pushed => absurd pushed unpushed⟩
  | fanOut further done =>
    cases Sockets.fanOut_cases wired.parts.sound done with
    | finished phase => exact absurd phase (further _ _)
    | sent phase _ placed =>
      refine truthful.push wired phase (by simp only [record, placed]; rfl) rfl rfl fun event others flag fanning => ?_
      cases fanning
      exact ⟨rfl, rfl⟩
    | dropped phase _ _ silent =>
      refine truthful.carry (fun _ => by simp [record, silent]) rfl (fun _ _ => .inl) fun event others flag fanning => ?_
      cases fanning
      exact truthful.hub _ _ _ phase
  | answered phase done named found =>
    obtain ⟨_, remaining, delivered, fanning⟩ := wired.served.awaited _ _ _ found rfl
    have told := truthful.hub _ _ _ fanning
    cases phase.symm.trans fanning
    cases Sockets.fanOut_finished phase done
    exact truthful.replace rfl told rfl rfl fun _ _ _ phase => by cases phase
  | unanswered phase done gone =>
    cases Sockets.fanOut_finished phase done
    exact truthful.carry (fun _ => .rfl) rfl (fun _ _ => .inl) fun _ _ _ phase => by cases phase
  | restart =>
    refine truthful.carry (fun _ => .rfl) rfl (fun worker job found => .inr ?_) fun _ _ _ phase => by cases phase
    obtain ⟨_, rfl⟩ := List.getElem?_eq_some_iff.mp found
    simp [Faithful]

/-- A later version of the row: the same message, and the same row once it is marked. -/
structure Later (note row : Notification) : Prop where
  event : NotificationEvent.new row = NotificationEvent.new note
  settled : note.status ≠ .pending → row = note

/-- A call of `Notify` is in progress. -/
def notifies : Option Job → Bool
  | some ⟨_, some (.notifying _)⟩ | some ⟨_, some (.awaiting _)⟩ | some ⟨_, some (.answered _ _)⟩ => true
  | _ => false

/-- `Run` stops all components up to the hub. -/
def closing : List Action :=
  [.serve (.list []), .serve .signal, .serve .drained, .serve .advance, .serve .leave, .serve .advance,
   .serve .advance, .serve .advance, .serve (.work 0), .serve .advance, .stopHub]

end OrderProcessing.Deployment
