import OrderProcessing.Deployment.Wiring
import OrderProcessing.Ws.Stream

/-! What the connections cannot do to the hub: hold it up while it is away from its
select, or stay in its map once their pump has returned. -/

namespace OrderProcessing

open Library

/-- The iterations left to a loop of the hub, with the one that ends it. -/
def HubPhase.left : HubPhase → Nat
  | .fanning _ remaining _ | .closing remaining => remaining.length + 1
  | _ => 0

namespace Sockets

/-- An iteration of a loop of the hub. -/
def iterates : Action → Bool
  | .fanOut | .closeNext => true
  | _ => false

variable {sockets next : Sockets} {index : Nat} {client new : Client}

/-- Away from its select nobody but the hub moves the hub. -/
theorem step_away (moved : step sockets action = some next) (away : sockets.hub.phase ≠ .selecting)
    (foreign : iterates action = false) : next.hub.phase = sockets.hub.phase := by
  cases step_cases moved with
  | connect | own | stop => rfl
  | register _ _ phase | unregister _ phase | notify phase | shutDown phase => exact absurd phase away
  | fanOut | closeNext => cases foreign

theorem fanOut_left (sound : Sound sockets) (moved : sockets.fanOut = some next) :
    next.hub.phase.left < sockets.hub.phase.left := by
  cases fanOut_cases sound moved with
  | finished phase | sent phase | dropped phase =>
    rw [phase]
    simp [HubPhase.left]

theorem closeNext_left (moved : sockets.closeNext = some next) : next.hub.phase.left < sockets.hub.phase.left := by
  unfold closeNext at moved
  split at moved
  · rename_i phase
    cases moved
    simp [phase, HubPhase.left]
  · rename_i phase
    split at moved <;> cases moved
    rw [phase]
    rcases closeSend_phase _ _ _ with same | panicked
    · rw [same]
      simp [HubPhase.left]
    · rw [panicked]
      simp [HubPhase.left]
  · cases moved

theorem iterates_left (sound : Sound sockets) (moved : step sockets action = some next) (own : iterates action) :
    next.hub.phase.left < sockets.hub.phase.left := by
  cases action with
  | fanOut => exact fanOut_left sound moved
  | closeNext => exact closeNext_left moved
  | _ => cases own

/-- No client comes up twice in a loop. -/
theorem Sound.left_le (sound : Sound sockets) : sockets.hub.phase.left ≤ sockets.clients.length + 1 := by
  have inside : sockets.hub.phase.remaining ⊆ List.range sockets.clients.length := by
    intro index queued
    obtain ⟨client, found, _⟩ := sound.queued queued
    exact List.mem_range.mpr (List.getElem?_eq_some_iff.mp found).1
  have few := (List.subperm_of_subset sound.distinct inside).length_le
  rw [List.length_range] at few
  cases phase : sockets.hub.phase with
  | fanning | closing =>
    rw [phase] at few
    exact Nat.succ_le_succ few
  | _ => exact Nat.zero_le _

/-- In its loops the hub waits for nobody: the send is the one of a select with a default. -/
theorem iterates_enabled (sound : Sound sockets) (away : sockets.hub.phase ≠ .selecting)
    (going : sockets.hub.phase ≠ .returned) : ∃ action next, iterates action ∧ step sockets action = some next := by
  cases phase : sockets.hub.phase with
  | selecting => exact absurd phase away
  | returned => exact absurd phase going
  | panicked => exact absurd phase sound.running
  | fanning payload remaining delivered =>
    cases remaining with
    | nil => exact ⟨.fanOut, _, rfl, by simp only [step, fanOut, phase]; rfl⟩
    | cons index rest =>
      obtain ⟨client, found, unclosed⟩ := sound.queued (by rw [phase]; exact List.mem_cons_self)
      refine ⟨.fanOut, ?_⟩
      simp only [step, fanOut, phase, found, Channel.trySend, unclosed]
      by_cases room : client.send.room
      · simp only [room]
        exact ⟨_, rfl, rfl⟩
      · simp only [room]
        exact ⟨_, rfl, rfl⟩
  | closing remaining =>
    cases remaining with
    | nil => exact ⟨.closeNext, _, rfl, by simp only [step, closeNext, phase]; rfl⟩
    | cons index rest =>
      obtain ⟨client, found, _⟩ := sound.queued (by rw [phase]; exact List.mem_cons_self)
      exact ⟨.closeNext, _, rfl, by simp only [step, closeNext, phase, found]; rfl⟩

/-- Whatever the handlers and the pumps do or leave undone, the hub is away from its select for at most one iteration
per connection and one more, and until it is back or has returned it can take the next one. -/
theorem hub_unhindered (reached : run step start actions = some sockets)
    (away : Along step (fun sockets _ => sockets.hub.phase ≠ .selecting) sockets later)
    (done : run step sockets later = some final) :
    later.countP iterates ≤ sockets.clients.length + 1 ∧
      (final.hub.phase = .selecting ∨ final.hub.phase = .returned ∨
        ∃ action next, iterates action ∧ step final action = some next) := by
  have sound : Sound sockets := run_invariant Sound (fun _ _ _ sound moved => sound.step moved) start_sound reached
  obtain ⟨last, bounded⟩ := run_party_bounded (fun sockets => sockets.hub.phase.left) iterates Sound
    (fun sockets action next sound away moved =>
      ⟨sound.step moved, fun foreign => by rw [step_away moved away foreign], iterates_left sound moved⟩)
    sound away done
  have few := sound.left_le
  refine ⟨by omega, ?_⟩
  by_cases back : final.hub.phase = .selecting
  · exact .inl back
  · by_cases ended : final.hub.phase = .returned
    · exact .inr (.inl ended)
    · exact .inr (.inr (iterates_enabled last back ended))

/-- Two clients of one order. The handler of the first has yet to start its pump. -/
def watched : List Action :=
  [.connect 1, .register 0, .connect 1, .register 1, .startPump 1, .notify 1 ⟨4, 1, "confirmed"⟩ [0, 1]]

theorem hub_unhindered_watched : ∃ sockets final, run step start watched = some sockets ∧
    run step sockets [.fanOut, .connect 2, .ping 1 false, .fanOut] = some final ∧
    [.fanOut, .connect 2, .ping 1 false, .fanOut].countP iterates ≤ sockets.clients.length + 1 ∧
    (final.hub.phase = .selecting ∨ final.hub.phase = .returned ∨
      ∃ action next, iterates action ∧ step final action = some next) :=
  ⟨_, _, rfl, rfl, hub_unhindered (show run step start watched = some _ from rfl) (by decide) rfl⟩

theorem register_cases (moved : step sockets (.register index) = some next) :
    ∃ client, sockets.clients[index]? = some client ∧ client.handler = .registering ∧ next = {
      hub := sockets.hub.add client.orderID index
      clients := sockets.clients.set index { client with handler := .starting } } := by
  simp only [step] at moved
  split at moved
  · cases moved
  · rename_i client found
    split at moved <;> cases moved
    rename_i fine
    exact ⟨client, found, fine.1, rfl⟩

theorem unregister_cases (moved : step sockets (.unregister index) = some next) :
    ∃ client, sockets.clients[index]? = some client ∧ sockets.hub.phase = .selecting ∧
      next = remove { sockets with clients := sockets.clients.set index { client with pump := .returned } } index
        { client with pump := .returned } := by
  simp only [step] at moved
  split at moved
  · cases moved
  · rename_i client found
    split at moved <;> cases moved
    rename_i fine
    exact ⟨client, found, fine.2, rfl⟩

/-- The map has a client under no order but its own, from which it is removed. -/
theorem remove_forgets (sound : Sound sockets) (found : sockets.clients[index]? = some client)
    (serving : sockets.hub.phase.serving) (orderID : Int) : index ∉ (remove sockets index client).hub.members orderID := by
  have own (member : index ∈ sockets.hub.members orderID) : client.orderID = orderID := by
    obtain ⟨_, located, same, _⟩ := sound.known orderID index member
    cases found.symm.trans located
    exact same
  by_cases member : index ∈ sockets.hub.members client.orderID
  · rw [remove_member member (sound.opened serving member found)]
    intro present
    rw [Hub.members_delete] at present
    split at present
    · exact Finset.notMem_erase index _ present
    · exact absurd (own present).symm ‹_›
  · rw [remove, if_neg member]
    exact fun present => member (own present ▸ present)

theorem unregister_forgets (sound : Sound sockets) (moved : step sockets (.unregister index) = some next)
    (orderID : Int) : index ∉ next.hub.members orderID := by
  obtain ⟨client, found, phase, rfl⟩ := unregister_cases moved
  have updated : Sound { sockets with clients := sockets.clients.set index { client with pump := .returned } } :=
    sound.update found rfl rfl id
  exact remove_forgets updated (getElem_set_found found _) (phase ▸ rfl) orderID

/-- The write pump of the client has returned. -/
def Returned (sockets : Sockets) (index : Nat) : Prop :=
  ∃ client, sockets.clients[index]? = some client ∧ client.pump = .returned

theorem own_returned {actor : Nat} {change : Client → Option Client} (moved : sockets.own actor change = some next)
    (changed : ∀ client new, change client = some new → new.pump = .returned → client.pump = .returned ∨ sockets.hub.done)
    (returned : Returned next index) : Returned sockets index ∨ sockets.hub.done := by
  obtain ⟨client, new, found, done, rfl⟩ := own_cases moved
  obtain ⟨holder, located, ended⟩ := returned
  rcases getElem_set_cases located with ⟨rfl, rfl⟩ | ⟨_, before⟩
  · exact (changed client holder done ended).imp_left fun earlier => ⟨client, found, earlier⟩
  · exact .inl ⟨holder, before, ended⟩

/-- How a pump comes to return: it was taken out of the map or it saw the hub stopped. -/
theorem returned_before (sound : Sound sockets) (moved : step sockets action = some next)
    (returned : Returned next index) : Returned sockets index ∨ sockets.hub.done ∨ action = .unregister index := by
  have alone {actor : Nat} {change : Client → Option Client} (moved : sockets.own actor change = some next)
      (changed : ∀ client new, change client = some new → new.pump = .returned →
        client.pump = .returned ∨ sockets.hub.done) :
      Returned sockets index ∨ sockets.hub.done ∨ action = .unregister index :=
    (own_returned moved changed returned).imp_right .inl
  obtain ⟨new, located, ended⟩ := id returned
  cases action with
  | connect orderID =>
    cases moved
    rw [List.getElem?_append] at located
    split at located
    · exact .inl ⟨new, located, ended⟩
    · obtain ⟨_, rfl⟩ := List.getElem?_eq_some_iff.mp located
      simp at ended
  | register actor =>
    obtain ⟨client, found, _, rfl⟩ := register_cases moved
    rcases getElem_set_cases located with ⟨rfl, rfl⟩ | ⟨_, before⟩
    · exact .inl ⟨client, found, ended⟩
    · exact .inl ⟨new, before, ended⟩
  | unregister actor =>
    obtain ⟨client, found, _, rfl⟩ := unregister_cases moved
    rcases remove_located located with ⟨rfl, rfl⟩ | before
    · exact .inr (.inr rfl)
    · rcases getElem_set_cases before with ⟨rfl, rfl⟩ | ⟨_, before⟩
      · exact .inr (.inr rfl)
      · exact .inl ⟨new, before, ended⟩
  | fanOut =>
    cases fanOut_cases sound moved with
    | finished => exact .inl ⟨new, located, ended⟩
    | sent _ found | dropped _ found =>
      rcases getElem_set_cases located with ⟨rfl, rfl⟩ | ⟨_, before⟩
      · exact .inl ⟨_, found, ended⟩
      · exact .inl ⟨new, before, ended⟩
  | closeNext =>
    change sockets.closeNext = some next at moved
    unfold closeNext at moved
    split at moved
    · cases moved
      exact .inl ⟨new, located, ended⟩
    · split at moved <;> cases moved
      rename_i found
      rcases closeSend_located located with ⟨rfl, rfl⟩ | before
      · exact .inl ⟨_, found, ended⟩
      · exact .inl ⟨new, before, ended⟩
    · cases moved
  | notify | shutDown | stop =>
    simp only [step] at moved
    split at moved <;> cases moved
    exact .inl ⟨new, located, ended⟩
  | replay =>
    refine alone moved fun client new changed ended => ?_
    unfold replay at changed
    split at changed <;> cases changed
    exact .inl ended
  | write actor accepted =>
    refine alone moved fun client new changed ended => ?_
    unfold write at changed
    split at changed
    · split at changed <;> cases changed
      · cases accepted <;> cases ended
      · cases ended
    · cases changed
  | ping actor accepted =>
    refine alone moved fun client new changed ended => ?_
    split at changed <;> cases changed
    cases accepted <;> cases ended
  | startPump =>
    refine alone moved fun client new changed ended => ?_
    split at changed <;> cases changed
    cases ended
  | skipRegister | load =>
    refine alone moved fun client new changed ended => ?_
    split at changed <;> cases changed
    exact .inl ended
  | skipUnregister =>
    refine alone moved fun client new changed ended => ?_
    split at changed <;> cases changed
    rename_i fine
    exact .inr fine.2

/-- The client is not in the map, and its handler does not register it again. -/
def Forgotten (sockets : Sockets) (index : Nat) : Prop :=
  (∃ client, sockets.clients[index]? = some client ∧ client.handler.waits = false) ∧
    ∀ orderID, index ∉ sockets.hub.members orderID

theorem Forgotten.step (forgotten : Forgotten sockets index) (sound : Sound sockets)
    (moved : Sockets.step sockets action = some next) : Forgotten next index := by
  obtain ⟨⟨client, found, past⟩, outside⟩ := forgotten
  refine ⟨?_, fun orderID member => ?_⟩
  · obtain ⟨new, located, flowed⟩ := step_flowed moved found
    exact ⟨new, located, Bool.eq_false_iff.mpr fun waits => by simp [flowed.waits waits] at past⟩
  · rcases member_before sound moved member with old | rfl
    · exact outside orderID old
    · obtain ⟨_, there, waiting, _⟩ := register_cases moved
      cases found.symm.trans there
      rw [waiting] at past
      cases past

theorem Forgotten.run (forgotten : Forgotten sockets index) (sound : Sound sockets)
    (done : Library.run Sockets.step sockets later = some final) (orderID : Int) :
    index ∉ final.hub.members orderID := by
  obtain ⟨_, _, outside⟩ := run_invariant (fun sockets => Sound sockets ∧ Forgotten sockets index)
    (fun _ _ _ both moved => ⟨both.1.step moved, both.2.step both.1 moved⟩) ⟨sound, forgotten⟩ done
  exact outside orderID

/-- A client whose pump has returned is forgotten, unless the hub was stopped. -/
structure Tended (sockets : Sockets) : Prop where
  begun : ∀ (index : Nat) client, sockets.clients[index]? = some client → client.handler.waits → client.pump = .unstarted
  gone : ∀ index, Returned sockets index → sockets.hub.done ∨ Forgotten sockets index

theorem Tended.step (tended : Tended sockets) (sound : Sound sockets) (moved : Sockets.step sockets action = some next) :
    Tended next := by
  have begun (index : Nat) (new : Client) (located : next.clients[index]? = some new) (waits : new.handler.waits) :
      new.pump = .unstarted := by
    rcases step_touched moved located with ⟨orderID, _, _, rfl⟩ | ⟨client, found, _⟩
    · rfl
    · obtain ⟨same, there, flowed⟩ := step_flowed moved found
      cases located.symm.trans there
      exact flowed.begun (tended.begun index client found) waits
  have stopped (done : sockets.hub.done) : next.hub.done := by
    by_cases last : action = .stop
    · subst last
      simp [Sockets.step, done] at moved
    · rw [step_done moved last]
      exact done
  refine ⟨begun, fun index returned => ?_⟩
  rcases returned_before sound moved returned with earlier | done | rfl
  · exact (tended.gone index earlier).imp stopped fun forgotten => forgotten.step sound moved
  · exact .inl (stopped done)
  · obtain ⟨new, located, ended⟩ := returned
    have past : new.handler.waits = false :=
      Bool.eq_false_iff.mpr fun waits => by simp [begun index new located waits] at ended
    exact .inr ⟨⟨new, located, past⟩, unregister_forgets sound moved⟩

theorem start_tended : Tended start where
  begun index client located := by simp [start] at located
  gone index returned := by
    obtain ⟨client, located, _⟩ := returned
    simp [start] at located

/-- The map of the hub leaks no client. One whose pump returned before the hub was stopped is never found in it again;
and a pump that is about to return can get its client out, for good, whenever the hub is at its select. -/
theorem departed_forgotten (reached : run step start actions = some sockets)
    (found : sockets.clients[index]? = some client) :
    (client.pump = .returned → sockets.hub.done = false →
      ∀ later final, run step sockets later = some final → ∀ orderID, index ∉ final.hub.members orderID) ∧
    (client.pump = .unregistering → sockets.hub.phase = .selecting →
      ∃ next, step sockets (.unregister index) = some next ∧
        ∀ later final, run step next later = some final → ∀ orderID, index ∉ final.hub.members orderID) := by
  obtain ⟨sound, tended⟩ := run_invariant (fun sockets => Sound sockets ∧ Tended sockets)
    (fun _ _ _ both moved => ⟨both.1.step moved, both.2.step both.1 moved⟩) ⟨start_sound, start_tended⟩ reached
  constructor
  · intro ended going later final done
    rcases tended.gone index ⟨client, found, ended⟩ with stopped | forgotten
    · simp [going] at stopped
    · exact forgotten.run sound done
  · intro leaving phase
    have moved : step sockets (.unregister index) =
        some (remove { sockets with clients := sockets.clients.set index { client with pump := .returned } } index
          { client with pump := .returned }) := by
      simp only [step, found, leaving, phase, and_self, if_true]
    refine ⟨_, moved, fun later final done => Forgotten.run ⟨?_, unregister_forgets sound moved⟩ (sound.step moved) done⟩
    obtain ⟨new, located, flowed⟩ := step_flowed moved found
    refine ⟨new, located, Bool.eq_false_iff.mpr fun waits => ?_⟩
    rw [tended.begun index client found (flowed.waits waits)] at leaving
    cases leaving

/-- The socket breaks while the event is written to it; another client comes for the same order. -/
def departed : List Action := watched ++ [.fanOut, .fanOut, .fanOut, .write 1 false, .connect 1]

theorem departed_forgotten_broken : ∃ sockets next, run step start departed = some sockets ∧
    sockets.clients.map (·.pump) = [.unstarted, .unregistering, .unstarted] ∧
    step sockets (.unregister 1) = some next ∧ next.hub.members 1 = {0} ∧
    ∀ later final, run step next later = some final → ∀ orderID, 1 ∉ final.hub.members orderID := by
  obtain ⟨sockets, reached, pumps, phase, members⟩ : ∃ sockets, run step start departed = some sockets ∧
      sockets.clients.map (·.pump) = [.unstarted, .unregistering, .unstarted] ∧ sockets.hub.phase = .selecting ∧
      ((step sockets (.unregister 1)).map fun next => next.hub.members 1) = some {0} := ⟨_, rfl, rfl, rfl, rfl⟩
  obtain ⟨client, found, leaving⟩ : ∃ client, sockets.clients[1]? = some client ∧ client.pump = .unregistering := by
    have second : (sockets.clients.map (·.pump))[1]? = some .unregistering := by rw [pumps]; rfl
    simpa [List.getElem?_map] using second
  obtain ⟨next, moved, forgotten⟩ := (departed_forgotten reached found).2 leaving phase
  rw [moved] at members
  exact ⟨sockets, next, reached, pumps, moved, Option.some.inj members, forgotten⟩

end Sockets

end OrderProcessing
