import OrderProcessing.Ws.Connections

/-! What a step of the connections puts into the queue of a client, and what else
it does to that client and to a fan-out in progress. -/

namespace OrderProcessing

open Library

def HubPhase.fans : HubPhase → Bool
  | .fanning _ _ _ => true
  | _ => false

namespace Sockets

/-- The client and the event that the action puts into its queue. -/
def places (sockets : Sockets) : Action → Option (Nat × NotificationEvent)
  | .fanOut =>
    match sockets.hub.phase with
    | .fanning payload (index :: _) _ =>
      match sockets.clients[index]? with
      | some client => if (client.send.trySend payload).1 = .sent then some (index, payload) else none
      | none => none
    | _ => none
  | .replay index =>
    match sockets.clients[index]? with
    | some client =>
      match client.handler with
      | .replaying (note :: _) => if (client.send.trySend note).1 = .sent then some (index, note) else none
      | _ => none
    | none => none
  | _ => none

/-- The process ends: no handler and no pump goes on, and a new hub is empty. -/
def restart (sockets : Sockets) : Sockets :=
  { hub := {}, clients := sockets.clients.map fun client => { client with handler := .returned, pump := .returned } }

theorem restart_located (sockets : Sockets) (index : Nat) : sockets.restart.clients[index]? =
    sockets.clients[index]?.map fun client => { client with handler := .returned, pump := .returned } := by
  simp [restart]

/-- What a step can do to one client. -/
inductive Touched (sockets : Sockets) (action : Action) (index : Nat) (client : Client) : Client → Prop where
  | pumped (silent : sockets.places action = none) (pump : PumpPhase) :
      Touched sockets action index client { client with pump }
  | elsewhere (other : ∀ event, sockets.places action ≠ some (index, event)) : Touched sockets action index client client
  | registered (silent : sockets.places action = none) (waiting : client.handler = .registering) :
      Touched sockets action index client { client with handler := .starting }
  | started (silent : sockets.places action = none) (waiting : client.handler = .starting) :
      Touched sockets action index client { client with handler := .loading, pump := .running }
  | failed (silent : sockets.places action = none) (waiting : client.handler = .loading) :
      Touched sockets action index client { client with handler := .returned }
  | listed (named : action = .load index (some notes)) (waiting : client.handler = .loading) :
      Touched sockets action index client { client with handler := .replaying notes }
  | replayed (named : action = .replay index) (waiting : client.handler = .replaying (note :: rest))
      (opened : client.send.closed = false) (room : client.send.room)
      (placed : sockets.places action = some (index, note)) :
      Touched sockets action index client
        { client with send := client.send.push note, handler := .replaying rest }
  | lost (silent : sockets.places action = none) (waiting : client.handler = .replaying (note :: rest))
      (stuck : client.send.closed ∨ client.send.room = false)
      (onward : handler = .panicked ∨ handler = .replaying rest) : Touched sockets action index client { client with handler }
  | written (silent : sockets.places action = none) (received : client.send.receive = some (value, send))
      (pump : PumpPhase) : Touched sockets action index client { client with send, pump }
  | pushed (named : action = .fanOut) (phase : sockets.hub.phase = .fanning payload (index :: rest) delivered)
      (opened : client.send.closed = false) (room : client.send.room)
      (placed : sockets.places action = some (index, payload)) :
      Touched sockets action index client { client with send := client.send.push payload }
  | closed (silent : sockets.places action = none) (pump : PumpPhase) :
      Touched sockets action index client { client with send := client.send.close, pump }

theorem Touched.silent (quiet : sockets.places action = none) : Touched sockets action index client client :=
  .elsewhere (by simp [quiet])

variable {sockets next : Sockets} {index : Nat} {client new : Client}

/-- Closing the channel of a client leaves every other client alone. -/
theorem closeSend_located {actor : Nat} {holder : Client}
    (located : (closeSend sockets actor holder).clients[index]? = some new) :
    (index = actor ∧ new = { holder with send := holder.send.close }) ∨ sockets.clients[index]? = some new := by
  unfold closeSend at located
  split at located
  · exact .inr located
  · exact (getElem_set_cases located).imp_right And.right

theorem remove_located {actor : Nat} {holder : Client}
    (located : (remove sockets actor holder).clients[index]? = some new) :
    (index = actor ∧ new = { holder with send := holder.send.close }) ∨ sockets.clients[index]? = some new := by
  unfold remove at located
  split at located
  · rcases closeSend_located located with same | before
    · exact .inl same
    · exact .inr before
  · exact .inr located

theorem replay_touched (found : sockets.clients[index]? = some client) (changed : replay client = some new) :
    Touched sockets (.replay index) index client new := by
  unfold replay at changed
  split at changed
  · rename_i note rest waiting
    cases changed
    have placed : sockets.places (.replay index) =
        if (client.send.trySend note).1 = .sent then some (index, note) else none := by
      simp only [places, found, waiting]
    by_cases closed : client.send.closed
    · simp only [Channel.trySend, closed, if_true] at placed ⊢
      exact .lost placed waiting (.inl closed) (.inl rfl)
    · by_cases room : client.send.room
      · simp only [Channel.trySend, closed, room] at placed ⊢
        exact .replayed rfl waiting (by simpa using closed) room placed
      · simp only [Channel.trySend, closed, room] at placed ⊢
        exact .lost placed waiting (.inr (by simpa using room)) (.inr rfl)
  · cases changed

theorem write_touched (changed : write client accepted = some new) :
    Touched sockets (.write index accepted) index client new := by
  unfold write at changed
  split at changed
  · split at changed
    · cases changed
    · cases changed
      exact .written rfl ‹_› _
    · cases changed
      exact .written rfl ‹_› _
  · cases changed

theorem fanOut_touched (moved : sockets.fanOut = some next) (located : next.clients[index]? = some new) :
    ∃ client, sockets.clients[index]? = some client ∧ Touched sockets .fanOut index client new := by
  unfold fanOut at moved
  split at moved
  · rename_i phase
    cases moved
    exact ⟨new, located, .elsewhere (by simp [places, phase])⟩
  · rename_i payload actor rest delivered phase
    split at moved
    · cases moved
    · rename_i holder found
      have placed : sockets.places .fanOut =
          if (holder.send.trySend payload).1 = .sent then some (actor, payload) else none := by
        simp only [places, phase, found]
      split at moved
      · rename_i send sent
        cases moved
        rw [sent, if_pos rfl] at placed
        obtain ⟨opened, room, rfl⟩ := Channel.trySend_sent sent
        rcases getElem_set_cases located with ⟨rfl, rfl⟩ | ⟨different, before⟩
        · exact ⟨holder, found, .pushed rfl phase opened room placed⟩
        · refine ⟨new, before, .elsewhere fun event same => different ?_⟩
          rw [placed] at same
          cases same
          rfl
      · rename_i dropped
        cases moved
        rw [dropped] at placed
        rcases remove_located located with ⟨rfl, rfl⟩ | before
        · exact ⟨holder, found, .closed placed holder.pump⟩
        · exact ⟨new, before, .silent placed⟩
      · cases moved
        rename_i panicked
        rw [panicked] at placed
        exact ⟨new, located, .silent placed⟩
  · cases moved

theorem closeNext_touched (moved : sockets.closeNext = some next) (located : next.clients[index]? = some new) :
    ∃ client, sockets.clients[index]? = some client ∧ Touched sockets .closeNext index client new := by
  unfold closeNext at moved
  split at moved
  · cases moved
    exact ⟨new, located, .silent rfl⟩
  · split at moved
    · cases moved
    · rename_i holder found
      cases moved
      rcases closeSend_located located with ⟨rfl, rfl⟩ | before
      · exact ⟨holder, found, .closed rfl holder.pump⟩
      · exact ⟨new, before, .silent rfl⟩
  · cases moved

/-- A step either opens a connection or touches a client in one of these ways. -/
theorem step_touched (moved : step sockets action = some next)
    (located : next.clients[index]? = some new) :
    (∃ orderID, action = .connect orderID ∧ index = sockets.clients.length ∧ new = { orderID }) ∨
      ∃ client, sockets.clients[index]? = some client ∧ Touched sockets action index client new := by
  cases action with
  | connect orderID =>
    cases moved
    rw [List.getElem?_append] at located
    split at located
    · exact .inr ⟨new, located, .silent rfl⟩
    · rename_i beyond
      obtain ⟨inside, rfl⟩ := List.getElem?_eq_some_iff.mp located
      simp only [List.length_singleton] at inside
      exact .inl ⟨orderID, rfl, by omega, by simp⟩
  | register actor =>
    right
    simp only [step] at moved
    split at moved
    · cases moved
    · rename_i holder found
      split at moved <;> cases moved
      rename_i fine
      rcases getElem_set_cases located with ⟨rfl, rfl⟩ | ⟨_, before⟩
      · exact ⟨holder, found, .registered rfl fine.1⟩
      · exact ⟨new, before, .silent rfl⟩
  | unregister actor =>
    right
    simp only [step] at moved
    split at moved
    · cases moved
    · rename_i holder found
      split at moved <;> cases moved
      rcases remove_located located with ⟨rfl, rfl⟩ | before
      · exact ⟨holder, found, .closed rfl .returned⟩
      · rcases getElem_set_cases before with ⟨rfl, rfl⟩ | ⟨_, before⟩
        · exact ⟨holder, found, .pumped rfl .returned⟩
        · exact ⟨new, before, .silent rfl⟩
  | fanOut => exact .inr (fanOut_touched moved located)
  | closeNext => exact .inr (closeNext_touched moved located)
  | notify | shutDown =>
    simp only [step] at moved
    split at moved <;> cases moved
    exact .inr ⟨new, located, .silent rfl⟩
  | stop =>
    simp only [step] at moved
    split at moved <;> cases moved
    exact .inr ⟨new, located, .silent rfl⟩
  | replay actor =>
    right
    obtain ⟨holder, changed, found, done, rfl⟩ := own_cases moved
    rcases getElem_set_cases located with ⟨rfl, rfl⟩ | ⟨different, before⟩
    · exact ⟨holder, found, replay_touched found done⟩
    · refine ⟨new, before, .elsewhere fun event placed => different ?_⟩
      simp only [places, found] at placed
      split at placed
      · split at placed <;> cases placed
        rfl
      · cases placed
  | write actor accepted =>
    right
    obtain ⟨holder, changed, found, done, rfl⟩ := own_cases moved
    rcases getElem_set_cases located with ⟨rfl, rfl⟩ | ⟨_, before⟩
    · exact ⟨holder, found, write_touched done⟩
    · exact ⟨new, before, .silent rfl⟩
  | skipRegister actor | startPump actor =>
    right
    obtain ⟨holder, changed, found, done, rfl⟩ := own_cases moved
    rcases getElem_set_cases located with ⟨rfl, rfl⟩ | ⟨_, before⟩
    · split at done <;> cases done
      first
        | exact ⟨holder, found, .registered rfl (And.left ‹_›)⟩
        | exact ⟨holder, found, .started rfl ‹_›⟩
    · exact ⟨new, before, .silent rfl⟩
  | load actor notes =>
    right
    obtain ⟨holder, changed, found, done, rfl⟩ := own_cases moved
    rcases getElem_set_cases located with ⟨rfl, rfl⟩ | ⟨_, before⟩
    · split at done <;> cases done
      cases notes with
      | none => exact ⟨holder, found, .failed rfl ‹_›⟩
      | some notes => exact ⟨holder, found, .listed rfl ‹_›⟩
    · exact ⟨new, before, .silent rfl⟩
  | ping actor accepted | skipUnregister actor =>
    right
    obtain ⟨holder, changed, found, done, rfl⟩ := own_cases moved
    rcases getElem_set_cases located with ⟨rfl, rfl⟩ | ⟨_, before⟩
    · split at done <;> cases done
      exact ⟨holder, found, .pumped rfl _⟩
    · exact ⟨new, before, .silent rfl⟩

theorem closeSend_phase (sockets : Sockets) (index : Nat) (client : Client) :
    (closeSend sockets index client).hub.phase = sockets.hub.phase ∨
      (closeSend sockets index client).hub.phase = .panicked := by
  unfold closeSend
  split
  · exact .inr rfl
  · exact .inl rfl

theorem remove_phase (sockets : Sockets) (index : Nat) (client : Client) :
    (remove sockets index client).hub.phase = sockets.hub.phase ∨
      (remove sockets index client).hub.phase = .panicked := by
  unfold remove
  split
  · exact closeSend_phase _ index client
  · exact .inl rfl

/-- While the hub fans out, nothing else touches its map. -/
theorem step_calm (moved : step sockets action = some next)
    (unasked : ∀ orderID payload order, action ≠ .notify orderID payload order) (still : action ≠ .fanOut) :
    (next.hub.phase = sockets.hub.phase ∧ next.hub.clients = sockets.hub.clients) ∨
      (sockets.hub.phase.fans = false ∧ next.hub.phase.fans = false) := by
  cases step_cases moved with
  | connect | own | stop => exact .inl ⟨rfl, rfl⟩
  | register _ _ phase => exact .inr ⟨by rw [phase]; rfl, by rw [Hub.add, phase]; rfl⟩
  | @unregister index client found phase =>
    refine .inr ⟨by rw [phase]; rfl, ?_⟩
    rcases remove_phase { sockets with clients := sockets.clients.set index { client with pump := .returned } } index
      { client with pump := .returned } with same | panicked
    · rw [same, phase]
      rfl
    · rw [panicked]
      rfl
  | notify => exact absurd rfl (unasked _ _ _)
  | fanOut => exact absurd rfl still
  | shutDown phase => exact .inr ⟨by rw [phase]; rfl, rfl⟩
  | closeNext done =>
    unfold closeNext at done
    split at done
    · rename_i phase
      cases done
      exact .inr ⟨by rw [phase]; rfl, rfl⟩
    · rename_i index rest phase
      split at done
      · cases done
      · rename_i client found
        cases done
        refine .inr ⟨by rw [phase]; rfl, ?_⟩
        rcases closeSend_phase { sockets with hub := { sockets.hub with phase := .closing rest } } index client with
          same | panicked
        · rw [same]
          rfl
        · rw [panicked]
          rfl
    · cases done

/-- The hub takes a message between two events, for the clients of its order. -/
theorem notify_cases (moved : step sockets (.notify orderID payload order) = some next) :
    sockets.hub.phase = .selecting ∧ order.Nodup ∧ order.toFinset = sockets.hub.members orderID ∧
      next = { sockets with hub := { sockets.hub with phase := .fanning payload order false } } := by
  simp only [step] at moved
  split at moved <;> cases moved
  rename_i fine
  exact ⟨fine.1, fine.2.1, fine.2.2, rfl⟩

/-- After the last client the hub waits for the next event. -/
theorem fanOut_finished (phase : sockets.hub.phase = .fanning payload [] delivered)
    (moved : sockets.fanOut = some next) : next = { sockets with hub := { sockets.hub with phase := .selecting } } := by
  simp only [fanOut, phase] at moved
  cases moved
  rfl

/-- What an iteration of the fan-out can do. -/
inductive FannedOut (sockets : Sockets) : Sockets → Prop where
  | finished (phase : sockets.hub.phase = .fanning payload [] delivered) :
      FannedOut sockets { sockets with hub := { sockets.hub with phase := .selecting } }
  | sent {index : Nat} {client : Client} (phase : sockets.hub.phase = .fanning payload (index :: rest) delivered)
      (found : sockets.clients[index]? = some client)
      (placed : sockets.places .fanOut = some (index, payload)) :
      FannedOut sockets {
        hub := { sockets.hub with phase := .fanning payload rest true }
        clients := sockets.clients.set index { client with send := client.send.push payload } }
  | dropped {index : Nat} {client : Client} (phase : sockets.hub.phase = .fanning payload (index :: rest) delivered)
      (found : sockets.clients[index]? = some client) (full : client.send.room = false)
      (silent : sockets.places .fanOut = none) :
      FannedOut sockets {
        hub := { sockets.hub.delete client.orderID index with phase := .fanning payload rest delivered }
        clients := sockets.clients.set index { client with send := client.send.close } }

theorem fanOut_cases (sound : Sound sockets) (moved : sockets.fanOut = some next) : FannedOut sockets next := by
  unfold fanOut at moved
  split at moved
  · cases moved
    exact .finished ‹_›
  · rename_i payload index rest delivered phase
    obtain ⟨orderID, member⟩ := sound.pending index (by simp [phase, HubPhase.remaining])
    obtain ⟨client, found, rfl, _, opened⟩ := sound.known orderID index member
    have unclosed : client.send.closed = false := by simpa [phase, HubPhase.passed] using opened
    have places : sockets.places .fanOut =
        if (client.send.trySend payload).1 = .sent then some (index, payload) else none := by
      simp only [places, phase, found]
    simp only [found, Channel.trySend, unclosed, Bool.false_eq_true, if_false] at moved places
    by_cases room : client.send.room
    · simp only [room, if_true] at moved places
      cases moved
      exact .sent phase found places
    · simp only [room, Bool.false_eq_true, if_false] at moved places
      cases moved
      have removed := @remove_member
        { sockets with hub := { sockets.hub with phase := .fanning payload rest delivered } } index client member unclosed
      rw [removed]
      exact .dropped phase found (by simpa using room) places
  · cases moved

theorem Touched.orderID (touched : Touched sockets action index client new) : new.orderID = client.orderID := by
  cases touched <;> rfl

/-- A step puts one event at the end of the queue, as it is said to, or it takes some
off its front. -/
theorem Touched.queue (touched : Touched sockets action index client new) :
    new.send.capacity = client.send.capacity ∧
      ((∃ event, sockets.places action = some (index, event) ∧ new.send.buffer = client.send.buffer ++ [event]) ∨
        new.send.buffer <:+ client.send.buffer) := by
  cases touched with
  | replayed _ _ _ _ placed | pushed _ _ _ _ placed => exact ⟨rfl, .inl ⟨_, placed, rfl⟩⟩
  | written _ received =>
    unfold Channel.receive at received
    split at received
    · rename_i value rest full
      cases received
      exact ⟨rfl, .inr (full ▸ List.suffix_cons value rest)⟩
    · split at received <;> cases received
      exact ⟨rfl, .inr (List.suffix_refl _)⟩
  | _ => exact ⟨rfl, .inr (List.suffix_refl _)⟩

/-- What a handler has yet to send was read from the store. -/
theorem Touched.replaying (touched : Touched sockets action index client new) (waiting : new.handler = .replaying notes) :
    (∃ earlier, client.handler = .replaying earlier ∧ notes <:+ earlier) ∨ action = .load index (some notes) := by
  cases touched with
  | registered | started | failed => cases waiting
  | listed named =>
    cases waiting
    exact .inr named
  | replayed _ before =>
    cases waiting
    exact .inl ⟨_, before, List.suffix_cons _ _⟩
  | lost _ before _ onward =>
    rcases onward with rfl | rfl
    · cases waiting
    · cases waiting
      exact .inl ⟨_, before, List.suffix_cons _ _⟩
  | _ => exact .inl ⟨notes, waiting, List.suffix_refl _⟩

/-- What a handler had to send it still has to, or it sent it, if the queue took it. -/
theorem Touched.delivers (touched : Touched sockets action index client new) (before : client.handler = .replaying earlier)
    (after : new.handler = .replaying notes) (opened : client.send.closed = false) (room : client.send.room)
    (member : event ∈ earlier) : event ∈ notes ∨ sockets.places action = some (index, event) := by
  cases touched with
  | registered | started | failed => cases after
  | listed _ waiting => cases before.symm.trans waiting
  | replayed _ waiting _ _ placed =>
    cases before.symm.trans waiting
    cases after
    rcases List.mem_cons.mp member with rfl | later
    · exact .inr placed
    · exact .inl later
  | lost _ _ stuck => simp [opened, room] at stuck
  | pumped | elsewhere | written | pushed | closed =>
    cases before.symm.trans after
    exact .inl member

theorem closeSend_length (sockets : Sockets) (index : Nat) (client : Client) :
    (closeSend sockets index client).clients.length = sockets.clients.length := by
  unfold closeSend
  split <;> simp

theorem remove_length (sockets : Sockets) (index : Nat) (client : Client) :
    (remove sockets index client).clients.length = sockets.clients.length := by
  unfold remove
  split
  · exact closeSend_length _ index client
  · rfl

theorem step_length (moved : step sockets action = some next) :
    next.clients.length = sockets.clients.length ∨
      ∃ orderID, action = .connect orderID ∧ next.clients.length = sockets.clients.length + 1 := by
  cases step_cases moved with
  | connect => exact .inr ⟨_, rfl, by simp⟩
  | register | own => exact .inl (by simp)
  | unregister => exact .inl (by rw [remove_length]; simp)
  | notify | stop | shutDown => exact .inl rfl
  | fanOut done =>
    left
    unfold fanOut at done
    split at done
    · cases done
      rfl
    · split at done
      · cases done
      · split at done <;> cases done
        · simp
        · rw [remove_length]
        · rfl
    · cases done
  | closeNext done =>
    left
    unfold closeNext at done
    split at done
    · cases done
      rfl
    · split at done <;> cases done
      rw [closeSend_length]
    · cases done

/-- A client stays, under its number and its order. -/
theorem step_located (moved : step sockets action = some next) (found : sockets.clients[index]? = some client) :
    ∃ new, next.clients[index]? = some new ∧ Touched sockets action index client new := by
  have inside : index < sockets.clients.length := (List.getElem?_eq_some_iff.mp found).1
  have longer : sockets.clients.length ≤ next.clients.length := by
    rcases step_length moved with same | ⟨_, _, more⟩ <;> omega
  have located := List.getElem?_eq_getElem (Nat.lt_of_lt_of_le inside longer)
  rcases step_touched moved located with ⟨_, _, beyond, _⟩ | ⟨_, before, touched⟩
  · omega
  · cases found.symm.trans before
    exact ⟨_, located, touched⟩

end Sockets

end OrderProcessing
