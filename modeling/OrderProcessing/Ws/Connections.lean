import OrderProcessing.Library.Channel
import OrderProcessing.Library.Keyed
import OrderProcessing.Library.Machine
import OrderProcessing.Ws.Hub

/-! The hub together with every WebSocket connection: the `Connect` handler that
registers the client and replays stored notifications, and the write pump that
drains its queue. The hub alone closes a client's channel, but the handler sends
on it too. -/

namespace OrderProcessing

open Library

def sendBuffer : Nat := 32

/-- Where a handler stands in `Connect` once the connection is upgraded. -/
inductive ConnectPhase where
  | registering
  | starting
  | loading
  | replaying (notes : List NotificationEvent)
  | returned
  | panicked
  deriving DecidableEq, Repr

inductive PumpPhase where
  | unstarted
  | running
  | unregistering
  | returned
  deriving DecidableEq, Repr

structure Client where
  orderID : Int
  send : Channel NotificationEvent := { capacity := sendBuffer }
  handler : ConnectPhase := .registering
  pump : PumpPhase := .unstarted
  deriving DecidableEq, Repr

/-- The handler has stored notifications left to send. -/
def Client.replays (client : Client) : Bool :=
  match client.handler with
  | .replaying (_ :: _) => true
  | _ => false

structure Sockets where
  hub : Hub := {}
  clients : List Client := []

namespace Sockets

/-- One step of one goroutine. The order in which Go iterates over a set of
clients, the answer of the store and the fate of a write are arguments. -/
inductive Action where
  | connect (orderID : Int)
  | register (client : Nat)
  | skipRegister (client : Nat)
  | startPump (client : Nat)
  | load (client : Nat) (notes : Option (List NotificationEvent))
  | replay (client : Nat)
  | write (client : Nat) (accepted : Bool)
  | ping (client : Nat) (accepted : Bool)
  | unregister (client : Nat)
  | skipUnregister (client : Nat)
  | notify (orderID : Int) (payload : NotificationEvent) (order : List Nat)
  | fanOut
  | stop
  | shutDown (order : List Nat)
  | closeNext
  deriving DecidableEq, Repr

/-- `close(c.send)` by the hub; closing a closed channel panics. -/
def closeSend (sockets : Sockets) (index : Nat) (client : Client) : Sockets :=
  if client.send.closed then { sockets with hub := { sockets.hub with phase := .panicked } }
  else { sockets with clients := sockets.clients.set index { client with send := client.send.close } }

/-- `Hub.remove`: nothing happens to a client that is not in the map. -/
def remove (sockets : Sockets) (index : Nat) (client : Client) : Sockets :=
  if index ∈ sockets.hub.members client.orderID then
    closeSend { sockets with hub := sockets.hub.delete client.orderID index } index client
  else sockets

/-- One iteration of the fan-out loop, or its end. -/
def fanOut (sockets : Sockets) : Option Sockets :=
  match sockets.hub.phase with
  | .fanning _ [] _ => some { sockets with hub := { sockets.hub with phase := .selecting } }
  | .fanning payload (index :: rest) delivered =>
    match sockets.clients[index]? with
    | none => none
    | some client =>
      match client.send.trySend payload with
      | (.sent, send) =>
        some {
          hub := { sockets.hub with phase := .fanning payload rest true }
          clients := sockets.clients.set index { client with send } }
      | (.dropped, _) =>
        some (remove { sockets with hub := { sockets.hub with phase := .fanning payload rest delivered } } index client)
      | (.panicked, _) => some { sockets with hub := { sockets.hub with phase := .panicked } }
  | _ => none

/-- One iteration of the loop that closes all channels, or its end. -/
def closeNext (sockets : Sockets) : Option Sockets :=
  match sockets.hub.phase with
  | .closing [] => some { sockets with hub := { sockets.hub with clients := ∅, phase := .returned } }
  | .closing (index :: rest) =>
    match sockets.clients[index]? with
    | none => none
    | some client =>
      some (closeSend { sockets with hub := { sockets.hub with phase := .closing rest } } index client)
  | _ => none

/-- `Client.Send` of the next stored notification. -/
def replay (client : Client) : Option Client :=
  match client.handler with
  | .replaying (note :: rest) =>
    let outcome := client.send.trySend note
    some { client with
      send := outcome.2
      handler := if outcome.1 = .panicked then .panicked else .replaying rest }
  | _ => none

/-- The receive case of the write pump. It leaves its loop when the socket write
fails or the channel is closed. -/
def write (client : Client) (accepted : Bool) : Option Client :=
  if client.pump = .running then
    match client.send.receive with
    | none => none
    | some (some _, send) => some { client with send, pump := if accepted then .running else .unregistering }
    | some (none, send) => some { client with send, pump := .unregistering }
  else none

/-- A step of a handler or a pump that involves its own client only. -/
def own (sockets : Sockets) (index : Nat) (change : Client → Option Client) : Option Sockets :=
  match sockets.clients[index]? with
  | none => none
  | some client => (change client).map fun client => { sockets with clients := sockets.clients.set index client }

def step (sockets : Sockets) : Action → Option Sockets
  | .connect orderID => some { sockets with clients := sockets.clients ++ [{ orderID }] }
  | .register index =>
    match sockets.clients[index]? with
    | none => none
    | some client =>
      if client.handler = .registering ∧ sockets.hub.phase = .selecting then
        some {
          hub := sockets.hub.add client.orderID index
          clients := sockets.clients.set index { client with handler := .starting } }
      else none
  | .skipRegister index =>
    sockets.own index fun client =>
      if client.handler = .registering ∧ sockets.hub.done then some { client with handler := .starting } else none
  | .startPump index =>
    sockets.own index fun client =>
      if client.handler = .starting then some { client with handler := .loading, pump := .running } else none
  | .load index notes =>
    sockets.own index fun client =>
      if client.handler = .loading then
        some { client with handler := match notes with
          | none => .returned
          | some notes => .replaying notes }
      else none
  | .replay index => sockets.own index replay
  | .write index accepted => sockets.own index (write · accepted)
  | .ping index accepted =>
    sockets.own index fun client =>
      if client.pump = .running then
        some { client with pump := if accepted then .running else .unregistering }
      else none
  | .unregister index =>
    match sockets.clients[index]? with
    | none => none
    | some client =>
      if client.pump = .unregistering ∧ sockets.hub.phase = .selecting then
        let client := { client with pump := .returned }
        some (remove { sockets with clients := sockets.clients.set index client } index client)
      else none
  | .skipUnregister index =>
    sockets.own index fun client =>
      if client.pump = .unregistering ∧ sockets.hub.done then some { client with pump := .returned } else none
  | .notify orderID payload order =>
    if sockets.hub.phase = .selecting ∧ order.Nodup ∧ order.toFinset = sockets.hub.members orderID then
      some { sockets with hub := { sockets.hub with phase := .fanning payload order false } }
    else none
  | .fanOut => sockets.fanOut
  | .stop => if sockets.hub.done then none else some { sockets with hub := { sockets.hub with done := true } }
  | .shutDown order =>
    if sockets.hub.phase = .selecting ∧ sockets.hub.done ∧ order.Nodup ∧ order.toFinset = sockets.hub.everyone then
      some { sockets with hub := { sockets.hub with phase := .closing order } }
    else none
  | .closeNext => sockets.closeNext

/-- What a step of a handler or a pump can do to its client. It panics only in a
replay on a closed channel. -/
structure Progressed (index : Nat) (action : Action) (client new : Client) : Prop where
  order : new.orderID = client.orderID
  channel : new.send.closed = client.send.closed
  handler : new.handler = .registering → client.handler = .registering
  panic : new.handler = .panicked → client.handler = .panicked ∨ (client.replays ∧ client.send.closed)
  replay : new.replays → client.replays ∨ ∃ note rest, action = .load index (some (note :: rest))

/-- What an enabled action does, and where the party it names stands. -/
inductive Stepped (sockets : Sockets) : Action → Sockets → Prop where
  | connect : Stepped sockets (.connect orderID) { sockets with clients := sockets.clients ++ [{ orderID }] }
  | register {client : Client} (found : sockets.clients[index]? = some client)
      (waiting : client.handler = .registering) (phase : sockets.hub.phase = .selecting) :
      Stepped sockets (.register index) {
        hub := sockets.hub.add client.orderID index
        clients := sockets.clients.set index { client with handler := .starting } }
  | own {client : Client} (found : sockets.clients[index]? = some client)
      (progressed : Progressed index action client new) :
      Stepped sockets action { sockets with clients := sockets.clients.set index new }
  | unregister {client : Client} (found : sockets.clients[index]? = some client)
      (phase : sockets.hub.phase = .selecting) :
      Stepped sockets (.unregister index)
        (remove { sockets with clients := sockets.clients.set index { client with pump := .returned } } index
          { client with pump := .returned })
  | notify (phase : sockets.hub.phase = .selecting) (distinct : order.Nodup)
      (all : order.toFinset = sockets.hub.members orderID) :
      Stepped sockets (.notify orderID payload order)
        { sockets with hub := { sockets.hub with phase := .fanning payload order false } }
  | fanOut (moved : sockets.fanOut = some after) : Stepped sockets .fanOut after
  | stop : Stepped sockets .stop { sockets with hub := { sockets.hub with done := true } }
  | shutDown (phase : sockets.hub.phase = .selecting) (distinct : order.Nodup)
      (all : order.toFinset = sockets.hub.everyone) :
      Stepped sockets (.shutDown order) { sockets with hub := { sockets.hub with phase := .closing order } }
  | closeNext (moved : sockets.closeNext = some after) : Stepped sockets .closeNext after

/-- The map holds registered clients with open channels under their own order;
while all channels are being closed, those not yet reached are open. -/
structure Sound (sockets : Sockets) : Prop where
  known : ∀ orderID index, index ∈ sockets.hub.members orderID →
    ∃ client, sockets.clients[index]? = some client ∧ client.orderID = orderID ∧ client.handler ≠ .registering ∧
      (client.send.closed = false ∨ sockets.hub.phase.passed index)
  fresh : ∀ (index : Nat) client, sockets.clients[index]? = some client →
    client.handler = .registering → client.send.closed = false
  distinct : sockets.hub.phase.remaining.Nodup
  pending : ∀ index ∈ sockets.hub.phase.remaining, ∃ orderID, index ∈ sockets.hub.members orderID
  running : sockets.hub.phase ≠ .panicked

variable {sockets next : Sockets} {index : Nat} {client new : Client}

theorem own_cases {change : Client → Option Client} (moved : sockets.own index change = some next) :
    ∃ client new, sockets.clients[index]? = some client ∧ change client = some new ∧
      next = { sockets with clients := sockets.clients.set index new } := by
  unfold own at moved
  split at moved
  · cases moved
  · obtain ⟨new, changed, rfl⟩ := Option.map_eq_some_iff.mp moved
    exact ⟨_, new, ‹_›, changed, rfl⟩

theorem replay_progressed (changed : replay client = some new) : Progressed index (.replay index) client new := by
  unfold Sockets.replay at changed
  split at changed
  · rename_i note rest waiting
    cases changed
    refine ⟨rfl, by simp, ?_, ?_, ?_⟩
    · simp only
      split <;> nofun
    · intro panicked
      refine .inr ⟨by simp [Client.replays, waiting], ?_⟩
      rw [← client.send.trySend_panicked note]
      by_contra normal
      simp [normal] at panicked
    · intro _
      exact .inl (by simp [Client.replays, waiting])
  · cases changed

theorem write_progressed (changed : write client accepted = some new) :
    Progressed index (.write index accepted) client new := by
  unfold Sockets.write at changed
  split at changed
  · split at changed
    · cases changed
    · rename_i received
      cases changed
      exact ⟨rfl, Channel.receive_closed received, id, .inl, .inl⟩
    · rename_i received
      cases changed
      exact ⟨rfl, Channel.receive_closed received, id, .inl, .inl⟩
  · cases changed

theorem step_cases (moved : step sockets action = some next) : Stepped sockets action next := by
  cases action with
  | connect => cases moved; exact .connect
  | register index =>
    simp only [step] at moved
    split at moved
    · cases moved
    · split at moved
      · rename_i found fine
        cases moved
        exact .register found fine.1 fine.2
      · cases moved
  | replay index =>
    obtain ⟨client, new, found, changed, rfl⟩ := own_cases moved
    exact .own found (replay_progressed changed)
  | write index accepted =>
    obtain ⟨client, new, found, changed, rfl⟩ := own_cases moved
    exact .own found (write_progressed changed)
  | skipRegister | startPump =>
    obtain ⟨client, new, found, changed, rfl⟩ := own_cases moved
    split at changed <;> cases changed
    exact .own found ⟨rfl, rfl, nofun, nofun, nofun⟩
  | load index notes =>
    obtain ⟨client, new, found, changed, rfl⟩ := own_cases moved
    split at changed <;> cases changed
    refine .own found ?_
    rcases notes with _ | _ | ⟨note, rest⟩
    · exact ⟨rfl, rfl, nofun, nofun, nofun⟩
    · exact ⟨rfl, rfl, nofun, nofun, nofun⟩
    · exact ⟨rfl, rfl, nofun, nofun, fun _ => .inr ⟨note, rest, rfl⟩⟩
  | ping | skipUnregister =>
    obtain ⟨client, new, found, changed, rfl⟩ := own_cases moved
    split at changed <;> cases changed
    exact .own found ⟨rfl, rfl, id, .inl, .inl⟩
  | unregister index =>
    simp only [step] at moved
    split at moved
    · cases moved
    · split at moved
      · rename_i found fine
        cases moved
        exact .unregister found fine.2
      · cases moved
  | notify =>
    simp only [step] at moved
    split at moved
    · rename_i fine
      cases moved
      exact .notify fine.1 fine.2.1 fine.2.2
    · cases moved
  | fanOut => exact .fanOut moved
  | stop =>
    simp only [step] at moved
    split at moved
    · cases moved
    · cases moved
      exact .stop
  | shutDown =>
    simp only [step] at moved
    split at moved
    · rename_i fine
      cases moved
      exact .shutDown fine.1 fine.2.2.1 fine.2.2.2
    · cases moved
  | closeNext => exact .closeNext moved

/-- A client in the map is taken out of it and loses its open channel. -/
theorem remove_member (member : index ∈ sockets.hub.members client.orderID) (unclosed : client.send.closed = false) :
    remove sockets index client = {
      hub := sockets.hub.delete client.orderID index
      clients := sockets.clients.set index { client with send := client.send.close } } := by
  rw [remove, if_pos member, closeSend, if_neg (by simp [unclosed])]

/-- The handler or the pump of a client goes on, without closing its channel. -/
theorem Sound.update (sound : Sound sockets) (found : sockets.clients[index]? = some client)
    (order : new.orderID = client.orderID) (channel : new.send.closed = client.send.closed)
    (handler : new.handler = .registering → client.handler = .registering) :
    Sound { sockets with clients := sockets.clients.set index new } := by
  refine { sound with known := fun orderID other member => ?_, fresh := fun other holder located waiting => ?_ }
  · obtain ⟨holder, located, same, registered, opened⟩ := sound.known orderID other member
    by_cases equal : other = index
    · subst equal
      cases found.symm.trans located
      exact ⟨new, getElem_set_found found _, order.trans same, fun waiting => registered (handler waiting), channel ▸ opened⟩
    · exact ⟨holder, getElem_set_other located equal new, same, registered, opened⟩
  · rcases getElem_set_cases located with ⟨rfl, rfl⟩ | ⟨_, before⟩
    · exact channel.trans (sound.fresh _ client found (handler waiting))
    · exact sound.fresh other holder before waiting

/-- The hub moves on; only the closing loop may pass open channels. -/
theorem Sound.move (sound : Sound sockets) (phase : HubPhase)
    (passed : ∀ index, sockets.hub.phase.passed index → phase.passed index) (distinct : phase.remaining.Nodup)
    (pending : ∀ index ∈ phase.remaining, ∃ orderID, index ∈ sockets.hub.members orderID)
    (running : phase ≠ .panicked) : Sound { sockets with hub := { sockets.hub with phase } } where
  known orderID index member := by
    obtain ⟨client, found, same, registered, opened⟩ := sound.known orderID index member
    exact ⟨client, found, same, registered, opened.imp_right (passed index)⟩
  fresh := sound.fresh
  distinct := distinct
  pending := pending
  running := running

/-- Removing a client closes an open channel, and once only. -/
theorem Sound.remove (sound : Sound sockets) (found : sockets.clients[index]? = some client)
    (serving : ∀ other, ¬ sockets.hub.phase.passed other) (outside : index ∉ sockets.hub.phase.remaining) :
    Sound (remove sockets index client) := by
  by_cases member : index ∈ sockets.hub.members client.orderID
  case neg =>
    rw [Sockets.remove, if_neg member]
    exact sound
  obtain ⟨_, located, _, registered, opened⟩ := sound.known client.orderID index member
  cases found.symm.trans located
  have unclosed : client.send.closed = false := opened.resolve_right (serving index)
  -- nobody else leaves the map
  have others {orderID : Int} {other : Nat} (different : other ≠ index) :
      other ∈ (sockets.hub.delete client.orderID index).members orderID ↔ other ∈ sockets.hub.members orderID := by
    rw [Hub.members_delete]
    split <;> simp [different]
  have gone (orderID : Int) : index ∉ (sockets.hub.delete client.orderID index).members orderID := by
    rw [Hub.members_delete]
    split
    · simp
    · rename_i foreign
      intro present
      obtain ⟨_, again, same, _⟩ := sound.known orderID index present
      cases found.symm.trans again
      exact foreign same.symm
  rw [remove_member member unclosed]
  refine { known := fun orderID other present => ?_, fresh := fun other holder located waiting => ?_,
           distinct := sound.distinct, pending := fun other queued => ?_, running := sound.running }
  · have different : other ≠ index := fun same => gone orderID (same ▸ present)
    obtain ⟨holder, located, rest⟩ := sound.known orderID other ((others different).mp present)
    exact ⟨holder, getElem_set_other located different _, rest⟩
  · rcases getElem_set_cases located with ⟨rfl, rfl⟩ | ⟨_, before⟩
    · exact absurd waiting registered
    · exact sound.fresh other holder before waiting
  · have different : other ≠ index := fun same => outside (same ▸ queued)
    obtain ⟨orderID, present⟩ := sound.pending other queued
    exact ⟨orderID, (others different).mpr present⟩

theorem Sound.fanOut (sound : Sound sockets) (moved : sockets.fanOut = some next) : Sound next := by
  unfold Sockets.fanOut at moved
  split at moved
  · cases moved
    exact sound.move .selecting (by simp_all [HubPhase.passed]) .nil (by simp [HubPhase.remaining]) (by simp)
  · rename_i payload index rest delivered phase
    split at moved
    · cases moved
    · rename_i client found
      have distinct := sound.distinct
      have pending := sound.pending
      rw [phase] at distinct pending
      obtain ⟨absent, unique⟩ := List.nodup_cons.mp distinct
      have advanced (delivered : Bool) :
          Sound { sockets with hub := { sockets.hub with phase := .fanning payload rest delivered } } :=
        sound.move _ (by simp [phase, HubPhase.passed]) unique
          (fun other member => pending other (List.mem_cons_of_mem _ member)) (by simp)
      split at moved
      · rename_i send sent
        cases moved
        have channel : send.closed = client.send.closed := by
          rw [← client.send.trySend_closed payload, sent]
        exact (advanced true).update found rfl channel id
      · cases moved
        exact (advanced delivered).remove found (by simp [HubPhase.passed]) absent
      · rename_i sent
        -- a client in the map has an open channel
        obtain ⟨orderID, member⟩ := pending index (List.mem_cons_self)
        obtain ⟨_, located, _, _, opened⟩ := sound.known orderID index member
        cases found.symm.trans located
        have closed := (client.send.trySend_panicked payload).mp (by rw [sent])
        rw [phase] at opened
        simp [closed, HubPhase.passed] at opened
  · cases moved

theorem Sound.closeNext (sound : Sound sockets) (moved : sockets.closeNext = some next) : Sound next := by
  unfold Sockets.closeNext at moved
  split at moved
  · cases moved
    refine { known := ?_, fresh := sound.fresh, distinct := .nil, pending := by simp [HubPhase.remaining],
             running := by simp }
    intro orderID index member
    simp [Hub.members] at member
  · rename_i index rest phase
    split at moved
    · cases moved
    · rename_i client found
      cases moved
      have distinct := sound.distinct
      have pending := sound.pending
      rw [phase] at distinct pending
      obtain ⟨absent, unique⟩ := List.nodup_cons.mp distinct
      obtain ⟨orderID, member⟩ := pending index List.mem_cons_self
      obtain ⟨_, located, _, registered, opened⟩ := sound.known orderID index member
      cases found.symm.trans located
      have unclosed : client.send.closed = false := by
        rw [phase] at opened
        simpa [HubPhase.passed] using opened
      rw [closeSend, if_neg (by simp [unclosed])]
      refine { known := fun order other present => ?_, fresh := fun other holder located waiting => ?_,
               distinct := unique, pending := fun other queued => pending other (List.mem_cons_of_mem _ queued),
               running := by simp }
      · obtain ⟨holder, there, same, begun, before⟩ := sound.known order other present
        by_cases equal : other = index
        · subst equal
          cases found.symm.trans there
          exact ⟨{ client with send := client.send.close }, getElem_set_found found _, same, begun, .inr absent⟩
        · refine ⟨holder, getElem_set_other there equal _, same, begun, ?_⟩
          rw [phase] at before
          exact before.imp_right fun passed => List.not_mem_of_not_mem_cons passed
      · rcases getElem_set_cases located with ⟨rfl, rfl⟩ | ⟨_, before⟩
        · exact absurd waiting registered
        · exact sound.fresh other holder before waiting
  · cases moved

theorem Sound.add (sound : Sound sockets) (client : Client) (found : sockets.clients[index]? = some client)
    (registered : client.handler ≠ .registering) (unclosed : client.send.closed = false) :
    Sound { sockets with hub := sockets.hub.add client.orderID index } where
  known orderID other member := by
    rw [show ({ sockets with hub := sockets.hub.add client.orderID index } : Sockets).hub =
      sockets.hub.add client.orderID index from rfl, Hub.members_add] at member
    split at member
    · rename_i same
      rcases Finset.mem_insert.mp member with rfl | old
      · exact ⟨client, found, same.symm, registered, .inl unclosed⟩
      · exact sound.known orderID other old
    · exact sound.known orderID other member
  fresh := sound.fresh
  distinct := sound.distinct
  pending other queued := by
    obtain ⟨orderID, member⟩ := sound.pending other queued
    refine ⟨orderID, ?_⟩
    rw [Hub.members_add]
    split
    · exact Finset.mem_insert_of_mem member
    · exact member
  running := sound.running

theorem Sound.connect (sound : Sound sockets) (orderID : Int) :
    Sound { sockets with clients := sockets.clients ++ [{ orderID }] } := by
  refine { sound with known := fun order index member => ?_, fresh := fun index client located waiting => ?_ }
  · obtain ⟨client, found, rest⟩ := sound.known order index member
    have inside : index < sockets.clients.length := (List.getElem?_eq_some_iff.mp found).1
    exact ⟨client, by simpa [List.getElem?_append_left inside] using found, rest⟩
  · rcases List.mem_append.mp (List.mem_of_getElem? located) with old | new
    · obtain ⟨other, found⟩ := List.getElem?_of_mem old
      exact sound.fresh other client found waiting
    · rw [List.mem_singleton.mp new]

theorem Sound.step (sound : Sound sockets) (moved : step sockets action = some next) : Sound next := by
  cases step_cases moved with
  | connect => exact sound.connect _
  | @register index client found waiting phase =>
    have updated : Sound { sockets with clients := sockets.clients.set index { client with handler := .starting } } :=
      sound.update found rfl rfl nofun
    exact updated.add { client with handler := .starting } (getElem_set_found found _) (by simp)
      (sound.fresh index client found waiting)
  | own found progressed => exact sound.update found progressed.order progressed.channel progressed.handler
  | @unregister index client found phase =>
    have updated : Sound { sockets with clients := sockets.clients.set index { client with pump := .returned } } :=
      sound.update found rfl rfl id
    refine updated.remove (getElem_set_found found _) ?_ ?_
    · simp [phase, HubPhase.passed]
    · simp [phase, HubPhase.remaining]
  | notify phase distinct all =>
    refine sound.move _ (by simp [phase, HubPhase.passed]) distinct (fun index member => ?_) (by simp)
    exact ⟨_, all ▸ List.mem_toFinset.mpr member⟩
  | fanOut moved => exact sound.fanOut moved
  | stop => exact ⟨sound.known, sound.fresh, sound.distinct, sound.pending, sound.running⟩
  | shutDown phase distinct all =>
    refine sound.move _ (by simp [phase, HubPhase.passed]) distinct (fun index member => ?_) (by simp)
    exact sockets.hub.mem_everyone.mp (all ▸ List.mem_toFinset.mpr member)
  | closeNext moved => exact sound.closeNext moved

/-- The client whose channel the action closes. -/
def closes (sockets : Sockets) : Action → Option Nat
  | .unregister index =>
    match sockets.clients[index]? with
    | some client => if index ∈ sockets.hub.members client.orderID then some index else none
    | none => none
  | .fanOut =>
    match sockets.hub.phase with
    | .fanning _ (index :: _) _ =>
      match sockets.clients[index]? with
      | some client => if client.send.room then none else some index
      | none => none
    | _ => none
  | .closeNext =>
    match sockets.hub.phase with
    | .closing (index :: _) => some index
    | _ => none
  | _ => none

/-- A channel is closed only after its handler has sent all that it loaded, and
no handler loads notifications for a client that is gone. -/
def replayedFirst (sockets : Sockets) (action : Action) : Bool :=
  (match sockets.closes action with
    | some index => (sockets.clients[index]?).all fun client => !client.replays
    | none => true) &&
  match action with
  | .load index (some (_ :: _)) => (sockets.clients[index]?).all fun client => !client.send.closed
  | _ => true

/-- No handler has panicked, and none is about to. -/
def Replayed (sockets : Sockets) : Prop :=
  ∀ (index : Nat) client, sockets.clients[index]? = some client →
    client.handler ≠ .panicked ∧ (client.send.closed → client.replays = false)

theorem Replayed.set (replayed : Replayed sockets) (new : Client) (normal : new.handler ≠ .panicked)
    (finished : new.send.closed → new.replays = false) (hub : Hub) :
    Replayed { hub, clients := sockets.clients.set index new } := by
  intro other holder located
  rcases getElem_set_cases located with ⟨rfl, rfl⟩ | ⟨_, before⟩
  · exact ⟨normal, finished⟩
  · exact replayed other holder before

theorem Replayed.closeSend (replayed : Replayed sockets) (found : sockets.clients[index]? = some client)
    (finished : client.replays = false) : Replayed (closeSend sockets index client) := by
  unfold Sockets.closeSend
  split
  · exact replayed
  · exact replayed.set { client with send := client.send.close } (replayed index client found).1
      (fun _ => finished) sockets.hub

theorem Replayed.remove (replayed : Replayed sockets) (found : sockets.clients[index]? = some client)
    (finished : index ∈ sockets.hub.members client.orderID → client.replays = false) :
    Replayed (remove sockets index client) := by
  unfold Sockets.remove
  split
  · rename_i member
    have deleted : Replayed { sockets with hub := sockets.hub.delete client.orderID index } := replayed
    exact deleted.closeSend found (finished member)
  · exact replayed

theorem Replayed.fanOut (replayed : Replayed sockets) (fine : replayedFirst sockets .fanOut)
    (moved : sockets.fanOut = some next) : Replayed next := by
  unfold Sockets.fanOut at moved
  split at moved
  · cases moved
    exact replayed
  · rename_i payload index rest delivered phase
    split at moved
    · cases moved
    · rename_i client found
      split at moved
      · rename_i send sent
        cases moved
        have channel : send.closed = client.send.closed := by
          rw [← client.send.trySend_closed payload, sent]
        obtain ⟨normal, finished⟩ := replayed index client found
        exact replayed.set { client with send } normal (fun closed => finished (channel ▸ closed)) _
      · rename_i full
        cases moved
        have finished : client.replays = false := by
          simpa [replayedFirst, closes, phase, found, Channel.trySend_dropped full] using fine
        have advanced : Replayed { sockets with hub := { sockets.hub with phase := .fanning payload rest delivered } } :=
          replayed
        exact advanced.remove found fun _ => finished
      · cases moved
        exact replayed
  · cases moved

theorem Replayed.closeNext (replayed : Replayed sockets) (fine : replayedFirst sockets .closeNext)
    (moved : sockets.closeNext = some next) : Replayed next := by
  unfold Sockets.closeNext at moved
  split at moved
  · cases moved
    exact replayed
  · rename_i index rest phase
    split at moved
    · cases moved
    · rename_i client found
      cases moved
      have finished : client.replays = false := by
        simpa [replayedFirst, closes, phase, found] using fine
      have advanced : Replayed { sockets with hub := { sockets.hub with phase := .closing rest } } := replayed
      exact advanced.closeSend found finished
  · cases moved

theorem Replayed.connect (replayed : Replayed sockets) (orderID : Int) :
    Replayed { sockets with clients := sockets.clients ++ [{ orderID }] } := by
  intro index client located
  rcases List.mem_append.mp (List.mem_of_getElem? located) with old | new
  · obtain ⟨other, found⟩ := List.getElem?_of_mem old
    exact replayed other client found
  · rw [List.mem_singleton.mp new]
    exact ⟨nofun, nofun⟩

theorem Replayed.step (replayed : Replayed sockets) (fine : replayedFirst sockets action)
    (moved : step sockets action = some next) : Replayed next := by
  cases step_cases moved with
  | connect => exact replayed.connect _
  | @register index client found waiting phase =>
    exact replayed.set { client with handler := .starting } nofun (fun _ => rfl) _
  | @own index _ new client found progressed =>
    obtain ⟨normal, finished⟩ := replayed index client found
    refine replayed.set new (fun panicked => ?_) (fun closed => ?_) sockets.hub
    · rcases progressed.panic panicked with before | ⟨busy, closed⟩
      · exact normal before
      · simp [finished closed] at busy
    · rw [progressed.channel] at closed
      by_contra busy
      rcases progressed.replay (by simpa using busy) with before | ⟨note, rest, rfl⟩
      · simp [finished closed] at before
      · simp [replayedFirst, closes, found, closed] at fine
  | @unregister index client found phase =>
    obtain ⟨normal, finished⟩ := replayed index client found
    have updated : Replayed { sockets with clients := sockets.clients.set index { client with pump := .returned } } :=
      replayed.set { client with pump := .returned } normal finished sockets.hub
    refine updated.remove (getElem_set_found found _) fun member => ?_
    change index ∈ sockets.hub.members client.orderID at member
    have done : client.replays = false := by
      simpa [replayedFirst, closes, found, member] using fine
    exact done
  | notify | stop | shutDown => exact replayed
  | fanOut moved => exact replayed.fanOut fine moved
  | closeNext moved => exact replayed.closeNext fine moved

def start : Sockets := {}

theorem start_sound : Sound start where
  known := by simp [start, Hub.members]
  fresh := by simp [start]
  distinct := .nil
  pending := by simp [start, HubPhase.remaining]
  running := by simp [start]

/-- The hub never sends on a closed channel and closes none twice. A handler that
replays does not either, as long as it has finished when its channel is closed. -/
theorem no_send_after_close (reached : run step start actions = some sockets) :
    sockets.hub.phase ≠ .panicked ∧
      (Along step (fun sockets action => replayedFirst sockets action) start actions →
        ∀ client ∈ sockets.clients, client.handler ≠ .panicked) := by
  constructor
  · exact (run_invariant Sound (fun _ _ _ sound moved => sound.step moved) start_sound reached).running
  · intro orderly client member
    have replayed : Replayed sockets :=
      run_invariant_along Replayed (fun _ _ _ replayed fine moved => replayed.step fine moved)
        (by simp [Replayed, start]) orderly reached
    obtain ⟨index, found⟩ := List.getElem?_of_mem member
    exact (replayed index client found).1

/-- Two sockets on one order: one is served and one is cut off by a failed ping
after its replay; then the hub stops. -/
def served : List Action :=
  [.connect 1, .register 0, .startPump 0, .load 0 (some [⟨4, 1, "confirmed"⟩]), .connect 1, .register 1,
    .replay 0, .startPump 1, .notify 1 ⟨4, 1, "confirmed"⟩ [1, 0], .fanOut, .load 1 none, .fanOut, .fanOut,
    .write 0 true, .ping 1 false, .unregister 1, .stop, .shutDown [0], .closeNext, .closeNext, .write 0 true,
    .write 0 true, .skipUnregister 0]

theorem no_send_after_close_served : ∃ sockets, run step start served = some sockets ∧
    sockets.hub.phase = .returned ∧
    sockets.clients.map (fun client => (client.handler, client.pump)) =
      [(.replaying [], .returned), (.returned, .returned)] ∧
    ∀ client ∈ sockets.clients, client.handler ≠ .panicked := by
  obtain ⟨sockets, reached, facts⟩ : ∃ sockets, run step start served = some sockets ∧
      sockets.hub.phase = .returned ∧ sockets.clients.map (fun client => (client.handler, client.pump)) =
        [(.replaying [], .returned), (.returned, .returned)] := ⟨_, rfl, rfl, rfl⟩
  exact ⟨sockets, reached, facts.1, facts.2, (no_send_after_close reached).2 (by decide)⟩

/-- The notification is pushed while the handler, which has read it from the
store, has yet to replay it; the write to the socket fails. -/
def cutOff : List Action :=
  [.connect 1, .register 0, .startPump 0, .load 0 (some [⟨4, 1, "confirmed"⟩]), .notify 1 ⟨4, 1, "confirmed"⟩ [0],
    .fanOut, .fanOut, .write 0 false, .unregister 0, .replay 0]

theorem replay_panics : ∃ sockets, run step start cutOff = some sockets ∧
    sockets.clients.map (fun client => (client.send.closed, client.handler)) = [(true, .panicked)] :=
  ⟨_, rfl, rfl⟩

/-- The handler of the client runs into a panic. -/
def Doomed (sockets : Sockets) (index : Nat) : Prop :=
  ∃ client, sockets.clients[index]? = some client ∧ client.replays ∧ client.send.closed

theorem Doomed.panics (doomed : Doomed sockets index) : ∃ next client, step sockets (.replay index) = some next ∧
    next.clients[index]? = some client ∧ client.handler = .panicked := by
  obtain ⟨client, found, busy, closed⟩ := doomed
  unfold Client.replays at busy
  split at busy
  · rename_i note rest waiting
    have panicked := (client.send.trySend_panicked note).mpr closed
    let stopped : Client := { client with send := (client.send.trySend note).2, handler := .panicked }
    refine ⟨{ sockets with clients := sockets.clients.set index stopped }, stopped, ?_, getElem_set_found found _, rfl⟩
    simp [step, own, found, replay, waiting, panicked, stopped]
  · cases busy

theorem closeSend_doomed (found : sockets.clients[index]? = some client) (busy : client.replays) :
    Doomed (closeSend sockets index client) index := by
  unfold closeSend
  split
  · exact ⟨client, found, busy, ‹_›⟩
  · exact ⟨{ client with send := client.send.close }, getElem_set_found found _, busy, rfl⟩

theorem remove_doomed (found : sockets.clients[index]? = some client) (busy : client.replays)
    (member : index ∈ sockets.hub.members client.orderID) : Doomed (remove sockets index client) index := by
  rw [remove, if_pos member]
  exact closeSend_doomed found busy

theorem fanOut_doomed (sound : Sound sockets) (moved : sockets.fanOut = some next)
    (closed : sockets.closes .fanOut = some index) (found : sockets.clients[index]? = some client)
    (busy : client.replays) : Doomed next index := by
  simp only [closes] at closed
  split at closed
  · rename_i payload head rest delivered phase
    split at closed
    · rename_i holder located
      split at closed
      · cases closed
      · rename_i full
        cases closed
        cases found.symm.trans located
        simp only [fanOut, phase, found] at moved
        by_cases shut : client.send.closed
        · simp only [Channel.trySend, shut, if_true] at moved
          cases moved
          exact ⟨client, found, busy, shut⟩
        · simp only [Channel.trySend, shut, full] at moved
          cases moved
          obtain ⟨orderID, member⟩ := sound.pending index (by simp [phase, HubPhase.remaining])
          obtain ⟨_, again, rfl, _⟩ := sound.known orderID index member
          cases found.symm.trans again
          exact remove_doomed found busy member
    · cases closed
  · cases closed

/-- Closing a channel whose handler is not done dooms the handler. -/
theorem closes_doomed (sound : Sound sockets) (moved : step sockets action = some next)
    (closed : sockets.closes action = some index) (found : sockets.clients[index]? = some client)
    (busy : client.replays) : Doomed next index := by
  cases action with
  | unregister other =>
    simp only [closes] at closed
    split at closed
    · rename_i holder located
      split at closed
      · rename_i member
        cases closed
        cases found.symm.trans located
        simp only [step, found] at moved
        split at moved
        · cases moved
          exact remove_doomed (getElem_set_found found _) busy member
        · cases moved
      · cases closed
    · cases closed
  | fanOut => exact fanOut_doomed sound moved closed found busy
  | closeNext =>
    simp only [closes] at closed
    split at closed
    · rename_i head rest phase
      cases closed
      simp only [step, closeNext, phase, found] at moved
      cases moved
      exact closeSend_doomed found busy
    · cases closed
  | _ => cases closed

/-- A step taken too early lets the next replay panic. -/
theorem early_close_panics (sound : Sound sockets) (moved : step sockets action = some next)
    (early : replayedFirst sockets action = false) :
    ∃ index final client, step next (.replay index) = some final ∧ final.clients[index]? = some client ∧
      client.handler = .panicked := by
  suffices doomed : ∃ index, Doomed next index by
    obtain ⟨index, doomed⟩ := doomed
    exact ⟨index, doomed.panics⟩
  unfold replayedFirst at early
  rcases Bool.and_eq_false_iff.mp early with closing | loading
  · split at closing
    · rename_i index closed
      cases found : sockets.clients[index]? with
      | none => simp [found] at closing
      | some client => exact ⟨index, closes_doomed sound moved closed found (by simpa [found] using closing)⟩
    · cases closing
  · split at loading
    · rename_i index note rest
      obtain ⟨client, new, found, changed, rfl⟩ := own_cases moved
      split at changed <;> cases changed
      exact ⟨index, { client with handler := .replaying (note :: rest) }, getElem_set_found found _, rfl,
        by simpa [found] using loading⟩
    · cases loading

end Sockets

end OrderProcessing
