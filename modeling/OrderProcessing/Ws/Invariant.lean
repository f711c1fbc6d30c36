import OrderProcessing.Ws.Connections

/-! The representation of the hub over every sequence of events its loop accepts.
Beside the handlers and pumps of the connections, anyone may unregister any
client at any time. The clients that were registered and the calls of `close` on
their channels are recorded. -/

namespace OrderProcessing

open Library

/-- The loop of the hub is at its select or in a fan-out. -/
def HubPhase.serving : HubPhase → Bool
  | .selecting | .fanning _ _ _ => true
  | _ => false

namespace Hub

/-- No order is left with an empty set of clients. -/
def Filled (hub : Hub) : Prop := ∀ orderID, ∀ set ∈ hub.clients.lookup orderID, set ≠ ∅

theorem Filled.add {hub : Hub} (filled : hub.Filled) (orderID : Int) (client : Nat) :
    (hub.add orderID client).Filled := by
  intro other set found
  by_cases same : other = orderID
  · subst same
    simp only [Hub.add, AList.lookup_insert, Option.mem_some_iff] at found
    exact found ▸ Finset.insert_ne_empty _ _
  · rw [Hub.add, AList.lookup_insert_ne same] at found
    exact filled other set found

theorem Filled.delete {hub : Hub} (filled : hub.Filled) (orderID : Int) (client : Nat) :
    (hub.delete orderID client).Filled := by
  intro other set found
  rw [Hub.delete] at found
  generalize (hub.members orderID).erase client = rest at found
  by_cases same : other = orderID
  · subst same
    split at found
    · simp at found
    · rename_i left
      simp only [AList.lookup_insert, Option.mem_some_iff] at found
      exact found ▸ left
  · split at found
    · rw [AList.lookup_erase_ne same] at found
      exact filled other set found
    · rw [AList.lookup_insert_ne same] at found
      exact filled other set found

end Hub

namespace Sockets

/-- The client that the action puts into the map. -/
def registers : Action → Option Nat
  | .register index => some index
  | _ => none

def isClosed (sockets : Sockets) (index : Nat) : Bool := (sockets.clients[index]?).any (·.send.closed)

/-- What a step does to the map and to the channels, with the client it registers
and the one whose channel it closes. -/
inductive Effect (sockets next : Sockets) : Option Nat → Option Nat → Prop where
  | kept (entries : next.hub.clients = sockets.hub.clients)
      (flags : ∀ index, next.isClosed index = sockets.isClosed index)
      (phase : next.hub.phase = sockets.hub.phase ∨ next.hub.phase.serving ∨
        ∃ order, next.hub.phase = .closing order ∧ ∀ orderID, ∀ index ∈ sockets.hub.members orderID, index ∈ order) :
      Effect sockets next none none
  | registered (entries : next.hub.clients = (sockets.hub.add orderID index).clients)
      (flags : ∀ other, next.isClosed other = sockets.isClosed other)
      (phase : next.hub.phase = .selecting) : Effect sockets next (some index) none
  | removed (entries : next.hub.clients = (sockets.hub.delete orderID index).clients)
      (opened : sockets.isClosed index = false)
      (flags : ∀ other, next.isClosed other = (decide (other = index) || sockets.isClosed other))
      (phase : next.hub.phase.serving) : Effect sockets next none (some index)
  | closed (entries : next.hub.clients = sockets.hub.clients) (opened : sockets.isClosed index = false)
      (flags : ∀ other, next.isClosed other = (decide (other = index) || sockets.isClosed other))
      (before : sockets.hub.phase = .closing (index :: rest)) (phase : next.hub.phase = .closing rest) :
      Effect sockets next none (some index)
  | finished (entries : next.hub.clients = ∅) (flags : ∀ index, next.isClosed index = sockets.isClosed index)
      (before : sockets.hub.phase = .closing []) (phase : next.hub.phase = .returned) : Effect sockets next none none

variable {sockets next : Sockets} {index : Nat} {client new : Client}

theorem isClosed_found (found : sockets.clients[index]? = some client) :
    sockets.isClosed index = client.send.closed := by
  simp [isClosed, found]

theorem isClosed_set (found : sockets.clients[index]? = some client) (new : Client) (hub : Hub) (other : Nat) :
    isClosed { hub, clients := sockets.clients.set index new } other =
      if other = index then new.send.closed else sockets.isClosed other := by
  split
  · rename_i same
    subst same
    exact isClosed_found (getElem_set_found found new)
  · rename_i different
    simp [isClosed, List.getElem?_set_ne (Ne.symm different)]

/-- A step of a handler or a pump leaves all channels as they are. -/
theorem isClosed_kept (found : sockets.clients[index]? = some client) (channel : new.send.closed = client.send.closed)
    (hub : Hub) (other : Nat) :
    isClosed { hub, clients := sockets.clients.set index new } other = sockets.isClosed other := by
  rw [isClosed_set found]
  split
  · rename_i same
    rw [same, isClosed_found found, channel]
  · rfl

theorem isClosed_close (found : sockets.clients[index]? = some client) (hub : Hub) (other : Nat) :
    isClosed { hub, clients := sockets.clients.set index { client with send := client.send.close } } other =
      (decide (other = index) || sockets.isClosed other) := by
  rw [isClosed_set found]
  split <;> simp [*, Channel.close]

theorem own_effect (found : sockets.clients[index]? = some client) (channel : new.send.closed = client.send.closed) :
    Effect sockets { sockets with clients := sockets.clients.set index new } none none :=
  .kept rfl (isClosed_kept found channel sockets.hub) (.inl rfl)

/-- The client that `remove` takes out of the map, if it is there. -/
def removes (sockets : Sockets) (index : Nat) : Option Nat :=
  match sockets.clients[index]? with
  | some client => if index ∈ sockets.hub.members client.orderID then some index else none
  | none => none

/-- While the hub is at its loop every client in its map has an open channel. -/
theorem Sound.opened (sound : Sound sockets) (serving : sockets.hub.phase.serving)
    (member : index ∈ sockets.hub.members orderID) (found : sockets.clients[index]? = some client) :
    client.send.closed = false := by
  obtain ⟨_, located, _, _, opened⟩ := sound.known orderID index member
  cases found.symm.trans located
  refine opened.resolve_right fun passed => ?_
  cases phase : sockets.hub.phase with
  | closing remaining => simp [phase, HubPhase.serving] at serving
  | _ => rw [phase] at passed; exact passed

theorem remove_effect (sound : Sound sockets) (found : sockets.clients[index]? = some client)
    (serving : sockets.hub.phase.serving) :
    Effect sockets (remove sockets index client) none (sockets.removes index) := by
  simp only [removes, found]
  split
  · rename_i member
    have unclosed := sound.opened serving member found
    rw [remove_member member unclosed]
    exact .removed rfl ((isClosed_found found).trans unclosed) (isClosed_close found _) serving
  · rename_i absent
    rw [remove, if_neg absent]
    exact .kept rfl (fun _ => rfl) (.inl rfl)

theorem Effect.of_update {middle : Sockets} {entered left : Option Nat} (effect : Effect middle next entered left)
    (hub : middle.hub = sockets.hub) (flags : ∀ index, middle.isClosed index = sockets.isClosed index) :
    Effect sockets next entered left := by
  cases effect with
  | kept entries same phase =>
    rw [hub] at entries phase
    exact .kept entries (fun index => (same index).trans (flags index)) phase
  | registered entries same phase =>
    rw [hub] at entries
    exact .registered entries (fun index => (same index).trans (flags index)) phase
  | removed entries opened same phase =>
    rw [hub] at entries
    exact .removed entries ((flags _).symm.trans opened) (fun index => by rw [same, flags]) phase
  | closed entries opened same before phase =>
    rw [hub] at entries before
    exact .closed entries ((flags _).symm.trans opened) (fun index => by rw [same, flags]) before phase
  | finished entries same before phase =>
    rw [hub] at before
    exact .finished entries (fun index => (same index).trans (flags index)) before phase

theorem fanOut_effect (sound : Sound sockets) (moved : sockets.fanOut = some next) :
    Effect sockets next none (sockets.closes .fanOut) := by
  unfold Sockets.fanOut at moved
  split at moved
  · rename_i phase
    cases moved
    simp only [closes, phase]
    exact .kept rfl (fun _ => rfl) (.inr (.inl rfl))
  · rename_i payload index rest delivered phase
    split at moved
    · cases moved
    · rename_i client found
      obtain ⟨orderID, member⟩ := sound.pending index (by simp [phase, HubPhase.remaining])
      obtain ⟨_, located, rfl, _, opened⟩ := sound.known orderID index member
      cases found.symm.trans located
      have unclosed : client.send.closed = false := by simpa [phase, HubPhase.passed] using opened
      have closes : sockets.closes .fanOut = if client.send.room then none else some index := by
        simp only [closes, phase, found]
      rw [closes]
      split at moved
      · rename_i send sent
        cases moved
        have room : client.send.room := by
          by_contra full
          simp [Channel.trySend, unclosed, full] at sent
        have channel : send.closed = client.send.closed := by
          rw [← client.send.trySend_closed payload, sent]
        rw [if_pos room]
        exact .kept rfl (isClosed_kept found channel _) (.inr (.inl rfl))
      · rename_i dropped
        cases moved
        rw [Channel.trySend_dropped dropped]
        have advanced : Sound { sockets with hub := { sockets.hub with phase := .fanning payload rest delivered } } :=
          sound.move _ (by simp [phase, HubPhase.passed])
            (by have distinct := sound.distinct; rw [phase] at distinct; exact (List.nodup_cons.mp distinct).2)
            (fun other queued => sound.pending other (by rw [phase]; exact List.mem_cons_of_mem _ queued)) (by simp)
        have effect := remove_effect advanced found rfl
        have removes : removes { sockets with hub := { sockets.hub with phase := .fanning payload rest delivered } }
            index = some index := by
          simp only [removes, found]
          exact if_pos member
        rw [removes] at effect
        cases effect with
        | removed entries open_ flags phase => exact .removed entries open_ flags phase
        | closed _ _ _ before => cases before
      · rename_i sent
        have closed := (client.send.trySend_panicked payload).mp (by rw [sent])
        simp [unclosed] at closed
  · cases moved

theorem closeNext_effect (sound : Sound sockets) (moved : sockets.closeNext = some next) :
    Effect sockets next none (sockets.closes .closeNext) := by
  unfold Sockets.closeNext at moved
  split at moved
  · rename_i phase
    cases moved
    simp only [closes, phase]
    exact .finished rfl (fun _ => rfl) phase rfl
  · rename_i index rest phase
    split at moved
    · cases moved
    · rename_i client found
      cases moved
      obtain ⟨orderID, member⟩ := sound.pending index (by simp [phase, HubPhase.remaining])
      obtain ⟨_, located, _, _, opened⟩ := sound.known orderID index member
      cases found.symm.trans located
      have unclosed : client.send.closed = false := by simpa [phase, HubPhase.passed] using opened
      simp only [closes, phase]
      rw [closeSend, if_neg (by simp [unclosed])]
      exact .closed rfl ((isClosed_found found).trans unclosed) (isClosed_close found _) phase rfl
  · cases moved

theorem step_effect (sound : Sound sockets) (moved : step sockets action = some next) :
    Effect sockets next (registers action) (sockets.closes action) := by
  cases action with
  | connect orderID =>
    cases moved
    refine .kept rfl (fun index => ?_) (.inl rfl)
    simp only [isClosed, List.getElem?_append]
    split
    · rfl
    · rename_i beyond
      rw [List.getElem?_eq_none (l := sockets.clients) (by omega)]
      cases place : index - sockets.clients.length <;> simp
  | register index =>
    simp only [step] at moved
    split at moved
    · cases moved
    · rename_i client found
      split at moved <;> cases moved
      rename_i fine
      have channel : ({ client with handler := .starting } : Client).send.closed = client.send.closed := rfl
      exact .registered rfl (isClosed_kept found channel _) fine.2
  | unregister index =>
    simp only [step] at moved
    split at moved
    · cases moved
    · rename_i client found
      split at moved <;> cases moved
      rename_i fine
      have updated : Sound { sockets with clients := sockets.clients.set index { client with pump := .returned } } :=
        sound.update found rfl rfl id
      have effect := remove_effect updated (getElem_set_found found _) (by simp [fine.2, HubPhase.serving])
      have removes : removes { sockets with clients := sockets.clients.set index { client with pump := .returned } }
          index = sockets.closes (.unregister index) := by
        simp only [removes, closes, getElem_set_found found, found]
      rw [removes] at effect
      have channel : ({ client with pump := .returned } : Client).send.closed = client.send.closed := rfl
      exact effect.of_update rfl (isClosed_kept found channel sockets.hub)
  | notify orderID payload order =>
    simp only [step] at moved
    split at moved <;> cases moved
    exact .kept rfl (fun _ => rfl) (.inr (.inl rfl))
  | fanOut => exact fanOut_effect sound moved
  | stop =>
    simp only [step] at moved
    split at moved <;> cases moved
    exact .kept rfl (fun _ => rfl) (.inl rfl)
  | shutDown order =>
    simp only [step] at moved
    split at moved <;> cases moved
    rename_i fine
    refine .kept rfl (fun _ => rfl) (.inr (.inr ⟨order, rfl, fun orderID index member => ?_⟩))
    rw [← List.mem_toFinset, fine.2.2.2]
    exact sockets.hub.mem_everyone.mpr ⟨orderID, member⟩
  | closeNext => exact closeNext_effect sound moved
  | skipRegister | startPump | load | replay | write | ping | skipUnregister =>
    cases step_cases moved with
    | own found progressed => exact own_effect found progressed.channel

/-- A client in the map was there, or it is the one that registers. -/
theorem member_before (sound : Sound sockets) (moved : step sockets action = some next)
    (member : index ∈ next.hub.members orderID) : index ∈ sockets.hub.members orderID ∨ action = .register index := by
  have effect := step_effect sound moved
  generalize named : registers action = entered at effect
  generalize sockets.closes action = left at effect
  have same {hub : Hub} (entries : next.hub.clients = hub.clients) : index ∈ hub.members orderID := by
    unfold Hub.members at member ⊢
    exact entries ▸ member
  cases effect with
  | kept entries | closed entries => exact .inl (same entries)
  | registered entries =>
    have present := same entries
    rw [Hub.members_add] at present
    split at present
    · rcases Finset.mem_insert.mp present with rfl | old
      · right
        unfold registers at named
        split at named <;> cases named
        rfl
      · exact .inl old
    · exact .inl present
  | removed entries =>
    have present := same entries
    rw [Hub.members_delete] at present
    split at present
    · exact .inl (Finset.mem_of_mem_erase present)
    · exact .inl present
  | finished entries => simp [Hub.members, entries] at member

/-- A hub that has left its loop does not come back to it. -/
theorem step_serving (moved : step sockets action = some next) (serving : next.hub.phase.serving) :
    sockets.hub.phase.serving := by
  cases step_cases moved with
  | connect | own | stop => exact serving
  | register _ _ phase | unregister _ phase | notify phase => exact phase ▸ rfl
  | shutDown => cases serving
  | fanOut done =>
    unfold fanOut at done
    split at done
    · exact ‹sockets.hub.phase = _› ▸ rfl
    · exact ‹sockets.hub.phase = _› ▸ rfl
    · cases done
  | closeNext done =>
    unfold closeNext at done
    split at done
    · cases done
      cases serving
    · split at done <;> cases done
      unfold closeSend at serving
      split at serving <;> cases serving
    · cases done

/-- A client the hub has yet to come to is there, with an open channel. -/
theorem Sound.queued (sound : Sound sockets) (queued : index ∈ sockets.hub.phase.remaining) :
    ∃ client, sockets.clients[index]? = some client ∧ client.send.closed = false := by
  obtain ⟨orderID, member⟩ := sound.pending index queued
  obtain ⟨client, found, _, _, opened⟩ := sound.known orderID index member
  refine ⟨client, found, opened.resolve_right fun passed => ?_⟩
  cases phase : sockets.hub.phase with
  | closing remaining => rw [phase] at passed queued; exact passed queued
  | _ => rw [phase] at passed; exact passed

theorem remove_hub (unclosed : client.send.closed = false) :
    (remove sockets index client).hub.phase = sockets.hub.phase ∧
      (remove sockets index client).hub.done = sockets.hub.done := by
  unfold remove
  split
  · rw [closeSend, if_neg (by simp [unclosed])]
    exact ⟨rfl, rfl⟩
  · exact ⟨rfl, rfl⟩

/-- A fan-out goes through all of its clients. -/
theorem Sound.fans_out (sound : Sound sockets) (phase : sockets.hub.phase = .fanning payload remaining delivered) :
    ∃ actions final, run Sockets.step sockets actions = some final ∧ Sound final ∧ final.hub.phase = .selecting ∧
      final.hub.done = sockets.hub.done := by
  induction remaining generalizing sockets delivered with
  | nil =>
    have moved : Sockets.step sockets .fanOut = some { sockets with hub := { sockets.hub with phase := .selecting } } := by
      simp only [Sockets.step, Sockets.fanOut, phase]
    exact ⟨[.fanOut], _, by rw [run_cons, moved]; rfl, sound.step moved, rfl, rfl⟩
  | cons index rest ih =>
    obtain ⟨client, found, unclosed⟩ := sound.queued (by rw [phase]; exact List.mem_cons_self)
    obtain ⟨next, again, moved, onward, kept⟩ : ∃ next again, Sockets.step sockets .fanOut = some next ∧
        next.hub.phase = .fanning payload rest again ∧ next.hub.done = sockets.hub.done := by
      simp only [Sockets.step, Sockets.fanOut, phase, found, Channel.trySend, unclosed]
      by_cases room : client.send.room
      · simp only [room]
        exact ⟨_, true, rfl, rfl, rfl⟩
      · simp only [room]
        exact ⟨_, delivered, rfl, remove_hub unclosed⟩
    obtain ⟨actions, final, done, still, there, same⟩ := ih (sound.step moved) onward
    exact ⟨.fanOut :: actions, final, by rw [run_cons, moved]; exact done, still, there, same.trans kept⟩

/-- The final loop goes through all clients in the map. -/
theorem Sound.closes_all (sound : Sound sockets) (phase : sockets.hub.phase = .closing remaining) :
    ∃ actions final, run Sockets.step sockets actions = some final ∧ final.hub.phase = .returned := by
  induction remaining generalizing sockets with
  | nil =>
    have moved : Sockets.step sockets .closeNext =
        some { sockets with hub := { sockets.hub with clients := ∅, phase := .returned } } := by
      simp only [Sockets.step, Sockets.closeNext, phase]
    exact ⟨[.closeNext], _, by rw [run_cons, moved]; rfl, rfl⟩
  | cons index rest ih =>
    obtain ⟨client, found, unclosed⟩ := sound.queued (by rw [phase]; exact List.mem_cons_self)
    obtain ⟨next, moved, onward⟩ : ∃ next, Sockets.step sockets .closeNext = some next ∧
        next.hub.phase = .closing rest := by
      simp only [Sockets.step, Sockets.closeNext, phase, found, closeSend, unclosed]
      exact ⟨_, rfl, rfl⟩
    obtain ⟨actions, final, done, there⟩ := ih (sound.step moved) onward
    exact ⟨.closeNext :: actions, final, by rw [run_cons, moved]; exact done, there⟩

theorem Sound.shuts_down (sound : Sound sockets) (phase : sockets.hub.phase = .selecting) (done : sockets.hub.done) :
    ∃ actions final, run Sockets.step sockets actions = some final ∧ final.hub.phase = .returned := by
  have moved : Sockets.step sockets (.shutDown sockets.hub.everyone.toList) =
      some { sockets with hub := { sockets.hub with phase := .closing sockets.hub.everyone.toList } } :=
    if_pos ⟨phase, done, Finset.nodup_toList _, Finset.toList_toFinset _⟩
  obtain ⟨actions, final, rest, there⟩ := (sound.step moved).closes_all rfl
  exact ⟨_ :: actions, final, by rw [run_cons, moved]; exact rest, there⟩

/-- Once it was stopped, the hub can go on by itself until it has returned. -/
theorem Sound.returns (sound : Sound sockets) (done : sockets.hub.done) :
    ∃ actions final, run Sockets.step sockets actions = some final ∧ final.hub.phase = .returned := by
  cases phase : sockets.hub.phase with
  | selecting => exact sound.shuts_down phase done
  | fanning =>
    obtain ⟨first, middle, reached, still, there, same⟩ := sound.fans_out phase
    obtain ⟨second, final, rest, returned⟩ := still.shuts_down there (same.trans done)
    exact ⟨first ++ second, final, run_append_done reached rest, returned⟩
  | closing => exact sound.closes_all phase
  | returned => exact ⟨[], sockets, rfl, phase⟩
  | panicked => exact absurd phase sound.running

end Sockets

/-- The connections with the clients whose registration the hub accepted and the
channels on which it called `close`, in order. -/
structure Traced where
  sockets : Sockets := {}
  registered : List Nat := []
  closed : List Nat := []

namespace Traced

inductive Event where
  | act (action : Sockets.Action)
  /-- A call of `Unregister` for any client, by anyone. -/
  | unregister (client : Nat)
  deriving DecidableEq, Repr

def step (traced : Traced) : Event → Option Traced
  | .act action =>
    (Sockets.step traced.sockets action).map fun sockets =>
      { sockets
        registered := traced.registered ++ (Sockets.registers action).toList
        closed := traced.closed ++ (traced.sockets.closes action).toList }
  | .unregister index =>
    match traced.sockets.clients[index]? with
    | none => none
    | some client =>
      if traced.sockets.hub.phase = .selecting then
        some { traced with
          sockets := Sockets.remove traced.sockets index client
          closed := traced.closed ++ (traced.sockets.removes index).toList }
      else none

def start : Traced := {}

variable {traced next : Traced} {event : Event}

/-- Every event moves the connections with a known effect, which is recorded. -/
theorem step_effect (sound : Sockets.Sound traced.sockets) (moved : step traced event = some next) :
    Sockets.Sound next.sockets ∧ ∃ entered left, Sockets.Effect traced.sockets next.sockets entered left ∧
      next.registered = traced.registered ++ entered.toList ∧ next.closed = traced.closed ++ left.toList := by
  cases event with
  | act action =>
    obtain ⟨sockets, done, rfl⟩ := Option.map_eq_some_iff.mp moved
    exact ⟨sound.step done, _, _, Sockets.step_effect sound done, rfl, rfl⟩
  | unregister index =>
    simp only [step] at moved
    split at moved
    · cases moved
    · rename_i client found
      split at moved
      · rename_i phase
        cases moved
        refine ⟨sound.remove found ?_ ?_, none, _, Sockets.remove_effect sound found ?_, ?_, rfl⟩
        · simp [phase, HubPhase.passed]
        · simp [phase, HubPhase.remaining]
        · simp [phase, HubPhase.serving]
        · simp
      · cases moved

/-- The invariant of the representation. -/
structure Inv (traced : Traced) : Prop where
  sound : Sockets.Sound traced.sockets
  filled : traced.sockets.hub.Filled
  kept : ∀ index ∈ traced.registered,
    (∃ orderID, index ∈ traced.sockets.hub.members orderID) ∨ traced.sockets.isClosed index
  swept : ∀ remaining, traced.sockets.hub.phase = .closing remaining →
    ∀ orderID, ∀ index ∈ traced.sockets.hub.members orderID, index ∈ remaining ∨ traced.sockets.isClosed index
  logged : ∀ index, traced.closed.count index = if traced.sockets.isClosed index then 1 else 0
  gone : traced.sockets.hub.phase = .returned → ∀ orderID, traced.sockets.hub.members orderID = ∅

theorem members_eq {hub other : Hub} (entries : hub.clients = other.clients) (orderID : Int) :
    hub.members orderID = other.members orderID := by
  rw [Hub.members, Hub.members, entries]

theorem filled_eq {hub other : Hub} (entries : hub.clients = other.clients) (filled : other.Filled) : hub.Filled := by
  intro orderID set found
  rw [entries] at found
  exact filled orderID set found

/-- One more call of `close`, on a channel that was open. -/
theorem logged_close (logged : ∀ index, traced.closed.count index = if traced.sockets.isClosed index then 1 else 0)
    (closed : next.closed = traced.closed ++ [index]) (opened : traced.sockets.isClosed index = false)
    (flags : ∀ other, next.sockets.isClosed other = (decide (other = index) || traced.sockets.isClosed other)) :
    ∀ other, next.closed.count other = if next.sockets.isClosed other then 1 else 0 := by
  intro other
  rw [closed, flags, List.count_append, logged other, List.count_singleton]
  by_cases same : other = index
  · subst same
    simp [opened]
  · simp [same, Ne.symm same]

theorem Inv.kept_step (inv : Inv traced) (sound : Sockets.Sound next.sockets) (closed : next.closed = traced.closed)
    (entries : next.sockets.hub.clients = traced.sockets.hub.clients)
    (registered : next.registered = traced.registered)
    (flags : ∀ index, next.sockets.isClosed index = traced.sockets.isClosed index)
    (phase : next.sockets.hub.phase = traced.sockets.hub.phase ∨ next.sockets.hub.phase.serving ∨
      ∃ order, next.sockets.hub.phase = .closing order ∧
        ∀ orderID, ∀ index ∈ traced.sockets.hub.members orderID, index ∈ order) : Inv next where
  sound := sound
  filled := filled_eq entries inv.filled
  kept index member := by
    rw [registered] at member
    simpa only [members_eq entries, flags] using inv.kept index member
  swept remaining closing orderID index member := by
    rw [members_eq entries] at member
    rw [flags]
    rcases phase with same | serving | ⟨order, begun, all⟩
    · exact inv.swept remaining (same ▸ closing) orderID index member
    · simp [closing, HubPhase.serving] at serving
    · cases begun.symm.trans closing
      exact .inl (all orderID index member)
  logged index := by rw [closed, flags, inv.logged index]
  gone returned orderID := by
    rw [members_eq entries]
    rcases phase with same | serving | ⟨order, begun, _⟩
    · exact inv.gone (same ▸ returned) orderID
    · simp [returned, HubPhase.serving] at serving
    · cases begun.symm.trans returned

theorem Inv.step (inv : Inv traced) (moved : Traced.step traced event = some next) : Inv next := by
  obtain ⟨sound, entered, left, effect, registered, closed⟩ := step_effect inv.sound moved
  cases effect with
  | kept entries flags phase =>
    rw [Option.toList_none, List.append_nil] at registered closed
    exact inv.kept_step sound closed entries registered flags phase
  | @registered orderID index entries flags phase =>
    rw [Option.toList_none, List.append_nil] at closed
    have grown (order : Int) : traced.sockets.hub.members order ⊆ next.sockets.hub.members order := by
      rw [members_eq entries, Hub.members_add]
      split
      · exact Finset.subset_insert _ _
      · exact Finset.Subset.refl _
    refine ⟨sound, filled_eq entries (inv.filled.add _ _), fun other member => ?_, ?_, ?_, ?_⟩
    · rw [registered] at member
      rcases List.mem_append.mp member with old | new
      · rw [flags]
        exact (inv.kept other old).imp_left fun ⟨order, present⟩ => ⟨order, grown order present⟩
      · obtain rfl : other = index := by simpa using new
        refine .inl ⟨orderID, ?_⟩
        rw [members_eq entries, Hub.members_add, if_pos rfl]
        exact Finset.mem_insert_self _ _
    · simp [phase]
    · intro other
      rw [closed, flags, inv.logged other]
    · simp [phase]
  | @removed orderID index entries opened flags phase =>
    rw [Option.toList_none, List.append_nil] at registered
    refine ⟨sound, filled_eq entries (inv.filled.delete _ _), fun other member => ?_, ?_,
      logged_close inv.logged closed opened flags, ?_⟩
    · rw [registered] at member
      rw [flags]
      by_cases same : other = index
      · exact .inr (by simp [same])
      · rcases inv.kept other member with ⟨order, present⟩ | shut
        · refine .inl ⟨order, ?_⟩
          rw [members_eq entries, Hub.members_delete]
          split
          · exact Finset.mem_erase.mpr ⟨same, present⟩
          · exact present
        · exact .inr (by simp [shut])
    · intro remaining closing
      simp [closing, HubPhase.serving] at phase
    · intro returned
      simp [returned, HubPhase.serving] at phase
  | @closed index rest entries opened flags before phase =>
    rw [Option.toList_none, List.append_nil] at registered
    refine ⟨sound, filled_eq entries inv.filled, fun other member => ?_, fun remaining closing => ?_,
      logged_close inv.logged closed opened flags, by simp [phase]⟩
    · rw [registered] at member
      rw [flags]
      rcases inv.kept other member with ⟨order, present⟩ | shut
      · exact .inl ⟨order, by rw [members_eq entries]; exact present⟩
      · exact .inr (by simp [shut])
    · cases phase.symm.trans closing
      intro order other present
      rw [members_eq entries] at present
      rw [flags]
      rcases inv.swept _ before order other present with queued | shut
      · rcases List.mem_cons.mp queued with rfl | later
        · exact .inr (by simp)
        · exact .inl later
      · exact .inr (by simp [shut])
  | finished entries flags before phase =>
    rw [Option.toList_none, List.append_nil] at registered closed
    have none (order : Int) : next.sockets.hub.members order = ∅ := by simp [Hub.members, entries]
    refine ⟨sound, fun order set found => ?_, fun other member => ?_, by simp [phase], fun other => ?_, fun _ => none⟩
    · simp [entries] at found
    · rw [registered] at member
      rw [flags]
      rcases inv.kept other member with ⟨order, present⟩ | shut
      · -- the loop has closed every channel in the map
        exact .inr ((inv.swept [] before order other present).resolve_left List.not_mem_nil)
      · exact .inr shut
    · rw [closed, flags, inv.logged other]

theorem inv_start : Inv start where
  sound := Sockets.start_sound
  filled := by simp [Hub.Filled, start]
  kept := by simp [start]
  swept := by simp [start]
  logged := by simp [start, Sockets.isClosed]
  gone := by simp [start]

theorem inv_run (reached : run step start events = some traced) : Inv traced :=
  run_invariant Inv (fun _ _ _ inv moved => inv.step moved) inv_start reached

/-- In every reachable state a client in the map stands under its own order, with
an open channel unless the hub is closing them all, and no set in the map is
empty; a registered client that is not in the map has its channel closed. The
hub never panics and closes no channel twice, and when it has returned it has
closed the channel of every client ever registered. -/
theorem hub_representation (reached : run step start events = some traced) :
    (∀ orderID, ∀ set ∈ traced.sockets.hub.clients.lookup orderID, set ≠ ∅ ∧
      ∀ index ∈ set, ∃ client, traced.sockets.clients[index]? = some client ∧ client.orderID = orderID ∧
        ((∀ remaining, traced.sockets.hub.phase ≠ .closing remaining) → client.send.closed = false)) ∧
    (∀ index ∈ traced.registered, (∀ orderID, index ∉ traced.sockets.hub.members orderID) →
      traced.sockets.isClosed index) ∧
    traced.sockets.hub.phase ≠ .panicked ∧
    (∀ index, traced.closed.count index ≤ 1) ∧
    (traced.sockets.hub.phase = .returned →
      ∀ index ∈ traced.registered, traced.sockets.isClosed index ∧ traced.closed.count index = 1) := by
  have inv := inv_run reached
  refine ⟨fun orderID set found => ⟨inv.filled orderID set found, fun index member => ?_⟩, fun index member outside => ?_,
    inv.sound.running, fun index => ?_, fun returned index member => ?_⟩
  · have present : index ∈ traced.sockets.hub.members orderID := by
      simpa [Hub.members, Option.mem_def.mp found] using member
    obtain ⟨client, located, same, _, opened⟩ := inv.sound.known orderID index present
    refine ⟨client, located, same, fun serving => opened.resolve_right fun passed => ?_⟩
    cases phase : traced.sockets.hub.phase with
    | closing remaining => exact serving remaining phase
    | _ => rw [phase] at passed; exact passed
  · refine (inv.kept index member).resolve_left ?_
    rintro ⟨orderID, present⟩
    exact outside orderID present
  · rw [inv.logged index]
    split <;> simp
  · have shut : traced.sockets.isClosed index := by
      refine (inv.kept index member).resolve_left ?_
      rintro ⟨orderID, present⟩
      simp [inv.gone returned orderID] at present
    exact ⟨shut, by rw [inv.logged index, if_pos shut]⟩

theorem run_act {reached : Sockets} (done : run Sockets.step traced.sockets actions = some reached) :
    ∃ final, run step traced (actions.map .act) = some final ∧ final.sockets = reached := by
  induction actions generalizing traced with
  | nil =>
    cases done
    exact ⟨traced, rfl, rfl⟩
  | cons action rest ih =>
    obtain ⟨next, moved, remaining⟩ := run_cons_some done
    have taken : ∃ after, step traced (.act action) = some after ∧ after.sockets = next := by
      simp only [step, moved]
      exact ⟨_, rfl, rfl⟩
    obtain ⟨after, taken, rfl⟩ := taken
    obtain ⟨final, reached, same⟩ := ih remaining
    exact ⟨final, by rw [List.map_cons, run_cons, taken]; exact reached, same⟩

theorem stopped_hub_returns (reached : run step start events = some traced) (done : traced.sockets.hub.done) :
    ∃ later final, run step traced later = some final ∧ final.sockets.hub.phase = .returned := by
  obtain ⟨actions, sockets, onward, returned⟩ := (inv_run reached).sound.returns done
  obtain ⟨final, later, rfl⟩ := run_act onward
  exact ⟨_, final, later, returned⟩

/-- One client is unregistered twice, the other already before it registers; the
stop of the hub closes what is left. -/
def twice : List Event :=
  [.act (.connect 1), .act (.register 0), .act (.connect 2), .unregister 1, .act (.register 1),
   .act (.notify 1 ⟨4, 1, "confirmed"⟩ [0]), .act .fanOut, .act .fanOut, .unregister 0, .unregister 0, .act .stop,
   .act (.shutDown [1]), .act .closeNext, .act .closeNext]

theorem hub_representation_twice : ∃ traced, run step start twice = some traced ∧
    traced.registered = [0, 1] ∧ traced.closed = [0, 1] ∧ traced.sockets.hub.phase = .returned ∧
    (traced.sockets.hub.phase = .returned →
      ∀ index ∈ traced.registered, traced.sockets.isClosed index ∧ traced.closed.count index = 1) := by
  obtain ⟨traced, reached, registered, closed, phase⟩ : ∃ traced, run step start twice = some traced ∧
    traced.registered = [0, 1] ∧ traced.closed = [0, 1] ∧ traced.sockets.hub.phase = .returned := ⟨_, rfl, rfl, rfl, rfl⟩
  exact ⟨traced, reached, registered, closed, phase, (hub_representation reached).2.2.2.2⟩

end Traced

end OrderProcessing
