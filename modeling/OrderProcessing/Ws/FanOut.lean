import Mathlib.Data.Finset.Lattice.Lemmas
import OrderProcessing.Ws.Connections

/-! One message is fanned out. Go visits the clients of its order one after another as
it likes, and the loop removes clients from the set that is being visited. -/

namespace OrderProcessing

open Library

namespace Hub

/-- The map after `remove` of some clients of an order. -/
def deleteAll (hub : Hub) (orderID : Int) (gone : Finset Nat) : Hub :=
  let set := hub.members orderID \ gone
  { hub with clients :=
      if gone = ∅ then hub.clients
      else if set = ∅ then hub.clients.erase orderID else hub.clients.insert orderID set }

@[simp] theorem deleteAll_empty (hub : Hub) (orderID : Int) : hub.deleteAll orderID ∅ = hub := by simp [deleteAll]

theorem members_deleteAll (hub : Hub) (orderID : Int) (gone : Finset Nat) :
    (hub.deleteAll orderID gone).members orderID = hub.members orderID \ gone := by
  rw [deleteAll]
  generalize left : hub.members orderID \ gone = set
  by_cases none : gone = ∅
  · simpa [none, members] using left
  · by_cases last : set = ∅ <;> simp [members, none, last]

theorem lookup_deleteAll (hub : Hub) (gone : Finset Nat) (different : other ≠ orderID) :
    (hub.deleteAll orderID gone).clients.lookup other = hub.clients.lookup other := by
  simp only [deleteAll]
  split
  · rfl
  · split
    · exact AList.lookup_erase_ne different
    · exact AList.lookup_insert_ne different

section Entries

variable (clients : AList fun _ : Int => Finset Nat) (orderID : Int) (set : Finset Nat)

/-- Only the last write of an entry of the map matters. -/
theorem erase_erase : (clients.erase orderID).erase orderID = clients.erase orderID :=
  AList.ext (List.kerase_of_notMem_keys (List.notMem_keys_kerase orderID clients.nodupKeys))

theorem insert_erase : (clients.erase orderID).insert orderID set = clients.insert orderID set := by
  apply AList.ext
  rw [AList.entries_insert, AList.entries_insert]
  exact congrArg _ (congrArg AList.entries (erase_erase clients orderID))

theorem erase_insert : (clients.insert orderID set).erase orderID = clients.erase orderID :=
  AList.ext (List.kerase_cons_eq rfl)

end Entries

/-- Clients are removed one at a time. -/
theorem delete_deleteAll (hub : Hub) (orderID : Int) (gone : Finset Nat) (client : Nat) :
    (hub.deleteAll orderID gone).delete orderID client = hub.deleteAll orderID (insert client gone) := by
  have left : ((hub.deleteAll orderID gone).members orderID).erase client = hub.members orderID \ insert client gone := by
    rw [members_deleteAll, Finset.sdiff_insert]
  rw [delete, left, deleteAll, deleteAll]
  generalize hub.members orderID \ insert client gone = rest
  generalize hub.members orderID \ gone = set
  by_cases none : gone = ∅
  · simp [none]
  · by_cases cleared : set = ∅ <;> simp [none, cleared, erase_erase, insert_erase, erase_insert]

end Hub

/-- A client whose queue is full loses its channel, with what is in the queue. -/
def Client.offered (payload : NotificationEvent) (client : Client) : Client :=
  { client with send := if client.send.room then client.send.push payload else client.send.close }

namespace Sockets

def hasRoom (sockets : Sockets) (index : Nat) : Bool := (sockets.clients[index]?).any (·.send.room)

/-- In the middle of the loop: these clients have been visited. -/
def offered (sockets : Sockets) (orderID : Int) (payload : NotificationEvent) (visited : Finset Nat)
    (remaining : List Nat) : Sockets where
  hub := { sockets.hub.deleteAll orderID {index ∈ visited | ¬ sockets.hasRoom index} with
    phase := .fanning payload remaining (∃ index ∈ visited, sockets.hasRoom index) }
  clients := sockets.clients.mapIdx fun index client => if index ∈ visited then client.offered payload else client

/-- The clients of the order are connected under it, with open channels. -/
def Subscribed (sockets : Sockets) (orderID : Int) : Prop :=
  ∀ index ∈ sockets.hub.members orderID, ∃ client, sockets.clients[index]? = some client ∧
    client.orderID = orderID ∧ client.send.closed = false

/-- One iteration of the loop for a client that comes up. -/
def visit (sockets : Sockets) (index : Nat) : Option Sockets :=
  match sockets.hub.phase with
  | .fanning payload _ delivered =>
    fanOut { sockets with hub := { sockets.hub with phase := .fanning payload [index] delivered } }
  | _ => none

/-- How Go ranges over a set while it changes: a client that is in it at that moment
and was not visited comes next, and the loop ends when there is none. -/
inductive Ranged (orderID : Int) : Finset Nat → Sockets → List Nat → Sockets → Prop where
  | done (exhausted : ∀ index ∈ sockets.hub.members orderID, index ∈ visited) :
      Ranged orderID visited sockets [] sockets
  | next (member : index ∈ sockets.hub.members orderID) (unvisited : index ∉ visited)
      (moved : sockets.visit index = some middle) (rest : Ranged orderID (insert index visited) middle order final) :
      Ranged orderID visited sockets (index :: order) final

variable {sockets : Sockets} {orderID : Int} {index : Nat} {client : Client} {visited : Finset Nat}

theorem offered_located (sockets : Sockets) (orderID : Int) (payload : NotificationEvent) (visited : Finset Nat)
    (remaining : List Nat) (index : Nat) :
    (sockets.offered orderID payload visited remaining).clients[index]? =
      sockets.clients[index]?.map fun client => if index ∈ visited then client.offered payload else client := by
  simp [offered]

theorem members_offered (sockets : Sockets) (orderID : Int) (payload : NotificationEvent) (visited : Finset Nat)
    (remaining : List Nat) :
    (sockets.offered orderID payload visited remaining).hub.members orderID =
      sockets.hub.members orderID \ {index ∈ visited | ¬ sockets.hasRoom index} :=
  sockets.hub.members_deleteAll orderID _

/-- Before the first client, that is how the loop begins. -/
theorem offered_start (sockets : Sockets) (orderID : Int) (payload : NotificationEvent) (remaining : List Nat) :
    sockets.offered orderID payload ∅ remaining =
      { sockets with hub := { sockets.hub with phase := .fanning payload remaining false } } := by
  have kept : (sockets.clients.mapIdx fun _ client => client) = sockets.clients := by
    apply List.ext_getElem?
    simp
  simp [offered, kept]

theorem hasRoom_found (found : sockets.clients[index]? = some client) : sockets.hasRoom index = client.send.room := by
  simp [hasRoom, found]

/-- One more client is replaced by what it becomes. -/
theorem offered_set (found : sockets.clients[index]? = some client) (payload : NotificationEvent)
    (unvisited : index ∉ visited) :
    (sockets.clients.mapIdx fun index client => if index ∈ visited then client.offered payload else client).set index
        (client.offered payload) =
      sockets.clients.mapIdx fun other client =>
        if other ∈ insert index visited then client.offered payload else client := by
  apply List.ext_getElem?
  intro other
  by_cases same : index = other
  · subst same
    rw [getElem_set_found (by simpa [unvisited] using found)]
    simp [found]
  · simp [List.getElem?_set_ne same, Ne.symm same]

/-- A queue with room adds to the report, a full one to the clients that are gone. -/
theorem offered_insert (found : sockets.clients[index]? = some client) (payload : NotificationEvent)
    (unvisited : index ∉ visited) (rest : List Nat) :
    sockets.offered orderID payload (insert index visited) rest = {
      hub :=
        if client.send.room then
          { (sockets.offered orderID payload visited rest).hub with phase := .fanning payload rest true }
        else (sockets.offered orderID payload visited rest).hub.delete orderID index
      clients := (sockets.offered orderID payload visited rest).clients.set index (client.offered payload) } := by
  have room := hasRoom_found found
  have replaced := offered_set found payload unvisited
  simp only [offered, replaced, Finset.filter_insert, Finset.exists_mem_insert, room]
  cases client.send.room with
  | true => simp
  | false =>
    simp only [Bool.false_eq_true, not_false_eq_true, ↓reduceIte, false_or, Sockets.mk.injEq, and_true]
    rw [← Hub.delete_deleteAll]
    rfl

/-- An iteration visits the client that is up next. -/
theorem offered_fanOut (subscribed : Subscribed sockets orderID) (member : index ∈ sockets.hub.members orderID)
    (unvisited : index ∉ visited) (payload : NotificationEvent) (rest : List Nat) :
    (sockets.offered orderID payload visited (index :: rest)).fanOut =
      some (sockets.offered orderID payload (insert index visited) rest) := by
  obtain ⟨client, found, rfl, unclosed⟩ := subscribed index member
  have located : (sockets.offered client.orderID payload visited (index :: rest)).clients[index]? = some client := by
    simp [offered_located, found, unvisited]
  have phase : (sockets.offered client.orderID payload visited (index :: rest)).hub.phase =
    .fanning payload (index :: rest) (∃ index ∈ visited, sockets.hasRoom index) := rfl
  have present : index ∈ (sockets.offered client.orderID payload visited rest).hub.members client.orderID := by
    rw [members_offered]
    simp [member, unvisited]
  have removed := remove_member present unclosed
  rw [offered_insert found payload unvisited, Client.offered]
  unfold fanOut
  rw [phase]
  simp only [located, Channel.trySend, unclosed, Bool.false_eq_true, ↓reduceIte]
  cases client.send.room with
  | true => rfl
  | false => exact congrArg some removed

/-- The loop over clients that are chosen beforehand. -/
theorem offered_run (subscribed : Subscribed sockets orderID) (payload : NotificationEvent) (distinct : order.Nodup)
    (inside : ∀ index ∈ order, index ∈ sockets.hub.members orderID) (fresh : ∀ index ∈ order, index ∉ visited) :
    run step (sockets.offered orderID payload visited order) (List.replicate order.length .fanOut) =
      some (sockets.offered orderID payload (visited ∪ order.toFinset) []) := by
  induction order generalizing visited with
  | nil => simp
  | cons index rest ih =>
    obtain ⟨apart, distinct⟩ := List.nodup_cons.mp distinct
    have moved := offered_fanOut subscribed (inside index (by simp)) (fresh index (by simp)) payload rest
    have later := @ih (insert index visited) distinct (fun other member => inside other (by simp [member])) (by
      intro other member known
      rcases Finset.mem_insert.mp known with rfl | old
      · exact apart member
      · exact fresh other (by simp [member]) old)
    rw [List.length_cons, List.replicate_succ, run_cons, step, moved, Option.bind_some, later, List.toFinset_cons,
      Finset.insert_union, Finset.union_insert]

theorem ranged_nil_iff : Ranged orderID visited sockets [] last ↔
    (∀ index ∈ sockets.hub.members orderID, index ∈ visited) ∧ last = sockets := by
  constructor
  · rintro (exhausted | _)
    exact ⟨exhausted, rfl⟩
  · rintro ⟨exhausted, rfl⟩
    exact .done exhausted

theorem ranged_cons_iff : Ranged orderID visited sockets (index :: order) last ↔
    index ∈ sockets.hub.members orderID ∧ index ∉ visited ∧
      ∃ middle, sockets.visit index = some middle ∧ Ranged orderID (insert index visited) middle order last := by
  constructor
  · rintro (_ | ⟨member, unvisited, moved, rest⟩)
    exact ⟨member, unvisited, _, moved, rest⟩
  · rintro ⟨member, unvisited, middle, moved, rest⟩
    exact .next member unvisited moved rest

/-- Whoever is removed was visited. -/
theorem unvisited_iff (payload : NotificationEvent) (index : Nat) :
    index ∈ (sockets.offered orderID payload visited []).hub.members orderID ∧ index ∉ visited ↔
      index ∈ sockets.hub.members orderID \ visited := by
  rw [members_offered]
  simp only [Finset.mem_sdiff, Finset.mem_filter]
  tauto

/-- So the loop comes to every client of the order, once. -/
theorem ranged_iff (subscribed : Subscribed sockets orderID) (payload : NotificationEvent)
    (inside : visited ⊆ sockets.hub.members orderID) :
    Ranged orderID visited (sockets.offered orderID payload visited []) order last ↔
      order.Nodup ∧ order.toFinset = sockets.hub.members orderID \ visited ∧
        last = sockets.offered orderID payload (sockets.hub.members orderID) [] := by
  induction order generalizing visited with
  | nil =>
    have ended : (∀ index ∈ (sockets.offered orderID payload visited []).hub.members orderID, index ∈ visited) ↔
        sockets.hub.members orderID \ visited = ∅ := by
      rw [Finset.eq_empty_iff_forall_notMem]
      refine forall_congr' fun index => ?_
      rw [← unvisited_iff payload]
      tauto
    rw [ranged_nil_iff, ended, List.toFinset_nil, eq_comm (a := ∅)]
    refine ⟨fun ⟨all, same⟩ => ⟨.nil, all, ?_⟩, fun ⟨_, all, same⟩ => ⟨all, ?_⟩⟩
    · rw [same, Finset.Subset.antisymm inside (Finset.sdiff_eq_empty_iff_subset.mp all)]
    · rw [same, Finset.Subset.antisymm inside (Finset.sdiff_eq_empty_iff_subset.mp all)]
  | cons index rest ih =>
    rw [ranged_cons_iff, ← and_assoc, unvisited_iff, List.nodup_cons, List.toFinset_cons]
    have visited_next (up : index ∈ sockets.hub.members orderID \ visited) :
        (sockets.offered orderID payload visited []).visit index =
          some (sockets.offered orderID payload (insert index visited) []) := by
      obtain ⟨member, unvisited⟩ := Finset.mem_sdiff.mp up
      exact offered_fanOut subscribed member unvisited payload []
    constructor
    · rintro ⟨up, middle, moved, later⟩
      cases (visited_next up).symm.trans moved
      obtain ⟨distinct, all, same⟩ := (ih (Finset.insert_subset (Finset.mem_sdiff.mp up).1 inside)).mp later
      have apart : index ∉ rest := by
        rw [← List.mem_toFinset, all]
        simp
      refine ⟨⟨apart, distinct⟩, ?_, same⟩
      rw [all, Finset.sdiff_insert, Finset.insert_erase up]
    · rintro ⟨⟨apart, distinct⟩, all, same⟩
      have up : index ∈ sockets.hub.members orderID \ visited := all ▸ Finset.mem_insert_self index _
      refine ⟨up, _, visited_next up, (ih (Finset.insert_subset (Finset.mem_sdiff.mp up).1 inside)).mpr ?_⟩
      refine ⟨distinct, ?_, same⟩
      rw [Finset.sdiff_insert, ← all, Finset.erase_insert (by simpa using apart)]

/-- In every state the connections can reach, those in the map are subscribed. -/
theorem Sound.subscribed (sound : Sound sockets) (waiting : sockets.hub.phase = .selecting) (orderID : Int) :
    Subscribed sockets orderID := by
  intro index member
  obtain ⟨client, found, same, _, opened⟩ := sound.known orderID index member
  refine ⟨client, found, same, opened.resolve_right ?_⟩
  rw [waiting]
  exact id

/-- The clients of the order have received the payload or were removed; nobody else was
touched, and it is reported whether anyone received it. -/
structure Exact (sockets : Sockets) (orderID : Int) (payload : NotificationEvent) (final : Sockets) (result : Bool) :
    Prop where
  served : ∀ index ∈ sockets.hub.members orderID, ∀ client, sockets.clients[index]? = some client →
    client.send.room → final.clients[index]? = some { client with send := client.send.push payload } ∧
      index ∈ final.hub.members orderID
  dropped : ∀ index ∈ sockets.hub.members orderID, ∀ client, sockets.clients[index]? = some client →
    client.send.room = false → final.clients[index]? = some { client with send := client.send.close } ∧
      index ∉ final.hub.members orderID
  untouched : ∀ index ∉ sockets.hub.members orderID, final.clients[index]? = sockets.clients[index]?
  added : final.hub.members orderID ⊆ sockets.hub.members orderID
  others : ∀ other ≠ orderID, final.hub.clients.lookup other = sockets.hub.clients.lookup other
  stopped : final.hub.done = sockets.hub.done
  reported : result = true ↔ ∃ index ∈ sockets.hub.members orderID, ∃ client,
    sockets.clients[index]? = some client ∧ client.send.room

theorem offered_exact (sockets : Sockets) (orderID : Int) (payload : NotificationEvent) :
    Exact sockets orderID payload (sockets.offered orderID payload (sockets.hub.members orderID) [])
      (∃ index ∈ sockets.hub.members orderID, sockets.hasRoom index) where
  served index member client found room := by
    rw [offered_located, members_offered]
    simp [found, member, Client.offered, room, hasRoom_found found]
  dropped index member client found full := by
    rw [offered_located, members_offered]
    simp [found, member, Client.offered, full, hasRoom_found found]
  untouched index absent := by
    rw [offered_located]
    simp [absent]
  added := by
    rw [members_offered]
    exact Finset.sdiff_subset
  others other different := sockets.hub.lookup_deleteAll _ different
  stopped := rfl
  reported := by simp [hasRoom, Option.any_eq_true]

/-- The fan-out does the same whatever order Go visits the clients in. -/
theorem fan_out_exact (subscribed : Subscribed sockets orderID) (waiting : sockets.hub.phase = .selecting)
    (payload : NotificationEvent) :
    ∃ final result, final.hub.phase = .fanning payload [] result ∧ Exact sockets orderID payload final result ∧
      (∀ order last, Ranged orderID ∅
          { sockets with hub := { sockets.hub with phase := .fanning payload [] false } } order last ↔
        order.Nodup ∧ order.toFinset = sockets.hub.members orderID ∧ last = final) ∧
      ∀ order : List Nat, order.Nodup → order.toFinset = sockets.hub.members orderID →
        run step sockets (.notify orderID payload order :: List.replicate order.length .fanOut) = some final := by
  refine ⟨_, _, rfl, offered_exact sockets orderID payload, fun order last => ?_, fun order distinct all => ?_⟩
  · rw [← offered_start sockets orderID, ranged_iff subscribed payload (Finset.empty_subset _), Finset.sdiff_empty]
  · have inside : ∀ index ∈ order, index ∈ sockets.hub.members orderID := by
      intro index member
      rw [← all]
      exact List.mem_toFinset.mpr member
    have visited : run step (sockets.offered orderID payload ∅ order) (List.replicate order.length .fanOut) =
        some (sockets.offered orderID payload (∅ ∪ order.toFinset) []) :=
      offered_run subscribed payload distinct inside (by simp)
    rw [offered_start, Finset.empty_union, all] at visited
    rw [run_cons, step, if_pos ⟨waiting, distinct, all⟩, Option.bind_some]
    exact visited

/-- Three connections, one of them with a full queue. -/
def crowded : Sockets where
  hub := { clients := ((∅ : AList fun _ : Int => Finset Nat).insert 2 {2}).insert 1 {0, 1} }
  clients := [{ orderID := 1 },
    { orderID := 1, send := { capacity := sendBuffer, buffer := List.replicate sendBuffer ⟨3, 1, "stored"⟩ } },
    { orderID := 2 }]

theorem fan_out_exact_crowded : ∃ final result,
    final.hub.phase = .fanning ⟨4, 1, "confirmed"⟩ [] result ∧ Exact crowded 1 ⟨4, 1, "confirmed"⟩ final result ∧
    run step crowded [.notify 1 ⟨4, 1, "confirmed"⟩ [0, 1], .fanOut, .fanOut] = some final ∧
    run step crowded [.notify 1 ⟨4, 1, "confirmed"⟩ [1, 0], .fanOut, .fanOut] = some final := by
  have subscribed : Subscribed crowded 1 := by
    intro index member
    have listed : index = 0 ∨ index = 1 := by simpa [Hub.members, crowded] using member
    rcases listed with rfl | rfl
    · exact ⟨_, rfl, rfl, rfl⟩
    · exact ⟨_, rfl, rfl, rfl⟩
  obtain ⟨final, result, phase, correct, _, runs⟩ := fan_out_exact subscribed rfl ⟨4, 1, "confirmed"⟩
  exact ⟨final, result, phase, correct, runs [0, 1] (by decide) rfl, runs [1, 0] (by decide) (by decide)⟩

end Sockets

end OrderProcessing
