import OrderProcessing.Ws.Placement

/-! What a client's connection gets to see: the frames that `WritePump` writes, next to
what was put into the queue it drains. -/

namespace OrderProcessing

open Library

inductive Frame where
  | text (event : NotificationEvent)
  | ping
  | close
  deriving DecidableEq, Repr

/-- The events in the frames. -/
def texts (frames : List Frame) : List NotificationEvent :=
  frames.filterMap fun
    | .text event => some event
    | _ => none

@[simp] theorem texts_append (first second : List Frame) : texts (first ++ second) = texts first ++ texts second :=
  List.filterMap_append

/-- The loop of the pump is stopped. -/
def PumpPhase.ended : PumpPhase → Bool
  | .unregistering | .returned => true
  | _ => false

/-- The handler has yet to start the pump. -/
def ConnectPhase.waits : ConnectPhase → Bool
  | .registering | .starting => true
  | _ => false

namespace Sockets

/-- The frame that an action writes to the connection of a client. Whether the last one
arrives, the pump does not ask. -/
def writes (sockets : Sockets) (index : Nat) : Action → List Frame
  | .write actor accepted =>
    if actor = index ∧ accepted then
      match sockets.clients[index]? with
      | some client =>
        match client.send.receive with
        | some (some event, _) => [.text event]
        | some (none, _) => [.close]
        | none => []
      | none => []
    else []
  | .ping actor accepted => if actor = index ∧ accepted then [.ping] else []
  | _ => []

/-- The event that an action puts into the queue of the client. -/
def placesFor (sockets : Sockets) (index : Nat) (action : Action) : List NotificationEvent :=
  match sockets.places action with
  | some (actor, event) => if actor = index then [event] else []
  | none => []

/-- What a step can do to the stream of one client. -/
inductive Flowed (client : Client) : Client → List NotificationEvent → List Frame → Prop where
  | kept {new : Client} (buffer : new.send.buffer = client.send.buffer) (closed : client.send.closed → new.send.closed)
      (pump : new.pump = client.pump ∨ (new.pump.ended ∧ (client.pump.ended ∨ new.handler = .returned)))
      (handler : new.handler.waits → client.handler.waits) : Flowed client new [] []
  | started (waiting : client.handler = .starting) :
      Flowed client { client with handler := .loading, pump := .running } [] []
  | placed (opened : client.send.closed = false) (onward : handler.waits → client.handler.waits) :
      Flowed client { client with send := client.send.push event, handler } [event] []
  | text (running : client.pump = .running) (full : client.send.buffer = event :: rest) :
      Flowed client { client with send := { client.send with buffer := rest } } [] [.text event]
  | broken (running : client.pump = .running) (full : client.send.buffer = event :: rest) :
      Flowed client { client with send := { client.send with buffer := rest }, pump := .unregistering } [] []
  | ended (running : client.pump = .running) (empty : client.send.buffer = []) (closed : client.send.closed)
      (accepted : Bool) : Flowed client { client with pump := .unregistering } [] (if accepted then [.close] else [])
  | pinged (running : client.pump = .running) (accepted : Bool) :
      Flowed client { client with pump := if accepted then .running else .unregistering } []
        (if accepted then [.ping] else [])

theorem Flowed.refl {client : Client} : Flowed client client [] [] := .kept rfl id (.inl rfl) id

theorem Flowed.waits {client new : Client} (flowed : Flowed client new event out) (waits : new.handler.waits) :
    client.handler.waits := by
  cases flowed with
  | kept _ _ _ handler => exact handler waits
  | started => cases waits
  | placed _ onward => exact onward waits
  | text | broken | ended | pinged => exact waits

/-- A pump runs only when its handler has started it. -/
theorem Flowed.begun {client new : Client} (flowed : Flowed client new event out)
    (begun : client.handler.waits → client.pump = .unstarted) (waits : new.handler.waits) : new.pump = .unstarted := by
  have unstarted := begun (flowed.waits waits)
  cases flowed with
  | kept _ _ pump =>
    rcases pump with same | ⟨_, stopped | gone⟩
    · exact same.trans unstarted
    · rw [unstarted] at stopped
      cases stopped
    · rw [gone] at waits
      cases waits
  | started => cases waits
  | placed => exact unstarted
  | text running | broken running | ended running | pinged running =>
    rw [unstarted] at running
    cases running

/-- Frames, lost event and queue of a client make up what was put into its queue; after a
close frame nothing is missing and nothing more is written. -/
structure Stream (client : Client) (placed : List NotificationEvent) (frames : List Frame) : Prop where
  delivered : ∃ lost, placed = texts frames ++ lost ++ client.send.buffer ∧ lost.length ≤ 1 ∧
    (client.pump.ended = false → lost = [])
  closed : .close ∈ frames → client.send.closed ∧ client.pump.ended ∧ texts frames = placed ∧
    ∃ before, frames = before ++ [.close] ∧ .close ∉ before
  begun : client.handler.waits → client.pump = .unstarted

variable {sockets next : Sockets} {index : Nat} {client new : Client}

theorem Stream.open (stream : Stream client placed frames) (running : client.pump = .running) :
    placed = texts frames ++ client.send.buffer ∧ .close ∉ frames := by
  obtain ⟨⟨lost, parts, _, none⟩, closed, _⟩ := stream
  refine ⟨?_, fun ended => ?_⟩
  · rw [parts, none (by rw [running]; rfl), List.append_nil]
  · have stopped := (closed ended).2.1
    rw [running] at stopped
    cases stopped

theorem Stream.flow (stream : Stream client placed frames) (flowed : Flowed client new event out) :
    Stream new (placed ++ event) (frames ++ out) := by
  obtain ⟨⟨lost, parts, few, none⟩, closed, begun⟩ := id stream
  have onward := flowed.begun begun
  cases flowed with
  | kept buffer shut pump =>
    simp only [List.append_nil]
    refine ⟨⟨lost, by rw [buffer]; exact parts, few, fun going => ?_⟩, fun ended => ?_, onward⟩
    · rcases pump with same | ⟨stopped, _⟩
      · exact none (same ▸ going)
      · rw [going] at stopped
        cases stopped
    · obtain ⟨was, stopped, complete, last⟩ := closed ended
      refine ⟨shut was, ?_, complete, last⟩
      rcases pump with same | ⟨stopped, _⟩
      · rw [same]
        exact ‹client.pump.ended›
      · exact stopped
  | started waiting =>
    simp only [List.append_nil]
    have unstarted := begun (by rw [waiting]; rfl)
    refine ⟨⟨lost, parts, few, fun _ => none (by rw [unstarted]; rfl)⟩, fun ended => ?_, onward⟩
    have stopped := (closed ended).2.1
    rw [unstarted] at stopped
    cases stopped
  | placed opened =>
    rw [List.append_nil]
    refine ⟨⟨lost, by simp [parts, Channel.push], few, none⟩, fun ended => ?_, onward⟩
    have shut := (closed ended).1
    rw [opened] at shut
    cases shut
  | text running full =>
    obtain ⟨whole, unended⟩ := stream.open running
    refine ⟨⟨[], ?_, by simp, fun _ => rfl⟩, by simp [unended], onward⟩
    rw [List.append_nil, whole, full, texts_append]
    simp [texts]
  | @broken event rest running full =>
    obtain ⟨whole, unended⟩ := stream.open running
    exact ⟨⟨[event], by simp [whole, full], by simp, by simp [PumpPhase.ended]⟩, by simp [unended], onward⟩
  | ended running empty shut accepted =>
    obtain ⟨whole, unended⟩ := stream.open running
    rw [empty, List.append_nil] at whole
    cases accepted with
    | false => exact ⟨⟨[], by simp [whole, empty], by simp, fun _ => rfl⟩, by simp [unended], onward⟩
    | true =>
      refine ⟨⟨[], by simp [whole, empty, texts], by simp, fun _ => rfl⟩, fun _ => ?_, onward⟩
      exact ⟨shut, rfl, by simp [whole, texts], frames, rfl, unended⟩
  | pinged running accepted =>
    obtain ⟨whole, unended⟩ := stream.open running
    cases accepted with
    | false => exact ⟨⟨[], by simp [whole], by simp, fun _ => rfl⟩, by simp [unended], onward⟩
    | true => exact ⟨⟨[], by simp [whole, texts], by simp, fun _ => rfl⟩, by simp [unended], onward⟩

/-- A step of a handler or a pump flows through its own client only. -/
theorem own_flowed {actor : Nat} {change : Client → Option Client} (moved : sockets.own actor change = some next)
    (found : sockets.clients[index]? = some client) (located : next.clients[index]? = some new)
    (mine : actor = index → ∀ changed, change client = some changed → Flowed client changed placed out)
    (others : actor ≠ index → placed = [] ∧ out = []) : Flowed client new placed out := by
  obtain ⟨holder, changed, there, done, rfl⟩ := own_cases moved
  rcases getElem_set_cases located with ⟨rfl, rfl⟩ | ⟨different, before⟩
  · cases found.symm.trans there
    exact mine rfl _ done
  · cases found.symm.trans before
    obtain ⟨rfl, rfl⟩ := others (Ne.symm different)
    exact .refl

/-- A replay puts its event into the queue of its own client. -/
theorem placesFor_replay {actor : Nat} (different : actor ≠ index) : sockets.placesFor index (.replay actor) = [] := by
  simp only [placesFor, places]
  split
  · rename_i named
    split at named
    · split at named
      · split at named <;> cases named
        exact if_neg different
      · cases named
    · cases named
  · rfl

theorem replay_flowed (found : sockets.clients[index]? = some client) (changed : replay client = some new) :
    Flowed client new (sockets.placesFor index (.replay index)) (sockets.writes index (.replay index)) := by
  unfold replay at changed
  split at changed
  · rename_i note rest waiting
    cases changed
    have placed : sockets.placesFor index (.replay index) =
        if (client.send.trySend note).1 = .sent then [note] else [] := by
      by_cases sent : (client.send.trySend note).1 = .sent <;> simp [placesFor, places, found, waiting, sent]
    rw [placed]
    by_cases closed : client.send.closed
    · simp only [Channel.trySend, closed, if_true]
      exact .kept rfl id (.inl rfl) (by simp [ConnectPhase.waits])
    · by_cases room : client.send.room
      · simp only [Channel.trySend, closed, room]
        exact .placed (by simpa using closed) (by simp [ConnectPhase.waits])
      · simp only [Channel.trySend, closed, room]
        exact .kept rfl id (.inl rfl) (by simp [ConnectPhase.waits])
  · cases changed

theorem write_flowed (found : sockets.clients[index]? = some client) (changed : write client accepted = some new) :
    Flowed client new [] (sockets.writes index (.write index accepted)) := by
  unfold write at changed
  split at changed
  · rename_i running
    simp only [writes, found, true_and]
    cases full : client.send.buffer with
    | nil =>
      cases shut : client.send.closed with
      | false => simp [Channel.receive, full, shut] at changed
      | true =>
        simp only [Channel.receive, full, shut, if_true] at changed ⊢
        cases changed
        exact .ended running full shut accepted
    | cons event rest =>
      simp only [Channel.receive, full] at changed ⊢
      cases changed
      cases accepted with
      | true =>
        have still : { client with send := { client.send with buffer := rest }, pump := .running } =
            { client with send := { client.send with buffer := rest } } := by rw [← running]
        simp only [if_true, still]
        exact .text running full
      | false => exact .broken running full
  · cases changed

theorem fanOut_flowed (moved : sockets.fanOut = some next) (found : sockets.clients[index]? = some client)
    (located : next.clients[index]? = some new) : Flowed client new (sockets.placesFor index .fanOut) [] := by
  unfold fanOut at moved
  split at moved
  · rename_i phase
    cases moved
    cases found.symm.trans located
    simp only [placesFor, places, phase]
    exact .refl
  · rename_i payload actor rest delivered phase
    split at moved
    · cases moved
    · rename_i holder there
      split at moved
      · rename_i send sent
        cases moved
        obtain ⟨opened, _, rfl⟩ := Channel.trySend_sent sent
        simp only [placesFor, places, phase, there, sent, if_true]
        rcases getElem_set_cases located with ⟨rfl, rfl⟩ | ⟨different, before⟩
        · cases found.symm.trans there
          rw [if_pos rfl]
          exact .placed opened id
        · cases found.symm.trans before
          rw [if_neg (Ne.symm different)]
          exact .refl
      · rename_i dropped
        cases moved
        simp only [placesFor, places, phase, there, dropped, reduceCtorEq, if_false]
        rcases remove_located located with ⟨rfl, rfl⟩ | before
        · cases found.symm.trans there
          exact .kept rfl (fun _ => rfl) (.inl rfl) id
        · cases found.symm.trans before
          exact .refl
      · rename_i panicked
        cases moved
        cases found.symm.trans located
        simp only [placesFor, places, phase, there, panicked, reduceCtorEq, if_false]
        exact .refl
  · cases moved

/-- What a step does to the stream of a client that is there. -/
theorem step_flowed (moved : step sockets action = some next) (found : sockets.clients[index]? = some client) :
    ∃ new, next.clients[index]? = some new ∧
      Flowed client new (sockets.placesFor index action) (sockets.writes index action) := by
  obtain ⟨new, located, _⟩ := step_located moved found
  refine ⟨new, located, ?_⟩
  cases action with
  | fanOut => exact fanOut_flowed moved found located
  | connect =>
    cases moved
    rw [List.getElem?_append_left (List.getElem?_eq_some_iff.mp found).1, found] at located
    cases located
    exact .refl
  | register actor =>
    simp only [step] at moved
    split at moved
    · cases moved
    · rename_i holder there
      split at moved <;> cases moved
      rename_i fine
      rcases getElem_set_cases located with ⟨rfl, rfl⟩ | ⟨_, before⟩
      · cases found.symm.trans there
        exact .kept rfl id (.inl rfl) fun _ => by rw [fine.1]; rfl
      · cases found.symm.trans before
        exact .refl
  | unregister actor =>
    simp only [step] at moved
    split at moved
    · cases moved
    · rename_i holder there
      split at moved <;> cases moved
      rename_i fine
      have stopped : holder.pump.ended := by rw [fine.1]; rfl
      rcases remove_located located with ⟨rfl, rfl⟩ | before
      · cases found.symm.trans there
        exact .kept rfl (fun _ => rfl) (.inr ⟨rfl, .inl stopped⟩) id
      · rcases getElem_set_cases before with ⟨rfl, rfl⟩ | ⟨_, before⟩
        · cases found.symm.trans there
          exact .kept rfl id (.inr ⟨rfl, .inl stopped⟩) id
        · cases found.symm.trans before
          exact .refl
  | closeNext =>
    change sockets.closeNext = some next at moved
    unfold closeNext at moved
    split at moved
    · cases moved
      cases found.symm.trans located
      exact .refl
    · split at moved
      · cases moved
      · rename_i holder there
        cases moved
        rcases closeSend_located located with ⟨rfl, rfl⟩ | before
        · cases found.symm.trans there
          exact .kept rfl (fun _ => rfl) (.inl rfl) id
        · cases found.symm.trans before
          exact .refl
    · cases moved
  | notify | shutDown | stop =>
    simp only [step] at moved
    split at moved <;> cases moved
    cases found.symm.trans located
    exact .refl
  | replay actor =>
    refine own_flowed moved found located ?_ fun different => ⟨placesFor_replay different, rfl⟩
    rintro rfl changed done
    exact replay_flowed found done
  | write actor accepted =>
    refine own_flowed moved found located ?_ fun different => ⟨rfl, if_neg fun same => different same.1⟩
    rintro rfl changed done
    exact write_flowed found done
  | ping actor accepted =>
    refine own_flowed moved found located ?_ fun different => ⟨rfl, if_neg fun same => different same.1⟩
    rintro rfl changed done
    split at done <;> cases done
    simp only [writes, true_and]
    exact .pinged ‹_› accepted
  | skipRegister actor =>
    refine own_flowed moved found located ?_ fun _ => ⟨rfl, rfl⟩
    rintro rfl changed done
    split at done <;> cases done
    rename_i fine
    exact .kept rfl id (.inl rfl) fun _ => by rw [fine.1]; rfl
  | startPump actor =>
    refine own_flowed moved found located ?_ fun _ => ⟨rfl, rfl⟩
    rintro rfl changed done
    split at done <;> cases done
    exact .started ‹_›
  | load actor notes =>
    refine own_flowed moved found located ?_ fun _ => ⟨rfl, rfl⟩
    rintro rfl changed done
    split at done <;> cases done
    exact .kept rfl id (.inl rfl) (by cases notes <;> simp [ConnectPhase.waits])
  | skipUnregister actor =>
    refine own_flowed moved found located ?_ fun _ => ⟨rfl, rfl⟩
    rintro rfl changed done
    split at done <;> cases done
    rename_i fine
    exact .kept rfl id (.inr ⟨rfl, .inl (by rw [fine.1]; rfl)⟩) id

/-- A client that is not there gets nothing. -/
theorem step_silent (moved : step sockets action = some next) (absent : sockets.clients[index]? = none) :
    sockets.placesFor index action = [] ∧ sockets.writes index action = [] := by
  constructor
  · cases placed : sockets.places action with
    | none => simp [placesFor, placed]
    | some placement =>
      obtain ⟨actor, event⟩ := placement
      have there : (sockets.clients[actor]?).isSome := by
        unfold places at placed
        split at placed
        · split at placed
          · split at placed
            · split at placed <;> cases placed
              simp [*]
            · cases placed
          · cases placed
        · split at placed
          · split at placed
            · split at placed <;> cases placed
              simp [*]
            · cases placed
          · cases placed
        · cases placed
      have different : actor ≠ index := by
        rintro rfl
        simp [absent] at there
      simp [placesFor, placed, different]
  · cases action with
    | write actor accepted =>
      simp only [writes, absent]
      split <;> rfl
    | ping actor accepted =>
      obtain ⟨holder, _, there, _, _⟩ := own_cases moved
      refine if_neg ?_
      rintro ⟨rfl, _⟩
      cases absent.symm.trans there
    | _ => rfl

theorem Stream.restart (stream : Stream client placed frames) :
    Stream { client with handler := .returned, pump := .returned } placed frames := by
  have kept : Flowed client { client with handler := .returned, pump := .returned } [] [] :=
    .kept rfl id (.inr ⟨rfl, .inr rfl⟩) (by simp [ConnectPhase.waits])
  simpa using stream.flow kept

end Sockets

end OrderProcessing
