import OrderProcessing.Deployment.Ownership
import OrderProcessing.Ws.Stream

/-! From the queue of a client to its connection, over whole runs of the deployment. -/

namespace OrderProcessing.Deployment

open Library

variable {config : Config} {jwt : Jwt} {state next final : Deployment} {action : Action}

/-- The frames that an action writes to the connection of a client. -/
def writes (index : Nat) (state : Deployment) : Action → List Frame
  | .socket action => state.sockets.writes index action
  | _ => []

/-- The events that were put into the queue of a client, in their order. -/
def placedFor (state : Deployment) (index : Nat) : List NotificationEvent :=
  (state.placed.filter (·.client = index)).map (·.event)

/-- The stream of a client, if it is there yet. -/
structure Streamed (index : Nat) (state : Deployment) (frames : List Frame) : Prop where
  absent : state.sockets.clients[index]? = none → state.placedFor index = [] ∧ frames = []
  present : ∀ client, state.sockets.clients[index]? = some client →
    Sockets.Stream client (state.placedFor index) frames

theorem placedFor_record {inner : Sockets.Action}
    (placed : next.placed = state.placed ++ (record state.sockets inner).toList) (index : Nat) :
    next.placedFor index = state.placedFor index ++ state.sockets.placesFor index inner := by
  simp only [placedFor, placed, record, Sockets.placesFor, List.filter_append, List.map_append]
  cases state.sockets.places inner with
  | none => rfl
  | some placement =>
    obtain ⟨actor, event⟩ := placement
    by_cases same : actor = index <;> simp [same]

/-- A step of the deployment is one of the connections, the end of the process, or none of both. -/
theorem step_stream (moved : step config jwt state action = some next) (index : Nat) :
    (next.sockets = state.sockets ∧ next.placed = state.placed ∧ writes index state action = []) ∨
    (∃ inner, Sockets.step state.sockets inner = some next.sockets ∧
      next.placedFor index = state.placedFor index ++ state.sockets.placesFor index inner ∧
      writes index state action = state.sockets.writes index inner) ∨
    (next.sockets = state.sockets.restart ∧ next.placed = state.placed ∧ writes index state action = []) := by
  cases step_cases moved with
  | stopHub _ _ done | notify _ done | connect _ done | load _ done =>
    exact .inr (.inl ⟨_, done, placedFor_record (List.append_nil _).symm index, rfl⟩)
  | answered phase done | unanswered phase done =>
    refine .inr (.inl ⟨_, done, placedFor_record ?_ index, rfl⟩)
    simp [record, Sockets.places, phase, setSend, setJob]
  | fanOut _ done | socket _ done => exact .inr (.inl ⟨_, done, placedFor_record rfl index, rfl⟩)
  | restart => exact .inr (.inr ⟨rfl, rfl, rfl⟩)
  | _ => exact .inl ⟨rfl, rfl, rfl⟩

theorem Streamed.step (streamed : Streamed index state frames) (moved : step config jwt state action = some next) :
    Streamed index next (frames ++ writes index state action) := by
  rcases step_stream moved index with ⟨sockets, placed, mute⟩ | ⟨inner, done, placed, out⟩ | ⟨sockets, placed, mute⟩
  · have same : next.placedFor index = state.placedFor index := by rw [placedFor, placed, placedFor]
    rw [mute, List.append_nil]
    exact ⟨by rw [sockets, same]; exact streamed.absent, by rw [sockets, same]; exact streamed.present⟩
  · rw [out]
    cases before : state.sockets.clients[index]? with
    | some client =>
      obtain ⟨new, located, flowed⟩ := Sockets.step_flowed done before
      refine ⟨fun absent => by simp [located] at absent, fun later there => ?_⟩
      cases located.symm.trans there
      rw [placed]
      exact (streamed.present client before).flow flowed
    | none =>
      obtain ⟨silent, mute⟩ := Sockets.step_silent done before
      obtain ⟨empty, fresh⟩ := streamed.absent before
      rw [silent, List.append_nil, empty] at placed
      rw [mute, List.append_nil, fresh]
      refine ⟨fun _ => ⟨placed, rfl⟩, fun new located => ?_⟩
      rcases Sockets.step_touched done located with ⟨orderID, _, _, rfl⟩ | ⟨client, there, _⟩
      · rw [placed]
        exact ⟨⟨[], rfl, by simp, fun _ => rfl⟩, by simp, fun _ => rfl⟩
      · cases before.symm.trans there
  · have same : next.placedFor index = state.placedFor index := by rw [placedFor, placed, placedFor]
    rw [mute, List.append_nil]
    refine ⟨fun absent => ?_, fun new located => ?_⟩
    · rw [sockets, Sockets.restart_located] at absent
      rw [same]
      exact streamed.absent (by simpa using absent)
    · rw [sockets, Sockets.restart_located] at located
      obtain ⟨client, there, rfl⟩ := Option.map_eq_some_iff.mp located
      rw [same]
      exact (streamed.present client there).restart

/-- Over every run: what the connection of a client has seen, in order, is the beginning of
what was put into its queue. The rest waits in the queue, but for at most one event that was
lost with the connection. Once a close frame was written nothing is missing, and no frame follows. -/
theorem stream_in_order (done : run (step config jwt) (start count queueSize) actions = some final)
    (found : final.sockets.clients[index]? = some client) :
    let frames := trace (step config jwt) (writes index) (start count queueSize) actions
    (∃ lost, final.placedFor index = texts frames ++ lost ++ client.send.buffer ∧ lost.length ≤ 1 ∧
      (lost ≠ [] → client.pump = .unregistering ∨ client.pump = .returned)) ∧
    (.close ∈ frames → texts frames = final.placedFor index ∧
      ∃ before, frames = before ++ [.close] ∧ .close ∉ before) := by
  have streamed : Streamed index final ([] ++ trace (step config jwt) (writes index) (start count queueSize) actions) :=
    run_trace_invariant (Streamed index) (fun _ _ _ _ streamed moved => streamed.step moved)
      ⟨fun _ => ⟨rfl, rfl⟩, by simp [start]⟩ done
  rw [List.nil_append] at streamed
  obtain ⟨⟨lost, parts, few, none⟩, closed, _⟩ := streamed.present client found
  refine ⟨⟨lost, parts, few, fun some => ?_⟩, fun ended => (closed ended).2.2⟩
  cases pump : client.pump with
  | unregistering => exact .inl rfl
  | returned => exact .inr rfl
  | unstarted | running => exact absurd (none (by rw [pump]; rfl)) some

/-- The confirmation was pushed and replayed; the pump has written one of the two. -/
theorem stream_in_order_visit : ∃ final client,
    run (step Backend.demo .unary) (start 1 4) (visit .unary (watching ++ [.socket (.write 0 true)])) = some final ∧
    final.sockets.clients[0]? = some client ∧ client.send.buffer = [confirmation] ∧
    texts (trace (step Backend.demo .unary) (writes 0) (start 1 4)
      (visit .unary (watching ++ [.socket (.write 0 true)]))) = [confirmation] := by
  obtain ⟨final, client, done, found, running, buffer, placed⟩ : ∃ final client,
      run (step Backend.demo .unary) (arrived .unary) (watching ++ [.socket (.write 0 true)]) = some final ∧
      final.sockets.clients[0]? = some client ∧ client.pump = .running ∧ client.send.buffer = [confirmation] ∧
      final.placedFor 0 = [confirmation, confirmation] := ⟨_, _, rfl, rfl, rfl, rfl, rfl⟩
  have reached := (visit_run .unary (watching ++ [.socket (.write 0 true)])).trans done
  obtain ⟨⟨lost, parts, _, gone⟩, _⟩ := stream_in_order reached found
  have none : lost = [] := by
    by_contra some
    simpa [running] using gone some
  rw [placed, none, buffer, List.append_nil] at parts
  exact ⟨final, client, reached, found, buffer, (List.append_left_inj [confirmation]).mp parts.symm⟩

end OrderProcessing.Deployment
