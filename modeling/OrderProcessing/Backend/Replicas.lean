import OrderProcessing.Backend.Charging
import OrderProcessing.Backend.Notification
import OrderProcessing.Library.Scatter

/-! The deployment runs several replicas of the server, which share the tables and Redis. They are taken to share the
payment provider too, and this one does not crash: it stands for a real provider, while the fake gateway of the source
remembers its charges in each process for itself. Each replica has calls and runs of its own, and may crash and start
anew at any moment. To everybody outside, all of them together are one server that never crashes, in which the parties
that a crash took along are never scheduled again. -/

namespace OrderProcessing

open Library

namespace RedisStore

/-- The stores have the same keys until the same instants. -/
def Alike (first second : RedisStore) : Prop :=
  ∀ key, (first.entries key).map (·.expiresAt) = (second.entries key).map (·.expiresAt)

variable {first second : RedisStore}

theorem holder_expiry (store : RedisStore) (now : Nat) (key : String) :
    (store.holder now key).map (·.expiresAt) = ((store.entries key).map (·.expiresAt)).filter (now < ·) := by
  rw [holder, Option.filter_map]
  rfl

theorem Alike.holder (alike : Alike first second) (now : Nat) (key : String) :
    (first.holder now key).isSome = (second.holder now key).isSome := by
  have same : (first.holder now key).map (·.expiresAt) = (second.holder now key).map (·.expiresAt) := by
    rw [holder_expiry, holder_expiry, alike key]
  simpa using congrArg Option.isSome same

theorem Alike.update (alike : Alike first second) (key : String) {old new : Option Reservation}
    (same : old.map (·.expiresAt) = new.map (·.expiresAt)) :
    Alike ⟨Function.update first.entries key old⟩ ⟨Function.update second.entries key new⟩ := by
  intro other
  by_cases here : other = key
  · subst here
    simpa using same
  · simpa [here] using alike other

/-- Who wrote a key makes no difference. -/
theorem Alike.setNX (alike : Alike first second) (now ttl owner writer : Nat) (key : String) :
    (first.setNX now ttl owner key).1 = (second.setNX now ttl writer key).1 ∧
      Alike (first.setNX now ttl owner key).2 (second.setNX now ttl writer key).2 := by
  have held := alike.holder now key
  unfold RedisStore.setNX
  cases left : first.holder now key with
  | none =>
    cases right : second.holder now key with
    | none => exact ⟨rfl, alike.update key rfl⟩
    | some entry => simp [left, right] at held
  | some entry =>
    cases right : second.holder now key with
    | none => simp [left, right] at held
    | some other => exact ⟨rfl, alike⟩

theorem Alike.reserve (alike : Alike first second) (now ttl owner writer : Nat) (key : String) (reply : RedisReply) :
    (first.reserve now ttl owner key reply).1 = (second.reserve now ttl writer key reply).1 ∧
      Alike (first.reserve now ttl owner key reply).2 (second.reserve now ttl writer key reply).2 := by
  obtain ⟨same, kept⟩ := alike.setNX now ttl owner writer key
  cases reply with
  | answered => exact ⟨congrArg some same, kept⟩
  | failed applied =>
    cases applied with
    | true => exact ⟨rfl, kept⟩
    | false => exact ⟨rfl, alike⟩

theorem Alike.release (alike : Alike first second) (key : String) (reply : RedisReply) :
    Alike (first.release key reply) (second.release key reply) := by
  have gone : Alike (first.del key) (second.del key) := alike.update key rfl
  cases reply with
  | answered => exact gone
  | failed applied =>
    cases applied with
    | true => exact gone
    | false => exact alike

end RedisStore

namespace Backend

/-- What one process has in progress. -/
structure Replica where
  calls : List OrderCall := []
  edits : List ProductEdit := []
  runs : List Fulfiller.Run := []

/-- The state as one replica sees it. -/
def State.seen (state : State) (replica : Replica) : State :=
  { state with calls := replica.calls, edits := replica.edits, runs := replica.runs }

/-- The replicas, and what they share: a state without parties of its own. -/
structure Cluster where
  shared : State
  replicas : List Replica

namespace Cluster

inductive Event where
  | act (replica : Nat) (action : Action)
  | crash (replica : Nat)

/-- A transaction that a crash cuts short is rolled back, as if it had not begun. -/
def step (config : Config) (cluster : Cluster) : Event → Option Cluster
  | .act index action =>
    match cluster.replicas[index]? with
    | none => none
    | some replica =>
      (Backend.step config (cluster.shared.seen replica) action).map fun next => {
        shared := next.seen {}
        replicas := cluster.replicas.set index ⟨next.calls, next.edits, next.runs⟩ }
  | .crash index => some { cluster with replicas := cluster.replicas.set index {} }

def start (count : Nat) : Cluster := ⟨initial, List.replicate count {}⟩

end Cluster

/-- The same action of a party that stands elsewhere. -/
def Action.at (calls edits runs : Nat → Nat) : Action → Action
  | .saveProduct edit generated faults => .saveProduct (edits edit) generated faults
  | .reserve call reply => .reserve (calls call) reply
  | .lookup call uuid fault => .lookup (calls call) uuid fault
  | .persist call orderID paymentID faults => .persist (calls call) orderID paymentID faults
  | .release call reply => .release (calls call) reply
  | .load run fault => .load (runs run) fault
  | .charge run draw => .charge (runs run) draw
  | .cancel run scan faults => .cancel (runs run) scan faults
  | .confirm run faults => .confirm (runs run) faults
  | .notify run => .notify (runs run)
  | action => action

variable {config : Config} {state next : State} {action : Action}

/-- The state of one server in which these parties, and others, are in progress. -/
def State.among (state : State) (redis : RedisStore) (all : Replica) : State := { state.seen all with redis }

theorem step_among {redis : RedisStore} (all : Replica) (calls edits runs : Nat → Nat)
    (alike : RedisStore.Alike state.redis redis)
    (callsFound : ∀ (index : Nat) call, state.calls[index]? = some call → all.calls[calls index]? = some call)
    (editsFound : ∀ (index : Nat) edit, state.edits[index]? = some edit → all.edits[edits index]? = some edit)
    (runsFound : ∀ (index : Nat) run, state.runs[index]? = some run → all.runs[runs index]? = some run)
    (moved : step config state action = some next) :
    ∃ after calling editing running, RedisStore.Alike next.redis after ∧
      Mirrored calls state.calls all.calls next.calls calling ∧
      Mirrored edits state.edits all.edits next.edits editing ∧ Mirrored runs state.runs all.runs next.runs running ∧
      step config (state.among redis all) (action.at calls edits runs) =
        some (next.among after ⟨calling, editing, running⟩) := by
  cases step_cases config moved with
  | tick | createUser | createProduct => exact ⟨redis, _, _, _, alike, .kept, .kept, .kept, rfl⟩
  | loadProduct =>
    simp only [step, Action.at, loadProduct]
    split
    · rename_i failed
      exact ⟨redis, _, _, _, alike, .kept, .kept, .kept, by simp only [State.among, State.seen, failed]⟩
    · rename_i loaded read
      exact ⟨redis, _, _, _, alike, .kept, .push _, .kept, by simp only [State.among, State.seen, read]⟩
  | submit => exact ⟨redis, _, _, _, alike, .push _, .kept, .kept, rfl⟩
  | fulfill => exact ⟨redis, _, _, _, alike, .kept, .kept, .push _, rfl⟩
  | saveProduct found =>
    refine ⟨redis, _, _, _, alike, .kept, .set found _, .kept, ?_⟩
    simp [step, Action.at, State.among, State.seen, editsFound _ _ found, saveProduct]
  | @reserve index call reply found phase =>
    obtain ⟨same, kept⟩ := alike.reserve state.clock OrderService.idempotencyTTL index (calls index)
      (OrderService.idempotencyKey config.sha256 call.userID call.items) reply
    refine ⟨_, _, _, _, kept, .set found _, .kept, .kept, ?_⟩
    simp [step, Action.at, State.among, State.seen, callsFound _ _ found, phase, reserve, same]
  | lookup found phase =>
    refine ⟨redis, _, _, _, alike, .set found _, .kept, .kept, ?_⟩
    simp [step, Action.at, State.among, State.seen, callsFound _ _ found, phase, lookup]
  | persist found phase =>
    refine ⟨redis, _, _, _, alike, .set found _, .kept, .kept, ?_⟩
    simp [step, Action.at, State.among, State.seen, callsFound _ _ found, phase, persist]
  | @release index call reply err found phase =>
    have kept := alike.release (OrderService.idempotencyKey config.sha256 call.userID call.items) reply
    refine ⟨_, _, _, _, kept, .set found _, .kept, .kept, ?_⟩
    simp [step, Action.at, State.among, State.seen, callsFound _ _ found, phase, release]
  | load found phase =>
    refine ⟨redis, _, _, _, alike, .kept, .kept, .set found _, ?_⟩
    simp [step, Action.at, State.among, State.seen, runsFound _ _ found, phase, load]
  | charge found phase =>
    refine ⟨redis, _, _, _, alike, .kept, .kept, .set found _, ?_⟩
    simp [step, Action.at, State.among, State.seen, runsFound _ _ found, phase, charge]
  | cancel found phase =>
    refine ⟨redis, _, _, _, alike, .kept, .kept, .set found _, ?_⟩
    simp [step, Action.at, State.among, State.seen, runsFound _ _ found, phase, cancel, finalize]
  | confirm found phase =>
    refine ⟨redis, _, _, _, alike, .kept, .kept, .set found _, ?_⟩
    simp [step, Action.at, State.among, State.seen, runsFound _ _ found, phase, confirm, finalize]
  | notify found phase =>
    refine ⟨redis, _, _, _, alike, .kept, .kept, .set found _, ?_⟩
    simp [step, Action.at, State.among, State.seen, runsFound _ _ found, phase, notify]

/-- The twin is one server with the parties of all replicas, each at a place of its own. -/
def Twin (cluster : Cluster) (twin : State) : Prop :=
  ∃ redis all, RedisStore.Alike cluster.shared.redis redis ∧ twin = cluster.shared.among redis all ∧
    (∃ place, Scattered place all.calls (cluster.replicas.map (·.calls))) ∧
    (∃ place, Scattered place all.edits (cluster.replicas.map (·.edits))) ∧
    ∃ place, Scattered place all.runs (cluster.replicas.map (·.runs))

theorem Twin.start (count : Nat) : Twin (.start count) initial := by
  refine ⟨initial.redis, {}, fun _ => rfl, rfl, ⟨fun _ _ => 0, ?_⟩, ⟨fun _ _ => 0, ?_⟩, fun _ _ => 0, ?_⟩
  all_goals
    simp only [Cluster.start, List.map_replicate]
    exact .empty _ count

theorem Twin.step {cluster after : Cluster} {twin : State} {event : Cluster.Event} (alike : Twin cluster twin)
    (moved : cluster.step config event = some after) :
    ∃ actions later, run (Backend.step config) twin actions = some later ∧ Twin after later := by
  obtain ⟨redis, all, same, rfl, ⟨callAt, calls⟩, ⟨editAt, edits⟩, runAt, runs⟩ := alike
  cases event with
  | crash index =>
    cases moved
    refine ⟨[], _, rfl, redis, all, same, rfl, ⟨callAt, ?_⟩, ⟨editAt, ?_⟩, runAt, ?_⟩
    · rw [List.map_set]
      exact calls.clear index
    · rw [List.map_set]
      exact edits.clear index
    · rw [List.map_set]
      exact runs.clear index
  | act index action =>
    simp only [Cluster.step] at moved
    split at moved
    · cases moved
    · rename_i replica here
      obtain ⟨next, done, rfl⟩ := Option.map_eq_some_iff.mp moved
      have mine {Item : Type} (part : Replica → List Item) :
          (cluster.replicas.map part)[index]? = some (part replica) := by
        rw [List.getElem?_map, here]
        rfl
      have seen : RedisStore.Alike (cluster.shared.seen replica).redis redis := same
      obtain ⟨later, calling, editing, running, kept, called, edited, ran, follows⟩ :=
        step_among all (callAt index) (editAt index) (runAt index) seen
          (fun position call found => calls.found index position call ((pick_here (mine _) position).trans found))
          (fun position edit found => edits.found index position edit ((pick_here (mine _) position).trans found))
          (fun position run found => runs.found index position run ((pick_here (mine _) position).trans found)) done
      have alone : Backend.step config (cluster.shared.among redis all)
          (action.at (callAt index) (editAt index) (runAt index)) =
            some (next.among later ⟨calling, editing, running⟩) := follows
      refine ⟨[_], _, by rw [run_cons, alone]; rfl, later, ⟨calling, editing, running⟩, kept, rfl, ?_, ?_, ?_⟩
      · rw [List.map_set]
        exact calls.mirror (mine _) called
      · rw [List.map_set]
        exact edits.mirror (mine _) edited
      · rw [List.map_set]
        exact runs.mirror (mine _) ran

/-- Replicas and crashes add nothing: whatever any number of replicas, which crash at any moments, do to the tables, to
Redis and to the provider, and whatever they send, one server that never crashes can do too, with the same calls and
runs in progress. So an order is still charged at most once, and a customer gets at most one message for it. -/
theorem replicas_simulated (attempts : 1 ≤ config.maxRetries)
    (done : run (Cluster.step config) (.start count) events = some cluster) :
    (∃ actions twin, History config actions twin ∧ twin.clock = cluster.shared.clock ∧ twin.db = cluster.shared.db ∧
      twin.gateway = cluster.shared.gateway ∧ twin.outcomes = cluster.shared.outcomes ∧
      twin.requests = cluster.shared.requests ∧ twin.sent = cluster.shared.sent ∧
      (∀ now key, (twin.redis.holder now key).isSome = (cluster.shared.redis.holder now key).isSome) ∧
      ∀ replica ∈ cluster.replicas, replica.calls ⊆ twin.calls ∧ replica.edits ⊆ twin.edits ∧ replica.runs ⊆ twin.runs) ∧
    (∀ orderID, (cluster.shared.gateway.charged.filter fun charge => charge.request.orderID = orderID).length ≤ 1) ∧
    ∀ orderID, sentFor orderID cluster.shared.sent ≤ 1 := by
  obtain ⟨actions, twin, history, redis, all, alike, rfl, ⟨_, calls⟩, ⟨_, edits⟩, _, runs⟩ :=
    run_simulated Twin (fun _ _ _ _ alike moved => alike.step moved) (Twin.start count) done
  refine ⟨⟨actions, _, history, rfl, rfl, rfl, rfl, rfl, rfl, fun now key => (alike.holder now key).symm,
    fun replica member => ⟨calls.subset (List.mem_map_of_mem member), edits.subset (List.mem_map_of_mem member),
      runs.subset (List.mem_map_of_mem member)⟩⟩, ?_, ?_⟩
  · obtain ⟨ledger, inv, charging⟩ := History.charging history attempts
    exact charging.one_per_order inv
  · obtain ⟨ledger, known⟩ := History.announcements history
    exact known.sent_le_one

/-- One replica crashes after the provider has accepted the charge and before it is recorded; the other one, whose
sweeper finds the order, finishes the work while the first is back and tries as well. -/
def overlapping : List Cluster.Event :=
  ordered.map (.act 0) ++
    ([.fulfill 1, .load 0 none, .charge 0 (.latency false "a")] : List Action).map (.act 0) ++ [.crash 0] ++
    ([.fulfill 1, .load 0 none, .charge 0 (.latency false "b")] : List Action).map (.act 1) ++
    ([.fulfill 1, .load 0 none] : List Action).map (.act 0) ++
    [.act 1 (.confirm 0 {}), .act 0 (.charge 0 (.latency false "c"))]

theorem replicas_simulated_overlapping : ∃ cluster, run (Cluster.step demo) (.start 2) overlapping = some cluster ∧
    cluster.shared.requests.length = 3 ∧ cluster.shared.db.payments.map (·.providerTxnID) = [some "txn_a"] ∧
    (∃ actions twin, History demo actions twin ∧ twin.clock = cluster.shared.clock ∧ twin.db = cluster.shared.db ∧
      twin.gateway = cluster.shared.gateway ∧ twin.outcomes = cluster.shared.outcomes ∧
      twin.requests = cluster.shared.requests ∧ twin.sent = cluster.shared.sent ∧
      (∀ now key, (twin.redis.holder now key).isSome = (cluster.shared.redis.holder now key).isSome) ∧
      ∀ replica ∈ cluster.replicas, replica.calls ⊆ twin.calls ∧ replica.edits ⊆ twin.edits ∧ replica.runs ⊆ twin.runs) ∧
    (∀ orderID, (cluster.shared.gateway.charged.filter fun charge => charge.request.orderID = orderID).length ≤ 1) ∧
    ∀ orderID, sentFor orderID cluster.shared.sent ≤ 1 := by
  obtain ⟨cluster, done, requests, recorded⟩ : ∃ cluster, run (Cluster.step demo) (.start 2) overlapping = some cluster ∧
    cluster.shared.requests.length = 3 ∧ cluster.shared.db.payments.map (·.providerTxnID) = [some "txn_a"] :=
    ⟨_, rfl, rfl, rfl⟩
  exact ⟨cluster, done, requests, recorded, replicas_simulated (by decide) done⟩

end Backend

end OrderProcessing
