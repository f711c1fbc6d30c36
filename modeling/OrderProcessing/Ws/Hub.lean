import Mathlib.Data.Finset.Basic
import Mathlib.Data.List.AList

/-! The map of the hub: for every order the set of clients that watch it. Clients
are named by their position in the list of all connections. -/

namespace OrderProcessing

/-- The JSON envelope pushed to a client. -/
structure NotificationEvent where
  id : Int
  orderID : Int
  message : String
  deriving DecidableEq, Repr

/-- Where `Hub.Run` stands: at its select, in the middle of a fan-out or of the
final closing of all channels, or past its loop. -/
inductive HubPhase where
  | selecting
  | fanning (payload : NotificationEvent) (remaining : List Nat) (delivered : Bool)
  | closing (remaining : List Nat)
  | returned
  | panicked
  deriving DecidableEq, Repr

/-- The clients a loop of the hub has yet to come to. -/
def HubPhase.remaining : HubPhase → List Nat
  | .fanning _ remaining _ | .closing remaining => remaining
  | _ => []

/-- The loop that closes all channels has passed this client. -/
def HubPhase.passed (index : Nat) : HubPhase → Prop
  | .closing remaining => index ∉ remaining
  | _ => False

structure Hub where
  clients : AList (fun _ : Int => Finset Nat) := ∅
  done : Bool := false
  phase : HubPhase := .selecting

namespace Hub

/-- The clients of an order; none if the map has no entry for it. -/
def members (hub : Hub) (orderID : Int) : Finset Nat := (hub.clients.lookup orderID).getD ∅

/-- The clients of all orders. -/
def everyone (hub : Hub) : Finset Nat :=
  hub.clients.entries.foldr (fun entry rest => entry.2 ∪ rest) ∅

/-- The register case of `Run`. -/
def add (hub : Hub) (orderID : Int) (client : Nat) : Hub :=
  { hub with clients := hub.clients.insert orderID (insert client (hub.members orderID)) }

/-- The map after `remove`, which drops the entry of an order without clients. -/
def delete (hub : Hub) (orderID : Int) (client : Nat) : Hub :=
  let set := (hub.members orderID).erase client
  { hub with clients := if set = ∅ then hub.clients.erase orderID else hub.clients.insert orderID set }

theorem members_add (hub : Hub) (orderID : Int) (client : Nat) (other : Int) :
    (hub.add orderID client).members other =
      if other = orderID then insert client (hub.members other) else hub.members other := by
  by_cases same : other = orderID
  · subst same
    simp [members, add]
  · simp [members, add, AList.lookup_insert_ne same, same]

theorem members_delete (hub : Hub) (orderID : Int) (client : Nat) (other : Int) :
    (hub.delete orderID client).members other =
      if other = orderID then (hub.members other).erase client else hub.members other := by
  rw [delete]
  generalize left : (hub.members orderID).erase client = set
  by_cases same : other = orderID
  · subst same
    rw [if_pos rfl, left, members]
    split
    · rename_i last
      simp [last]
    · simp
  · rw [if_neg same, members, members]
    split
    · rw [AList.lookup_erase_ne same]
    · rw [AList.lookup_insert_ne same]

theorem mem_everyone (hub : Hub) : client ∈ hub.everyone ↔ ∃ orderID, client ∈ hub.members orderID := by
  have listed (entries : List (Sigma fun _ : Int => Finset Nat)) :
      client ∈ entries.foldr (fun entry rest => entry.2 ∪ rest) ∅ ↔ ∃ entry ∈ entries, client ∈ entry.2 := by
    induction entries with
    | nil => simp
    | cons entry rest ih => simp [ih]
  rw [everyone, listed]
  constructor
  · rintro ⟨⟨orderID, set⟩, present, member⟩
    have found : hub.clients.lookup orderID = some set := AList.mem_lookup_iff.mpr present
    exact ⟨orderID, by simpa [members, found] using member⟩
  · rintro ⟨orderID, member⟩
    cases found : hub.clients.lookup orderID with
    | none => simp [members, found] at member
    | some set =>
      exact ⟨⟨orderID, set⟩, AList.mem_lookup_iff.mp found, by simpa [members, found] using member⟩

end Hub

end OrderProcessing
