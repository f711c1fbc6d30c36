import Mathlib.Algebra.Group.Basic
import Mathlib.Tactic.Abel

/-! Executable transition systems. A machine is a partial step function; a run
is a finite list of enabled actions, so an interleaving of several parties is
one list. Safety over runs is reduced here to one step at a time. -/

namespace OrderProcessing.Library

universe u v

variable {State : Type u} {Action : Type v} {step : State → Action → Option State}

/-- Perform the actions in order, stopping at the first one that is not enabled. -/
def run (step : State → Action → Option State) : State → List Action → Option State
  | state, [] => some state
  | state, action :: rest => (step state action).bind fun next => run step next rest

@[simp] theorem run_nil : run step state [] = some state := rfl

theorem run_cons (step : State → Action → Option State) (state : State) (action : Action)
    (rest : List Action) :
    run step state (action :: rest) = (step state action).bind fun next => run step next rest := rfl

theorem run_cons_some (done : run step state (action :: rest) = some final) :
    ∃ next, step state action = some next ∧ run step next rest = some final := by
  cases moved : step state action with
  | none => simp [run_cons, moved] at done
  | some next => exact ⟨next, rfl, by simpa [run_cons, moved] using done⟩

theorem run_append (step : State → Action → Option State) (state : State) (first second : List Action) :
    run step state (first ++ second) = (run step state first).bind fun next => run step next second := by
  induction first generalizing state with
  | nil => rfl
  | cons action rest ih =>
    rw [List.cons_append, run_cons, run_cons]
    cases step state action with
    | none => rfl
    | some next => exact ih next

theorem run_append_done (first : run step state actions = some middle)
    (second : run step middle later = some final) : run step state (actions ++ later) = some final := by
  rw [run_append, first]
  exact second

/-- An invariant kept by every enabled step holds after every run. -/
theorem run_invariant (invariant : State → Prop)
    (preserved : ∀ state action next, invariant state → step state action = some next → invariant next)
    (holds : invariant state) (done : run step state actions = some final) : invariant final := by
  induction actions generalizing state with
  | nil => exact Option.some.inj done ▸ holds
  | cons action rest ih =>
    obtain ⟨next, moved, remaining⟩ := run_cons_some done
    exact ih (preserved state action next holds moved) remaining

/-- Every enabled step of the run is taken in a state that allows it. -/
def Along (step : State → Action → Option State) (allowed : State → Action → Prop) :
    State → List Action → Prop
  | _, [] => True
  | state, action :: rest =>
    ∀ next, step state action = some next → allowed state action ∧ Along step allowed next rest

instance Along.decidable {allowed : State → Action → Prop} [∀ state action, Decidable (allowed state action)] :
    (state : State) → (actions : List Action) → Decidable (Along step allowed state actions)
  | _, [] => .isTrue trivial
  | state, action :: rest =>
    match moved : step state action with
    | none => .isTrue fun next taken => by simp [moved] at taken
    | some next =>
      match decidable next rest with
      | .isFalse later => .isFalse fun along => later (along next moved).2
      | .isTrue later =>
        if fine : allowed state action then
          .isTrue fun other taken => by
            cases moved.symm.trans taken
            exact ⟨fine, later⟩
        else .isFalse fun along => fine (along next moved).1

theorem Along.of_forall {allowed : State → Action → Prop}
    (fine : ∀ action ∈ actions, ∀ state, allowed state action) : Along step allowed state actions := by
  induction actions generalizing state with
  | nil => trivial
  | cons action rest ih =>
    exact fun next _ => ⟨fine action (by simp) state, ih fun other member => fine other (by simp [member])⟩

theorem Along.and {allowed other : State → Action → Prop} (left : Along step allowed state actions)
    (right : Along step other state actions) :
    Along step (fun state action => allowed state action ∧ other state action) state actions := by
  induction actions generalizing state with
  | nil => trivial
  | cons action rest ih =>
    intro next moved
    obtain ⟨fine, later⟩ := left next moved
    obtain ⟨also, onward⟩ := right next moved
    exact ⟨⟨fine, also⟩, ih later onward⟩

theorem Along.at_step {allowed : State → Action → Prop}
    (along : Along step allowed state (first ++ action :: rest)) (done : run step state first = some before)
    (moved : step before action = some after) : allowed before action := by
  induction first generalizing state with
  | nil =>
    cases done
    exact (along after moved).1
  | cons other more ih =>
    obtain ⟨next, taken, remaining⟩ := run_cons_some done
    exact ih (along next taken).2 remaining

/-- The invariant rule for runs whose steps are all allowed. -/
theorem run_invariant_along (invariant : State → Prop) {allowed : State → Action → Prop}
    (preserved : ∀ state action next, invariant state → allowed state action →
      step state action = some next → invariant next)
    (holds : invariant state) (along : Along step allowed state actions)
    (done : run step state actions = some final) : invariant final := by
  induction actions generalizing state with
  | nil => exact Option.some.inj done ▸ holds
  | cons action rest ih =>
    obtain ⟨next, moved, remaining⟩ := run_cons_some done
    obtain ⟨fine, later⟩ := along next moved
    exact ih (preserved state action next holds fine moved) later remaining

/-- A measure that every allowed step lowers, but for what the action may add, bounds the length of a run. -/
theorem run_charged (measure : State → Nat) (credit : Action → Nat) (invariant : State → Prop)
    {allowed : State → Action → Prop}
    (lowered : ∀ state action next, invariant state → allowed state action → step state action = some next →
      invariant next ∧ measure next < measure state + credit action)
    (holds : invariant state) (along : Along step allowed state actions)
    (done : run step state actions = some final) :
    invariant final ∧ actions.length + measure final ≤ measure state + (actions.map credit).sum := by
  induction actions generalizing state with
  | nil =>
    cases done
    exact ⟨holds, by simp⟩
  | cons action rest ih =>
    obtain ⟨next, moved, remaining⟩ := run_cons_some done
    obtain ⟨fine, later⟩ := along next moved
    obtain ⟨kept, lower⟩ := lowered state action next holds fine moved
    obtain ⟨last, bounded⟩ := ih kept later remaining
    refine ⟨last, ?_⟩
    rw [List.length_cons, List.map_cons, List.sum_cons]
    omega

/-- The steps of one party are bounded by a measure that they lower and that the others do not raise. -/
theorem run_party_bounded (measure : State → Nat) (own : Action → Bool) (invariant : State → Prop)
    {allowed : State → Action → Prop}
    (kept : ∀ state action next, invariant state → allowed state action → step state action = some next →
      invariant next ∧ (own action = false → measure next ≤ measure state) ∧
        (own action = true → measure next < measure state))
    (holds : invariant state) (along : Along step allowed state actions)
    (done : run step state actions = some final) :
    invariant final ∧ actions.countP own + measure final ≤ measure state := by
  obtain ⟨last, bounded⟩ := run_charged measure (fun action => if own action then 0 else 1) invariant
    (fun state action next holds fine moved => by
      obtain ⟨stays, foreign, party⟩ := kept state action next holds fine moved
      refine ⟨stays, ?_⟩
      cases mine : own action with
      | true => simpa using party mine
      | false => simpa using Nat.lt_succ_of_le (foreign mine)) holds along done
  refine ⟨last, ?_⟩
  have others : (actions.map fun action => if own action then 0 else 1).sum + actions.countP own = actions.length := by
    clear bounded along done
    induction actions with
    | nil => rfl
    | cons action rest ih =>
      rw [List.map_cons, List.sum_cons, List.countP_cons, List.length_cons, ← ih]
      cases own action with
      | true => simp; omega
      | false => simp; omega
  omega

/-- A measure that every step lowers bounds the length of a run. -/
theorem run_bounded (measure : State → Nat) (invariant : State → Prop)
    (lowered : ∀ state action next, invariant state → step state action = some next →
      invariant next ∧ measure next < measure state)
    (holds : invariant state) (done : run step state actions = some final) :
    actions.length + measure final ≤ measure state := by
  have along : Along step (fun _ _ => True) state actions := .of_forall fun _ _ _ => trivial
  simpa [List.map_const', List.sum_replicate_nat] using
    (run_charged measure (fun _ => 0) invariant (fun state action next holds _ => lowered state action next holds)
      holds along done).2

/-- If some step can always lower the measure short of the goal, a run reaches the goal. -/
theorem run_reaches (measure : State → Nat) (invariant goal : State → Prop)
    (progress : ∀ state, invariant state → ¬ goal state →
      ∃ action next, step state action = some next ∧ invariant next ∧ measure next < measure state)
    (holds : invariant state) : ∃ actions final, run step state actions = some final ∧ goal final := by
  induction bound : measure state using Nat.strong_induction_on generalizing state with
  | _ bound ih =>
    by_cases reached : goal state
    · exact ⟨[], state, rfl, reached⟩
    · obtain ⟨action, next, moved, kept, lower⟩ := progress state holds reached
      obtain ⟨rest, final, done, there⟩ := ih (measure next) (bound ▸ lower) kept rfl
      exact ⟨action :: rest, final, by rw [run_cons, moved]; exact done, there⟩

/-- The sum of a measure over the enabled steps of a run. -/
def sumAlong {Amount : Type*} [AddMonoid Amount] (step : State → Action → Option State)
    (measure : State → Action → Amount) : State → List Action → Amount
  | _, [] => 0
  | state, action :: rest =>
    match step state action with
    | none => 0
    | some next => measure state action + sumAlong step measure next rest

/-- A level that every allowed step moves by two measures is moved by their
sums over the run. -/
theorem run_balance {Amount : Type*} [AddCommGroup Amount] (level : State → Amount)
    {down up : State → Action → Amount} (invariant : State → Prop) {allowed : State → Action → Prop}
    (preserved : ∀ state action next, invariant state → allowed state action → step state action = some next →
      invariant next ∧ level next = level state - down state action + up state action)
    (holds : invariant state) (along : Along step allowed state actions)
    (done : run step state actions = some final) :
    level final = level state - sumAlong step down state actions + sumAlong step up state actions := by
  induction actions generalizing state with
  | nil =>
    cases done
    simp [sumAlong]
  | cons action rest ih =>
    obtain ⟨next, moved, remaining⟩ := run_cons_some done
    obtain ⟨fine, later⟩ := along next moved
    obtain ⟨kept, balance⟩ := preserved state action next holds fine moved
    rw [ih kept later remaining, balance]
    simp only [sumAlong, moved]
    abel

/-- A machine whose every step is followed by a run of another one is followed by it all the way. -/
theorem run_simulated {Other : Type*} {Move : Type*} {follow : Other → Move → Option Other}
    (related : State → Other → Prop)
    (followed : ∀ state action next other, related state other → step state action = some next →
      ∃ moves after, run follow other moves = some after ∧ related next after)
    {other : Other} (holds : related state other) (done : run step state actions = some final) :
    ∃ moves after, run follow other moves = some after ∧ related final after := by
  induction actions generalizing state other with
  | nil =>
    cases done
    exact ⟨[], other, rfl, holds⟩
  | cons action rest ih =>
    obtain ⟨next, moved, remaining⟩ := run_cons_some done
    obtain ⟨first, middle, begun, kept⟩ := followed state action next other holds moved
    obtain ⟨later, after, ended, last⟩ := ih kept remaining
    exact ⟨first ++ later, after, run_append_done begun ended, last⟩

/-- What the enabled steps of a run put out, in order. -/
def trace {Output : Type*} (step : State → Action → Option State) (emit : State → Action → List Output) :
    State → List Action → List Output
  | _, [] => []
  | state, action :: rest =>
    match step state action with
    | none => []
    | some next => emit state action ++ trace step emit next rest

/-- The invariant rule with the output so far. -/
theorem run_trace_invariant {Output : Type*} {emit : State → Action → List Output} {past : List Output}
    (invariant : State → List Output → Prop)
    (preserved : ∀ state action next past, invariant state past → step state action = some next →
      invariant next (past ++ emit state action))
    (holds : invariant state past) (done : run step state actions = some final) :
    invariant final (past ++ trace step emit state actions) := by
  induction actions generalizing state past with
  | nil =>
    cases done
    simpa [trace] using holds
  | cons action rest ih =>
    obtain ⟨next, moved, remaining⟩ := run_cons_some done
    have later := ih (preserved state action next past holds moved) remaining
    simp only [trace, moved]
    rwa [List.append_assoc] at later

end OrderProcessing.Library
