import Mathlib.Logic.Basic

/-! Transactions as programs of database statements. One program has two
readings: `run` performs it alone, from its first statement to its last, and an
interleaved reading performs one statement at a time. Every statement may be
answered with a fault instead of its result. -/

namespace OrderProcessing.Library

universe u

/-- The body of a transaction: either it returns a value with an optional error,
or it issues a statement and continues with the answer or the fault. -/
inductive Program (Stmt : Type → Type) (Fault Err Value : Type) : Type 1 where
  | done (value : Value) (err : Option Err)
  | exec {Answer : Type} (stmt : Stmt Answer)
      (next : Except Fault Answer → Program Stmt Fault Err Value)

/-- What a statement answers in a state, with the row versions it writes, and
how a row version is installed. -/
structure Engine (State : Type) (Stmt : Type → Type) (Fault Write : Type) where
  eval : {Answer : Type} → Stmt Answer → State → Except Fault (Answer × List Write)
  apply : State → Write → State

/-- Where the infrastructure fails during one transaction. -/
structure Faults (Fault : Type) where
  start : Option Fault := none
  statement : Nat → Option Fault := fun _ => none
  commit : Option Fault := none

variable {State : Type} {Stmt : Type → Type} {Fault Err Value Other Write : Type}

def Engine.applyAll (engine : Engine State Stmt Fault Write) (state : State) (writes : List Write) : State :=
  writes.foldl engine.apply state

@[simp] theorem Engine.applyAll_nil (engine : Engine State Stmt Fault Write) (state : State) :
    engine.applyAll state [] = state := rfl

@[simp] theorem Engine.applyAll_cons (engine : Engine State Stmt Fault Write) (state : State) (write : Write)
    (rest : List Write) : engine.applyAll state (write :: rest) = engine.applyAll (engine.apply state write) rest := rfl

theorem Engine.applyAll_append (engine : Engine State Stmt Fault Write) (state : State)
    (first second : List Write) :
    engine.applyAll state (first ++ second) = engine.applyAll (engine.applyAll state first) second :=
  List.foldl_append

/-- Answer one statement, installing its writes unless it fails. -/
def Engine.answer (engine : Engine State Stmt Fault Write) {Answer : Type} (stmt : Stmt Answer)
    (state : State) : Except Fault Answer × State :=
  match engine.eval stmt state with
  | .error fault => (.error fault, state)
  | .ok (answer, writes) => (.ok answer, engine.applyAll state writes)

theorem Engine.answer_eval (engine : Engine State Stmt Fault Write) {Answer : Type} {stmt : Stmt Answer}
    {answer : Answer} (done : engine.eval stmt state = .ok (answer, writes)) :
    engine.answer stmt state = (.ok answer, engine.applyAll state writes) := by
  simp [Engine.answer, done]

/-- A relation kept by every write of a statement holds across the statement. -/
theorem Engine.answer_related (engine : Engine State Stmt Fault Write) {Answer : Type} {stmt : Stmt Answer}
    {allowed : Write → Prop} (related : State → State → Prop) (refl : ∀ state, related state state)
    (trans : ∀ first second third, related first second → related second third → related first third)
    (kept : ∀ state write, allowed write → related state (engine.apply state write)) (state : State)
    (only : ∀ answer writes, engine.eval stmt state = .ok (answer, writes) → ∀ write ∈ writes, allowed write) :
    related state (engine.answer stmt state).2 := by
  have installed (writes : List Write) (fine : ∀ write ∈ writes, allowed write) (state : State) :
      related state (engine.applyAll state writes) := by
    induction writes generalizing state with
    | nil => exact refl state
    | cons write rest ih =>
      refine trans _ _ _ (kept state write (fine write (by simp))) (ih ?_ _)
      exact fun other member => fine other (by simp [member])
  unfold Engine.answer
  split
  · exact refl state
  · exact installed _ (only _ _ ‹_›) state

/-- Perform a program alone; the `index`-th statement is answered with the
fault that `faults` names for it, if any. -/
def Program.run (engine : Engine State Stmt Fault Write) (faults : Nat → Option Fault) :
    Program Stmt Fault Err Value → Nat → State → (Value × Option Err) × State
  | .done value err, _, state => ((value, err), state)
  | .exec stmt next, index, state =>
    match faults index with
    | some fault => (next (.error fault)).run engine faults (index + 1) state
    | none =>
      let reply := engine.answer stmt state
      (next reply.1).run engine faults (index + 1) reply.2

/-- The run without infrastructure faults. -/
def Program.atomic (engine : Engine State Stmt Fault Write) :
    Program Stmt Fault Err Value → State → (Value × Option Err) × State
  | .done value err, state => ((value, err), state)
  | .exec stmt next, state =>
    let reply := engine.answer stmt state
    (next reply.1).atomic engine reply.2

/-- A program that reports every fault of a statement as an error at once. -/
inductive Program.Propagates : Program Stmt Fault Err Value → Prop where
  | done : Propagates (.done value err)
  | exec {Answer : Type} {stmt : Stmt Answer} {next : Except Fault Answer → Program Stmt Fault Err Value}
      (reported : ∀ fault, ∃ value err, next (.error fault) = .done value (some err))
      (rest : ∀ answer, Propagates (next (.ok answer))) : Propagates (.exec stmt next)

theorem Program.Propagates.ite {condition : Prop} [Decidable condition]
    {first second : Program Stmt Fault Err Value} (left : first.Propagates) (right : second.Propagates) :
    (if condition then first else second).Propagates := by
  split
  · exact left
  · exact right

/-- A run that succeeds got an answer to its first statement, if a fault would have been
reported, and succeeds from there. -/
theorem Program.answered {engine : Engine State Stmt Fault Write} {Answer : Type} {stmt : Stmt Answer}
    {next : Except Fault Answer → Program Stmt Fault Err Value}
    (success : (Program.exec stmt next).atomic engine state = ((value, none), final))
    (reported : ∀ fault, ∃ value err, next (.error fault) = .done value (some err)) :
    ∃ answer middle, engine.answer stmt state = (.ok answer, middle) ∧
      (next (.ok answer)).atomic engine middle = ((value, none), final) := by
  simp only [atomic] at success
  generalize engine.answer stmt state = outcome at success ⊢
  obtain ⟨fault | answer, middle⟩ := outcome
  · obtain ⟨_, err, failed⟩ := reported fault
    rw [failed] at success
    simp [atomic] at success
  · exact ⟨answer, middle, rfl, success⟩

/-- A faulty run that still succeeds met no fault: it is the atomic run. -/
theorem Program.run_success (engine : Engine State Stmt Fault Write) {faults : Nat → Option Fault}
    {program : Program Stmt Fault Err Value} (propagates : program.Propagates)
    (success : program.run engine faults index state = ((value, none), final)) :
    program.atomic engine state = ((value, none), final) := by
  induction propagates generalizing index state with
  | done => simpa [run, atomic] using success
  | @exec Answer stmt next reported rest ih =>
    simp only [run] at success
    simp only [atomic]
    split at success
    · rename_i fault _
      obtain ⟨_, err, failed⟩ := reported fault
      rw [failed] at success
      simp [run] at success
    · generalize reply : engine.answer stmt state = outcome at success ⊢
      obtain ⟨answered | answer, after⟩ := outcome
      · obtain ⟨_, err, failed⟩ := reported answered
        rw [failed] at success
        simp [run] at success
      · exact ih answer success

theorem Program.run_faultless (engine : Engine State Stmt Fault Write)
    (program : Program Stmt Fault Err Value) (index : Nat) (state : State) :
    program.run engine (fun _ => none) index state = program.atomic engine state := by
  induction program generalizing index state with
  | done value err => rfl
  | exec stmt next ih =>
    simp only [run, atomic]
    exact ih _ _ _

/-- A program all of whose statements are allowed, whatever they are answered. -/
inductive Program.Issues (allowed : (Answer : Type) → Stmt Answer → Prop) :
    Program Stmt Fault Err Value → Prop where
  | done : Issues allowed (.done value err)
  | exec {Answer : Type} {stmt : Stmt Answer} {next : Except Fault Answer → Program Stmt Fault Err Value}
      (fine : allowed Answer stmt) (rest : ∀ reply, Issues allowed (next reply)) : Issues allowed (.exec stmt next)

theorem Program.Issues.ite {allowed : (Answer : Type) → Stmt Answer → Prop} {condition : Prop}
    [Decidable condition] {first second : Program Stmt Fault Err Value}
    (left : first.Issues allowed) (right : second.Issues allowed) :
    (if condition then first else second).Issues allowed := by
  split
  · exact left
  · exact right

theorem Program.Issues.mono {allowed wider : (Answer : Type) → Stmt Answer → Prop}
    {program : Program Stmt Fault Err Value} (issues : program.Issues allowed)
    (weaken : ∀ Answer stmt, allowed Answer stmt → wider Answer stmt) : program.Issues wider := by
  induction issues with
  | done => exact .done
  | exec fine _ ih => exact .exec (weaken _ _ fine) ih

/-- A relation kept by every allowed statement holds between the ends of a run. -/
theorem Program.atomic_related (engine : Engine State Stmt Fault Write)
    {allowed : (Answer : Type) → Stmt Answer → Prop} (related : State → State → Prop)
    (refl : ∀ state, related state state)
    (trans : ∀ first second third, related first second → related second third → related first third)
    (kept : ∀ Answer (stmt : Stmt Answer) state, allowed Answer stmt →
      related state (engine.answer stmt state).2)
    {program : Program Stmt Fault Err Value} (issues : program.Issues allowed) (state : State) :
    related state (program.atomic engine state).2 := by
  induction issues generalizing state with
  | done => exact refl state
  | exec fine _ ih => exact trans _ _ _ (kept _ _ state fine) (ih _ _)

/-- An invariant kept by every statement holds at the end of a run. -/
theorem Program.atomic_invariant (engine : Engine State Stmt Fault Write) (invariant : State → Prop)
    (kept : ∀ Answer (stmt : Stmt Answer) state, invariant state → invariant (engine.answer stmt state).2)
    (program : Program Stmt Fault Err Value) {state : State} (holds : invariant state) :
    invariant (program.atomic engine state).2 := by
  induction program generalizing state with
  | done => exact holds
  | exec stmt next ih => exact ih _ (kept _ stmt state holds)

/-- Begin, perform the body, and commit when it returns no error. Any error,
also one of the commit itself, leaves the state as it was; the value computed
by the body survives the rollback. -/
def transaction (engine : Engine State Stmt Fault Write) (report : Fault → Err) (faults : Faults Fault)
    (initial : Value) (program : Program Stmt Fault Err Value) (state : State) :
    (Value × Option Err) × State :=
  match faults.start with
  | some fault => ((initial, some (report fault)), state)
  | none =>
    match program.run engine faults.statement 0 state with
    | ((value, some err), _) => ((value, some err), state)
    | ((value, none), final) =>
      match faults.commit with
      | some fault => ((value, some (report fault)), state)
      | none => ((value, none), final)

/-- A transaction that reports an error has changed nothing; one that reports
none has the effect of its body performed alone. -/
theorem transaction_cases (engine : Engine State Stmt Fault Write) (report : Fault → Err)
    (faults : Faults Fault) (initial : Value) {program : Program Stmt Fault Err Value} (state : State)
    (propagates : program.Propagates) :
    (∃ value err, transaction engine report faults initial program state = ((value, some err), state)) ∨
      ∃ value final, transaction engine report faults initial program state = ((value, none), final) ∧
        program.atomic engine state = ((value, none), final) := by
  unfold transaction
  split
  · exact .inl ⟨_, _, rfl⟩
  · split
    · exact .inl ⟨_, _, rfl⟩
    · rename_i value final body
      split
      · exact .inl ⟨_, _, rfl⟩
      · exact .inr ⟨value, final, rfl, Program.run_success engine propagates body⟩

/-- The transaction without infrastructure faults. -/
def Program.alone (engine : Engine State Stmt Fault Write) (body : Program Stmt Fault Err Value) (state : State) :
    (Value × Option Err) × State :=
  let outcome := body.atomic engine state
  (outcome.1, if outcome.1.2.isNone then outcome.2 else state)

theorem Program.alone_cases (engine : Engine State Stmt Fault Write) (body : Program Stmt Fault Err Value)
    (state : State) : (body.alone engine state).2 = state ∨
      ∃ value, body.atomic engine state = ((value, none), (body.alone engine state).2) := by
  simp only [Program.alone]
  generalize body.atomic engine state = outcome
  obtain ⟨⟨value, _ | err⟩, final⟩ := outcome
  · exact .inr ⟨value, rfl⟩
  · exact .inl rfl

/-- It ends well exactly if its body does. -/
theorem Program.alone_ok_iff {engine : Engine State Stmt Fault Write} {body : Program Stmt Fault Err Value}
    {state final : State} : body.alone engine state = ((value, none), final) ↔
      body.atomic engine state = ((value, none), final) := by
  simp only [Program.alone]
  generalize body.atomic engine state = outcome
  obtain ⟨⟨result, _ | err⟩, last⟩ := outcome <;> simp

/-- One whose body ends in an error leaves the state as it was. -/
theorem Program.alone_error {engine : Engine State Stmt Fault Write} {body : Program Stmt Fault Err Value}
    {state : State} (failed : (body.atomic engine state).1 = (value, some err)) :
    body.alone engine state = ((value, some err), state) := by
  simp [Program.alone, failed]

theorem transaction_alone (engine : Engine State Stmt Fault Write) (report : Fault → Err) (initial : Value)
    (program : Program Stmt Fault Err Value) (state : State) :
    transaction engine report {} initial program state = program.alone engine state := by
  simp only [transaction, Program.run_faultless, Program.alone]
  obtain ⟨⟨value, _ | err⟩, final⟩ := program.atomic engine state <;> rfl

/-- The same program with another type of results. -/
def Program.map (embed : Value → Other) : Program Stmt Fault Err Value → Program Stmt Fault Err Other
  | .done value err => .done (embed value) err
  | .exec stmt next => .exec stmt fun reply => (next reply).map embed

theorem Program.map_alone (engine : Engine State Stmt Fault Write) (embed : Value → Other)
    (program : Program Stmt Fault Err Value) (state : State) :
    (program.map embed).alone engine state =
      ((embed (program.alone engine state).1.1, (program.alone engine state).1.2),
        (program.alone engine state).2) := by
  have atomic (state : State) : (program.map embed).atomic engine state =
      ((embed (program.atomic engine state).1.1, (program.atomic engine state).1.2),
        (program.atomic engine state).2) := by
    induction program generalizing state with
    | done => rfl
    | exec stmt next ih => exact ih _ _
  simp only [Program.alone, atomic]

theorem Program.Issues.map {allowed : (Answer : Type) → Stmt Answer → Prop} {embed : Value → Other}
    {program : Program Stmt Fault Err Value} (issues : program.Issues allowed) :
    (program.map embed).Issues allowed := by
  induction issues with
  | done => exact .done
  | exec fine _ ih => exact .exec fine ih

end OrderProcessing.Library
