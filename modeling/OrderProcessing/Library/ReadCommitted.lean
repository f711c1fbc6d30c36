import OrderProcessing.Library.Keyed
import OrderProcessing.Library.Machine
import OrderProcessing.Library.Program

/-! Concurrent transactions at statement granularity, as READ COMMITTED runs
them. A statement waits for the locks it wants, sees the newest committed state
under the writes of its own transaction, and keeps its locks until its transaction
ends if it wrote anything. Commit installs the writes, any error drops them. -/

namespace OrderProcessing.Library

/-- Which locks a statement waits for in a state. -/
structure Locking (State : Type) (Stmt : Type → Type) (Key : Type) where
  wanted : {Answer : Type} → Stmt Answer → State → List Key

/-- A transaction under way: what is left of its body, what it wrote so far, the
locks it holds, and its result once it has ended. -/
structure Session (Stmt : Type → Type) (Fault Err Value Write Key : Type) where
  program : Program Stmt Fault Err Value
  writes : List Write := []
  held : List Key := []
  result : Option (Value × Option Err) := none

structure System (State : Type) (Stmt : Type → Type) (Fault Err Value Write Key : Type) where
  committed : State
  sessions : List (Session Stmt Fault Err Value Write Key)

/-- The next statement of a transaction, or its end. The database may keep the
lock of a row that a statement waited for and then did not change. -/
inductive Move where
  | statement (session : Nat) (retain : Bool)
  | finish (session : Nat)
  deriving DecidableEq, Repr

variable {State Fault Err Value Write Key : Type} {Stmt : Type → Type}

/-- Begin all transactions; none has issued a statement. -/
def System.start (bodies : List (Program Stmt Fault Err Value)) (state : State) :
    System State Stmt Fault Err Value Write Key :=
  ⟨state, bodies.map fun body => { program := body }⟩

/-- No other transaction holds one of the keys. -/
def System.free [DecidableEq Key] (system : System State Stmt Fault Err Value Write Key) (index : Nat)
    (keys : List Key) : Bool :=
  (List.range system.sessions.length).all fun other =>
    other = index || ((system.sessions[other]?).all fun session => keys.all fun key => key ∉ session.held)

variable (engine : Engine State Stmt Fault Write) (locking : Locking State Stmt Key)

/-- The session after its statement was answered. -/
def Session.answered (session : Session Stmt Fault Err Value Write Key) {Answer : Type}
    (next : Except Fault Answer → Program Stmt Fault Err Value) (wanted : List Key) (retain : Bool) :
    Except Fault (Answer × List Write) → Session Stmt Fault Err Value Write Key
  | .error fault =>
    { session with
      program := next (.error fault)
      held := session.held ++ if retain then wanted else [] }
  | .ok (answer, new) =>
    { session with
      program := next (.ok answer)
      writes := session.writes ++ new
      held := session.held ++ if retain || !new.isEmpty then wanted else [] }

def System.step [DecidableEq Key] (system : System State Stmt Fault Err Value Write Key) :
    Move → Option (System State Stmt Fault Err Value Write Key)
  | .statement index retain =>
    match system.sessions[index]? with
    | none => none
    | some session =>
      match session.program with
      | .done _ _ => none
      | .exec stmt next =>
        let view := engine.applyAll system.committed session.writes
        let wanted := locking.wanted stmt view
        if system.free index wanted then
          some { system with
            sessions := system.sessions.set index
              (session.answered next wanted retain (engine.eval stmt view)) }
        else none
  | .finish index =>
    match system.sessions[index]? with
    | none => none
    | some session =>
      match session.result, session.program with
      | none, .done value err =>
        some {
          committed := if err.isNone then engine.applyAll system.committed session.writes else system.committed
          sessions := system.sessions.set index { session with held := [], result := some (value, err) } }
      | _, _ => none

/-- The system after a session's statement was performed. -/
abbrev System.performed (system : System State Stmt Fault Err Value Write Key) (index : Nat)
    (session : Session Stmt Fault Err Value Write Key) {Answer : Type} (stmt : Stmt Answer)
    (next : Except Fault Answer → Program Stmt Fault Err Value) (retain : Bool) :
    System State Stmt Fault Err Value Write Key :=
  ⟨system.committed, system.sessions.set index (session.answered next
    (locking.wanted stmt (engine.applyAll system.committed session.writes)) retain
    (engine.eval stmt (engine.applyAll system.committed session.writes)))⟩

/-- Operations one at a time, in the given order, with their results. -/
def serial {Result : Type} (operations : List (State → Result × State)) :
    List Nat → State → State × List (Nat × Result)
  | [], state => (state, [])
  | index :: rest, state =>
    match operations[index]? with
    | none => serial operations rest state
    | some operation =>
      let outcome := operation state
      let later := serial operations rest outcome.2
      (later.1, (index, outcome.1) :: later.2)

theorem serial_append {Result : Type} {operations : List (State → Result × State)}
    {operation : State → Result × State} (found : operations[index]? = some operation) (order : List Nat) (state : State) :
    serial operations (order ++ [index]) state =
      ((operation (serial operations order state).1).2,
        (serial operations order state).2 ++ [(index, (operation (serial operations order state).1).1)]) := by
  induction order generalizing state with
  | nil => simp [serial, found]
  | cons first rest ih =>
    simp only [List.cons_append, serial]
    split
    · exact ih state
    · simp [ih]

variable {engine} {locking} {system next : System State Stmt Fault Err Value Write Key}

theorem Session.answered_held {session : Session Stmt Fault Err Value Write Key} {Answer : Type}
    {next : Except Fault Answer → Program Stmt Fault Err Value} {reply : Except Fault (Answer × List Write)}
    (holds : key ∈ (session.answered next wanted retain reply).held) : key ∈ session.held ∨ key ∈ wanted := by
  unfold Session.answered at holds
  split at holds
  · simp only [List.mem_append] at holds
    split at holds
    · exact holds
    · exact .inl (by simpa using holds)
  · simp only [List.mem_append] at holds
    split at holds
    · exact holds
    · exact .inl (by simpa using holds)

@[simp] theorem Session.answered_result {session : Session Stmt Fault Err Value Write Key} {Answer : Type}
    {next : Except Fault Answer → Program Stmt Fault Err Value} {reply : Except Fault (Answer × List Write)} :
    (session.answered next wanted retain reply).result = session.result := by
  unfold Session.answered
  split <;> rfl

/-- No two transactions hold the same lock. -/
def System.Exclusive (system : System State Stmt Fault Err Value Write Key) : Prop :=
  ∀ (index other : Nat) (one two : Session Stmt Fault Err Value Write Key),
    system.sessions[index]? = some one → system.sessions[other]? = some two → index ≠ other →
    ∀ key ∈ one.held, key ∉ two.held

theorem System.start_exclusive (bodies : List (Program Stmt Fault Err Value)) (state : State) :
    (System.start bodies state : System State Stmt Fault Err Value Write Key).Exclusive := by
  intro index other one two found _ _
  simp only [System.start, List.getElem?_map, Option.map_eq_some_iff] at found
  obtain ⟨_, _, rfl⟩ := found
  simp

theorem System.Exclusive.set {session : Session Stmt Fault Err Value Write Key} (exclusive : system.Exclusive)
    (found : system.sessions[index]? = some old)
    (taken : ∀ key ∈ session.held, key ∈ old.held ∨ ∀ other holder, system.sessions[other]? = some holder →
      other ≠ index → key ∉ holder.held) (state : State) :
    (System.mk state (system.sessions.set index session)).Exclusive := by
  intro first second one two left right different key holds
  rcases getElem_set_cases left with ⟨rfl, rfl⟩ | ⟨other, located⟩ <;>
    rcases getElem_set_cases right with ⟨rfl, rfl⟩ | ⟨another, present⟩
  · exact absurd rfl different
  · rcases taken key holds with before | clear
    · exact exclusive first second old two found present different key before
    · exact clear second two present another
  · intro also
    rcases taken key also with before | clear
    · exact exclusive first second one old located found different key holds before
    · exact clear first one located other holds
  · exact exclusive first second one two located present different key holds

variable [DecidableEq Key]

theorem System.free_iff {keys : List Key} : system.free index keys ↔
    ∀ other session, system.sessions[other]? = some session → other ≠ index → ∀ key ∈ keys, key ∉ session.held := by
  simp only [System.free, List.all_eq_true, List.mem_range, Bool.or_eq_true, decide_eq_true_eq]
  constructor
  · intro clear other session found different key wanted
    have inside : other < system.sessions.length := (List.getElem?_eq_some_iff.mp found).1
    rcases clear other inside with same | fine
    · exact absurd same different
    · rw [found] at fine
      simp only [Option.all_some, List.all_eq_true, decide_eq_true_eq] at fine
      exact fine key wanted
  · intro clear other inside
    by_cases same : other = index
    · exact .inl same
    · right
      cases found : system.sessions[other]? with
      | none => rfl
      | some session =>
        simp only [Option.all_some, List.all_eq_true, decide_eq_true_eq]
        exact clear other session found same

/-- What a move does. -/
inductive System.Stepped (engine : Engine State Stmt Fault Write) (locking : Locking State Stmt Key)
    (system : System State Stmt Fault Err Value Write Key) :
    Move → System State Stmt Fault Err Value Write Key → Prop where
  | statement {session : Session Stmt Fault Err Value Write Key} {Answer : Type} {stmt : Stmt Answer}
      {next : Except Fault Answer → Program Stmt Fault Err Value} {retain : Bool}
      (found : system.sessions[index]? = some session) (program : session.program = .exec stmt next)
      (free : ∀ other holder, system.sessions[other]? = some holder → other ≠ index →
        ∀ key ∈ locking.wanted stmt (engine.applyAll system.committed session.writes), key ∉ holder.held) :
      Stepped engine locking system (.statement index retain) { system with
        sessions := system.sessions.set index (session.answered next
          (locking.wanted stmt (engine.applyAll system.committed session.writes)) retain
          (engine.eval stmt (engine.applyAll system.committed session.writes))) }
  | finish {session : Session Stmt Fault Err Value Write Key} {err : Option Err}
      (found : system.sessions[index]? = some session) (unfinished : session.result = none)
      (program : session.program = .done value err) :
      Stepped engine locking system (.finish index) {
        committed := if err.isNone then engine.applyAll system.committed session.writes else system.committed
        sessions := system.sessions.set index { session with held := [], result := some (value, err) } }

theorem System.step_cases (moved : system.step engine locking move = some next) :
    system.Stepped engine locking move next := by
  cases move with
  | statement index retain =>
    simp only [System.step] at moved
    split at moved
    · cases moved
    · split at moved
      · cases moved
      · split at moved
        · cases moved
          exact .statement ‹_› ‹_› (System.free_iff.mp ‹_›)
        · cases moved
  | finish index =>
    simp only [System.step] at moved
    split at moved
    · cases moved
    · split at moved
      · cases moved
        exact .finish ‹_› ‹_› ‹_›
      · cases moved

/-- A statement whose locks are free is performed. -/
theorem System.step_statement {session : Session Stmt Fault Err Value Write Key} {Answer : Type}
    {stmt : Stmt Answer} {after : Except Fault Answer → Program Stmt Fault Err Value}
    (found : system.sessions[index]? = some session) (program : session.program = .exec stmt after)
    (free : ∀ other holder, system.sessions[other]? = some holder → other ≠ index →
      ∀ key ∈ locking.wanted stmt (engine.applyAll system.committed session.writes), key ∉ holder.held)
    (retain : Bool) :
    system.step engine locking (.statement index retain) =
      some (system.performed engine locking index session stmt after retain) := by
  simp only [System.step, found, program]
  rw [if_pos (System.free_iff.mpr free)]

theorem System.Exclusive.step (exclusive : system.Exclusive)
    (moved : system.step engine locking move = some next) : next.Exclusive := by
  cases System.step_cases moved with
  | statement found program free =>
    refine exclusive.set found (fun key holds => ?_) _
    rcases Session.answered_held holds with before | wanted
    · exact .inl before
    · exact .inr fun other holder located different => free other holder located different key wanted
  | finish found => exact exclusive.set found (by simp) _

end OrderProcessing.Library
