import Mathlib.Data.List.Nodup
import Mathlib.Data.List.Range
import OrderProcessing.Library.Keyed
import OrderProcessing.Library.ReadCommitted

/-! When statement-level execution equals some serial one. A transaction that
keeps the lock of everything it has read can be moved to its commit; one that
will not write can be moved to its last statement. -/

namespace OrderProcessing.Library

variable {State Fault Err Value Other Write Key : Type} {Stmt : Type → Type}

/-- What the statements of a set of transactions read and write, in terms of
keys. `same` compares two states at one key. -/
structure Footprint (engine : Engine State Stmt Fault Write) (locking : Locking State Stmt Key) where
  keys : Write → List Key
  same : Key → State → State → Prop
  reads : {Answer : Type} → Stmt Answer → List Key
  issued : (Answer : Type) → Stmt Answer → Prop
  ordinary : Write → Prop
  static : Key → Prop
  refl : ∀ key state, same key state state
  trans : ∀ key first second third, same key first second → same key second third → same key first third
  determined : ∀ Answer (stmt : Stmt Answer) first second, issued Answer stmt →
    (∀ key ∈ reads stmt, same key first second) → engine.eval stmt first = engine.eval stmt second
  lifted : ∀ write key first second, ordinary write → same key first second →
    same key (engine.apply first write) (engine.apply second write)
  framed : ∀ write key state, ordinary write → key ∉ keys write → same key state (engine.apply state write)
  yields : ∀ Answer (stmt : Stmt Answer) state answer writes, issued Answer stmt →
    engine.eval stmt state = .ok (answer, writes) →
    ∀ write ∈ writes, ordinary write ∧ ∀ key ∈ keys write, key ∈ locking.wanted stmt state ∧ ¬ static key

/-- The transaction can only end without an effect. -/
def Decided (program : Program Stmt Fault Err Value) (writes : List Write) : Prop :=
  ∃ value err, program = .done value err ∧ (err.isSome ∨ writes = [])

section Alone

variable {engine : Engine State Stmt Fault Write} {locking : Locking State Stmt Key}

/-- Part of a body was executed on its own, from a state, with these writes and
after reading these keys. -/
inductive Executed (footprint : Footprint engine locking) (state : State) (body : Program Stmt Fault Err Value) :
    Program Stmt Fault Err Value → List Write → List Key → Prop where
  | start : Executed footprint state body body [] []
  | answered {Answer : Type} {stmt : Stmt Answer} {answer : Answer}
      {next : Except Fault Answer → Program Stmt Fault Err Value}
      (before : Executed footprint state body (.exec stmt next) writes observed)
      (reply : engine.eval stmt (engine.applyAll state writes) = .ok (answer, new)) :
      Executed footprint state body (next (.ok answer)) (writes ++ new) (observed ++ footprint.reads stmt)
  | failed {Answer : Type} {stmt : Stmt Answer} {next : Except Fault Answer → Program Stmt Fault Err Value}
      (before : Executed footprint state body (.exec stmt next) writes observed)
      (reply : engine.eval stmt (engine.applyAll state writes) = .error fault) :
      Executed footprint state body (next (.error fault)) writes (observed ++ footprint.reads stmt)

/-- Executed from a state where it alone runs, a body holds the locks of all it
has read, up to a statement after which it has no effect. -/
def Program.Guarded (footprint : Footprint engine locking) (state : State) :
    Program Stmt Fault Err Value → List Write → Prop
  | .done _ _, _ => True
  | .exec stmt next, writes =>
    match engine.eval stmt (engine.applyAll state writes) with
    | .error fault => Decided (next (.error fault)) writes
    | .ok (answer, new) =>
      Decided (next (.ok answer)) (writes ++ new) ∨
        ((∀ key ∈ footprint.reads stmt, footprint.static key ∨ key ∈ (writes ++ new).flatMap footprint.keys) ∧
          (next (.ok answer)).Guarded footprint state (writes ++ new))

variable {footprint : Footprint engine locking} {state other : State}
  {body program : Program Stmt Fault Err Value} {writes : List Write} {observed : List Key}

theorem Executed.atomic (executed : Executed footprint state body program writes observed) :
    body.atomic engine state = program.atomic engine (engine.applyAll state writes) := by
  induction executed with
  | start => rfl
  | answered _ reply ih =>
    rw [ih]
    simp [Program.atomic, Engine.answer, reply, Engine.applyAll_append]
  | failed _ reply ih =>
    rw [ih]
    simp [Program.atomic, Engine.answer, reply]

theorem Executed.issues (executed : Executed footprint state body program writes observed)
    (issues : body.Issues footprint.issued) :
    program.Issues footprint.issued ∧ ∀ write ∈ writes, footprint.ordinary write := by
  induction executed with
  | start => exact ⟨issues, by simp⟩
  | answered _ reply ih =>
    obtain ⟨⟨⟩ | ⟨fine, rest⟩, ordinary⟩ := ih
    refine ⟨rest _, fun write member => ?_⟩
    rcases List.mem_append.mp member with old | new
    · exact ordinary write old
    · exact (footprint.yields _ _ _ _ _ fine reply write new).1
  | failed _ reply ih =>
    obtain ⟨⟨⟩ | ⟨fine, rest⟩, ordinary⟩ := ih
    exact ⟨rest _, ordinary⟩

theorem Footprint.applyAll_same (footprint : Footprint engine locking)
    (ordinary : ∀ write ∈ writes, footprint.ordinary write) (same : footprint.same key state other) :
    footprint.same key (engine.applyAll state writes) (engine.applyAll other writes) := by
  induction writes generalizing state other with
  | nil => exact same
  | cons write rest ih =>
    exact ih (fun more member => ordinary more (by simp [member]))
      (footprint.lifted write key state other (ordinary write (by simp)) same)

/-- Writes under other keys are not seen. -/
theorem Footprint.applyAll_framed (footprint : Footprint engine locking)
    (ordinary : ∀ write ∈ writes, footprint.ordinary write) (absent : key ∉ writes.flatMap footprint.keys)
    (state : State) : footprint.same key state (engine.applyAll state writes) := by
  induction writes generalizing state with
  | nil => exact footprint.refl key state
  | cons write rest ih =>
    simp only [List.flatMap_cons, List.mem_append, not_or] at absent
    exact footprint.trans key _ _ _ (footprint.framed write key state (ordinary write (by simp)) absent.1)
      (ih (fun more member => ordinary more (by simp [member])) absent.2 (engine.apply state write))

/-- An execution depends on the keys it has read and on nothing else. -/
theorem Executed.frame (executed : Executed footprint state body program writes observed)
    (issues : body.Issues footprint.issued) (same : ∀ key ∈ observed, footprint.same key state other) :
    Executed footprint other body program writes observed := by
  induction executed with
  | start => exact .start
  | @answered writes observed new Answer stmt answer next before reply ih =>
    obtain ⟨⟨⟩ | ⟨fine, _⟩, ordinary⟩ := before.issues issues
    have view := footprint.determined _ stmt (engine.applyAll state writes) (engine.applyAll other writes) fine
      fun key read => footprint.applyAll_same ordinary (same key (by simp [read]))
    exact .answered (ih fun key member => same key (by simp [member])) (view ▸ reply)
  | @failed writes observed fault Answer stmt next before reply ih =>
    obtain ⟨⟨⟩ | ⟨fine, _⟩, ordinary⟩ := before.issues issues
    have view := footprint.determined _ stmt (engine.applyAll state writes) (engine.applyAll other writes) fine
      fun key read => footprint.applyAll_same ordinary (same key (by simp [read]))
    exact .failed (ih fun key member => same key (by simp [member])) (view ▸ reply)

theorem Program.Guarded.map {embed : Value → Other} (guarded : program.Guarded footprint state writes) :
    (program.map embed).Guarded footprint state writes := by
  have decided {program : Program Stmt Fault Err Value} {writes : List Write} (decided : Decided program writes) :
      Decided (program.map embed) writes := by
    obtain ⟨value, err, rfl, ineffective⟩ := decided
    exact ⟨_, _, rfl, ineffective⟩
  induction program generalizing writes with
  | done => trivial
  | exec stmt next ih =>
    simp only [Program.map, Program.Guarded] at guarded ⊢
    split at guarded
    · exact decided guarded
    · rcases guarded with done | ⟨covered, rest⟩
      · exact .inl (decided done)
      · exact .inr ⟨covered, ih _ rest⟩

theorem Decided.guarded (decided : Decided program writes) : program.Guarded footprint state writes := by
  obtain ⟨value, err, rfl, _⟩ := decided
  trivial

theorem Executed.guarded (executed : Executed footprint state body program writes observed)
    (guarded : body.Guarded footprint state []) : program.Guarded footprint state writes := by
  induction executed with
  | start => exact guarded
  | answered _ reply ih =>
    simp only [Program.Guarded, reply] at ih
    rcases ih with decided | ⟨_, rest⟩
    · exact decided.guarded
    · exact rest
  | failed _ reply ih =>
    simp only [Program.Guarded, reply] at ih
    exact ih.guarded

theorem Executed.alone (executed : Executed footprint state body (.done value err) writes observed) :
    body.alone engine state = ((value, err), if err.isNone then engine.applyAll state writes else state) := by
  simp [Program.alone, executed.atomic, Program.atomic]

theorem Executed.alone_decided (executed : Executed footprint state body (.done value err) writes observed)
    (ineffective : err.isSome ∨ writes = []) : body.alone engine state = ((value, err), state) := by
  rw [executed.alone]
  rcases ineffective with failed | rfl
  · simp [Option.isNone_eq_false_iff.mpr failed]
  · simp

end Alone

section Linking

variable {engine : Engine State Stmt Fault Write} {locking : Locking State Stmt Key}
  {footprint : Footprint engine locking} {valid : State → Prop}
  {bodies : List (Program Stmt Fault Err Value)} {initial : State}
  {system next : System State Stmt Fault Err Value Write Key} {order : List Nat}

/-- The system is linked to a serial order of the transactions decided so far:
the committed state is that of the serial run, and every other transaction has
executed as if alone on it, with a lock on all that it has read. -/
structure Linked (footprint : Footprint engine locking) (valid : State → Prop)
    (bodies : List (Program Stmt Fault Err Value)) (initial : State)
    (system : System State Stmt Fault Err Value Write Key) (order : List Nat) : Prop where
  sound : valid system.committed
  length : system.sessions.length = bodies.length
  unique : order.Nodup
  replay : (serial (bodies.map (·.alone engine)) order initial).1 = system.committed
  decided : ∀ index ∈ order, ∃ session outcome, system.sessions[index]? = some session ∧
    session.program = .done outcome.1 outcome.2 ∧ (index, outcome) ∈ (serial (bodies.map (·.alone engine)) order initial).2 ∧
    (session.result = none → outcome.2.isSome ∨ session.writes = []) ∧
    ∀ result, session.result = some result → result = outcome
  running : ∀ index session body, system.sessions[index]? = some session → bodies[index]? = some body →
    index ∉ order → session.result = none ∧ ∃ observed,
      Executed footprint system.committed body session.program session.writes observed ∧
      ∀ key ∈ observed, footprint.static key ∨ key ∈ session.writes.flatMap footprint.keys
  locks : ∀ index session, system.sessions[index]? = some session → index ∉ order →
    ∀ key ∈ session.writes.flatMap footprint.keys, key ∈ session.held ∧ ¬ footprint.static key
  exclusive : system.Exclusive

theorem Linked.start (holds : valid initial) :
    Linked footprint valid bodies initial (System.start bodies initial) [] where
  sound := holds
  length := by simp [System.start]
  unique := .nil
  replay := rfl
  decided := by simp
  running index session body found listed _ := by
    simp only [System.start, List.getElem?_map, listed, Option.map_some, Option.some.injEq] at found
    subst found
    exact ⟨rfl, [], .start, by simp⟩
  locks index session found _ := by
    simp only [System.start, List.getElem?_map, Option.map_eq_some_iff] at found
    obtain ⟨_, _, rfl⟩ := found
    simp
  exclusive := System.start_exclusive bodies initial

/-- A session that read under its own locks stays undecided. -/
theorem Linked.proceed {session : Session Stmt Fault Err Value Write Key}
    (linked : Linked footprint valid bodies initial system order)
    (listed : bodies[index]? = some body) (undecided : index ∉ order) (unfinished : session.result = none)
    (executed : Executed footprint system.committed body session.program session.writes observed)
    (covered : ∀ key ∈ observed, footprint.static key ∨ key ∈ session.writes.flatMap footprint.keys)
    (locks : ∀ key ∈ session.writes.flatMap footprint.keys, key ∈ session.held ∧ ¬ footprint.static key)
    (exclusive : (System.mk system.committed (system.sessions.set index session)).Exclusive) :
    Linked footprint valid bodies initial ⟨system.committed, system.sessions.set index session⟩ order where
  sound := linked.sound
  length := by simpa using linked.length
  unique := linked.unique
  replay := linked.replay
  decided other member := by
    obtain ⟨holder, outcome, located, rest⟩ := linked.decided other member
    have different : index ≠ other := fun same => undecided (same ▸ member)
    exact ⟨holder, outcome, getElem_set_other located different.symm _, rest⟩
  running other holder program located known absent := by
    rcases getElem_set_cases located with ⟨rfl, rfl⟩ | ⟨_, before⟩
    · cases listed.symm.trans known
      exact ⟨unfinished, observed, executed, covered⟩
    · exact linked.running other holder program before known absent
  locks other holder located absent := by
    rcases getElem_set_cases located with ⟨rfl, rfl⟩ | ⟨_, before⟩
    · exact locks
    · exact linked.locks other holder before absent
  exclusive := exclusive

/-- A session whose effect is settled takes its place in the serial order, with
the committed state that its body leaves behind when it runs alone. -/
theorem Linked.decide {session : Session Stmt Fault Err Value Write Key} {err : Option Err}
    (linked : Linked footprint valid bodies initial system order)
    (found : system.sessions[index]? = some old) (listed : bodies[index]? = some body) (undecided : index ∉ order)
    (program : session.program = .done value err) (alone : body.alone engine system.committed = ((value, err), state))
    (ineffective : session.result = none → err.isSome ∨ session.writes = [])
    (result : ∀ outcome, session.result = some outcome → outcome = (value, err))
    (sound : valid state)
    (running : ∀ other holder program, system.sessions[other]? = some holder → bodies[other]? = some program →
      other ∉ order → other ≠ index → holder.result = none ∧ ∃ observed,
        Executed footprint state program holder.program holder.writes observed ∧
        ∀ key ∈ observed, footprint.static key ∨ key ∈ holder.writes.flatMap footprint.keys)
    (exclusive : (System.mk state (system.sessions.set index session)).Exclusive) :
    Linked footprint valid bodies initial ⟨state, system.sessions.set index session⟩ (order ++ [index]) := by
  have operation : (bodies.map (·.alone engine))[index]? = some (body.alone engine) := by simp [listed]
  have extended := serial_append operation order initial
  rw [linked.replay, alone] at extended
  refine {
    sound, length := by simpa using linked.length, unique := ?_, replay := by rw [extended], decided := ?_
    running := ?_, locks := ?_, exclusive }
  · simpa [List.nodup_append] using ⟨linked.unique, fun other member same => undecided (same ▸ member)⟩
  · intro other member
    rw [extended]
    by_cases same : other = index
    · subst same
      exact ⟨session, (value, err), getElem_set_found found _, program, by simp, ineffective, result⟩
    · have earlier : other ∈ order := by simpa [same] using member
      obtain ⟨holder, outcome, located, done, listed, rest⟩ := linked.decided other earlier
      refine ⟨holder, outcome, ?_, done, List.mem_append_left _ listed, rest⟩
      simpa [List.getElem?_set_ne (Ne.symm same)] using located
  · intro other holder program located known absent
    simp only [List.mem_append, List.mem_singleton, not_or] at absent
    rcases getElem_set_cases located with ⟨same, _⟩ | ⟨different, before⟩
    · exact absurd same absent.2
    · exact running other holder program before known absent.1 different
  · intro other holder located absent
    simp only [List.mem_append, List.mem_singleton, not_or] at absent
    rcases getElem_set_cases located with ⟨same, _⟩ | ⟨_, before⟩
    · exact absurd same absent.2
    · exact linked.locks other holder before absent.1

/-- The end of a session that was decided before. -/
theorem Linked.close {session : Session Stmt Fault Err Value Write Key} {err : Option Err}
    (linked : Linked footprint valid bodies initial system order) (found : system.sessions[index]? = some session)
    (program : session.program = .done value err) (member : index ∈ order) :
    Linked footprint valid bodies initial
      ⟨system.committed, system.sessions.set index { session with held := [], result := some (value, err) }⟩
      order where
  sound := linked.sound
  length := by simpa using linked.length
  unique := linked.unique
  replay := linked.replay
  decided other present := by
    obtain ⟨holder, outcome, located, done, listed, rest⟩ := linked.decided other present
    by_cases same : other = index
    · subst same
      cases located.symm.trans found
      rw [program] at done
      cases done
      exact ⟨{ session with held := [], result := some outcome }, outcome, getElem_set_found found _, program, listed,
        nofun, fun _ same => (Option.some.inj same).symm⟩
    · exact ⟨holder, outcome, getElem_set_other located same _, done, listed, rest⟩
  running other holder body located known absent := by
    rcases getElem_set_cases located with ⟨rfl, _⟩ | ⟨_, before⟩
    · exact absurd member absent
    · exact linked.running other holder body before known absent
  locks other holder located absent := by
    rcases getElem_set_cases located with ⟨rfl, _⟩ | ⟨_, before⟩
    · exact absurd member absent
    · exact linked.locks other holder before absent
  exclusive := linked.exclusive.set found (by simp) _

/-- Committing under one's own locks disturbs no other execution. -/
theorem Linked.running_after {session : Session Stmt Fault Err Value Write Key}
    (linked : Linked footprint valid bodies initial system order)
    (issues : ∀ body ∈ bodies, body.Issues footprint.issued)
    (found : system.sessions[index]? = some session) (undecided : index ∉ order)
    (ordinary : ∀ write ∈ session.writes, footprint.ordinary write)
    (located : system.sessions[other]? = some holder) (known : bodies[other]? = some body) (absent : other ∉ order)
    (different : other ≠ index) :
    holder.result = none ∧ ∃ observed,
      Executed footprint (engine.applyAll system.committed session.writes) body holder.program holder.writes observed ∧
      ∀ key ∈ observed, footprint.static key ∨ key ∈ holder.writes.flatMap footprint.keys := by
  obtain ⟨unfinished, observed, executed, covered⟩ := linked.running other holder body located known absent
  refine ⟨unfinished, observed, ?_, covered⟩
  refine executed.frame (issues body (List.mem_of_getElem? known)) fun key read => ?_
  refine footprint.applyAll_framed ordinary (fun written => ?_) _
  obtain ⟨held, changing⟩ := linked.locks index session found undecided key written
  rcases covered key read with static | own
  · exact changing static
  · exact linked.exclusive other index holder session located found different key
      (linked.locks other holder located absent key own).1 held

theorem Linked.statement_step {session : Session Stmt Fault Err Value Write Key} {Answer : Type}
    {stmt : Stmt Answer} {next : Except Fault Answer → Program Stmt Fault Err Value}
    (linked : Linked footprint valid bodies initial system order)
    (issues : ∀ body ∈ bodies, body.Issues footprint.issued)
    (guarded : ∀ body ∈ bodies, ∀ state, valid state → body.Guarded footprint state [])
    (found : system.sessions[index]? = some session) (program : session.program = .exec stmt next)
    (exclusive : (system.performed engine locking index session stmt next retain).Exclusive) :
    ∃ order, Linked footprint valid bodies initial (system.performed engine locking index session stmt next retain)
      order := by
  have undecided : index ∉ order := by
    intro member
    obtain ⟨_, _, located, done, _⟩ := linked.decided index member
    cases located.symm.trans found
    rw [program] at done
    cases done
  have inside : index < bodies.length := linked.length ▸ (List.getElem?_eq_some_iff.mp found).1
  have listed : bodies[index]? = some bodies[index] := List.getElem?_eq_getElem inside
  have member : bodies[index] ∈ bodies := List.getElem_mem inside
  obtain ⟨unfinished, observed, executed, covered⟩ := linked.running index session _ found listed undecided
  have locks := linked.locks index session found undecided
  have running := fun other holder body located known absent (_ : other ≠ index) =>
    linked.running other holder body located known absent
  rw [program] at executed
  have checked := executed.guarded (guarded _ member _ linked.sound)
  obtain ⟨⟨⟩ | ⟨fine, _⟩, _⟩ := executed.issues (issues _ member)
  simp only [Program.Guarded] at checked
  unfold System.performed at exclusive ⊢
  cases reply : engine.eval stmt (engine.applyAll system.committed session.writes) with
  | error fault =>
    rw [reply] at exclusive
    simp only [reply] at checked
    obtain ⟨value, err, done, ineffective⟩ := checked
    have ended := executed.failed reply
    rw [done] at ended
    exact ⟨order ++ [index], linked.decide found listed undecided done (ended.alone_decided ineffective)
      (fun _ => ineffective) (by simp [Session.answered, unfinished]) linked.sound running exclusive⟩
  | ok outcome =>
    obtain ⟨answer, new⟩ := outcome
    rw [reply] at exclusive
    simp only [reply] at checked
    rcases checked with ⟨value, err, done, ineffective⟩ | ⟨reads, _⟩
    · have ended := executed.answered reply
      rw [done] at ended
      exact ⟨order ++ [index], linked.decide found listed undecided done (ended.alone_decided ineffective)
        (fun _ => ineffective) (by simp [Session.answered, unfinished]) linked.sound running exclusive⟩
    · refine ⟨order, linked.proceed listed undecided unfinished (executed.answered reply) ?_ ?_ exclusive⟩
      · intro key member
        rcases List.mem_append.mp member with old | read
        · rcases covered key old with static | own
          · exact .inl static
          · exact .inr (by simp only [Session.answered, List.flatMap_append, List.mem_append]; exact .inl own)
        · exact reads key read
      · intro key member
        simp only [Session.answered, List.flatMap_append, List.mem_append] at member ⊢
        rcases member with old | added
        · exact ⟨.inl (locks key old).1, (locks key old).2⟩
        · obtain ⟨write, present, touched⟩ := List.mem_flatMap.mp added
          obtain ⟨_, wanted⟩ := footprint.yields _ _ _ _ _ fine reply write present
          have kept : (retain || !new.isEmpty) = true := by
            cases new with
            | nil => cases present
            | cons => simp
          rw [if_pos kept]
          exact ⟨.inr (wanted key touched).1, (wanted key touched).2⟩

theorem Linked.finish_step {session : Session Stmt Fault Err Value Write Key} {err : Option Err}
    (linked : Linked footprint valid bodies initial system order)
    (issues : ∀ body ∈ bodies, body.Issues footprint.issued)
    (preserved : ∀ body ∈ bodies, ∀ state, valid state → valid (body.alone engine state).2)
    (found : system.sessions[index]? = some session) (unfinished : session.result = none)
    (program : session.program = .done value err) :
    ∃ order, Linked footprint valid bodies initial
      ⟨if err.isNone then engine.applyAll system.committed session.writes else system.committed,
        system.sessions.set index { session with held := [], result := some (value, err) }⟩ order := by
  by_cases member : index ∈ order
  · -- its place in the order was settled by an earlier statement, and it has no effect
    obtain ⟨_, outcome, located, done, _, ineffective, _⟩ := linked.decided index member
    cases located.symm.trans found
    cases program.symm.trans done
    have unchanged : (if outcome.2.isNone then engine.applyAll system.committed session.writes
        else system.committed) = system.committed := by
      rcases ineffective unfinished with failed | empty
      · simp [Option.isNone_eq_false_iff.mpr failed]
      · simp [empty]
    rw [unchanged]
    exact ⟨order, linked.close found program member⟩
  · have inside : index < bodies.length := linked.length ▸ (List.getElem?_eq_some_iff.mp found).1
    have listed : bodies[index]? = some bodies[index] := List.getElem?_eq_getElem inside
    have known : bodies[index] ∈ bodies := List.getElem_mem inside
    obtain ⟨_, observed, executed, _⟩ := linked.running index session _ found listed member
    rw [program] at executed
    have alone := executed.alone
    have sound := preserved _ known _ linked.sound
    rw [alone] at sound
    refine ⟨order ++ [index], linked.decide found listed member program alone nofun
      (fun _ same => (Option.some.inj same).symm) sound ?_ (linked.exclusive.set found (by simp) _)⟩
    intro other holder body located own absent different
    split
    · exact linked.running_after issues found member (executed.issues (issues _ known)).2 located own absent different
    · exact linked.running other holder body located own absent

theorem Linked.step [DecidableEq Key] (linked : Linked footprint valid bodies initial system order)
    (issues : ∀ body ∈ bodies, body.Issues footprint.issued)
    (preserved : ∀ body ∈ bodies, ∀ state, valid state → valid (body.alone engine state).2)
    (guarded : ∀ body ∈ bodies, ∀ state, valid state → body.Guarded footprint state [])
    (moved : system.step engine locking move = some next) :
    ∃ order, Linked footprint valid bodies initial next order := by
  have exclusive := linked.exclusive.step moved
  cases System.step_cases moved with
  | statement found program _ => exact linked.statement_step issues guarded found program exclusive
  | finish found unfinished program => exact linked.finish_step issues preserved found unfinished program

/-- Every complete interleaving of guarded transactions has the committed state
and the results of some serial order of them. -/
theorem serializable [DecidableEq Key] (footprint : Footprint engine locking) (valid : State → Prop)
    (holds : valid initial) (issues : ∀ body ∈ bodies, body.Issues footprint.issued)
    (preserved : ∀ body ∈ bodies, ∀ state, valid state → valid (body.alone engine state).2)
    (guarded : ∀ body ∈ bodies, ∀ state, valid state → body.Guarded footprint state [])
    (reached : run (System.step engine locking) (System.start bodies initial) moves = some next)
    (complete : ∀ session ∈ next.sessions, session.result.isSome) :
    ∃ order, order.Perm (List.range bodies.length) ∧
      (serial (bodies.map (·.alone engine)) order initial).1 = next.committed ∧
      ∀ index session, next.sessions[index]? = some session → ∃ result, session.result = some result ∧
        (index, result) ∈ (serial (bodies.map (·.alone engine)) order initial).2 := by
  obtain ⟨order, linked⟩ := run_invariant (fun system => ∃ order, Linked footprint valid bodies initial system order)
    (fun _ _ _ ⟨_, linked⟩ moved => linked.step issues preserved guarded moved) ⟨[], .start holds⟩ reached
  -- a session outside the order has no result yet
  have ordered : ∀ index session, next.sessions[index]? = some session → index ∈ order := by
    intro index session found
    by_contra absent
    have inside : index < bodies.length := linked.length ▸ (List.getElem?_eq_some_iff.mp found).1
    obtain ⟨unfinished, _⟩ := linked.running index session _ found (List.getElem?_eq_getElem inside) absent
    simpa [unfinished] using complete session (List.mem_of_getElem? found)
  refine ⟨order, ?_, linked.replay, ?_⟩
  · refine (List.perm_ext_iff_of_nodup linked.unique List.nodup_range).mpr fun index => ?_
    rw [List.mem_range, ← linked.length]
    constructor
    · intro member
      obtain ⟨_, _, located, _⟩ := linked.decided index member
      exact (List.getElem?_eq_some_iff.mp located).1
    · intro inside
      exact ordered index _ (List.getElem?_eq_getElem inside)
  · intro index session found
    obtain ⟨_, outcome, located, _, listed, _, recorded⟩ := linked.decided index (ordered index session found)
    cases located.symm.trans found
    obtain ⟨result, ended⟩ := Option.isSome_iff_exists.mp (complete session (List.mem_of_getElem? found))
    exact ⟨result, ended, recorded result ended ▸ listed⟩

end Linking

end OrderProcessing.Library
