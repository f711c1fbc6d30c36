import OrderProcessing.Library.Serializability

/-! The log of the transactions that have taken effect. At every moment of an
interleaving, not only when all sessions have ended, the committed state is the
abstract state that the logged effects lead to, and the log holds exactly the
sessions that have answered with an effect. -/

namespace OrderProcessing.Library

section Paths

universe u v

variable {State : Type u} {Label : Type v} {step : Label → State → State → Prop}

/-- Labelled steps one after the other. -/
inductive Path (step : Label → State → State → Prop) (start : State) : List Label → State → Prop where
  | nil : Path step start [] start
  | snoc (path : Path step start log middle) (taken : step label middle final) :
      Path step start (log ++ [label]) final

/-- A relation that composes and holds across every step holds across the path. -/
theorem Path.related (path : Path step start log final) (related : State → State → Prop)
    (refl : ∀ state, related state state)
    (trans : ∀ first second third, related first second → related second third → related first third)
    (across : ∀ label first second, step label first second → related first second) : related start final := by
  induction path with
  | nil => exact refl _
  | snoc _ taken ih => exact trans _ _ _ ih (across _ _ _ taken)

end Paths

variable {State Abstract Fault Err Value Other Write Key : Type} {Stmt : Type → Type}

/-- Whatever the database answers, a success without any write has a value of the kind `void`. -/
inductive Program.Acts (engine : Engine State Stmt Fault Write) (void : Value → Prop) :
    Program Stmt Fault Err Value → Prop where
  | failed {err : Err} : Acts engine void (.done value (some err))
  | void (idle : void value) : Acts engine void (.done value none)
  | exec {Answer : Type} {stmt : Stmt Answer} {next : Except Fault Answer → Program Stmt Fault Err Value}
      (faults : ∀ fault, Acts engine void (next (.error fault)))
      (silent : ∀ state answer, engine.eval stmt state = .ok (answer, []) → Acts engine void (next (.ok answer))) :
      Acts engine void (.exec stmt next)

theorem Program.Acts.map {engine : Engine State Stmt Fault Write} {embed : Value → Other} {void : Other → Prop}
    {program : Program Stmt Fault Err Value} (acts : program.Acts engine fun value => void (embed value)) :
    (program.map embed).Acts engine void := by
  induction acts with
  | failed => exact .failed
  | void idle => exact .void idle
  | exec _ _ faults silent => exact .exec faults silent

theorem Program.map_alone_ok {engine : Engine State Stmt Fault Write} {embed : Value → Other} {other : Other}
    {program : Program Stmt Fault Err Value} {state final : State}
    (success : (program.map embed).alone engine state = ((other, none), final)) :
    ∃ value, embed value = other ∧ program.atomic engine state = ((value, none), final) := by
  rw [Program.map_alone] at success
  obtain ⟨answer, same⟩ := Prod.mk.inj success
  obtain ⟨embedded, noError⟩ := Prod.mk.inj answer
  exact ⟨_, embedded, Program.alone_ok_iff.mp (Prod.ext (Prod.ext rfl noError) same)⟩

section Logging

variable {engine : Engine State Stmt Fault Write} {locking : Locking State Stmt Key}
  {footprint : Footprint engine locking} {valid : State → Prop} {refines : State → Abstract → Prop}
  {void : Value → Prop} {effect : Nat × Value → Abstract → Abstract → Prop}
  {bodies : List (Program Stmt Fault Err Value)} {initial : State} {origin : Abstract}
  {system next : System State Stmt Fault Err Value Write Key} {log : List (Nat × Value)} {abstract : Abstract}

/-- The session has answered with a value that reports an effect. -/
def System.Answered (system : System State Stmt Fault Err Value Write Key) (void : Value → Prop) (index : Nat)
    (value : Value) : Prop :=
  ∃ session, system.sessions[index]? = some session ∧ session.result = some (value, none) ∧ ¬ void value

/-- The log leads to the committed state and holds exactly the answers that report an effect. -/
structure Logged (refines : State → Abstract → Prop) (void : Value → Prop)
    (effect : Nat × Value → Abstract → Abstract → Prop) (origin : Abstract)
    (system : System State Stmt Fault Err Value Write Key) (log : List (Nat × Value)) (abstract : Abstract) : Prop where
  path : Path effect origin log abstract
  refined : refines system.committed abstract
  answers : ∀ index value, (index, value) ∈ log ↔ system.Answered void index value
  unique : (log.map Prod.fst).Nodup

/-- Only the end of a session changes an answer. -/
theorem System.Answered.set_iff {session old : Session Stmt Fault Err Value Write Key}
    (found : system.sessions[index]? = some old) (same : session.result = old.result) (state : State) :
    (System.mk state (system.sessions.set index session)).Answered void other value ↔
      system.Answered void other value := by
  by_cases own : other = index
  · subst own
    simp [System.Answered, found, getElem_set_found found, same]
  · simp [System.Answered, List.getElem?_set_ne (Ne.symm own)]

/-- A session that had no answer gets one. -/
theorem System.Answered.finish_iff {session old : Session Stmt Fault Err Value Write Key}
    (found : system.sessions[index]? = some old) (unfinished : old.result = none)
    (result : session.result = some (value, err)) (state : State) :
    (System.mk state (system.sessions.set index session)).Answered void other given ↔
      system.Answered void other given ∨ (other = index ∧ given = value ∧ err = none ∧ ¬ void value) := by
  by_cases own : other = index
  · subst own
    simp only [System.Answered, found, getElem_set_found found, result, unfinished, Option.some.injEq, Prod.mk.injEq,
      exists_eq_left', reduceCtorEq, false_and, false_or, true_and]
    constructor
    · rintro ⟨⟨rfl, rfl⟩, effective⟩
      exact ⟨rfl, rfl, effective⟩
    · rintro ⟨rfl, rfl, effective⟩
      exact ⟨⟨rfl, rfl⟩, effective⟩
  · simp [System.Answered, List.getElem?_set_ne (Ne.symm own), own]

theorem Logged.start (holds : refines initial origin) :
    Logged refines void effect origin (System.start bodies initial : System State Stmt Fault Err Value Write Key)
      [] origin where
  path := .nil
  refined := holds
  answers index value := by
    simp only [List.not_mem_nil, System.Answered, System.start, List.getElem?_map, Option.map_eq_some_iff, false_iff]
    rintro ⟨_, ⟨_, _, rfl⟩, result, _⟩
    cases result
  unique := .nil

/-- An end without an effect leaves the log as it is. -/
theorem Logged.idle {session old : Session Stmt Fault Err Value Write Key}
    (logged : Logged refines void effect origin system log abstract)
    (found : system.sessions[index]? = some old) (unfinished : old.result = none)
    (result : session.result = some (value, err)) (ineffective : err.isSome ∨ void value) :
    Logged refines void effect origin ⟨system.committed, system.sessions.set index session⟩ log abstract where
  path := logged.path
  refined := logged.refined
  unique := logged.unique
  answers other given := by
    rw [System.Answered.finish_iff found unfinished result, logged.answers]
    constructor
    · exact .inl
    · rintro (before | ⟨_, _, rfl, effective⟩)
      · exact before
      · exact absurd ineffective (by simpa using effective)

/-- A commit with an effect is logged last. -/
theorem Logged.commit {session old : Session Stmt Fault Err Value Write Key}
    (logged : Logged refines void effect origin system log abstract)
    (found : system.sessions[index]? = some old) (unfinished : old.result = none)
    (result : session.result = some (value, none)) (effective : ¬ void value)
    (taken : effect (index, value) abstract after) (refined : refines state after) :
    Logged refines void effect origin ⟨state, system.sessions.set index session⟩ (log ++ [(index, value)]) after where
  path := .snoc logged.path taken
  refined := refined
  unique := by
    rw [List.map_append, List.map_cons, List.map_nil]
    refine List.nodup_append.mpr ⟨logged.unique, by simp, ?_⟩
    rintro earlier member _ last rfl
    cases List.mem_singleton.mp last
    obtain ⟨⟨_, given⟩, present, rfl⟩ := List.mem_map.mp member
    obtain ⟨session, located, answer, _⟩ := (logged.answers _ given).mp present
    cases located.symm.trans found
    rw [unfinished] at answer
    cases answer
  answers other given := by
    rw [System.Answered.finish_iff found unfinished result, List.mem_append, logged.answers]
    simp [effective]

/-- What the effect rule below asks of the transactions. -/
structure Effective (footprint : Footprint engine locking) (valid : State → Prop) (refines : State → Abstract → Prop)
    (void : Value → Prop) (effect : Nat × Value → Abstract → Abstract → Prop)
    (bodies : List (Program Stmt Fault Err Value)) : Prop where
  issues : ∀ body ∈ bodies, body.Issues footprint.issued
  preserved : ∀ body ∈ bodies, ∀ state, valid state → valid (body.alone engine state).2
  guarded : ∀ body ∈ bodies, ∀ state, valid state → body.Guarded footprint state []
  acts : ∀ body ∈ bodies, body.Acts engine void
  takes : ∀ index body, bodies[index]? = some body → ∀ state abstract value final, valid state →
    refines state abstract → body.alone engine state = ((value, none), final) →
    (void value ∧ final = state) ∨ (¬ void value ∧ ∃ after, effect (index, value) abstract after ∧ refines final after)

/-- A session that has written nothing yet acts before it answers. -/
def System.Acting (engine : Engine State Stmt Fault Write) (void : Value → Prop)
    (system : System State Stmt Fault Err Value Write Key) : Prop :=
  ∀ (index : Nat) (session : Session Stmt Fault Err Value Write Key), system.sessions[index]? = some session →
    session.writes ≠ [] ∨ session.program.Acts engine void

theorem System.Acting.set {session : Session Stmt Fault Err Value Write Key} (acting : system.Acting engine void)
    (fine : session.writes ≠ [] ∨ session.program.Acts engine void) (state : State) :
    (System.mk state (system.sessions.set index session)).Acting engine void := by
  intro other holder located
  rcases getElem_set_cases located with ⟨_, rfl⟩ | ⟨_, before⟩
  · exact fine
  · exact acting other holder before

theorem System.Acting.statement {session : Session Stmt Fault Err Value Write Key} {Answer : Type} {stmt : Stmt Answer}
    {next : Except Fault Answer → Program Stmt Fault Err Value} (acting : system.Acting engine void)
    (found : system.sessions[index]? = some session) (program : session.program = .exec stmt next) :
    (system.performed engine locking index session stmt next retain).Acting engine void := by
  refine acting.set ?_ _
  rcases acting index session found with written | acts
  · unfold Session.answered
    split
    · exact .inl written
    · exact .inl (by simp [written])
  · rw [program] at acts
    cases acts with
    | exec faults silent =>
      cases reply : engine.eval stmt (engine.applyAll system.committed session.writes) with
      | error fault => exact .inr (faults fault)
      | ok outcome =>
        obtain ⟨answer, new⟩ := outcome
        cases new with
        | nil => exact .inr (silent _ answer reply)
        | cons => exact .inl (by simp [Session.answered])

/-- A session that ends well without a write reports no effect. -/
theorem System.Acting.silent {index : Nat} {session : Session Stmt Fault Err Value Write Key}
    (acting : system.Acting engine void) (found : system.sessions[index]? = some session)
    (program : session.program = .done value none) (silent : session.writes = []) : void value := by
  rcases acting index session found with written | acts
  · exact absurd silent written
  · rw [program] at acts
    cases acts with
    | void idle => exact idle

/-- The end of a session either has no effect or is the last of the log. -/
theorem Logged.finish {session : Session Stmt Fault Err Value Write Key} {err : Option Err}
    (effective : Effective footprint valid refines void effect bodies)
    (linked : Linked footprint valid bodies initial system order) (acting : system.Acting engine void)
    (logged : Logged refines void effect origin system log abstract)
    (found : system.sessions[index]? = some session) (unfinished : session.result = none)
    (program : session.program = .done value err) :
    ∃ log abstract, Logged refines void effect origin
      ⟨if err.isNone then engine.applyAll system.committed session.writes else system.committed,
        system.sessions.set index { session with held := [], result := some (value, err) }⟩ log abstract := by
  cases err with
  | some failure => exact ⟨log, abstract, logged.idle found unfinished rfl (.inl rfl)⟩
  | none =>
    simp only [Option.isNone_none, ↓reduceIte]
    by_cases member : index ∈ order
    · obtain ⟨_, outcome, located, done, _, ineffective, _⟩ := linked.decided index member
      cases located.symm.trans found
      obtain ⟨_, noError⟩ := Program.done.inj (program.symm.trans done)
      have silent : session.writes = [] := by simpa [← noError] using ineffective unfinished
      have idle := acting.silent found program silent
      rw [silent]
      exact ⟨log, abstract, logged.idle found unfinished rfl (.inr idle)⟩
    · have inside : index < bodies.length := linked.length ▸ (List.getElem?_eq_some_iff.mp found).1
      have listed : bodies[index]? = some bodies[index] := List.getElem?_eq_getElem inside
      obtain ⟨_, observed, executed, _⟩ := linked.running index session _ found listed member
      rw [program] at executed
      have alone := executed.alone
      simp only [Option.isNone_none, ↓reduceIte] at alone
      rcases effective.takes index _ listed _ _ _ _ linked.sound logged.refined alone with
        ⟨idle, same⟩ | ⟨real, after, taken, refined⟩
      · rw [same]
        exact ⟨log, abstract, logged.idle found unfinished rfl (.inr idle)⟩
      · exact ⟨_, after, logged.commit found unfinished rfl real taken refined⟩

/-- At every moment of every interleaving, the committed state is explained by the log of the answers so far. -/
theorem committed_log [DecidableEq Key] (effective : Effective footprint valid refines void effect bodies)
    (holds : valid initial) (refined : refines initial origin)
    (reached : run (System.step engine locking) (System.start bodies initial) moves = some next) :
    ∃ log abstract, Logged refines void effect origin next log abstract := by
  have invariant := run_invariant
    (fun system : System State Stmt Fault Err Value Write Key =>
      (∃ order, Linked footprint valid bodies initial system order) ∧ system.Acting engine void ∧
        ∃ log abstract, Logged refines void effect origin system log abstract)
    (fun system move next held moved => ?_) ⟨⟨[], .start holds⟩, ?_, [], origin, .start refined⟩ reached
  · exact invariant.2.2
  · obtain ⟨⟨order, linked⟩, acting, log, abstract, logged⟩ := held
    refine ⟨linked.step effective.issues effective.preserved effective.guarded moved, ?_⟩
    cases System.step_cases moved with
    | statement found program _ =>
      refine ⟨acting.statement found program, log, abstract, logged.path, logged.refined, ?_, logged.unique⟩
      intro other given
      rw [logged.answers, System.Answered.set_iff found Session.answered_result]
    | finish found unfinished program =>
      have unchanged := acting _ _ found
      exact ⟨acting.set (by exact unchanged) _, logged.finish effective linked acting found unfinished program⟩
  · intro index session found
    simp only [System.start, List.getElem?_map, Option.map_eq_some_iff] at found
    obtain ⟨body, listed, rfl⟩ := found
    exact .inr (effective.acts body (List.mem_of_getElem? listed))

end Logging

end OrderProcessing.Library
