import Mathlib.Data.Fintype.EquivFin
import Mathlib.Logic.Relation
import Mathlib.Order.WellFounded
import OrderProcessing.Library.ReadCommitted

/-! Freedom from deadlock by a lock order. If a lock that somebody else holds is
waited for only by sessions whose own locks all rank below it, nobody waits in
a circle. -/

namespace OrderProcessing.Library

variable {State Fault Err Value Other Write Key Rank : Type} {Stmt : Type → Type}

/-- The locks the next statement of a session waits for. -/
def Session.wants (engine : Engine State Stmt Fault Write) (locking : Locking State Stmt Key) (committed : State)
    (session : Session Stmt Fault Err Value Write Key) : List Key :=
  match session.program with
  | .done _ _ => []
  | .exec stmt _ => locking.wanted stmt (engine.applyAll committed session.writes)

/-- The next statement of the first session waits for a lock of the second. -/
def System.Waits (engine : Engine State Stmt Fault Write) (locking : Locking State Stmt Key)
    (system : System State Stmt Fault Err Value Write Key) (index other : Nat) : Prop :=
  index ≠ other ∧ ∃ one two, system.sessions[index]? = some one ∧ system.sessions[other]? = some two ∧
    ∃ key ∈ one.wants engine locking system.committed, key ∈ two.held

section Order

variable [Preorder Rank] {engine : Engine State Stmt Fault Write} {locking : Locking State Stmt Key}
  {rank : Key → Rank} {system : System State Stmt Fault Err Value Write Key}

/-- Whoever waits for a lock holds only locks of lower rank. -/
def System.Climbing (engine : Engine State Stmt Fault Write) (locking : Locking State Stmt Key) (rank : Key → Rank)
    (system : System State Stmt Fault Err Value Write Key) : Prop :=
  ∀ (index other : Nat) (one two : Session Stmt Fault Err Value Write Key),
    system.sessions[index]? = some one → system.sessions[other]? = some two → index ≠ other →
    ∀ key ∈ one.wants engine locking system.committed, key ∈ two.held → ∀ own ∈ one.held, rank own < rank key

/-- Along a chain of waiting sessions the ranks rise. -/
theorem System.Climbing.chain (climbing : system.Climbing engine locking rank) {index last : Nat}
    (path : Relation.TransGen (system.Waits engine locking) index last) :
    ∃ (one two holder : Session Stmt Fault Err Value Write Key) (other : Nat), system.sessions[index]? = some one ∧
      system.sessions[last]? = some two ∧ system.sessions[other]? = some holder ∧ index ≠ other ∧
      ∃ first ∈ one.wants engine locking system.committed, first ∈ holder.held ∧
        ∃ final ∈ two.held, rank first ≤ rank final := by
  induction path with
  | single edge =>
    obtain ⟨different, one, two, located, found, key, wanted, held⟩ := edge
    exact ⟨one, two, two, _, located, found, found, different, key, wanted, held, key, held, le_refl _⟩
  | tail _ edge ih =>
    obtain ⟨one, two, holder, other, located, found, known, different, first, wanted, held, final, own, below⟩ := ih
    obtain ⟨apart, middle, next, same, present, key, desired, taken⟩ := edge
    cases found.symm.trans same
    have above := climbing _ _ two next found present apart key desired taken final own
    exact ⟨one, next, holder, other, located, present, known, different, first, wanted, held, key, taken,
      below.trans above.le⟩

theorem System.Climbing.acyclic (climbing : system.Climbing engine locking rank) (index : Nat) :
    ¬ Relation.TransGen (system.Waits engine locking) index index := by
  intro cycle
  obtain ⟨one, two, holder, other, located, found, known, different, first, wanted, held, final, own, below⟩ :=
    climbing.chain cycle
  cases located.symm.trans found
  exact absurd (climbing _ _ one holder located known different first wanted held final own) (not_lt_of_ge below)

/-- A session that has ended holds no lock and has nothing left to do. -/
def System.Settled (system : System State Stmt Fault Err Value Write Key) : Prop :=
  ∀ session ∈ system.sessions, session.result.isSome →
    session.held = [] ∧ ∃ value err, session.program = .done value err

/-- As long as a session is unfinished, some unfinished session does not wait. -/
theorem System.Climbing.progress (climbing : system.Climbing engine locking rank) (settled : system.Settled)
    {index : Nat} {session : Session Stmt Fault Err Value Write Key}
    (found : system.sessions[index]? = some session) (unfinished : session.result = none) :
    ∃ other holder, system.sessions[other]? = some holder ∧ holder.result = none ∧
      ∀ another, ¬ system.Waits engine locking other another := by
  let after (first second : Fin system.sessions.length) : Prop :=
    Relation.TransGen (system.Waits engine locking) second first
  have transitive : IsTrans _ after := ⟨fun _ _ _ left right => right.trans left⟩
  have irreflexive : Std.Irrefl after := ⟨fun _ => climbing.acyclic _⟩
  have founded : WellFounded after := Finite.wellFounded_of_trans_of_irrefl after
  -- an unfinished session that no chain of waiting leads away from
  have inside : index < system.sessions.length := (List.getElem?_eq_some_iff.mp found).1
  obtain ⟨last, ⟨holder, located, still⟩, minimal⟩ := founded.has_min
    {place : Fin system.sessions.length | ∃ holder, system.sessions[place.val]? = some holder ∧ holder.result = none}
    ⟨⟨index, inside⟩, session, found, unfinished⟩
  refine ⟨last, holder, located, still, fun another waits => ?_⟩
  have path := Relation.TransGen.single waits
  obtain ⟨_, _, two, _, present, _, _, held⟩ := waits
  refine minimal ⟨another, (List.getElem?_eq_some_iff.mp present).1⟩ ⟨two, present, ?_⟩ path
  by_contra ended
  rw [(settled two (List.mem_of_getElem? present) (Option.isSome_iff_ne_none.mpr ended)).1] at held
  cases held

end Order

theorem System.start_settled (bodies : List (Program Stmt Fault Err Value)) (state : State) :
    (System.start bodies state : System State Stmt Fault Err Value Write Key).Settled := by
  intro session member ended
  obtain ⟨_, _, rfl⟩ := List.mem_map.mp member
  cases ended

theorem System.Settled.step [DecidableEq Key] {engine : Engine State Stmt Fault Write}
    {locking : Locking State Stmt Key} {system next : System State Stmt Fault Err Value Write Key}
    (settled : system.Settled) (moved : system.step engine locking move = some next) : next.Settled := by
  intro session member ended
  cases System.step_cases moved with
  | @statement _ old _ _ _ _ found program _ =>
    rcases List.mem_or_eq_of_mem_set member with before | rfl
    · exact settled session before ended
    · -- the session had a statement left, so it had not ended
      rw [Session.answered_result] at ended
      obtain ⟨_, value, err, done⟩ := settled old (List.mem_of_getElem? found) ended
      cases program.symm.trans done
  | finish found unfinished program =>
    rcases List.mem_or_eq_of_mem_set member with before | rfl
    · exact settled session before ended
    · exact ⟨rfl, _, _, program⟩

/-- A discipline for sets of transactions: a rank for every lock, the answers that
statements are expected to get, and which rows exist. A statement waits for rows
that exist and for those it creates. -/
structure LockOrder (engine : Engine State Stmt Fault Write) (locking : Locking State Stmt Key) (Rank : Type) where
  rank : Key → Rank
  targets : {Answer : Type} → Stmt Answer → List Key
  creates : {Answer : Type} → Stmt Answer → List Key
  expected : {Answer : Type} → Stmt Answer → Answer → Prop
  stores : State → Key → Prop
  created : Write → List Key
  wanted : ∀ (Answer : Type) (stmt : Stmt Answer) state, ∀ key ∈ locking.wanted stmt state,
    key ∈ targets stmt ∧ (key ∈ creates stmt ∨ stores state key)
  installs : ∀ state write key, stores (engine.apply state write) key → stores state key ∨ key ∈ created write
  yields : ∀ (Answer : Type) (stmt : Stmt Answer) state answer writes,
    engine.eval stmt state = .ok (answer, writes) → ∀ write ∈ writes, ∀ key ∈ created write, key ∈ creates stmt

/-- A row that is there after some writes was there before or was created by one of them. -/
theorem LockOrder.stores_applyAll {engine : Engine State Stmt Fault Write} {locking : Locking State Stmt Key}
    (order : LockOrder engine locking Rank) {writes : List Write} {state : State}
    (stored : order.stores (engine.applyAll state writes) key) :
    order.stores state key ∨ ∃ write ∈ writes, key ∈ order.created write := by
  induction writes generalizing state with
  | nil => exact .inl stored
  | cons write rest ih =>
    rcases ih stored with before | ⟨other, member, created⟩
    · rcases order.installs state write key before with old | new
      · exact .inl old
      · exact .inr ⟨write, by simp, new⟩
    · exact .inr ⟨other, by simp [member], created⟩

section Discipline

variable [Preorder Rank] {engine : Engine State Stmt Fault Write} {locking : Locking State Stmt Key}

/-- Each statement takes locks above those held, except for the ones held already
and for the rows that only this program creates. -/
def Program.Climbs (order : LockOrder engine locking Rank) (own : Key → Prop) :
    Program Stmt Fault Err Value → List Key → Prop
  | .done _ _, _ => True
  | .exec stmt next, held =>
    (∀ key ∈ order.creates stmt, own key) ∧
      (∀ key ∈ order.targets stmt, own key ∨ ∀ lock ∈ held, lock = key ∨ order.rank lock < order.rank key) ∧
      (∀ fault, (next (.error fault)).Climbs order own (held ++ order.targets stmt)) ∧
      ∀ answer, order.expected stmt answer → (next (.ok answer)).Climbs order own (held ++ order.targets stmt)

/-- The move executes no statement, or one that gets an expected answer. -/
def System.Expected (order : LockOrder engine locking Rank) (system : System State Stmt Fault Err Value Write Key) :
    Move → Prop
  | .finish _ => True
  | .statement index _ => ∀ session Answer (stmt : Stmt Answer) next answer writes,
    system.sessions[index]? = some session → session.program = .exec stmt next →
    engine.eval stmt (engine.applyAll system.committed session.writes) = .ok (answer, writes) →
    order.expected stmt answer

variable {order : LockOrder engine locking Rank} {own : Nat → Key → Prop}
  {system next : System State Stmt Fault Err Value Write Key}

theorem Program.Climbs.mono {alone : Key → Prop} {program : Program Stmt Fault Err Value} {held fewer : List Key}
    (climbs : program.Climbs order alone held) (subset : fewer ⊆ held) : program.Climbs order alone fewer := by
  induction program generalizing held fewer with
  | done => trivial
  | exec stmt next ih =>
    obtain ⟨creates, above, failing, rest⟩ := climbs
    have kept : fewer ++ order.targets stmt ⊆ held ++ order.targets stmt := fun key member => by
      rcases List.mem_append.mp member with old | new
      · exact List.mem_append_left _ (subset old)
      · exact List.mem_append_right _ new
    refine ⟨creates, fun key target => ?_, fun fault => ih _ (failing fault) kept,
      fun answer fine => ih _ (rest answer fine) kept⟩
    exact (above key target).imp_right fun ranked lock member => ranked lock (subset member)

theorem Program.Climbs.ite {alone : Key → Prop} {condition : Prop} [Decidable condition]
    {first second : Program Stmt Fault Err Value} {held : List Key} (left : first.Climbs order alone held)
    (right : second.Climbs order alone held) : (if condition then first else second).Climbs order alone held := by
  split
  · exact left
  · exact right

theorem Program.Climbs.map {alone : Key → Prop} {program : Program Stmt Fault Err Value} {held : List Key}
    {embed : Value → Other} (climbs : program.Climbs order alone held) :
    (program.map embed).Climbs order alone held := by
  induction program generalizing held with
  | done => trivial
  | exec stmt next ih =>
    obtain ⟨creates, above, failing, rest⟩ := climbs
    exact ⟨creates, above, fun fault => ih _ (failing fault), fun answer fine => ih _ (rest answer fine)⟩

/-- Every session climbs, and the rows it will create exist nowhere and are locked
by nobody else until it ends. -/
structure System.Disciplined (order : LockOrder engine locking Rank) (own : Nat → Key → Prop)
    (system : System State Stmt Fault Err Value Write Key) : Prop where
  climbs : ∀ (index : Nat) (session : Session Stmt Fault Err Value Write Key),
    system.sessions[index]? = some session → session.program.Climbs order (own index) session.held
  created : ∀ (index : Nat) (session : Session Stmt Fault Err Value Write Key),
    system.sessions[index]? = some session → ∀ write ∈ session.writes, ∀ key ∈ order.created write, own index key
  absent : ∀ (index : Nat) (session : Session Stmt Fault Err Value Write Key),
    system.sessions[index]? = some session → session.result = none →
    ∀ key, own index key → ¬ order.stores system.committed key
  unheld : ∀ (index other : Nat) (one two : Session Stmt Fault Err Value Write Key),
    system.sessions[index]? = some one → system.sessions[other]? = some two → index ≠ other → one.result = none →
    ∀ key ∈ two.held, ¬ own index key
  settled : system.Settled
  exclusive : system.Exclusive

theorem System.Disciplined.start {bodies : List (Program Stmt Fault Err Value)}
    (climbs : ∀ (index : Nat) body, bodies[index]? = some body → body.Climbs order (own index) [])
    (absent : ∀ index < bodies.length, ∀ key, own index key → ¬ order.stores state key) :
    (System.start bodies state).Disciplined order own := by
  have begun {index : Nat} {session : Session Stmt Fault Err Value Write Key}
      (found : (System.start bodies state).sessions[index]? = some session) :
      ∃ body, bodies[index]? = some body ∧ session = { program := body } := by
    simp only [System.start, List.getElem?_map, Option.map_eq_some_iff] at found
    obtain ⟨body, listed, rfl⟩ := found
    exact ⟨body, listed, rfl⟩
  refine {
    climbs := fun index session found => ?_, created := fun index session found => ?_
    absent := fun index session found _ => ?_, unheld := fun _ _ _ two _ located => ?_
    settled := start_settled bodies state, exclusive := start_exclusive bodies state }
  · obtain ⟨body, listed, rfl⟩ := begun found
    exact climbs index body listed
  · obtain ⟨_, _, rfl⟩ := begun found
    simp
  · obtain ⟨_, listed, _⟩ := begun found
    exact absent index (List.getElem?_eq_some_iff.mp listed).1
  · obtain ⟨_, _, rfl⟩ := begun located
    simp

theorem System.Disciplined.statement_step {session : Session Stmt Fault Err Value Write Key} {Answer : Type}
    {stmt : Stmt Answer} {rest : Except Fault Answer → Program Stmt Fault Err Value}
    (disciplined : system.Disciplined order own)
    (apart : ∀ (index other : Nat) key, index ≠ other → own index key → ¬ own other key)
    (expected : ∀ answer writes, engine.eval stmt (engine.applyAll system.committed session.writes) =
      .ok (answer, writes) → order.expected stmt answer)
    (found : system.sessions[index]? = some session) (program : session.program = .exec stmt rest)
    (settled : (system.performed engine locking index session stmt rest retain).Settled)
    (exclusive : (system.performed engine locking index session stmt rest retain).Exclusive) :
    (system.performed engine locking index session stmt rest retain).Disciplined order own := by
  have climbs := disciplined.climbs index session found
  rw [program] at climbs
  obtain ⟨creates, _, failing, answered⟩ := climbs
  have taken : ∀ reply, (session.answered rest (locking.wanted stmt (engine.applyAll system.committed session.writes))
      retain reply).held ⊆ session.held ++ order.targets stmt := fun reply key member => by
    rcases Session.answered_held member with old | wanted
    · exact List.mem_append_left _ old
    · exact List.mem_append_right _ (order.wanted _ stmt _ key wanted).1
  refine {
    climbs := fun other holder located => ?_, created := fun other holder located => ?_
    absent := fun other holder located unfinished => ?_
    unheld := fun other another one two located present different unfinished key held => ?_, settled, exclusive }
  · rcases getElem_set_cases located with ⟨rfl, rfl⟩ | ⟨_, before⟩
    · cases reply : engine.eval stmt (engine.applyAll system.committed session.writes) with
      | error fault => exact (failing fault).mono (taken _)
      | ok outcome => exact (answered outcome.1 (expected _ _ reply)).mono (taken _)
    · exact disciplined.climbs other holder before
  · rcases getElem_set_cases located with ⟨rfl, rfl⟩ | ⟨_, before⟩
    · intro write member key new
      cases reply : engine.eval stmt (engine.applyAll system.committed session.writes) with
      | error fault =>
        rw [reply] at member
        exact disciplined.created other session found write member key new
      | ok outcome =>
        rw [reply] at member
        rcases List.mem_append.mp member with old | added
        · exact disciplined.created other session found write old key new
        · exact creates key (order.yields _ stmt _ _ _ reply write added key new)
    · exact disciplined.created other holder before
  · rcases getElem_set_cases located with ⟨rfl, rfl⟩ | ⟨_, before⟩
    · exact disciplined.absent other session found (by simpa using unfinished)
    · exact disciplined.absent other holder before unfinished
  · intro reserved
    rcases getElem_set_cases present with ⟨rfl, rfl⟩ | ⟨_, after⟩
    · rcases getElem_set_cases located with ⟨same, _⟩ | ⟨_, before⟩
      · exact different same
      -- a lock the statement took is not that of a row another session will create
      rcases Session.answered_held held with old | wanted
      · exact disciplined.unheld other another one session before found different unfinished key old reserved
      · rcases (order.wanted _ stmt _ key wanted).2 with fresh | stored
        · exact apart other another key different reserved (creates key fresh)
        · rcases order.stores_applyAll stored with there | ⟨write, member, new⟩
          · exact disciplined.absent other one before unfinished key reserved there
          · exact apart other another key different reserved
              (disciplined.created another session found write member key new)
    · rcases getElem_set_cases located with ⟨rfl, rfl⟩ | ⟨_, before⟩
      · exact disciplined.unheld other another session two found after different (by simpa using unfinished)
          key held reserved
      · exact disciplined.unheld other another one two before after different unfinished key held reserved

theorem System.Disciplined.step [DecidableEq Key] (disciplined : system.Disciplined order own)
    (apart : ∀ (index other : Nat) key, index ≠ other → own index key → ¬ own other key)
    (expected : system.Expected order move) (moved : system.step engine locking move = some next) :
    next.Disciplined order own := by
  have settled := disciplined.settled.step moved
  have exclusive := disciplined.exclusive.step moved
  cases System.step_cases moved with
  | statement found program _ =>
    exact disciplined.statement_step apart (fun answer writes => expected _ _ _ _ answer writes found program)
      found program settled exclusive
  | @finish index value session err found unfinished program =>
    refine {
      climbs := fun other holder located => ?_, created := fun other holder located => ?_
      absent := fun other holder located still key reserved stored => ?_
      unheld := fun other another one two located present different still key held reserved => ?_
      settled, exclusive }
    · rcases getElem_set_cases located with ⟨rfl, rfl⟩ | ⟨_, before⟩
      · exact (disciplined.climbs other session found).mono (List.nil_subset _)
      · exact disciplined.climbs other holder before
    · rcases getElem_set_cases located with ⟨rfl, rfl⟩ | ⟨_, before⟩
      · exact disciplined.created other session found
      · exact disciplined.created other holder before
    · rcases getElem_set_cases located with ⟨rfl, rfl⟩ | ⟨different, before⟩
      · cases still
      · have absent := disciplined.absent other holder before still key reserved
        split at stored
        · rcases order.stores_applyAll stored with there | ⟨write, member, new⟩
          · exact absent there
          · exact apart other index key different reserved
              (disciplined.created index session found write member key new)
        · exact absent stored
    · rcases getElem_set_cases located with ⟨rfl, rfl⟩ | ⟨_, before⟩
      · cases still
      · rcases getElem_set_cases present with ⟨rfl, rfl⟩ | ⟨_, after⟩
        · cases held
        · exact disciplined.unheld other another one two before after different still key held reserved

theorem System.Disciplined.climbing (disciplined : system.Disciplined order own) :
    system.Climbing engine locking order.rank := by
  intro index other one two found located different key wanted held lock member
  have climbs := disciplined.climbs index one found
  have unfinished : one.result = none := by
    by_contra ended
    obtain ⟨_, _, _, done⟩ :=
      disciplined.settled one (List.mem_of_getElem? found) (Option.isSome_iff_ne_none.mpr ended)
    simp [Session.wants, done] at wanted
  unfold Session.wants at wanted
  split at wanted
  · cases wanted
  · rename_i stmt next program
    rw [program] at climbs
    rcases climbs.2.1 key (order.wanted _ stmt _ key wanted).1 with alone | ranked
    · exact absurd alone (disciplined.unheld index other one two found located different unfinished key held)
    · rcases ranked lock member with rfl | below
      · exact absurd held (disciplined.exclusive index other one two found located different lock member)
      · exact below

end Discipline

end OrderProcessing.Library
