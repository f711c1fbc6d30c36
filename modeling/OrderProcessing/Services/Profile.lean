import OrderProcessing.Library.Keyed
import OrderProcessing.Library.Machine
import OrderProcessing.Services.User

/-! Calls of `UpdateUser` that run at the same time. Each reads its row in one
statement and saves the whole edited row in another, outside any transaction. -/

namespace OrderProcessing

open Library

structure ProfileUpdate where
  id : Int
  request : UpdateUserRequest
  deriving DecidableEq, Repr

/-- Where a call stands: before `GetUser`, between `GetUser` and `Save` with the row it
has read, or past its return. -/
inductive ProfilePhase where
  | reading
  | saving (user : User)
  | returned (result : Except UserError User)

def ProfilePhase.afterRead : Except UserError User → ProfilePhase
  | .error err => .returned (.error err)
  | .ok user => .saving user

structure ProfileCall where
  update : ProfileUpdate
  phase : ProfilePhase

def ProfileCall.succeeded (call : ProfileCall) : Bool :=
  match call.phase with
  | .returned (.ok _) => true
  | _ => false

structure Profiles where
  db : Db
  calls : List ProfileCall

inductive ProfileStep where
  | read (index : Nat) (fault : Option DbError)
  | save (index : Nat) (fault : Option DbError)
  deriving DecidableEq, Repr

/-- The columns a request can set. -/
inductive ProfileField where
  | name
  | email
  | role
  deriving DecidableEq, Repr

def ProfileField.requested (request : UpdateUserRequest) : ProfileField → String
  | .name => request.name
  | .email => request.email
  | .role => request.role

def ProfileField.stored (user : User) : ProfileField → String
  | .name => user.name
  | .email => user.email
  | .role => user.role.name

namespace Profiles

def start (db : Db) (updates : List ProfileUpdate) : Profiles := ⟨db, updates.map fun update => ⟨update, .reading⟩⟩

/-- The second half of `UpdateUser`, on the row that the first half has read. -/
def save (db : Db) (request : UpdateUserRequest) (user : User) (fault : Option DbError) :
    Except UserError User × Db :=
  match UserService.edit request user with
  | none => (.error .invalidRole, db)
  | some edited =>
    match UserRepository.updateUser db edited fault with
    | .error err => (.error err, db)
    | .ok after => (.ok edited, after)

def step (state : Profiles) : ProfileStep → Option Profiles
  | .read index fault =>
    match state.calls[index]? with
    | some ⟨update, .reading⟩ =>
      let phase := ProfilePhase.afterRead (UserRepository.getUser state.db update.id fault)
      some { state with calls := state.calls.set index ⟨update, phase⟩ }
    | _ => none
  | .save index fault =>
    match state.calls[index]? with
    | some ⟨update, .saving user⟩ =>
      let outcome := save state.db update.request user fault
      some { db := outcome.2, calls := state.calls.set index ⟨update, .returned outcome.1⟩ }
    | _ => none

/-- The updates whose calls have returned without an error. -/
def applied (state : Profiles) : List ProfileUpdate := (state.calls.filter (·.succeeded)).map (·.update)

/-- The updates one after another, each on what the one before it has left. -/
def serial (db : Db) : List ProfileUpdate → Except UserError Db
  | [] => .ok db
  | update :: rest =>
    match UserService.updateUser db update.id update.request none none with
    | (.error err, _) => .error err
    | (.ok _, after) => serial after rest

/-- The row that was read is edited into what the present row would be edited into: the
fields that the request leaves alone have not changed in between. -/
def Current (db : Db) (update : ProfileUpdate) (user : User) : Prop :=
  (db.user? update.id).bind (UserService.edit update.request) = UserService.edit update.request user

instance (db : Db) (update : ProfileUpdate) (user : User) : Decidable (Current db update user) := by
  unfold Current
  infer_instance

def Unspoilt (db : Db) (call : ProfileCall) : Prop :=
  match call.phase with
  | .saving user => Current db call.update user
  | _ => True

instance (db : Db) : (call : ProfileCall) → Decidable (Unspoilt db call)
  | ⟨_, .reading⟩ => .isTrue trivial
  | ⟨update, .saving user⟩ => inferInstanceAs (Decidable (Current db update user))
  | ⟨_, .returned _⟩ => .isTrue trivial

/-- A call that saves has read a row that is current in this sense. -/
def Fresh (state : Profiles) : ProfileStep → Prop
  | .read _ _ => True
  | .save index _ => ∀ call ∈ state.calls[index]?, Unspoilt state.db call

instance (state : Profiles) : (action : ProfileStep) → Decidable (state.Fresh action)
  | .read _ _ => .isTrue trivial
  | .save index _ => inferInstanceAs (Decidable (∀ call ∈ state.calls[index]?, Unspoilt state.db call))

/-- A call that nothing comes between is the function of the service. -/
theorem updateUser_eq_save (db : Db) (id : Int) (request : UpdateUserRequest) (reading saving : Option DbError) :
    UserService.updateUser db id request reading saving =
      match UserRepository.getUser db id reading with
      | .error err => (.error err, db)
      | .ok user => save db request user saving := rfl

theorem save_cases (db : Db) (request : UpdateUserRequest) (user : User) (fault : Option DbError) :
    (∃ err, save db request user fault = (.error err, db)) ∨
      ∃ edited after, UserService.edit request user = some edited ∧
        UserRepository.updateUser db edited none = .ok after ∧ save db request user fault = (.ok edited, after) := by
  unfold save
  cases edited : UserService.edit request user with
  | none => exact .inl ⟨_, rfl⟩
  | some row =>
    cases saved : UserRepository.updateUser db row fault with
    | error err => exact .inl ⟨err, by simp only [saved]⟩
    | ok after =>
      cases fault with
      | some err => simp [UserRepository.updateUser] at saved
      | none => exact .inr ⟨row, after, rfl, saved, by simp only [saved]⟩

theorem updateUser_ok_iff {db : Db} {update : ProfileUpdate} :
    UserService.updateUser db update.id update.request none none = (.ok edited, after) ↔
      (db.user? update.id).bind (UserService.edit update.request) = some edited ∧
        UserRepository.updateUser db edited none = .ok after := by
  rw [updateUser_eq_save, UserRepository.getUser]
  cases db.user? update.id with
  | none => simp
  | some now =>
    simp only [save, Option.bind_some]
    cases UserService.edit update.request now with
    | none => simp
    | some row =>
      simp only [Option.some.injEq]
      constructor
      · intro same
        cases saved : UserRepository.updateUser db row none with
        | error err => simp [saved] at same
        | ok later =>
          simp only [saved, Prod.mk.injEq, Except.ok.injEq] at same
          exact ⟨same.1, by rw [← same.1, ← same.2, saved]⟩
      · rintro ⟨rfl, saved⟩
        simp only [saved]

/-- A save has the effect of the whole update at that moment exactly if the row that
was read is current. -/
theorem save_atomic_iff {db : Db} (saved : save db update.request user fault = (.ok edited, after)) :
    UserService.updateUser db update.id update.request none none = (.ok edited, after) ↔ Current db update user := by
  rcases save_cases db update.request user fault with ⟨err, failed⟩ | ⟨row, later, edit, stored, done⟩
  · simp [saved] at failed
  · rw [saved, Prod.mk.injEq, Except.ok.injEq] at done
    obtain ⟨rfl, rfl⟩ := done
    rw [updateUser_ok_iff, Current, edit]
    exact and_iff_left stored

theorem serial_append {db : Db} (done : serial db order = .ok middle) (more : List ProfileUpdate) :
    serial db (order ++ more) = serial middle more := by
  induction order generalizing db with
  | nil =>
    cases done
    rfl
  | cons update rest ih =>
    simp only [serial, List.cons_append] at done ⊢
    split at done
    · cases done
    · exact ih done

/-- A step moves one call on. It changes the database only if it ends the call well,
and then as a fresh save does. -/
theorem step_cases (moved : step state action = some next) :
    ∃ update before after old new, state.calls = before ++ ⟨update, old⟩ :: after ∧
      next.calls = before ++ ⟨update, new⟩ :: after ∧ (ProfileCall.mk update old).succeeded = false ∧
      ((next.db = state.db ∧ (ProfileCall.mk update new).succeeded = false) ∨
        (ProfileCall.mk update new).succeeded = true ∧ (state.Fresh action → serial state.db [update] = .ok next.db)) := by
  cases action with
  | read index fault =>
    simp only [step] at moved
    split at moved <;> cases moved
    rename_i update found
    obtain ⟨before, after, split, replaced⟩ := split_found found
    refine ⟨update, before, after, _, _, split, replaced _, rfl, .inl ⟨rfl, ?_⟩⟩
    cases UserRepository.getUser state.db update.id fault <;> rfl
  | save index fault =>
    simp only [step] at moved
    split at moved <;> cases moved
    rename_i update user found
    obtain ⟨before, after, split, replaced⟩ := split_found found
    refine ⟨update, before, after, _, _, split, replaced _, rfl, ?_⟩
    rcases save_cases state.db update.request user fault with ⟨err, failed⟩ | ⟨edited, later, _, _, saved⟩
    · left
      rw [failed]
      exact ⟨rfl, rfl⟩
    · right
      rw [saved]
      refine ⟨rfl, fun fresh => ?_⟩
      have current : Current state.db update user := fresh _ found
      simp only [serial, (save_atomic_iff saved).mpr current]

/-- The database is as the calls that have succeeded would leave it one after another. -/
def Serialized (db : Db) (updates : List ProfileUpdate) (state : Profiles) : Prop :=
  state.calls.map (·.update) = updates ∧ ∃ order, order.Perm state.applied ∧ serial db order = .ok state.db

theorem Serialized.start (db : Db) (updates : List ProfileUpdate) : Serialized db updates (start db updates) := by
  refine ⟨by simp [Profiles.start, Function.comp_def], [], ?_, rfl⟩
  simp [applied, Profiles.start, ProfileCall.succeeded]

theorem Serialized.step {db : Db} (serialized : Serialized db updates state) (fresh : state.Fresh action)
    (moved : step state action = some next) : Serialized db updates next := by
  obtain ⟨same, order, perm, done⟩ := serialized
  obtain ⟨update, before, after, old, new, calls, others, running, effect⟩ := step_cases moved
  refine ⟨by rw [← same, calls, others]; simp, ?_⟩
  rw [applied, calls] at perm
  rw [applied, others]
  rcases effect with ⟨kept, ended⟩ | ⟨ended, saved⟩
  · refine ⟨order, ?_, kept ▸ done⟩
    simpa [List.filter_append, List.filter_cons, running, ended] using perm
  · refine ⟨order ++ [update], ?_, (serial_append done _).trans (saved fresh)⟩
    simp only [List.filter_append, List.filter_cons, running, ended, Bool.false_eq_true, ↓reduceIte, List.map_append,
      List.map_cons] at perm ⊢
    exact (List.perm_append_singleton update order).trans ((perm.cons update).trans List.perm_middle.symm)

theorem run_serialized {db : Db} (fresh : Along step Fresh (start db updates) actions)
    (done : run step (start db updates) actions = some final) : Serialized db updates final :=
  run_invariant_along (Serialized db updates) (fun _ _ _ serialized fine moved => serialized.step fine moved)
    (Serialized.start db updates) fresh done

theorem name_of_ofName (named : UserRole.ofName name = some role) : role.name = name := by
  unfold UserRole.ofName at named
  split at named
  · cases named
    exact Eq.symm ‹_›
  · split at named <;> cases named
    exact Eq.symm ‹_›

/-- An edit sets the fields that the request names and keeps the others. -/
theorem edit_stored (edited : UserService.edit request user = some row) (field : ProfileField) :
    (field.requested request = "" → field.stored row = field.stored user) ∧
      (field.requested request ≠ "" → field.stored row = field.requested request) := by
  obtain ⟨role, named, rfl⟩ := Option.map_eq_some_iff.mp edited
  cases field with
  | name | email => exact ⟨fun empty => if_pos empty, fun given => if_neg given⟩
  | role =>
    constructor
    · intro empty
      rw [if_pos (show request.role = "" from empty)] at named
      exact congrArg UserRole.name (Option.some.inj named).symm
    · intro given
      rw [if_neg (show request.role ≠ "" from given)] at named
      exact name_of_ofName named

/-- An update replaces its row and leaves the others. -/
theorem updateUser_rows {db : Db} {update : ProfileUpdate}
    (done : UserService.updateUser db update.id update.request none none = (.ok edited, after)) :
    (∃ user, db.user? update.id = some user ∧ UserService.edit update.request user = some edited) ∧
      after.user? update.id = some edited ∧ ∀ other ≠ update.id, after.user? other = db.user? other := by
  obtain ⟨edit, saved⟩ := updateUser_ok_iff.mp done
  obtain ⟨user, found, edit⟩ := Option.bind_eq_some_iff.mp edit
  have key : user.id = update.id := by simpa using List.find?_some found
  have same : edited.id = update.id := by
    obtain ⟨role, _, rfl⟩ := Option.map_eq_some_iff.mp edit
    exact key
  have rows : after.users = db.users.map (UserRepository.replaceUser edited) := by
    simp only [UserRepository.updateUser] at saved
    split at saved <;> cases saved
    exact if_pos (by rw [same, found]; rfl)
  have lookup (wanted : Int) : after.user? wanted = (db.user? wanted).map (UserRepository.replaceUser edited) := by
    rw [Db.user?, Db.user?, rows]
    refine find_map_keyed (fun row _ => ?_) wanted
    unfold UserRepository.replaceUser
    split
    · exact Eq.symm ‹_›
    · rfl
  refine ⟨⟨user, found, edit⟩, ?_, fun other different => ?_⟩
  · rw [lookup, found, Option.map_some, UserRepository.replaceUser, if_pos (key.trans same.symm)]
  · rw [lookup]
    cases present : db.user? other with
    | none => rfl
    | some row =>
      have apart : row.id ≠ edited.id := by
        have : row.id = other := by simpa using List.find?_some present
        rwa [this, same]
      rw [Option.map_some, UserRepository.replaceUser, if_neg apart]

/-- No update in the list asks for another value of the field of this user. -/
def Agrees (id : Int) (field : ProfileField) (value : String) (updates : List ProfileUpdate) : Prop :=
  ∀ update ∈ updates, update.id = id → field.requested update.request = "" ∨ field.requested update.request = value

def Holds (db : Db) (id : Int) (field : ProfileField) (value : String) : Prop :=
  ∃ user, db.user? id = some user ∧ field.stored user = value

theorem serial_cons_ok {db : Db} (done : serial db (update :: rest) = .ok final) :
    ∃ edited middle, UserService.updateUser db update.id update.request none none = (.ok edited, middle) ∧
      serial middle rest = .ok final := by
  simp only [serial] at done
  split at done
  · cases done
  · exact ⟨_, _, ‹_›, done⟩

/-- What a field holds stays while no update asks for anything else. -/
theorem serial_keeps {db : Db} {id : Int} (done : serial db order = .ok final) (agrees : Agrees id field value order)
    (holds : Holds db id field value) : Holds final id field value := by
  induction order generalizing db with
  | nil =>
    cases done
    exact holds
  | cons update rest ih =>
    obtain ⟨edited, middle, updated, remaining⟩ := serial_cons_ok done
    obtain ⟨⟨user, found, edit⟩, here, others⟩ := updateUser_rows updated
    refine ih remaining (fun other member => agrees other (List.mem_cons_of_mem _ member)) ?_
    obtain ⟨row, present, stored⟩ := holds
    by_cases same : update.id = id
    · subst same
      cases found.symm.trans present
      refine ⟨edited, here, ?_⟩
      by_cases empty : field.requested update.request = ""
      · rw [(edit_stored edit field).1 empty, stored]
      · rw [(edit_stored edit field).2 empty]
        exact (agrees update List.mem_cons_self rfl).resolve_left empty
    · exact ⟨row, (others id (Ne.symm same)).trans present, stored⟩

/-- An update takes effect on every field for which no other asks for anything else. -/
theorem serial_sets {db : Db} (done : serial db order = .ok final) (member : update ∈ order)
    (given : field.requested update.request ≠ "")
    (agrees : Agrees update.id field (field.requested update.request) order) :
    Holds final update.id field (field.requested update.request) := by
  induction order generalizing db with
  | nil => cases member
  | cons first rest ih =>
    obtain ⟨edited, middle, updated, remaining⟩ := serial_cons_ok done
    have later : Agrees update.id field (field.requested update.request) rest :=
      fun other member => agrees other (List.mem_cons_of_mem _ member)
    rcases List.mem_cons.mp member with rfl | tail
    · obtain ⟨⟨user, _, edit⟩, here, _⟩ := updateUser_rows updated
      exact serial_keeps remaining later ⟨edited, here, (edit_stored edit field).2 given⟩
    · exact ih remaining tail later

/-- If every call saves over a row that is current, concurrent updates leave what the
same updates leave one after another in some order, and those that set different
fields all take effect. -/
theorem updates_serializable {db : Db} (fresh : Along step Fresh (start db updates) actions)
    (done : run step (start db updates) actions = some final) (finished : ∀ call ∈ final.calls, call.succeeded) :
    (∃ order, order.Perm updates ∧ serial db order = .ok final.db) ∧
      ∀ update ∈ updates, ∀ field : ProfileField, field.requested update.request ≠ "" →
        Agrees update.id field (field.requested update.request) updates →
        Holds final.db update.id field (field.requested update.request) := by
  obtain ⟨same, order, perm, replayed⟩ := run_serialized fresh done
  have all : order.Perm updates := by
    rwa [applied, List.filter_eq_self.mpr finished, same] at perm
  refine ⟨⟨order, all, replayed⟩, fun update member field given agrees => ?_⟩
  exact serial_sets replayed (all.mem_iff.mpr member) given fun other present => agrees other (all.mem_iff.mp present)

/-- A user whose name and email are edited by two requests. -/
def ann : Db := { users := [⟨1, "ann", "ann@shop", "secret", .customer⟩] }

def rename : ProfileUpdate := ⟨1, "anna", "", ""⟩

def readdress : ProfileUpdate := ⟨1, "", "anna@shop", ""⟩

/-- Both take effect if the second reads what the first has saved. -/
theorem updates_serializable_in_turn :
    ∃ final, run step (start ann [rename, readdress]) [.read 0 none, .save 0 none, .read 1 none, .save 1 none] =
        some final ∧
      Holds final.db 1 .name "anna" ∧ Holds final.db 1 .email "anna@shop" := by
  have fresh : Along step Fresh (start ann [rename, readdress])
      [.read 0 none, .save 0 none, .read 1 none, .save 1 none] := by decide
  refine ⟨_, rfl, ?_⟩
  have effect := (updates_serializable fresh rfl (by decide)).2
  exact ⟨effect rename (by decide) .name (by decide) (by unfold Agrees; decide),
    effect readdress (by decide) .email (by decide) (by unfold Agrees; decide)⟩

/-- If both read before either saves, the second save puts the old name back, and no
serial order of the two ends like that. -/
theorem rename_lost :
    ∃ final, run step (start ann [rename, readdress]) [.read 0 none, .read 1 none, .save 0 none, .save 1 none] =
        some final ∧ (∀ call ∈ final.calls, call.succeeded) ∧ Holds final.db 1 .name "ann" ∧
      ∀ order, order.Perm [rename, readdress] → ∀ after, serial ann order = .ok after →
        after.user? 1 ≠ final.db.user? 1 := by
  refine ⟨_, rfl, by decide, ⟨_, rfl, rfl⟩, fun order perm after done same => ?_⟩
  have agree : Agrees 1 .name "anna" [rename, readdress] := by
    unfold Agrees
    decide
  have member : rename ∈ order := perm.mem_iff.mpr (by decide)
  have renamed : Holds after 1 .name "anna" :=
    serial_sets done member (by decide) fun other present => agree other (perm.mem_iff.mp present)
  obtain ⟨user, found, name⟩ := renamed
  rw [same] at found
  cases found
  exact absurd name (by decide)

end Profiles

end OrderProcessing
