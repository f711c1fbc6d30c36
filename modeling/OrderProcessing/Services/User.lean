import OrderProcessing.Api.Auth
import OrderProcessing.Repository.Effects

/-! The user service. `CreateUser` and `UpdateUser` store the role their request
asks for, and `Login` puts the stored role into the token. -/

namespace OrderProcessing

structure CreateUserRequest where
  name : String
  email : String
  password : String
  role : String
  deriving DecidableEq, Repr

structure UpdateUserRequest where
  name : String
  email : String
  role : String
  deriving DecidableEq, Repr

structure LoginRequest where
  email : String
  password : String
  deriving DecidableEq, Repr

/-- The binding rules of the requests; what counts as an email address is up to
the validator. -/
def CreateUserRequest.bound (email : String → Bool) (request : CreateUserRequest) : Bool :=
  request.name ≠ "" && request.email ≠ "" && email request.email && request.password ≠ "" &&
    8 ≤ request.password.length

def UpdateUserRequest.bound (email : String → Bool) (request : UpdateUserRequest) : Bool :=
  request.email = "" || email request.email

def LoginRequest.bound (email : String → Bool) (request : LoginRequest) : Bool :=
  request.email ≠ "" && email request.email && request.password ≠ ""

/-- A role outside the enum is rejected by the database. -/
inductive UserError where
  | store (err : AppError)
  | invalidRole
  | invalidCredentials
  deriving DecidableEq, Repr

namespace UserRepository

def getUser (db : Db) (id : Int) (fault : Option DbError) : Except UserError User :=
  match fault with
  | some err => .error (.store (.database err))
  | none =>
    match db.user? id with
    | some user => .ok user
    | none => .error (.store (.database .recordNotFound))

/-- The email column has a unique index. -/
def getUserByEmail (db : Db) (email : String) (fault : Option DbError) : Except UserError User :=
  match fault with
  | some err => .error (.store (.database err))
  | none =>
    match db.users.find? fun row => row.email = email with
    | some user => .ok user
    | none => .error (.store (.database .recordNotFound))

def replaceUser (row old : User) : User := if old.id = row.id then row else old

/-- `Save` overwrites every column of the row with the key, and inserts the row
if there is none. -/
def updateUser (db : Db) (user : User) (fault : Option DbError) : Except UserError Db :=
  match fault with
  | some err => .error (.store (.database err))
  | none =>
    if db.users.any fun other => other.id ≠ user.id ∧ other.email = user.email then
      .error (.store (.database .duplicatedKey))
    else
      .ok { db with
        users := if (db.user? user.id).isSome then db.users.map (replaceUser user) else db.users ++ [user] }

end UserRepository

namespace UserService

def newUser (id : Int) (request : CreateUserRequest) (role : UserRole) : User :=
  ⟨id, request.name, request.email, request.password, role⟩

/-- The role of the request, a customer's if it names none. -/
def requestedRole (request : CreateUserRequest) : Option UserRole :=
  UserRole.ofName (if request.role = "" then UserRole.customer.name else request.role)

def createUser (db : Db) (id : Int) (request : CreateUserRequest) (faults : Library.Faults DbError) :
    Except UserError User × Db :=
  match requestedRole request with
  | none => (.error .invalidRole, db)
  | some role =>
    let user := newUser id request role
    let outcome := transact faults () (UserRepository.createUser user) db
    match outcome.1.2 with
    | some err => (.error (.store err), outcome.2)
    | none => (.ok user, outcome.2)

/-- The fields of the request that are not empty replace those that were read. -/
def edit (request : UpdateUserRequest) (user : User) : Option User :=
  let role := if request.role = "" then some user.role else UserRole.ofName request.role
  role.map fun role =>
    { user with
      name := if request.name = "" then user.name else request.name
      email := if request.email = "" then user.email else request.email
      role }

def updateUser (db : Db) (id : Int) (request : UpdateUserRequest) (reading saving : Option DbError) :
    Except UserError User × Db :=
  match UserRepository.getUser db id reading with
  | .error err => (.error err, db)
  | .ok user =>
    match edit request user with
    | none => (.error .invalidRole, db)
    | some edited =>
      match UserRepository.updateUser db edited saving with
      | .error err => (.error err, db)
      | .ok after => (.ok edited, after)

/-- An unknown email and a wrong password are answered alike. -/
def login (jwt : Jwt) (ttl now : Nat) (db : Db) (request : LoginRequest) (fault : Option DbError) :
    Except UserError String :=
  match UserRepository.getUserByEmail db request.email fault with
  | .error (.store (.database .recordNotFound)) => .error .invalidCredentials
  | .error err => .error err
  | .ok user =>
    if user.hashedPassword = request.password then .ok (TokenManager.generate jwt ttl now user.id user.role.name)
    else .error .invalidCredentials

/-- A call fails and changes nothing, or it adds the requested row. -/
theorem createUser_cases (db : Db) (id : Int) (request : CreateUserRequest) (faults : Library.Faults DbError) :
    (∃ err, createUser db id request faults = (.error err, db)) ∨
      ∃ role, requestedRole request = some role ∧ createUser db id request faults =
        (.ok (newUser id request role), { db with users := db.users ++ [newUser id request role] }) := by
  unfold createUser
  cases requestedRole request with
  | none => exact .inl ⟨_, rfl⟩
  | some role =>
    have propagates := UserRepository.createUser_propagates (newUser id request role)
    rcases Library.transaction_cases postgres AppError.database faults () db propagates with
      ⟨_, err, failed⟩ | ⟨_, final, done, alone⟩
    · exact .inl ⟨.store err, by simp only [transact, failed]⟩
    · refine .inr ⟨role, rfl, ?_⟩
      obtain ⟨_, last, first, alone⟩ := Library.Program.answered alone fun _ => ⟨_, _, rfl⟩
      obtain ⟨_, _, rfl⟩ := guarded_answer rfl first
      cases alone
      simp only [transact, done]
      rfl

/-- An update fails and changes nothing, or it saves the edited row. -/
theorem updateUser_cases (db : Db) (id : Int) (request : UpdateUserRequest) (reading saving : Option DbError) :
    (∃ err, updateUser db id request reading saving = (.error err, db)) ∨
      ∃ user ∈ db.users, ∃ edited after, edit request user = some edited ∧
        updateUser db id request reading saving = (.ok edited, after) ∧
        UserRepository.updateUser db edited saving = .ok after := by
  unfold updateUser
  cases read : UserRepository.getUser db id reading with
  | error err => exact .inl ⟨err, rfl⟩
  | ok user =>
    have member : user ∈ db.users := by
      unfold UserRepository.getUser at read
      split at read
      · cases read
      · split at read <;> cases read
        rename_i found
        exact List.mem_of_find?_eq_some found
    simp only
    cases edited : edit request user with
    | none => exact .inl ⟨_, rfl⟩
    | some row =>
      cases saved : UserRepository.updateUser db row saving with
      | error err => exact .inl ⟨err, by simp only [saved]⟩
      | ok after => exact .inr ⟨user, member, row, after, edited, by simp only [saved], saved⟩

end UserService

theorem UserRepository.updateUser_saved {db : Db} (saved : updateUser db row fault = .ok after) :
    (∀ user ∈ after.users, user ∈ db.users ∨ user = row) ∧ after = { db with users := after.users } := by
  unfold updateUser at saved
  split at saved
  · cases saved
  · split at saved <;> cases saved
    refine ⟨fun user member => ?_, rfl⟩
    simp only at member
    split at member
    · obtain ⟨old, present, rfl⟩ := List.mem_map.mp member
      unfold replaceUser
      split
      · exact .inr rfl
      · exact .inl present
    · rcases List.mem_append.mp member with old | new
      · exact .inl old
      · exact .inr (List.mem_singleton.mp new)

/-- A login hands out the role of a row whose password was given. -/
theorem UserService.login_token {db : Db} (granted : login jwt ttl now db request fault = .ok token) :
    ∃ user ∈ db.users, user.hashedPassword = request.password ∧
      token = TokenManager.generate jwt ttl now user.id user.role.name := by
  unfold login at granted
  split at granted
  · cases granted
  · cases granted
  · rename_i user read
    split at granted <;> cases granted
    rename_i same
    refine ⟨user, ?_, same, rfl⟩
    unfold UserRepository.getUserByEmail at read
    split at read
    · cases read
    · split at read <;> cases read
      rename_i found
      exact List.mem_of_find?_eq_some found

end OrderProcessing
