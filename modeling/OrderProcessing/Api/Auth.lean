import Mathlib.Logic.Equiv.List
import OrderProcessing.Models

/-! Access tokens and the middleware that checks them. The JWT library is known
by what it promises: a signed token verifies to the claims that were signed, and
its text has no white space in it. -/

namespace OrderProcessing

/-- `string(role)`, as it stands in the database and in a token. -/
def UserRole.name : UserRole → String
  | .customer => "customer"
  | .admin => "admin"

/-- The values of the enum in the database. -/
def UserRole.ofName (name : String) : Option UserRole :=
  if name = "customer" then some .customer else if name = "admin" then some .admin else none

structure Claims where
  userID : Int
  role : String
  expiresAt : Nat
  deriving DecidableEq, Repr

/-- `unicode.IsSpace`. -/
def isSpace (char : Char) : Bool :=
  char.toNat ∈ [0x09, 0x0A, 0x0B, 0x0C, 0x0D, 0x20, 0x85, 0xA0, 0x1680, 0x2028, 0x2029, 0x202F, 0x205F, 0x3000] ||
    (0x2000 ≤ char.toNat && char.toNat ≤ 0x200A)

structure Jwt where
  sign : Claims → String
  verify : String → Option Claims
  verify_sign : ∀ claims, verify (sign claims) = some claims
  nonempty : ∀ claims, (sign claims).toList ≠ []
  compact : ∀ claims, ∀ char ∈ (sign claims).toList, isSpace char = false

/-- Tokens that number the claims: the library's promises can be kept. -/
theorem claims_numbered : ∃ number : Claims → Nat, Function.Injective number := by
  have parts : Function.Injective fun claims : Claims =>
      (claims.userID, claims.role.toList.map Char.toNat, claims.expiresAt) := by
    intro first second same
    simp only [Prod.mk.injEq] at same
    have letters := List.map_injective_iff.mpr (fun _ _ => Char.toNat_inj.mp) same.2.1
    cases first
    cases second
    simp_all [String.toList_inj]
  have := parts.countable
  exact exists_injective_nat Claims

noncomputable def Jwt.unary : Jwt where
  sign claims := String.ofList (List.replicate (claims_numbered.choose claims + 1) 'x')
  verify := Function.partialInv fun claims => String.ofList (List.replicate (claims_numbered.choose claims + 1) 'x')
  verify_sign claims := by
    refine Function.partialInv_left (fun first second same => ?_) claims
    have lengths := congrArg (fun text : String => text.toList.length) same
    exact claims_numbered.choose_spec (by simpa using lengths)
  nonempty claims := by simp
  compact claims := by simp [isSpace]

namespace TokenManager

variable (jwt : Jwt)

def generate (ttl now : Nat) (userID : Int) (role : String) : String := jwt.sign ⟨userID, role, now + ttl⟩

/-- The signature, then the expiry. -/
def parse (now : Nat) (token : String) : Option Claims :=
  match jwt.verify token with
  | some claims => if now < claims.expiresAt then some claims else none
  | none => none

/-- A token that was signed is good until it expires. -/
theorem parse_sign (lasting : now < claims.expiresAt) : parse jwt now (jwt.sign claims) = some claims := by
  rw [parse, jwt.verify_sign]
  exact if_pos lasting

theorem parse_verified (parsed : parse jwt now token = some claims) : jwt.verify token = some claims := by
  unfold parse at parsed
  split at parsed
  · split at parsed
    · cases parsed
      assumption
    · cases parsed
  · cases parsed

end TokenManager

namespace Middleware

/-- `strings.Cut(header, " ")`. -/
def cut : List Char → Option (List Char × List Char)
  | [] => none
  | ' ' :: rest => some ([], rest)
  | char :: rest => (cut rest).map fun (before, after) => (char :: before, after)

def trimSpace (text : List Char) : List Char :=
  ((text.dropWhile isSpace).reverse.dropWhile isSpace).reverse

/-- The token of an Authorization header; `strings.EqualFold` with "Bearer"
folds no letter but the ASCII ones. -/
def bearer (header : String) : Except String String :=
  if header = "" then .error "authorization header required"
  else
    match cut header.toList with
    | none => .error "invalid authorization header"
    | some (scheme, token) =>
      if scheme.map Char.toLower ≠ "bearer".toList ∨ trimSpace token = [] then .error "invalid authorization header"
      else .ok (String.ofList (trimSpace token))

/-- The status and the text of a rejection, or the claims of the caller. -/
def authenticate (jwt : Jwt) (now : Nat) (header : String) : Except (Nat × String) Claims :=
  match bearer header with
  | .error message => .error (401, message)
  | .ok token =>
    match TokenManager.parse jwt now token with
    | none => .error (401, "invalid or expired token")
    | some claims => .ok claims

def requireRole (role : UserRole) (claims : Claims) : Except (Nat × String) Claims :=
  if claims.role = role.name then .ok claims else .error (403, "insufficient permissions")

def requireAdmin (claims : Claims) : Except (Nat × String) Claims := requireRole .admin claims

/-- The chain in front of the product writes. -/
def admin (jwt : Jwt) (now : Nat) (header : String) : Except (Nat × String) Claims :=
  (authenticate jwt now header).bind requireAdmin

/-- Whoever passes holds a verified token with the role of an admin. -/
theorem admin_passed (passed : admin jwt now header = .ok claims) :
    ∃ token, bearer header = .ok token ∧ jwt.verify token = some claims ∧ claims.role = UserRole.admin.name := by
  unfold admin authenticate at passed
  cases given : bearer header with
  | error message => simp [given, Except.bind] at passed
  | ok token =>
    cases parsed : TokenManager.parse jwt now token with
    | none => simp [given, parsed, Except.bind] at passed
    | some found =>
      simp only [given, parsed, Except.bind, requireAdmin, requireRole] at passed
      split at passed
      · cases passed
        exact ⟨token, rfl, TokenManager.parse_verified jwt parsed, ‹_›⟩
      · cases passed

end Middleware

end OrderProcessing
