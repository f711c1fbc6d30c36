import OrderProcessing.Api.Auth
import OrderProcessing.Repository.Order

/-! The checks of `Connect` before a connection is upgraded: the token from the
subprotocols of the handshake, the order of the path, and its owner. -/

namespace OrderProcessing.WebSocketHandler

def subprotocolSentinel : String := "access_token"

/-- The protocol offered next to the sentinel, or the empty string. -/
def tokenFromSubprotocols : List String → String
  | first :: second :: rest =>
    if first = subprotocolSentinel then second else tokenFromSubprotocols (second :: rest)
  | _ => ""

/-- The status and the text of a rejection, or the token and the order of the
new client. A path id is none if it is not a number. -/
def authorize (jwt : Jwt) (now : Nat) (db : Db) (protocols : List String) (path : Option Int)
    (fault : Option DbError) : Except (Nat × String) (String × Int) :=
  let token := tokenFromSubprotocols protocols
  if token = "" then .error (401, "authentication required")
  else
    match TokenManager.parse jwt now token with
    | none => .error (401, "invalid or expired token")
    | some claims =>
      match path with
      | none => .error (400, "invalid order id")
      | some orderID =>
        if orderID ≤ 0 then .error (400, "invalid order id")
        else
          match OrderRepository.getOrderUserID db orderID fault with
          | .error .orderNotFound => .error (404, "order not found")
          | .error _ => .error (500, "could not load order")
          | .ok owner => if owner ≠ claims.userID then .error (403, "not your order") else .ok (token, orderID)

theorem owner_found (found : OrderRepository.getOrderUserID db orderID fault = .ok owner) :
    ∃ order, db.order? orderID = some order ∧ order.userID = owner := by
  unfold OrderRepository.getOrderUserID at found
  split at found
  · cases found
  · split at found
    · rename_i order stored
      cases found
      exact ⟨order, stored, rfl⟩
    · cases found

/-- Whoever passes holds a verified token of the owner of the order. -/
theorem authorize_passed (passed : authorize jwt now db protocols path fault = .ok (token, orderID)) :
    ∃ claims order, jwt.verify token = some claims ∧ db.order? orderID = some order ∧
      order.userID = claims.userID := by
  simp only [authorize] at passed
  split at passed
  · cases passed
  split at passed
  · cases passed
  rename_i claims parsed
  split at passed
  · cases passed
  split at passed
  · cases passed
  split at passed
  · cases passed
  · cases passed
  · rename_i owner found
    split at passed
    · cases passed
    · rename_i same
      cases passed
      obtain ⟨order, stored, rfl⟩ := owner_found found
      exact ⟨claims, order, TokenManager.parse_verified jwt parsed, stored, by simpa using same⟩

/-- The owner of an order gets through with a token that has not expired. -/
theorem authorize_sign (lasting : now < claims.expiresAt) (positive : 0 < orderID)
    (found : db.order? orderID = some order) (own : order.userID = claims.userID) :
    authorize jwt now db [subprotocolSentinel, jwt.sign claims] (some orderID) none =
      .ok (jwt.sign claims, orderID) := by
  have given : jwt.sign claims ≠ "" := by
    intro empty
    exact jwt.nonempty claims (by rw [empty]; rfl)
  have token : tokenFromSubprotocols [subprotocolSentinel, jwt.sign claims] = jwt.sign claims := if_pos rfl
  have owner : OrderRepository.getOrderUserID db orderID none = .ok claims.userID := by
    rw [OrderRepository.getOrderUserID, found]
    exact congrArg Except.ok own
  simp only [authorize, token, TokenManager.parse_sign jwt lasting, owner]
  rw [if_neg given, if_neg (by omega), if_neg (by simp)]

end OrderProcessing.WebSocketHandler
