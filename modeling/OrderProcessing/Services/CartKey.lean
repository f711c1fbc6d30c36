import OrderProcessing.Services.Order

/-! The key of a cart can be read back: the user and the lines in product order are
determined by the text that is hashed, and the lines up to their order by the cart. -/

namespace OrderProcessing.OrderService

open Library

/-- The text is empty or starts with the separator. -/
def Delimited (separator : Char) (text : List Char) : Prop := ∀ char ∈ text.head?, char = separator

/-- Two fields end at the same place if neither has the separator in it. -/
theorem delimited_inj {first second rest more : List Char} (clean : separator ∉ first)
    (otherClean : separator ∉ second) (ends : Delimited separator rest) (otherEnds : Delimited separator more)
    (same : first ++ rest = second ++ more) : first = second ∧ rest = more := by
  have field {text tail : List Char} (clean : separator ∉ text) (ends : Delimited separator tail) :
      (text ++ tail).takeWhile (· ≠ separator) = text := by
    rw [List.takeWhile_append_of_pos]
    · cases tail with
      | nil => simp
      | cons char tail => simp [ends char rfl]
    · intro char member
      simpa using ne_of_mem_of_not_mem member clean
  have fields : first = second := by rw [← field clean ends, same, field otherClean otherEnds]
  subst fields
  exact ⟨rfl, List.append_cancel_left same⟩

/-- A number is written in digits, perhaps after a sign. -/
theorem itoa_chars (value : Int) : ∀ char ∈ itoa value, char.isDigit ∨ char = '-' := by
  intro char member
  cases value with
  | ofNat value => exact .inl (Nat.isDigit_of_mem_toDigits (by decide) (by decide) member)
  | negSucc value =>
    rcases List.mem_cons.mp member with sign | digit
    · exact .inr sign
    · exact .inl (Nat.isDigit_of_mem_toDigits (by decide) (by decide) digit)

theorem itoa_clean (value : Int) : '|' ∉ itoa value ∧ ':' ∉ itoa value := by
  constructor
  · intro member
    simpa using itoa_chars value _ member
  · intro member
    simpa using itoa_chars value _ member

theorem toDigits_injective (same : Nat.toDigits 10 first = Nat.toDigits 10 second) : first = second := by
  have read := congrArg (fun digits => Nat.ofDigitChars 10 digits 0) same
  simpa [Nat.ofDigitChars_toDigits] using read

theorem itoa_injective (same : itoa first = itoa second) : first = second := by
  have unsigned (value other : Nat) : Nat.toDigits 10 value ≠ '-' :: Nat.toDigits 10 other := by
    intro equal
    have digit := Nat.isDigit_of_mem_toDigits (b := 10) (n := value) (by decide) (by decide)
      (equal ▸ List.mem_cons_self)
    simp at digit
  cases first with
  | ofNat value =>
    cases second with
    | ofNat other => rw [toDigits_injective same]
    | negSucc other => exact absurd same (unsigned value _)
  | negSucc value =>
    cases second with
    | ofNat other => exact absurd same.symm (unsigned other _)
    | negSucc other => rw [Nat.succ.inj (toDigits_injective (List.cons.inj same).2)]

/-- The lines as they stand in the text. -/
def linesText (items : List OrderItemRequest) : List Char :=
  items.flatMap fun item => ['|'] ++ itoa item.productID ++ [':'] ++ itoa item.quantity

theorem linesText_cons (item : OrderItemRequest) (items : List OrderItemRequest) :
    linesText (item :: items) =
      '|' :: (itoa item.productID ++ ':' :: (itoa item.quantity ++ linesText items)) := by
  simp [linesText]

theorem linesText_delimited (items : List OrderItemRequest) : Delimited '|' (linesText items) := by
  cases items with
  | nil => exact nofun
  | cons item rest => simp [Delimited, linesText_cons]

theorem linesText_injective (same : linesText first = linesText second) : first = second := by
  induction first generalizing second with
  | nil =>
    cases second with
    | nil => rfl
    | cons => simp [linesText] at same
  | cons item rest ih =>
    cases second with
    | nil => simp [linesText] at same
    | cons other more =>
      rw [linesText_cons, linesText_cons] at same
      obtain ⟨product, afterProduct⟩ := delimited_inj (itoa_clean _).2 (itoa_clean _).2 (by simp [Delimited])
        (by simp [Delimited]) (List.cons.inj same).2
      obtain ⟨quantity, remaining⟩ := delimited_inj (itoa_clean _).1 (itoa_clean _).1 (linesText_delimited rest)
        (linesText_delimited more) (List.cons.inj afterProduct).2
      obtain ⟨productID, units⟩ := item
      obtain ⟨otherID, otherUnits⟩ := other
      cases itoa_injective product
      cases itoa_injective quantity
      rw [ih remaining]

/-- The text tells the user and the sorted lines. -/
theorem keyText_injective (same : keyText userID items = keyText otherID others) :
    userID = otherID ∧ sortRequests items = sortRequests others := by
  have fields : itoa userID ++ linesText (sortRequests items) = itoa otherID ++ linesText (sortRequests others) := by
    simpa [keyText, linesText] using same
  obtain ⟨user, lines⟩ := delimited_inj (itoa_clean _).1 (itoa_clean _).1 (linesText_delimited _)
    (linesText_delimited _) fields
  exact ⟨itoa_injective user, linesText_injective lines⟩

theorem hexDigit_injective (below : first < 16) (otherBelow : second < 16)
    (same : hexDigits.getD first '0' = hexDigits.getD second '0') : first = second := by
  have distinct : ∀ first < 16, ∀ second < 16, hexDigits.getD first '0' = hexDigits.getD second '0' →
      first = second := by decide
  exact distinct first below second otherBelow same

theorem encodeToString_injective (same : encodeToString first = encodeToString second) : first = second := by
  have digits := String.ofList_injective same
  clear same
  induction first generalizing second with
  | nil =>
    cases second with
    | nil => rfl
    | cons => simp at digits
  | cons byte rest ih =>
    cases second with
    | nil => simp at digits
    | cons other more =>
      simp only [List.flatMap_cons, List.cons_append, List.nil_append, List.cons.injEq] at digits
      obtain ⟨high, low, remaining⟩ := digits
      have bound := byte.toNat_lt
      have otherBound := other.toNat_lt
      have upper := hexDigit_injective (by omega) (by omega) high
      have lower := hexDigit_injective (Nat.mod_lt _ (by decide)) (Nat.mod_lt _ (by decide)) low
      rw [UInt8.toNat_inj.mp (show byte.toNat = other.toNat by omega), ih remaining]

/-- The sort of the source is not stable. On lines with distinct products every sort
gives the same list. -/
theorem sortRequests_unique (distinct : (items.map (·.productID)).Nodup) (perm : sorted.Perm items)
    (ordered : sorted.Pairwise fun first second => first.productID ≤ second.productID) :
    sorted = sortRequests items := by
  refine eq_of_sorted_by ((perm.map _).nodup_iff.mpr distinct) ?_ ordered
    (pairwise_sort_by OrderItemRequest.productID items)
  exact perm.trans (List.perm_insertionSort _ items).symm

/-- A cart without duplicate lines shares its key with the permutations of itself, of
the same user, and with nothing else, if the hash tells the texts apart. -/
theorem idempotencyKey_eq_iff {sha256 : List Char → List UInt8}
    (collisionFree : sha256 (keyText userID items) = sha256 (keyText otherID others) →
      keyText userID items = keyText otherID others)
    (distinct : (items.map (·.productID)).Nodup) :
    idempotencyKey sha256 userID items = idempotencyKey sha256 otherID others ↔
      userID = otherID ∧ others.Perm items := by
  constructor
  · intro same
    obtain ⟨user, sorted⟩ := keyText_injective (collisionFree (encodeToString_injective same))
    refine ⟨user, ?_⟩
    have perm : (sortRequests items).Perm items := List.perm_insertionSort _ items
    have otherPerm : (sortRequests others).Perm others := List.perm_insertionSort _ others
    rw [← sorted] at otherPerm
    exact otherPerm.symm.trans perm
  · rintro ⟨rfl, perm⟩
    exact idempotencyKey_perm sha256 userID distinct perm.symm

/-- A reordered cart keeps its key and the same cart of another user has its own, under
a hash that spells the text out. -/
theorem idempotencyKey_two_users :
    idempotencyKey (·.map fun char => char.toNat.toUInt8) 3 [⟨7, 2⟩, ⟨5, -1⟩] =
        idempotencyKey (·.map fun char => char.toNat.toUInt8) 3 [⟨5, -1⟩, ⟨7, 2⟩] ∧
      idempotencyKey (·.map fun char => char.toNat.toUInt8) 3 [⟨7, 2⟩, ⟨5, -1⟩] ≠
        idempotencyKey (·.map fun char => char.toNat.toUInt8) (-3) [⟨7, 2⟩, ⟨5, -1⟩] := by
  refine ⟨(idempotencyKey_eq_iff (by decide) (by decide)).mpr ⟨rfl, List.Perm.swap _ _ _⟩, ?_⟩
  intro same
  exact absurd ((idempotencyKey_eq_iff (by decide) (by decide)).mp same).1 (by decide)

end OrderProcessing.OrderService
