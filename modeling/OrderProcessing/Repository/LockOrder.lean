import Mathlib.Data.Int.ConditionallyCompleteOrder
import Mathlib.Data.Prod.Lex
import Mathlib.Order.ConditionallyCompleteLattice.Basic
import OrderProcessing.Library.LockOrder
import OrderProcessing.Repository.Isolation
import OrderProcessing.Services.Order

/-! The order in which the order repository takes its locks: the payment, then
its order, then inventory rows by ascending product. New rows are created under
keys that no other transaction can know. -/

namespace OrderProcessing

open Library

/-- The row of a key exists. Keys that name no single row are taken to exist. -/
def Db.Stores (db : Db) : Key → Prop
  | .inventory productID => (db.stock? productID).isSome
  | .order orderID => (db.order? orderID).isSome
  | .payment paymentID => (db.payment? paymentID).isSome
  | .idempotency key => ∃ row ∈ db.payments, row.idempotencyKey = key
  | .overwritten _ | .users | .products => True

/-- The keys of the rows a statement adds, or adds rows to. -/
def Statement.creates {Answer : Type} : Statement Answer → List Key
  | .insertOrder row => [.order row.id]
  | .insertItems rows => rows.map fun row => .order row.orderID
  | .insertPayment row => [.payment row.id, .idempotency row.idempotencyKey]
  | .insertInventory row | .saveInventory row => [.inventory row.productID]
  | _ => []

def Write.created : Write → List Key
  | .newOrder row => [.order row.id]
  | .newPayment row => [.payment row.id, .idempotency row.idempotencyKey]
  | .newInventory row | .inventoryRow row => [.inventory row.productID]
  | _ => []

def Key.rank : Key → Nat ×ₗ Int
  | .payment _ => toLex (0, 0)
  | .order _ => toLex (1, 0)
  | .inventory productID => toLex (2, productID)
  | _ => toLex (3, 0)

theorem payment_rank_order (paymentID orderID : Int) : (Key.payment paymentID).rank < (Key.order orderID).rank := by
  simp [Key.rank, Prod.Lex.lt_iff]

theorem order_rank_inventory (orderID productID : Int) :
    (Key.order orderID).rank < (Key.inventory productID).rank := by
  simp [Key.rank, Prod.Lex.lt_iff]

/-- The rows of an answer come by ascending product. -/
def Ascending (items : List OrderItem) : Prop :=
  items.Pairwise fun first second => first.productID ≤ second.productID

instance : DecidablePred Ascending := fun _ => inferInstanceAs (Decidable (List.Pairwise _ _))

/-- INSERT answers with the key of the row; the item query should answer in
product order. -/
def Statement.expected {Answer : Type} : Statement Answer → Answer → Prop
  | .insertOrder row, orderID => orderID = row.id
  | .selectItems _ _, items => Ascending items
  | _, _ => True

theorem wanted_stored {stmt : Statement Answer} (wanted : key ∈ rowLocks.wanted stmt db) :
    key ∈ stmt.targets ∧ (key ∈ stmt.creates ∨ db.Stores key) := by
  simp only [rowLocks] at wanted
  split at wanted
  · rename_i visible
    refine ⟨wanted, ?_⟩
    cases stmt with
    | insertOrder | insertItems | insertPayment | insertInventory => exact .inl wanted
    | selectItems => cases wanted
    | insertUser | insertProduct | saveProduct | saveInventory =>
      rw [List.mem_singleton.mp wanted]
      exact .inr trivial
    | _ =>
      rw [List.mem_singleton.mp wanted]
      exact .inr visible
  · cases wanted

/-- A row that exists after a write existed before, or the write created it. -/
theorem stores_apply {db : Db} (stored : (db.apply write).Stores key) : db.Stores key ∨ key ∈ write.created := by
  cases write with
  | quantity =>
    cases key with
    | inventory => exact .inl (by simpa [Db.Stores, stock_setQuantity] using stored)
    | _ => exact .inl stored
  | orderStatus =>
    cases key with
    | order => exact .inl (by simpa [Db.Stores, order_setStatus] using stored)
    | _ => exact .inl stored
  | paymentStatus paymentID status txn =>
    cases key with
    | payment => exact .inl (by simpa [Db.Stores, payment_setStatus] using stored)
    | idempotency key =>
      left
      have present : ((db.apply (.paymentStatus paymentID status txn)).payments.any fun row =>
          row.idempotencyKey = key) = true := by simpa [Db.Stores] using stored
      rw [idempotency_setStatus] at present
      simpa [Db.Stores] using present
    | _ => exact .inl stored
  | newOrder row =>
    cases key with
    | order other =>
      by_cases same : row.id = other
      · exact .inr (by simp [Write.created, same])
      · exact .inl (by simpa [Db.Stores, Db.order?, Db.apply, List.find?_append, same] using stored)
    | _ => exact .inl stored
  | newPayment row =>
    cases key with
    | payment other =>
      by_cases same : row.id = other
      · exact .inr (by simp [Write.created, same])
      · exact .inl (by simpa [Db.Stores, Db.payment?, Db.apply, List.find?_append, same] using stored)
    | idempotency other =>
      by_cases same : row.idempotencyKey = other
      · exact .inr (by simp [Write.created, same])
      · exact .inl (by simpa [Db.Stores, Db.apply, or_and_right, exists_or, same] using stored)
    | _ => exact .inl stored
  | newInventory row =>
    cases key with
    | inventory other =>
      by_cases same : row.productID = other
      · exact .inr (by simp [Write.created, same])
      · exact .inl (by simpa [Db.Stores, Db.stock?, Db.apply, List.find?_append, same] using stored)
    | _ => exact .inl stored
  | inventoryRow row =>
    cases key with
    | inventory other =>
      by_cases same : row.productID = other
      · exact .inr (by simp [Write.created, same])
      · left
        simp only [Db.Stores, Db.stock?, List.find?_isSome, Db.apply, List.mem_map] at stored ⊢
        obtain ⟨_, ⟨old, member, rfl⟩, found⟩ := stored
        refine ⟨old, member, ?_⟩
        unfold Db.replaceInventory at found
        split at found
        · exact absurd (by simpa using found) same
        · exact found
    | _ => exact .inl stored
  | newItems | newUser | newProduct | productRow => cases key <;> exact .inl stored

theorem evaluate_creates {stmt : Statement Answer} (done : evaluate stmt db = .ok (answer, writes)) :
    ∀ write ∈ writes, ∀ key ∈ write.created, key ∈ stmt.creates := by
  intro write member
  cases evaluate_writes done write member <;> simp [Write.created, Statement.creates]

/-- The lock order of the order repository. -/
def lockOrder : LockOrder postgres rowLocks (Nat ×ₗ Int) where
  rank := Key.rank
  targets := Statement.targets
  creates := Statement.creates
  expected := Statement.expected
  stores := Db.Stores
  created := Write.created
  wanted _ _ _ _ wanted := wanted_stored wanted
  installs _ _ _ stored := stores_apply stored
  yields _ _ _ _ _ done := evaluate_creates done

namespace OrderRepository

/-- Every lock held lets its holder go on to the rows of these lines. -/
def Below (held : List Key) (items : List OrderItem) : Prop :=
  ∀ lock ∈ held, ∀ item ∈ items,
    lock = .inventory item.productID ∨ lock.rank < (Key.inventory item.productID).rank

theorem Below.take {items : List OrderItem} (below : Below held (item :: items)) (sorted : Ascending (item :: items)) :
    Below (held ++ [.inventory item.productID]) items := by
  intro lock member line later
  rcases List.mem_append.mp member with old | new
  · exact below lock old line (by simp [later])
  · rw [List.mem_singleton.mp new]
    rcases (List.rel_of_pairwise_cons sorted later).lt_or_eq with less | same
    · exact .inr (by simpa [Key.rank, Prod.Lex.lt_iff] using less)
    · exact .inl (by rw [same])

theorem reserveItems_climbs {own : Key → Prop} {rest : Tx Int} (items : List OrderItem) (sorted : Ascending items)
    (held : List Key) (below : Below held items) (tail : ∀ held, rest.Climbs lockOrder own held) :
    (reserveItems items rest).Climbs lockOrder own held := by
  induction items generalizing held with
  | nil => exact tail held
  | cons item items ih =>
    refine ⟨by simp [lockOrder, Statement.creates], fun key target => .inr fun lock member => ?_,
      fun fault => trivial, fun rows _ => .ite trivial (ih sorted.of_cons _ (below.take sorted))⟩
    rw [List.mem_singleton.mp target]
    exact below lock member item (by simp)

theorem restockItems_climbs {own : Key → Prop} (items : List OrderItem) (sorted : Ascending items) (held : List Key)
    (below : Below held items) : (restockItems items).Climbs lockOrder own held := by
  induction items generalizing held with
  | nil => trivial
  | cons item items ih =>
    refine ⟨by simp [lockOrder, Statement.creates], fun key target => .inr fun lock member => ?_,
      fun fault => trivial, fun rows _ => ih sorted.of_cons _ (below.take sorted)⟩
    rw [List.mem_singleton.mp target]
    exact below lock member item (by simp)

theorem markPaidAndConfirm_climbs {own : Key → Prop} (payment : Payment) (txnID : String) :
    (markPaidAndConfirm payment txnID).Climbs lockOrder own [] := by
  refine ⟨by simp [lockOrder, Statement.creates], by simp, fun _ => trivial, fun _ _ => .ite trivial ?_⟩
  refine ⟨by simp [lockOrder, Statement.creates], fun key target => .inr fun lock member => .inr ?_,
    fun _ => trivial, fun _ _ => trivial⟩
  rw [List.mem_singleton.mp target, List.mem_singleton.mp member]
  exact payment_rank_order payment.id payment.orderID

theorem failCancelAndRestock_climbs {own : Key → Prop} (payment : Payment) (scan : Scan) :
    (failCancelAndRestock payment scan).Climbs lockOrder own [] := by
  refine ⟨by simp [lockOrder, Statement.creates], by simp, fun _ => trivial, fun _ _ => .ite trivial ?_⟩
  refine ⟨by simp [lockOrder, Statement.creates], fun key target => .inr fun lock member => .inr ?_,
    fun _ => trivial, fun _ _ => ?_⟩
  · rw [List.mem_singleton.mp target, List.mem_singleton.mp member]
    exact payment_rank_order payment.id payment.orderID
  · refine ⟨by simp [lockOrder, Statement.creates], by simp [lockOrder, Statement.targets], fun _ => trivial,
      fun items sorted => restockItems_climbs items sorted _ fun lock member item _ => .inr ?_⟩
    simp only [lockOrder, Statement.targets, List.nil_append, List.append_nil, List.cons_append, List.mem_cons,
      List.not_mem_nil, or_false] at member
    rcases member with rfl | rfl
    · exact (payment_rank_order payment.id payment.orderID).trans (order_rank_inventory payment.orderID item.productID)
    · exact order_rank_inventory payment.orderID item.productID

end OrderRepository

namespace OrderTransaction

/-- The keys under which a call creates rows: drawn from the sequences, or a new uuid. -/
def newKeys : OrderTransaction → List Key
  | .createOrder generated new =>
    [.order generated.orderID, .payment generated.paymentID, .idempotency new.payment.idempotencyKey]
  | _ => []

/-- An INSERT under keys that only this call creates. -/
theorem insert_climbs {own : Key → Prop} {stmt : Statement Answer} {next : Except DbError Answer → Tx Value}
    (insert : stmt.targets = stmt.creates) (creates : ∀ key ∈ stmt.creates, own key)
    (failing : ∀ fault held, (next (.error fault)).Climbs lockOrder own held)
    (rest : ∀ answer held, stmt.expected answer → (next (.ok answer)).Climbs lockOrder own held) (held : List Key) :
    Program.Climbs lockOrder own (.exec stmt next) held :=
  ⟨creates, fun key target => .inl (creates key (insert ▸ target)), fun fault => failing fault _,
    fun answer fine => rest answer _ fine⟩

theorem insertAll_climbs (generated : Generated) (new : NewOrder) (held : List Key) :
    (OrderRepository.insertAll generated new).Climbs lockOrder (· ∈ (createOrder generated new).newKeys) held := by
  refine insert_climbs rfl (by simp [Statement.creates, newKeys]) (fun fault _ => ?_) (fun orderID _ answered => ?_) held
  · cases fault <;> trivial
  cases answered
  refine insert_climbs rfl (by simp [Statement.creates, newKeys]) (fun _ _ => by trivial) (fun _ _ _ => ?_) _
  exact insert_climbs rfl (by simp [Statement.creates, newKeys]) (fun _ _ => by trivial) (fun _ _ _ => by trivial) _

theorem body_climbs (call : OrderTransaction)
    (sorted : ∀ generated new, call = .createOrder generated new → Ascending new.items) :
    call.body.Climbs lockOrder (· ∈ call.newKeys) [] := by
  cases call with
  | createOrder generated new =>
    exact (OrderRepository.reserveItems_climbs new.items (sorted generated new rfl) [] (by simp [OrderRepository.Below])
      (insertAll_climbs generated new)).map
  | markPaidAndConfirm payment txnID => exact (OrderRepository.markPaidAndConfirm_climbs payment txnID).map
  | failCancelAndRestock payment scan => exact (OrderRepository.failCancelAndRestock_climbs payment scan).map

/-- The keys for new rows are unused, and no two calls got the same one. -/
structure Fresh (db : Db) (batch : List OrderTransaction) : Prop where
  absent : ∀ call ∈ batch, ∀ key ∈ call.newKeys, ¬ db.Stores key
  apart : batch.Pairwise fun one two => one.newKeys.Disjoint two.newKeys

/-- The move does not get the lines of an order out of product order. -/
def ascendingAnswer (system : Sessions) : Move → Bool
  | .finish _ => true
  | .statement index _ =>
    match system.sessions[index]? with
    | none => true
    | some session =>
      match session.program with
      | .exec (.selectItems orderID scan) _ =>
        Ascending (scan.order ((postgres.applyAll system.committed session.writes).itemsOf orderID))
      | _ => true

theorem ascendingAnswer_expected {system : Sessions} (ascending : ascendingAnswer system move) :
    system.Expected lockOrder move := by
  cases move with
  | finish => trivial
  | statement index =>
    intro session Answer stmt next answer writes found program done
    simp only [ascendingAnswer, found, program] at ascending
    cases stmt with
    | insertOrder row =>
      obtain ⟨same, _⟩ := guarded_ok.mp done
      cases same
      rfl
    | selectItems =>
      cases done
      exact (of_decide_eq_true ascending : Ascending _)
    | _ => trivial

/-- As long as every item query is answered in product order, no transactions
wait for each other in a circle, and one that is not finished can go on. -/
theorem no_deadlock (fresh : Fresh db batch)
    (built : ∀ generated new, .createOrder generated new ∈ batch →
      ∃ userID uuid products requests, OrderService.buildOrder userID uuid products requests = .ok new)
    (ascending : Along (System.step postgres rowLocks) (fun system move => ascendingAnswer system move)
      (System.start (batch.map (·.body)) db) moves)
    (reached : interleave batch db moves = some final) :
    (∀ index, ¬ Relation.TransGen (final.Waits postgres rowLocks) index index) ∧
      ((∃ session ∈ final.sessions, session.result = none) →
        ∃ index session, final.sessions[index]? = some session ∧ session.result = none ∧
          ∀ other, ¬ final.Waits postgres rowLocks index other) := by
  let own (index : Nat) (key : Key) : Prop := ∃ call, batch[index]? = some call ∧ key ∈ call.newKeys
  have apart : ∀ index other key, index ≠ other → own index key → ¬ own other key := by
    rintro index other key different ⟨one, listed, mine⟩ ⟨two, known, also⟩
    obtain ⟨inside, rfl⟩ := List.getElem?_eq_some_iff.mp listed
    obtain ⟨within, rfl⟩ := List.getElem?_eq_some_iff.mp known
    have disjoint := List.pairwise_iff_getElem.mp fresh.apart
    rcases Nat.lt_or_gt_of_ne different with before | after
    · exact disjoint index other inside within before mine also
    · exact disjoint other index within inside after also mine
  have start : (System.start (batch.map (·.body)) db).Disciplined lockOrder own := by
    refine .start (fun index body listed => ?_) (fun index _ key reserved => ?_)
    · simp only [List.getElem?_map, Option.map_eq_some_iff] at listed
      obtain ⟨call, listed, rfl⟩ := listed
      have same : own index = (· ∈ call.newKeys) := by
        funext key
        simp [own, listed]
      rw [same]
      refine call.body_climbs fun generated new shape => ?_
      obtain ⟨_, _, _, _, made⟩ := built generated new (shape ▸ List.mem_of_getElem? listed)
      exact OrderService.buildOrder_sorted made
    · obtain ⟨call, listed, mine⟩ := reserved
      exact fresh.absent call (List.mem_of_getElem? listed) key mine
  have disciplined : final.Disciplined lockOrder own :=
    run_invariant_along (fun system => system.Disciplined lockOrder own)
      (fun _ _ _ holds fine moved => holds.step apart (ascendingAnswer_expected fine) moved) start ascending reached
  refine ⟨disciplined.climbing.acyclic, fun ⟨session, member, unfinished⟩ => ?_⟩
  obtain ⟨index, found⟩ := List.getElem?_of_mem member
  exact disciplined.climbing.progress disciplined.settled found unfinished

/-- Enough of two products for several orders of both. -/
def warehouse : Db := { shelf with inventory := [⟨1, 1, 5⟩, ⟨2, 2, 5⟩] }

/-- A cart with one unit of each, as the order service hands it over. -/
def pair (uuid : String) : NewOrder := draft uuid [⟨0, 1, 1, 500⟩, ⟨0, 2, 1, 100⟩]

theorem pair_built (uuid : String) :
    OrderService.buildOrder 1 uuid warehouse.products [⟨2, 1⟩, ⟨1, 1⟩] = .ok (pair uuid) := rfl

/-- Two orders of both products, and the cancellation of the first one. -/
def crossing (scan : Scan) : List OrderTransaction :=
  [.createOrder ⟨10, 20, 0⟩ (pair "first"),
   .failCancelAndRestock ⟨20, 10, "first", .pending, 600, none, 0⟩ scan,
   .createOrder ⟨11, 21, 0⟩ (pair "second")]

theorem crossing_fresh (scan : Scan) : Fresh warehouse (crossing scan) where
  absent call member key new := by
    simp only [crossing, List.mem_cons, List.not_mem_nil, or_false] at member
    rcases member with rfl | rfl | rfl
    all_goals simp only [newKeys, List.mem_cons, List.not_mem_nil, or_false] at new
    all_goals rcases new with rfl | rfl | rfl <;> simp [Db.Stores, warehouse, shelf, Db.order?, Db.payment?]
  apart := by simp [crossing, newKeys, pair, draft]

theorem crossing_built (scan : Scan) : ∀ generated new, .createOrder generated new ∈ crossing scan →
    ∃ userID uuid products requests, OrderService.buildOrder userID uuid products requests = .ok new := by
  intro generated new member
  simp only [crossing, List.mem_cons, createOrder.injEq, reduceCtorEq, List.not_mem_nil, or_false, false_or] at member
  rcases member with ⟨_, rfl⟩ | ⟨_, rfl⟩ <;> exact ⟨_, _, _, _, pair_built _⟩

/-- The first order is placed; then its cancellation gives back one line while
the second order takes its first line. -/
def crossed : List Move :=
  List.replicate 5 (.statement 0 false) ++ [.finish 0] ++ List.replicate 4 (.statement 1 false) ++
    [.statement 2 false]

theorem no_deadlock_crossing :
    ∃ final, interleave (crossing .stored) warehouse crossed.dropLast = some final ∧
      final.sessions.map (·.result) = [some (.orderID 10, none), none, none] ∧ final.Waits postgres rowLocks 2 1 ∧
      (∀ index, ¬ Relation.TransGen (final.Waits postgres rowLocks) index index) ∧
      ((∃ session ∈ final.sessions, session.result = none) →
        ∃ index session, final.sessions[index]? = some session ∧ session.result = none ∧
          ∀ other, ¬ final.Waits postgres rowLocks index other) := by
  obtain ⟨final, reached, results, waiting⟩ : ∃ final,
      interleave (crossing .stored) warehouse crossed.dropLast = some final ∧
      final.sessions.map (·.result) = [some (.orderID 10, none), none, none] ∧ final.Waits postgres rowLocks 2 1 :=
    ⟨_, rfl, rfl, by decide, _, _, rfl, rfl, .inventory 1, List.mem_singleton.mpr rfl, by decide⟩
  exact ⟨final, reached, results, waiting,
    no_deadlock (crossing_fresh .stored) (crossing_built .stored) (by decide) reached⟩

/-- With the lines of the cancelled order in the other order, both transactions
wait for the row the other one holds. -/
theorem cancellation_deadlocks :
    Fresh warehouse (crossing .reversed) ∧
    OrderService.buildOrder 1 "first" warehouse.products [⟨2, 1⟩, ⟨1, 1⟩] = .ok (pair "first") ∧
    OrderService.buildOrder 1 "second" warehouse.products [⟨2, 1⟩, ⟨1, 1⟩] = .ok (pair "second") ∧
    ∃ final, interleave (crossing .reversed) warehouse crossed = some final ∧
      final.sessions.map (·.result) = [some (.orderID 10, none), none, none] ∧
      final.Waits postgres rowLocks 1 2 ∧ final.Waits postgres rowLocks 2 1 :=
  ⟨crossing_fresh .reversed, rfl, rfl, _, rfl, rfl,
    ⟨by decide, _, _, rfl, rfl, .inventory 1, List.mem_singleton.mpr rfl, List.mem_singleton.mpr rfl⟩,
    ⟨by decide, _, _, rfl, rfl, .inventory 2, List.mem_singleton.mpr rfl, by decide⟩⟩

end OrderTransaction

end OrderProcessing
