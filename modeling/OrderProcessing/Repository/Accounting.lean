import OrderProcessing.Library.CommitLog
import OrderProcessing.Repository.Isolation

/-! The three transactions of the order repository, interleaved statement by
statement, against the ledger. At every moment the committed tables hold the
ledger that the calls answered so far lead to: nothing of a transaction under way
is in it, and nothing of an answered one is missing. -/

namespace OrderProcessing

open Library

theorem Ledger.Move.paymentIDs {first second : Ledger} (move : Move first second)
    (distinct : (first.book.map (·.payment.id)).Nodup) : (second.book.map (·.payment.id)).Nodup := by
  cases move with
  | place waiting orderFresh paymentFresh keyFresh =>
    simp only [List.map_append, List.map_cons, List.map_nil]
    refine List.nodup_append.mpr ⟨distinct, by simp, ?_⟩
    rintro id member _ last rfl
    obtain ⟨other, present, same⟩ := List.mem_map.mp member
    exact paymentFresh other present (same.trans (List.mem_singleton.mp last))
  | confirm => simpa [Entry.confirm, Entry.settle] using distinct
  | cancel => simpa [Entry.cancel, Entry.settle] using distinct

namespace OrderRepository

theorem createOrder_acts (generated : Generated) (new : NewOrder) :
    (createOrder generated new).Acts postgres fun _ => False := by
  have inserts : (insertAll generated new).Acts postgres fun _ => False := by
    refine .exec (fun fault => ?_) fun db answer reply => ?_
    · cases fault <;> exact .failed
    · cases (guarded_ok.mp reply).1
  have reserves (items : List OrderItem) : (reserveItems items (insertAll generated new)).Acts postgres fun _ => False := by
    induction items with
    | nil => exact inserts
    | cons item rest ih =>
      refine .exec (fun _ => .failed) fun db rows reply => ?_
      by_cases matched : rows = 1
      · obtain ⟨_, written⟩ := reserve_writes reply matched
        cases written
      · simp only [ne_eq, matched, not_false_eq_true, ↓reduceIte]
        exact .failed
  exact reserves new.items

theorem markPaidAndConfirm_acts (payment : Payment) (txnID : String) :
    (markPaidAndConfirm payment txnID).Acts postgres fun transitioned => transitioned = false := by
  refine .exec (fun _ => .failed) fun db rows reply => ?_
  rcases markPaid_eval db payment.id txnID with ⟨_, marked⟩ | ⟨_, unmarked⟩
  · cases reply.symm.trans marked
  · cases reply.symm.trans unmarked
    exact .void rfl

theorem failCancelAndRestock_acts (payment : Payment) (scan : Scan) :
    (failCancelAndRestock payment scan).Acts postgres fun transitioned => transitioned = false := by
  refine .exec (fun _ => .failed) fun db rows reply => ?_
  rcases markFailed_eval db payment.id with ⟨_, _, _, marked⟩ | ⟨_, unmarked⟩
  · cases reply.symm.trans marked
  · cases reply.symm.trans unmarked
    exact .void rfl

end OrderRepository

namespace OrderTransaction

variable {db final : Db} {ledger : Ledger} {batch : List OrderTransaction}

/-- The answer of a call that found its payment settled before. -/
def Idle (value : Returned) : Prop := value = .transitioned false

/-- What the ledger says about a call that was answered with a value. -/
inductive Effect : OrderTransaction → Returned → Ledger → Ledger → Prop where
  | placed {level : Int → Int} {book : List Entry} {entry : Entry}
      (order : entry.order = OrderRepository.orderRow generated new)
      (items : entry.items = OrderRepository.itemRows generated new)
      (payment : entry.payment = OrderRepository.paymentRow generated new)
      (move : Ledger.Move ⟨level, book⟩
        ⟨fun productID => level productID - quantityOf productID new.items, book ++ [entry]⟩) :
      Effect (.createOrder generated new) (.orderID generated.orderID) ⟨level, book⟩
        ⟨fun productID => level productID - quantityOf productID new.items, book ++ [entry]⟩
  | confirmed {level : Int → Int} {before after : List Entry} {entry : Entry} (waiting : entry.Pending)
      (same : entry.payment.id = payment.id) :
      Effect (.markPaidAndConfirm payment txnID) (.transitioned true) ⟨level, before ++ entry :: after⟩
        ⟨level, before ++ entry.confirm txnID :: after⟩
  | cancelled {level : Int → Int} {before after : List Entry} {entry : Entry} (waiting : entry.Pending)
      (same : entry.payment.id = payment.id) :
      Effect (.failCancelAndRestock payment scan) (.transitioned true) ⟨level, before ++ entry :: after⟩
        ⟨fun productID => level productID + quantityOf productID entry.items, before ++ entry.cancel :: after⟩

theorem Effect.move {first second : Ledger} (effect : Effect call value first second) : Ledger.Move first second := by
  cases effect with
  | placed _ _ _ move => exact move
  | confirmed waiting => exact .confirm waiting _
  | cancelled waiting => exact .cancel waiting

/-- A finalizing call takes effect on an entry that was pending and is settled from then on. -/
theorem Effect.settles {first second : Ledger} (effect : Effect call value first second)
    (given : call.finalizes = some payment) :
    (∃ entry ∈ first.book, entry.payment.id = payment.id ∧ entry.Pending) ∧
      ∃ entry ∈ second.book, entry.payment.id = payment.id ∧ ¬ entry.Pending := by
  cases effect with
  | placed => cases given
  | @confirmed _ txnID _ _ _ entry waiting same =>
    cases given
    exact ⟨⟨entry, by simp, same, waiting⟩, entry.confirm txnID, by simp, same,
      by simp [Entry.Pending, Entry.confirm, Entry.settle]⟩
  | @cancelled _ _ _ _ _ entry waiting same =>
    cases given
    exact ⟨⟨entry, by simp, same, waiting⟩, entry.cancel, by simp, same,
      by simp [Entry.Pending, Entry.cancel, Entry.settle]⟩

/-- The effect of the call a log entry is about. -/
def Logs (batch : List OrderTransaction) (label : Nat × Returned) (first second : Ledger) : Prop :=
  ∃ call, batch[label.1]? = some call ∧ Effect call label.2 first second

/-- The payment that a log entry settles. -/
def settled (batch : List OrderTransaction) (label : Nat × Returned) : Option Int :=
  (batch[label.1]?).bind fun call => call.finalizes.map (·.id)

theorem settled_eq (listed : batch[label.1]? = some call) :
    settled batch label = call.finalizes.map (·.id) := by
  simp [settled, listed]

/-- No payment is settled twice along a log, since every settled one stays settled. -/
theorem settled_once {last : Ledger} (path : Path (Logs batch) ledger log last)
    (distinct : (ledger.book.map (·.payment.id)).Nodup) :
    (last.book.map (·.payment.id)).Nodup ∧ (log.filterMap (settled batch)).Nodup ∧
      ∀ id ∈ log.filterMap (settled batch), ∃ entry ∈ last.book, entry.payment.id = id ∧ ¬ entry.Pending := by
  induction path with
  | nil => exact ⟨distinct, by simp, by simp⟩
  | @snoc log middle label next _ taken ih =>
    obtain ⟨unique, once, known⟩ := ih
    obtain ⟨call, listed, effect⟩ := taken
    have kept : ∀ id ∈ log.filterMap (settled batch), ∃ entry ∈ next.book, entry.payment.id = id ∧ ¬ entry.Pending := by
      intro id member
      obtain ⟨entry, present, same, done⟩ := known id member
      obtain ⟨later, there, kept⟩ := effect.move.extends entry present
      rw [kept.settled done] at there
      exact ⟨entry, there, same, done⟩
    refine ⟨effect.move.paymentIDs unique, ?_⟩
    rw [List.filterMap_append]
    cases given : call.finalizes with
    | none =>
      have silent : [label].filterMap (settled batch) = [] := by simp [settled_eq listed, given]
      rw [silent, List.append_nil]
      exact ⟨once, kept⟩
    | some payment =>
      have own : [label].filterMap (settled batch) = [payment.id] := by simp [settled_eq listed, given]
      obtain ⟨⟨entry, present, same, waiting⟩, after⟩ := effect.settles given
      rw [own]
      refine ⟨List.nodup_append.mpr ⟨once, by simp, ?_⟩, ?_⟩
      · rintro id member _ new rfl
        obtain ⟨other, there, equal, done⟩ := known id member
        have one : other = entry :=
          List.inj_on_of_nodup_map unique there present (by rw [equal, same, List.mem_singleton.mp new])
        exact done (one ▸ waiting)
      · intro id member
        rcases List.mem_append.mp member with old | new
        · exact kept id old
        · rw [List.mem_singleton.mp new]
          exact after

theorem body_acts (call : OrderTransaction) : call.body.Acts postgres Idle := by
  cases call with
  | createOrder generated new =>
    refine Program.Acts.map ?_
    simpa [Idle] using OrderRepository.createOrder_acts generated new
  | markPaidAndConfirm payment txnID =>
    refine Program.Acts.map ?_
    simpa [Idle] using OrderRepository.markPaidAndConfirm_acts payment txnID
  | failCancelAndRestock payment scan =>
    refine Program.Acts.map ?_
    simpa [Idle] using OrderRepository.failCancelAndRestock_acts payment scan

/-- A stored order is a new entry of the book. -/
theorem createOrder_effect (refines : db.Refines ledger) (drafted : new.Drafted)
    (success : (OrderRepository.createOrder generated new).atomic postgres db = ((orderID, none), final)) :
    ∃ after, Effect (.createOrder generated new) (.orderID orderID) ledger after ∧ final.Refines after := by
  obtain ⟨rfl, accepted, move, refined⟩ := OrderRepository.createOrder_refines refines drafted success
  exact ⟨_, .placed rfl rfl rfl move, refined⟩

/-- A finalizing call is the same for every payment with these two columns. -/
theorem finalized_own (refines : db.Refines ledger) (admissible : Admissible db batch) (member : call ∈ batch)
    (given : call.finalizes = some payment) (waiting : OrderRepository.Awaiting db payment.id) :
    ∃ entry ∈ ledger.book, entry.payment.id = payment.id ∧ entry.payment.orderID = payment.orderID := by
  obtain ⟨entry, present, sameID, sameOrder, _⟩ :=
    OrderRepository.finalized_entry refines (admissible.stored call member payment given) waiting
  exact ⟨entry, present, sameID, sameOrder⟩

theorem markPaidAndConfirm_effect (refines : db.Refines ledger) (admissible : Admissible db batch)
    (member : .markPaidAndConfirm payment txnID ∈ batch)
    (success : (OrderRepository.markPaidAndConfirm payment txnID).atomic postgres db = ((flag, none), final)) :
    (flag = false ∧ final = db) ∨ (flag = true ∧ ∃ after,
      Effect (.markPaidAndConfirm payment txnID) (.transitioned true) ledger after ∧ final.Refines after) := by
  by_cases waiting : OrderRepository.Awaiting db payment.id
  · obtain ⟨entry, present, sameID, sameOrder⟩ := finalized_own refines admissible member rfl waiting
    have own : OrderRepository.markPaidAndConfirm payment txnID =
        OrderRepository.markPaidAndConfirm entry.payment txnID := by
      simp only [OrderRepository.markPaidAndConfirm, sameID, sameOrder]
    rw [own] at success
    rcases OrderRepository.markPaidAndConfirm_refines refines present entry.snapshot success with
      ⟨rfl, pending, before, after, split, refined⟩ | ⟨rfl, _, rfl⟩
    · obtain ⟨level, book⟩ := ledger
      cases split
      exact .inr ⟨rfl, _, .confirmed pending sameID, refined⟩
    · exact .inl ⟨rfl, rfl⟩
  · rcases OrderRepository.markPaidAndConfirm_effect db payment txnID with ⟨pending, _⟩ | ⟨_, effect⟩
    · exact absurd pending waiting
    · cases effect.symm.trans success
      exact .inl ⟨rfl, rfl⟩

theorem failCancelAndRestock_effect (refines : db.Refines ledger) (admissible : Admissible db batch)
    (member : .failCancelAndRestock payment scan ∈ batch)
    (success : (OrderRepository.failCancelAndRestock payment scan).atomic postgres db = ((flag, none), final)) :
    (flag = false ∧ final = db) ∨ (flag = true ∧ ∃ after,
      Effect (.failCancelAndRestock payment scan) (.transitioned true) ledger after ∧ final.Refines after) := by
  by_cases waiting : OrderRepository.Awaiting db payment.id
  · obtain ⟨entry, present, sameID, sameOrder⟩ := finalized_own refines admissible member rfl waiting
    have own : OrderRepository.failCancelAndRestock payment scan =
        OrderRepository.failCancelAndRestock entry.payment scan := by
      simp only [OrderRepository.failCancelAndRestock, sameID, sameOrder]
    rw [own] at success
    rcases OrderRepository.failCancelAndRestock_refines refines present entry.snapshot success with
      ⟨rfl, pending, before, after, split, refined⟩ | ⟨rfl, _, rfl⟩
    · obtain ⟨level, book⟩ := ledger
      cases split
      exact .inr ⟨rfl, _, .cancelled pending sameID, refined⟩
    · exact .inl ⟨rfl, rfl⟩
  · have carried : ∀ item ∈ db.itemsOf payment.orderID, (db.stock? item.productID).isSome :=
      fun item line => refines.carried item (List.mem_filter.mp line).1
    rcases OrderRepository.failCancelAndRestock_effect carried success with ⟨_, row, found, pending, _⟩ | ⟨flag, _, same⟩
    · exact absurd ⟨row, found, pending⟩ waiting
    · exact .inl ⟨flag, same⟩

/-- Alone, a call that reports success either found nothing to do or has its effect on the ledger. -/
theorem alone_effect (refines : db.Refines ledger) (admissible : Admissible db batch) (member : call ∈ batch)
    (alone : call.body.alone postgres db = ((value, none), final)) :
    (Idle value ∧ final = db) ∨ (¬ Idle value ∧ ∃ after, Effect call value ledger after ∧ final.Refines after) := by
  cases call with
  | createOrder generated new =>
    obtain ⟨id, rfl, success⟩ := Program.map_alone_ok alone
    exact .inr ⟨by simp [Idle], createOrder_effect refines (admissible.drafted _ _ member) success⟩
  | markPaidAndConfirm payment txnID =>
    obtain ⟨flag, rfl, success⟩ := Program.map_alone_ok alone
    rcases markPaidAndConfirm_effect refines admissible member success with ⟨rfl, same⟩ | ⟨rfl, effect⟩
    · exact .inl ⟨rfl, same⟩
    · exact .inr ⟨by simp [Idle], effect⟩
  | failCancelAndRestock payment scan =>
    obtain ⟨flag, rfl, success⟩ := Program.map_alone_ok alone
    rcases failCancelAndRestock_effect refines admissible member success with ⟨rfl, same⟩ | ⟨rfl, effect⟩
    · exact .inl ⟨rfl, same⟩
    · exact .inr ⟨by simp [Idle], effect⟩

/-- At every moment of every interleaving of the statements, the committed tables are the ledger that the calls
answered with an effect lead to, one after the other and each exactly once. So stock and live reservations of every
product stay what they were together, and no payment is settled by two calls. -/
theorem interleaving_accounted (refines : db.Refines ledger) (admissible : Admissible db batch)
    (reached : interleave batch db moves = some current) :
    ∃ log after, Path (Logs batch) ledger log after ∧ current.committed.Refines after ∧
      (∀ index value, (index, value) ∈ log ↔ current.Answered Idle index value) ∧ (log.map Prod.fst).Nodup ∧
      (log.filterMap (settled batch)).Nodup ∧
      ∀ productID, current.committed.quantity productID + current.committed.reserved productID =
        db.quantity productID + db.reserved productID := by
  have effective : Effective OrderRepository.footprint (Valid batch) Db.Refines Idle (Logs batch)
      (batch.map (·.body)) := by
    refine ⟨fun body member => ?_, fun body member db valid => ?_, fun body member db valid => ?_, fun body member => ?_,
      fun index body found db ledger value final valid refines alone => ?_⟩
    · obtain ⟨call, known, rfl⟩ := List.mem_map.mp member
      exact call.body_issues
    · obtain ⟨call, known, rfl⟩ := List.mem_map.mp member
      exact valid.alone known
    · obtain ⟨call, known, rfl⟩ := List.mem_map.mp member
      exact valid.guarded known
    · obtain ⟨call, known, rfl⟩ := List.mem_map.mp member
      exact call.body_acts
    · rw [List.getElem?_map] at found
      obtain ⟨call, listed, rfl⟩ := Option.map_eq_some_iff.mp found
      rcases alone_effect refines valid.2 (List.mem_of_getElem? listed) alone with idle | ⟨real, after, effect, refined⟩
      · exact .inl idle
      · exact .inr ⟨real, after, ⟨call, listed, effect⟩, refined⟩
  obtain ⟨log, after, logged⟩ := committed_log effective ⟨⟨ledger, refines⟩, admissible⟩ refines reached
  refine ⟨log, after, logged.path, logged.refined, logged.answers, logged.unique,
    (settled_once logged.path refines.paymentIDs).2.1, fun productID => ?_⟩
  have conserved : after.total productID = ledger.total productID :=
    logged.path.related (fun first second => second.total productID = first.total productID) (fun _ => rfl)
      (fun _ _ _ left right => right.trans left) fun _ _ _ ⟨_, _, effect⟩ => effect.move.total productID
  rw [logged.refined.stock, logged.refined.reserved, refines.stock, refines.reserved]
  exact conserved

/-- Two orders are under way and one of them is answered: the other one's decrement is not in the tables yet. -/
theorem interleaving_accounted_contention :
    ∃ current, interleave rivals shelf (contention.take 6) = some current ∧
      current.committed.quantity 2 = 9 ∧ ∃ log after, Path (Logs rivals) ⟨shelf.quantity, []⟩ log after ∧
        current.committed.Refines after ∧ (∀ index value, (index, value) ∈ log ↔ current.Answered Idle index value) ∧
        (log.map Prod.fst).Nodup ∧ (log.filterMap (settled rivals)).Nodup ∧
        ∀ productID, current.committed.quantity productID + current.committed.reserved productID =
          shelf.quantity productID + shelf.reserved productID := by
  obtain ⟨current, reached, level⟩ : ∃ current, interleave rivals shelf (contention.take 6) = some current ∧
      current.committed.quantity 2 = 9 := ⟨_, rfl, rfl⟩
  exact ⟨current, reached, level, interleaving_accounted shelf_refines rivals_admissible reached⟩

end OrderTransaction

end OrderProcessing
