import OrderProcessing.Backend.Coherence
import OrderProcessing.Services.Listing

/-! A client reads the pages of the catalogue one after the other while the backend goes on. A product that comes in
meanwhile may move the others to later places, never to earlier ones, so that none of them slips past the client. -/

namespace OrderProcessing

open Library

/-- No product has left the table, and no id has come in twice. -/
structure Db.Grown (before after : Db) : Prop where
  kept : (before.products.map (·.id)).Sublist (after.products.map (·.id))
  distinct : (before.products.map (·.id)).Nodup → (after.products.map (·.id)).Nodup

theorem Db.Grown.of_same {before after : Db} (same : after.products.map (·.id) = before.products.map (·.id)) :
    before.Grown after := by
  constructor <;> rw [same]
  exact id

theorem Db.Grown.trans {first second third : Db} (left : first.Grown second) (right : second.Grown third) :
    first.Grown third :=
  ⟨left.kept.trans right.kept, fun distinct => right.distinct (left.distinct distinct)⟩

theorem answer_grown (Answer : Type) (stmt : Statement Answer) (db : Db) : db.Grown (postgres.answer stmt db).2 := by
  by_cases foreign : .products ∉ stmt.targets
  · exact .of_same (congrArg _ (answer_kept apply_products Answer stmt db foreign))
  unfold Engine.answer
  split
  · exact .of_same rfl
  rename_i answer writes done
  cases stmt with
  | insertProduct row =>
    obtain ⟨same, checks⟩ := guarded_ok.mp done
    cases same
    have fresh : ∀ old ∈ db.products, old.id ≠ row.id := by
      have absent := checks ((db.product? row.id).isSome, .duplicatedKey) (by simp)
      simpa [Db.product?] using absent
    refine ⟨?_, fun distinct => ?_⟩
    · exact (List.sublist_append_left db.products [row]).map _
    · simp only [Engine.applyAll_cons, Engine.applyAll_nil, postgres_apply, Db.apply, List.map_append]
      simpa [List.nodup_append] using ⟨distinct, fresh⟩
  | saveProduct row =>
    obtain ⟨same, _⟩ := guarded_ok.mp done
    cases same
    refine .of_same ?_
    simp only [Engine.applyAll_cons, Engine.applyAll_nil, postgres_apply, Db.apply, List.map_map]
    refine List.map_congr_left fun old _ => ?_
    simp only [Function.comp_apply, Db.replaceProduct]
    split
    · rename_i same
      exact same.symm
    · rfl
  | _ => simp [Statement.targets] at foreign

theorem transact_grown (faults : Faults DbError) (initial : Value) {body : Tx Value} (propagates : body.Propagates)
    (db : Db) : db.Grown (transact faults initial body db).2 := by
  rcases Backend.transact_cases faults initial db propagates with ⟨_, _, failed⟩ | ⟨_, _, done, alone⟩
  · rw [failed]
    exact .of_same rfl
  · rw [done]
    have kept := body.atomic_invariant postgres db.Grown
      (fun Answer stmt _ grown => grown.trans (answer_grown Answer stmt _)) (.of_same rfl)
    rwa [alone] at kept

namespace Backend

variable {config : Config} {state next final : State} {pageSize : Int}

theorem step_grown (moved : step config state action = some next) : state.db.Grown next.db := by
  cases step_cases config moved with
  | createUser => exact transact_grown _ _ (UserRepository.createUser_propagates _) _
  | createProduct => exact transact_grown _ _ (ProductRepository.createProduct_propagates _ _) _
  | saveProduct => exact transact_grown _ _ (ProductRepository.updateProduct_propagates _ _) _
  | persist => exact transact_grown _ _ (OrderRepository.createOrder_propagates _ _) _
  | cancel => exact transact_grown _ _ (OrderRepository.failCancelAndRestock_propagates _ _) _
  | confirm => exact transact_grown _ _ (OrderRepository.markPaidAndConfirm_propagates _ _) _
  | loadProduct =>
    unfold loadProduct
    split <;> exact .of_same rfl
  | _ => exact .of_same rfl

theorem History.products_distinct (history : History config actions state) : (state.db.products.map (·.id)).Nodup := by
  have grown := run_invariant (fun state : State => initial.db.Grown state.db)
    (fun _ _ _ grown moved => grown.trans (step_grown moved)) (.of_same rfl) history
  exact grown.distinct .nil

variable (config pageSize) in
/-- The client has read so many pages from the first one on and seen these items, and the backend went on between
its requests. -/
inductive Browsing (state : State) : Nat → List ProductResponse → State → Prop where
  | start : Browsing state 0 [] state
  | wait {middle next : State} (earlier : Browsing state pages seen middle)
      (moved : step config middle action = some next) : Browsing state pages seen next
  | read {middle : State} (earlier : Browsing state pages seen middle) :
      Browsing state (pages + 1) (seen ++ ProductService.pageItems middle.db ⟨pages + 1, pageSize⟩) middle

theorem Browsing.grown (browsing : Browsing config pageSize state pages seen final) : state.db.Grown final.db := by
  induction browsing with
  | start => exact .of_same rfl
  | wait _ moved ih => exact ih.trans (step_grown moved)
  | read _ ih => exact ih

/-- The number of products before the one with this id. -/
def place (db : Db) (productID : Int) : Nat := (db.products.map (·.id)).countP (· < productID)

theorem place_grown {before after : Db} (grown : before.Grown after) (productID : Int) :
    place before productID ≤ place after productID :=
  grown.kept.countP_le

theorem catalogue_place {db : Db} (table : ProductService.Catalogued db) (member : productID ∈ db.products.map (·.id)) :
    ((ProductService.catalogue db).map (·.id))[place db productID]? = some productID := by
  have same := ProductService.catalogue_ids db
  rw [place, ← same.countP_eq]
  exact getElem_smaller table.ascending (same.mem_iff.mpr member)

/-- A product that does not stand before the page is on it, or behind it, and then the page is full. -/
theorem read_shows {db : Db} (table : ProductService.Catalogued db) (member : productID ∈ db.products.map (·.id))
    (ahead : pages * (ProductService.normalPageSize pageSize).toNat ≤ place db productID) :
    (∃ item ∈ ProductService.pageItems db ⟨pages + 1, pageSize⟩, item.id = productID) ∨
      ((pages + 1) * (ProductService.normalPageSize pageSize).toNat ≤ place db productID ∧
        (ProductService.pageItems db ⟨pages + 1, pageSize⟩).length = (ProductService.normalPageSize pageSize).toNat) := by
  obtain ⟨least, most⟩ := ProductService.normalPageSize_bounds pageSize
  have found := catalogue_place table member
  obtain ⟨inside, _⟩ := List.getElem?_eq_some_iff.mp found
  rw [List.length_map, ProductService.catalogue_length] at inside
  have few := table.few
  -- the page starts within the table, so that its offset does not overflow
  have offset : ((pages + 1 : Int) - 1) * ProductService.normalPageSize pageSize =
      (pages * (ProductService.normalPageSize pageSize).toNat : Nat) := by
    rw [Int.add_sub_cancel, Nat.cast_mul, Int.toNat_of_nonneg (by omega)]
  have early : pages ≤ pages * (ProductService.normalPageSize pageSize).toNat := Nat.le_mul_of_pos_right _ (by omega)
  have located : ProductService.locates db ⟨pages + 1, pageSize⟩ := by
    have same : ProductService.normalPage (pages + 1) = pages + 1 := if_neg (by omega)
    simp only [ProductService.locates, same, offset, decide_eq_true_eq]
    exact .inl (by omega)
  rw [table.pageItems_slice ⟨by omega, by omega⟩ (by omega) located, ProductService.slice, offset, Int.toNat_natCast]
  generalize (ProductService.normalPageSize pageSize).toNat = size at *
  by_cases near : place db productID < (pages + 1) * size
  · left
    have shown : (((ProductService.catalogue db).drop (pages * size)).take size).map (·.id) =
        (((ProductService.catalogue db).map (·.id)).drop (pages * size)).take size := by
      rw [List.map_take, List.map_drop]
    have listed : productID ∈ (((ProductService.catalogue db).drop (pages * size)).take size).map (·.id) := by
      rw [shown]
      refine List.mem_of_getElem? (i := place db productID - pages * size) ?_
      rw [Nat.succ_mul] at near
      rw [List.getElem?_take_of_lt (by omega), List.getElem?_drop, Nat.add_sub_cancel' ahead]
      exact found
    obtain ⟨item, present, same⟩ := List.mem_map.mp listed
    exact ⟨item, present, same⟩
  · right
    refine ⟨not_lt.mp near, ?_⟩
    rw [Nat.succ_mul] at near
    rw [List.length_take, List.length_drop, ProductService.catalogue_length]
    omega

/-- What the client has not seen yet stands behind the pages that it has read. -/
theorem Browsing.ahead (browsing : Browsing config pageSize state pages seen final)
    (distinct : (state.db.products.map (·.id)).Nodup) (ranged : ∀ product ∈ final.db.products, fitsInteger product.id)
    (member : productID ∈ state.db.products.map (·.id)) :
    (∃ item ∈ seen, item.id = productID) ∨
      pages * (ProductService.normalPageSize pageSize).toNat ≤ place final.db productID := by
  induction browsing with
  | start => exact .inr (by simp)
  | @wait _ _ _ middle next earlier moved ih =>
    have grown := step_grown moved
    have before : ∀ product ∈ middle.db.products, fitsInteger product.id := by
      intro product present
      obtain ⟨other, there, same⟩ := List.mem_map.mp (grown.kept.subset (List.mem_map_of_mem present))
      rw [← same]
      exact ranged other there
    exact (ih before).imp_right fun behind => behind.trans (place_grown grown productID)
  | @read _ _ middle earlier ih =>
    have table : ProductService.Catalogued middle.db := ⟨earlier.grown.distinct distinct, ranged⟩
    rcases ih ranged with ⟨item, present, same⟩ | behind
    · exact .inl ⟨item, List.mem_append_left _ present, same⟩
    · rcases read_shows table (earlier.grown.kept.subset member) behind with ⟨item, present, same⟩ | ⟨further, _⟩
      · exact .inl ⟨item, List.mem_append_right _ present, same⟩
      · exact .inr further

theorem Browsing.stored (browsing : Browsing config pageSize state pages seen final) :
    ∀ item ∈ seen, item.id ∈ final.db.products.map (·.id) := by
  induction browsing with
  | start => simp
  | wait _ moved ih => exact fun item member => (step_grown moved).kept.subset (ih item member)
  | @read _ _ middle earlier ih =>
    intro item member
    rcases List.mem_append.mp member with old | new
    · exact ih item old
    · rw [ProductService.pageItems_eq] at new
      have listed := List.mem_of_mem_drop (List.mem_of_mem_take new)
      exact (ProductService.catalogue_ids middle.db).mem_iff.mp (List.mem_map_of_mem listed)

/-- A client that reads page after page until one is not full misses no product that was there when it began,
whatever orders, edits and new products come in between its requests and whatever ids these have; and all that it is
shown is there. -/
theorem browsing_complete (history : History config past state)
    (browsing : Browsing config pageSize state pages seen final)
    (ranged : ∀ product ∈ final.db.products, fitsInteger product.id)
    (short : (ProductService.pageItems final.db ⟨pages + 1, pageSize⟩).length <
      (ProductService.normalPageSize pageSize).toNat) :
    (∀ product ∈ state.db.products,
      ∃ item ∈ seen ++ ProductService.pageItems final.db ⟨pages + 1, pageSize⟩, item.id = product.id) ∧
    ∀ item ∈ seen ++ ProductService.pageItems final.db ⟨pages + 1, pageSize⟩,
      ∃ product ∈ final.db.products, product.id = item.id := by
  have distinct := history.products_distinct
  refine ⟨fun product member => ?_, fun item member => List.mem_map.mp (browsing.read.stored item member)⟩
  have listed : product.id ∈ state.db.products.map (·.id) := List.mem_map_of_mem member
  rcases browsing.ahead distinct ranged listed with ⟨item, present, same⟩ | behind
  · exact ⟨item, List.mem_append_left _ present, same⟩
  · have table : ProductService.Catalogued final.db := ⟨browsing.grown.distinct distinct, ranged⟩
    rcases read_shows table (browsing.grown.kept.subset listed) behind with ⟨item, present, same⟩ | ⟨_, full⟩
    · exact ⟨item, List.mem_append_right _ present, same⟩
    · exact absurd full short.ne

/-- Two more products next to the mug. -/
def furnished : List Action :=
  stocked ++ [.createProduct ⟨3, "cup", none, none, 300⟩ ⟨2, 0, 4⟩ {},
    .createProduct ⟨5, "pot", none, none, 900⟩ ⟨3, 0, 1⟩ {}]

/-- A product that got its id earlier comes in after the first page: the pot is shown twice, and the mug is not missed. -/
theorem browsing_complete_late : ∃ state final seen, History demo furnished state ∧
    Browsing demo 2 state 2 seen final ∧ seen.map (·.id) = [3, 5, 5, 7] ∧
    (∀ product ∈ state.db.products,
      ∃ item ∈ seen ++ ProductService.pageItems final.db ⟨2 + 1, 2⟩, item.id = product.id) ∧
    ∀ item ∈ seen ++ ProductService.pageItems final.db ⟨2 + 1, 2⟩, ∃ product ∈ final.db.products, product.id = item.id := by
  obtain ⟨state, final, history, moved, shown, ranged, short⟩ : ∃ state final, History demo furnished state ∧
      step demo state (.createProduct ⟨4, "jug", none, none, 700⟩ ⟨4, 0, 1⟩ {}) = some final ∧
      (ProductService.pageItems state.db ⟨1, 2⟩ ++ ProductService.pageItems final.db ⟨2, 2⟩).map (·.id) = [3, 5, 5, 7] ∧
      final.db.products.map (·.id) = [7, 3, 5, 4] ∧ ProductService.pageItems final.db ⟨3, 2⟩ = [] :=
    ⟨_, _, rfl, rfl, rfl, rfl, rfl⟩
  have walk : Browsing demo 2 state 2 _ final := .read (.wait (.read .start) moved)
  refine ⟨state, final, _, history, walk, shown, browsing_complete history walk (fun product member => ?_) ?_⟩
  · have listed : product.id ∈ final.db.products.map (·.id) := List.mem_map_of_mem member
    rw [ranged] at listed
    simp only [List.mem_cons, List.not_mem_nil, or_false] at listed
    rcases listed with same | same | same | same <;> rw [same] <;> decide
  · have empty : ProductService.pageItems final.db ⟨(2 : Nat) + 1, 2⟩ = [] := short
    rw [empty]
    decide

end Backend

end OrderProcessing
