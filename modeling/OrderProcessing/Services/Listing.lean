import Mathlib.Data.Int.Interval
import OrderProcessing.Library.Keyed
import OrderProcessing.Library.Word
import OrderProcessing.Repository.Product

/-! The pages of the catalogue. `ListProducts` replaces a page and a size that make no
sense, and computes the offset of the page in 64 bits. -/

namespace OrderProcessing

open Library

structure ListProductsRequest where
  page : Int
  pageSize : Int
  deriving DecidableEq, Repr

structure ProductResponse where
  id : Int
  name : String
  image : Option String
  description : Option String
  price : Int
  quantity : Int
  deriving DecidableEq, Repr

structure ListProductsResponse where
  items : List ProductResponse
  total : Nat
  page : Int
  pageSize : Int
  deriving DecidableEq, Repr

namespace ProductService

def defaultPage : Int := 1

def defaultPageSize : Int := 20

def maxPageSize : Int := 100

/-- A product without an inventory row has none on stock. -/
def toProductResponse (loaded : LoadedProduct) : ProductResponse where
  id := loaded.product.id
  name := loaded.product.name
  image := loaded.product.image
  description := loaded.product.description
  price := loaded.product.price
  quantity := (loaded.inventory.map (·.quantity)).getD 0

def normalPage (page : Int) : Int := if page < 1 then defaultPage else page

def normalPageSize (pageSize : Int) : Int :=
  let pageSize := if pageSize < 1 then defaultPageSize else pageSize
  if pageSize > maxPageSize then maxPageSize else pageSize

/-- The offset as Go computes it. -/
def offset (page pageSize : Int) : Int := wrap 64 (wrap 64 (page - 1) * pageSize)

def listProducts (db : Db) (request : ListProductsRequest) (counting finding : Option DbError) :
    Except AppError ListProductsResponse :=
  let page := normalPage request.page
  let pageSize := normalPageSize request.pageSize
  match ProductRepository.listProducts db pageSize (offset page pageSize) counting finding with
  | .error err => .error err
  | .ok (products, total) => .ok { items := products.map toProductResponse, total, page, pageSize }

/-- The whole catalogue in the order of the ids. -/
def catalogue (db : Db) : List ProductResponse :=
  (db.products.insertionSort fun first second => first.id ≤ second.id).map fun product =>
    toProductResponse ⟨product, db.stock? product.id⟩

/-- What the response has on the page of a request. -/
def pageItems (db : Db) (request : ListProductsRequest) : List ProductResponse :=
  match listProducts db request none none with
  | .ok response => response.items
  | .error _ => []

/-- The offset of the page fits into a word, or the word that is left of it still lies
past the end of the table. -/
def locates (db : Db) (request : ListProductsRequest) : Bool :=
  let page := normalPage request.page
  let pageSize := normalPageSize request.pageSize
  (page - 1) * pageSize < 2 ^ 63 ∨ db.products.length ≤ (offset page pageSize).toNat

/-- The table is one that the schema allows. -/
structure Catalogued (db : Db) : Prop where
  distinct : (db.products.map (·.id)).Nodup
  ranged : ∀ product ∈ db.products, fitsInteger product.id

variable {db : Db} {request : ListProductsRequest}

theorem normalPageSize_bounds (pageSize : Int) :
    1 ≤ normalPageSize pageSize ∧ normalPageSize pageSize ≤ 100 := by
  simp only [normalPageSize, defaultPageSize, maxPageSize]
  split <;> split <;> omega

theorem normalPage_pos (page : Int) : 1 ≤ normalPage page := by
  simp only [normalPage, defaultPage]
  split <;> omega

theorem normalPage_word (word : IsWord 64 page) : IsWord 64 (normalPage page) := by
  simp only [normalPage, defaultPage]
  split
  · decide
  · exact word

theorem listProducts_eq (db : Db) (request : ListProductsRequest) : listProducts db request none none = .ok {
    items := ((catalogue db).drop (offset (normalPage request.page) (normalPageSize request.pageSize)).toNat).take
      (normalPageSize request.pageSize).toNat
    total := db.products.length
    page := normalPage request.page
    pageSize := normalPageSize request.pageSize } := by
  have sized := (normalPageSize_bounds request.pageSize).1
  simp only [listProducts, ProductRepository.listProducts, catalogue, Except.ok.injEq,
    ListProductsResponse.mk.injEq, and_true, if_pos (show 0 ≤ normalPageSize request.pageSize by omega)]
  rw [List.map_map, List.map_take]
  congr 1
  split
  · rw [List.map_drop]
    rfl
  · rename_i start
    rw [Int.toNat_of_nonpos (not_lt.mp start)]
    rfl

theorem catalogue_length (db : Db) : (catalogue db).length = db.products.length := by
  simp [catalogue]

/-- Distinct 32-bit keys leave room for few rows. -/
theorem Catalogued.few (table : Catalogued db) : db.products.length ≤ 2 ^ 32 := by
  have inside : (db.products.map (·.id)).toFinset ⊆ Finset.Icc (-2147483648) 2147483647 := by
    intro id member
    obtain ⟨product, present, rfl⟩ := List.mem_map.mp (List.mem_toFinset.mp member)
    simpa [fitsInteger] using table.ranged product present
  have bound := Finset.card_le_card inside
  rw [List.toFinset_card_of_nodup table.distinct, List.length_map] at bound
  simpa using bound

theorem catalogue_ids (db : Db) : ((catalogue db).map (·.id)).Perm (db.products.map (·.id)) := by
  simp only [catalogue, List.map_map]
  exact (List.perm_insertionSort _ _).map _

/-- The catalogue is in strict order of the ids. -/
theorem Catalogued.ascending (table : Catalogued db) : ((catalogue db).map (·.id)).Pairwise (· < ·) := by
  have nodup : ((catalogue db).map (·.id)).Nodup := (catalogue_ids db).nodup_iff.mpr table.distinct
  have sorted : ((catalogue db).map (·.id)).Pairwise (· ≤ ·) := by
    simp only [catalogue, List.map_map, List.pairwise_map]
    exact pairwise_sort_by Product.id db.products
  exact (sorted.and nodup).imp fun ⟨below, different⟩ => lt_of_le_of_ne below different

/-- The rows from the place where the page starts in the catalogue. -/
def slice (db : Db) (page pageSize : Int) : List ProductResponse :=
  ((catalogue db).drop ((page - 1) * pageSize).toNat).take pageSize.toNat

theorem pageItems_eq (db : Db) (request : ListProductsRequest) : pageItems db request =
    ((catalogue db).drop (offset (normalPage request.page) (normalPageSize request.pageSize)).toNat).take
      (normalPageSize request.pageSize).toNat := by
  rw [pageItems, listProducts_eq]

/-- A page past the end is empty, so an offset that lost bits is harmless only if it
lies past the end as well. -/
theorem Catalogued.slice_iff (table : Catalogued db) (word : IsWord 64 request.page) :
    pageItems db request = slice db (normalPage request.page) (normalPageSize request.pageSize) ↔
      locates db request := by
  have positive := normalPage_pos request.page
  obtain ⟨least, most⟩ := normalPageSize_bounds request.pageSize
  have pageWord := normalPage_word word
  rw [pageItems_eq]
  simp only [locates, decide_eq_true_eq]
  simp only [slice, offset]
  generalize normalPage request.page = page at *
  generalize normalPageSize request.pageSize = size at *
  have before : wrap 64 (page - 1) = page - 1 := wrap_word ⟨by omega, by have room := pageWord.2; omega⟩
  have start : 0 ≤ (page - 1) * size := Int.mul_nonneg (by omega) (by omega)
  rw [before]
  by_cases fits : (page - 1) * size < 2 ^ 63
  · rw [wrap_word ⟨by omega, by omega⟩]
    exact ⟨fun _ => .inl fits, fun _ => rfl⟩
  · have few := table.few
    rw [List.drop_of_length_le (i := ((page - 1) * size).toNat) (by rw [catalogue_length]; omega), List.take_nil]
    simp only [List.take_eq_nil_iff, List.drop_eq_nil_iff, catalogue_length, fits, false_or]
    constructor
    · rintro (none | past)
      · omega
      · exact past
    · exact .inr

theorem Catalogued.pageItems_slice (table : Catalogued db) (word : IsWord 64 page) (positive : 1 ≤ page)
    (located : locates db ⟨page, pageSize⟩) :
    pageItems db ⟨page, pageSize⟩ = slice db page (normalPageSize pageSize) := by
  have same : normalPage page = page := if_neg (by omega)
  rw [(table.slice_iff word).mpr located, same]

/-- Pages one after the other from the first. -/
theorem slices_flatten (db : Db) (sized : 1 ≤ size) (count : Nat) :
    (List.range count).flatMap (fun index : Nat => slice db (index + 1) size) = (catalogue db).take (count * size.toNat) := by
  induction count with
  | zero => simp
  | succ count ih =>
    have start : ((count + 1 - 1 : Int) * size).toNat = count * size.toNat := by
      rw [Int.add_sub_cancel, Int.toNat_mul (by omega) (by omega), Int.toNat_natCast]
    rw [List.range_succ, List.flatMap_append, ih, List.flatMap_singleton, slice, start, Nat.succ_mul, List.take_add]

/-- A later page starts after an earlier one. -/
theorem slices_disjoint (nodup : (catalogue db).Nodup) (sized : 1 ≤ size) (positive : 1 ≤ first)
    (later : first < second) : (slice db first size).Disjoint (slice db second size) := by
  have start : 0 ≤ (first - 1) * size := Int.mul_nonneg (by omega) (by omega)
  have apart : (first - 1) * size + size ≤ (second - 1) * size := by
    have rows : first * size ≤ (second - 1) * size := Int.mul_le_mul_of_nonneg_right (by omega) (by omega)
    linarith
  have disjoint := List.disjoint_take_drop nodup
    (show ((first - 1) * size).toNat + size.toNat ≤ ((second - 1) * size).toNat by omega)
  intro item early late
  refine disjoint ?_ (List.mem_of_mem_take late)
  rw [List.take_add]
  exact List.mem_append_right _ early

/-- A response has exactly the rows of its page iff the offset of the page does not
overflow, or still lies past the end. Such pages in a row make up the catalogue,
which has every product once, by id; and no two of them share a product. -/
theorem pages_partition (table : Catalogued db) :
    (∀ request, IsWord 64 request.page → ∃ response, listProducts db request none none = .ok response ∧
      (response.items = ((catalogue db).drop ((response.page - 1) * response.pageSize).toNat).take
        response.pageSize.toNat ↔ locates db request)) ∧
    ((catalogue db).map (·.id)).Perm (db.products.map (·.id)) ∧ ((catalogue db).map (·.id)).Pairwise (· < ·) ∧
    ∀ pageSize,
      (∀ count : Nat, IsWord 64 count → (∀ page : Int, 1 ≤ page → page ≤ count → locates db ⟨page, pageSize⟩) →
        (List.range count).flatMap (fun index : Nat => pageItems db ⟨index + 1, pageSize⟩) =
          (catalogue db).take (count * (normalPageSize pageSize).toNat)) ∧
      ∀ first second, 1 ≤ first → 1 ≤ second → IsWord 64 first → IsWord 64 second → first ≠ second →
        locates db ⟨first, pageSize⟩ → locates db ⟨second, pageSize⟩ →
        (pageItems db ⟨first, pageSize⟩).Disjoint (pageItems db ⟨second, pageSize⟩) := by
  refine ⟨fun request word => ⟨_, listProducts_eq db request, ?_⟩, catalogue_ids db, table.ascending,
    fun pageSize => ⟨fun count word located => ?_, fun first second positive after word other different here there => ?_⟩⟩
  · rw [← table.slice_iff word, pageItems_eq, slice]
  · rw [← slices_flatten db (normalPageSize_bounds pageSize).1]
    refine List.flatMap_congr fun index member => ?_
    have below := List.mem_range.mp member
    have room := word.2
    exact table.pageItems_slice ⟨by omega, by omega⟩ (by omega) (located _ (by omega) (by omega))
  · have nodup : (catalogue db).Nodup := List.Nodup.of_map _ (table.ascending.imp fun below => ne_of_lt below)
    have sized := (normalPageSize_bounds pageSize).1
    rw [table.pageItems_slice word positive here, table.pageItems_slice other after there]
    rcases lt_or_gt_of_ne different with earlier | later
    · exact slices_disjoint nodup sized positive earlier
    · exact (slices_disjoint nodup sized after later).symm

/-- Three products, stored out of order. -/
def shelf : Db where
  products := [⟨7, "mug", none, none, 500⟩, ⟨3, "cup", none, none, 300⟩, ⟨5, "pot", none, none, 900⟩]
  inventory := [⟨1, 7, 10⟩, ⟨2, 3, 4⟩]

theorem pages_partition_shelf : (pageItems shelf ⟨1, 2⟩).map (·.id) = [3, 5] ∧
    (List.range 2).flatMap (fun index : Nat => pageItems shelf ⟨index + 1, 2⟩) = (catalogue shelf).take (2 * 2) ∧
    (pageItems shelf ⟨1, 2⟩).Disjoint (pageItems shelf ⟨2, 2⟩) := by
  have table : Catalogued shelf := ⟨by decide, by decide⟩
  obtain ⟨_, _, _, pages⟩ := pages_partition table
  obtain ⟨whole, apart⟩ := pages 2
  refine ⟨by decide, whole 2 (by decide) fun page low high => ?_, ?_⟩
  · obtain rfl | rfl : page = 1 ∨ page = 2 := by omega
    · decide
    · decide
  · exact apart 1 2 (by decide) (by decide) (by decide) (by decide) (by decide) (by decide) (by decide)

/-- The offset of this page is a multiple of the size of a word, and nothing is left of
it: the page is the first one again. -/
theorem far_page_repeats : pageItems shelf ⟨4611686018427387905, 20⟩ = pageItems shelf ⟨1, 20⟩ ∧
    pageItems shelf ⟨1, 20⟩ ≠ [] ∧ slice shelf 4611686018427387905 20 = [] := by
  decide

end ProductService

end OrderProcessing
