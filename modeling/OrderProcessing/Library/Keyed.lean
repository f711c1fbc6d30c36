import Mathlib.Algebra.GroupWithZero.Nat
import Mathlib.Data.List.Find
import Mathlib.Data.List.Nodup
import Mathlib.Data.List.Sort
import Mathlib.Order.Defs.LinearOrder

/-! Lists whose elements carry pairwise distinct keys, or are named by their
position: lookup, replacement of one element, and sorting. -/

namespace OrderProcessing.Library

universe u v

variable {Row : Type u} {Key : Type v} {rows before after : List Row}

/-- Distinct keys leave no second element under the key of the middle one. -/
theorem keyed_split (key : Row → Key) (distinct : ((before ++ entry :: after).map key).Nodup) :
    (∀ row ∈ before, key row ≠ key entry) ∧ ∀ row ∈ after, key row ≠ key entry := by
  rw [List.map_append, List.map_cons, List.nodup_append] at distinct
  obtain ⟨_, tail, apart⟩ := distinct
  constructor
  · intro row member
    exact apart _ (List.mem_map_of_mem member) _ (by simp)
  · intro row member same
    exact (List.nodup_cons.mp tail).1 (same ▸ List.mem_map_of_mem member)

/-- What is left after the middle element was replaced. -/
theorem mem_replaced (member : row ∈ before ++ new :: after) (old : Row) :
    row = new ∨ row ∈ before ++ old :: after := by
  simp only [List.mem_append, List.mem_cons] at member ⊢
  tauto

/-- A relation to another list survives the replacement of one element. -/
theorem forall_replaced {Old : Type v} {olds : List Old} {related : Old → Row → Prop}
    (all : List.Forall₂ related olds (before ++ entry :: after))
    (onward : ∀ old, related old entry → related old new) : List.Forall₂ related olds (before ++ new :: after) := by
  induction before generalizing olds with
  | nil =>
    cases all with
    | cons first rest => exact .cons (onward _ first) rest
  | cons _ _ ih =>
    cases all with
    | cons first rest => exact .cons first (ih rest)

theorem getElem_set_cases {rows : List Row} (found : (rows.set index new)[other]? = some value) :
    (other = index ∧ value = new) ∨ (other ≠ index ∧ rows[other]? = some value) := by
  rw [List.getElem?_set] at found
  split at found
  · rename_i same
    split at found
    · exact .inl ⟨same.symm, (Option.some.inj found).symm⟩
    · cases found
  · rename_i different
    exact .inr ⟨Ne.symm different, found⟩

theorem getElem_set_found {rows : List Row} (found : rows[index]? = some old) (new : Row) :
    (rows.set index new)[index]? = some new := by
  simp [(List.getElem?_eq_some_iff.mp found).1]

theorem getElem_set_other {rows : List Row} (located : rows[other]? = some value) (different : other ≠ index)
    (new : Row) : (rows.set index new)[other]? = some value := by
  rw [List.getElem?_set_ne different.symm]
  exact located

/-- The element at a position, and what replacing it leaves. -/
theorem split_found {rows : List Row} (found : rows[index]? = some old) :
    ∃ before after, rows = before ++ old :: after ∧ ∀ new, rows.set index new = before ++ new :: after := by
  obtain ⟨within, rfl⟩ := List.getElem?_eq_some_iff.mp found
  refine ⟨rows.take index, rows.drop (index + 1), ?_, fun new => List.set_eq_take_append_cons_drop.trans (if_pos within)⟩
  rw [List.getElem_cons_drop, List.take_append_drop]

/-- Replacing one element moves a count by the old and the new one. -/
theorem countP_set_found {rows : List Row} (found : rows[index]? = some old) (counts : Row → Bool) (new : Row) :
    (rows.set index new).countP counts + (if counts old then 1 else 0) =
      rows.countP counts + if counts new then 1 else 0 := by
  obtain ⟨before, after, split, replaced⟩ := split_found found
  rw [replaced, split]
  simp only [List.countP_append, List.countP_cons]
  omega

theorem sum_set_found {rows : List Row} (found : rows[index]? = some old) (weight : Row → Nat) (new : Row) :
    ((rows.set index new).map weight).sum + weight old = (rows.map weight).sum + weight new := by
  obtain ⟨before, after, split, replaced⟩ := split_found found
  rw [replaced, split]
  simp only [List.map_append, List.map_cons, List.sum_append, List.sum_cons]
  omega

theorem count_set_found [DecidableEq Row] {rows : List Row} (found : rows[index]? = some old) (wanted new : Row) :
    (rows.set index new).count wanted + (if old = wanted then 1 else 0) =
      rows.count wanted + if new = wanted then 1 else 0 := by
  simpa [List.count] using countP_set_found found (· == wanted) new

variable [DecidableEq Key]

theorem find_keyed {key : Row → Key} (distinct : (rows.map key).Nodup) (member : entry ∈ rows) :
    rows.find? (fun row => key row = key entry) = some entry := by
  obtain ⟨before, after, rfl⟩ := List.append_of_mem member
  have apart := (keyed_split key distinct).1
  rw [List.find?_append, List.find?_eq_none.mpr (by simpa using apart)]
  simp

/-- A map that keeps the keys of a list can be applied after the lookup. -/
theorem find_map_keyed {key : Row → Key} {change : Row → Row}
    (kept : ∀ row ∈ rows, key (change row) = key row) (wanted : Key) :
    (rows.map change).find? (fun row => key row = wanted) =
      (rows.find? fun row => key row = wanted).map change := by
  rw [List.find?_map]
  congr 1
  exact List.find?_congr fun row member => by simp [kept row member]

section Sorting

variable {Rank : Type v} [LinearOrder Rank]

theorem pairwise_sort_by (rank : Row → Rank) (rows : List Row) :
    (rows.insertionSort fun first second => rank first ≤ rank second).Pairwise
      fun first second => rank first ≤ rank second := by
  have : Std.Total fun first second : Row => rank first ≤ rank second := ⟨fun _ _ => le_total _ _⟩
  have : IsTrans Row fun first second => rank first ≤ rank second := ⟨fun _ _ _ => le_trans⟩
  exact List.pairwise_insertionSort _ rows

/-- With distinct ranks there is one way to put the elements in order. -/
theorem eq_of_sorted_by {rank : Row → Rank} (distinct : (rows.map rank).Nodup) (same : rows.Perm others)
    (sorted : rows.Pairwise fun first second => rank first ≤ rank second)
    (sortedOthers : others.Pairwise fun first second => rank first ≤ rank second) : rows = others := by
  refine List.Perm.eq_of_pairwise ?_ sorted sortedOthers same
  intro first second left right below above
  exact List.inj_on_of_nodup_map distinct left (same.mem_iff.mpr right) (le_antisymm below above)

/-- With distinct ranks the sorted list depends on the elements alone. -/
theorem sort_by_perm {rank : Row → Rank} (distinct : (rows.map rank).Nodup) (same : rows.Perm others) :
    rows.insertionSort (fun first second => rank first ≤ rank second) =
      others.insertionSort fun first second => rank first ≤ rank second := by
  have sorted := List.perm_insertionSort (fun first second => rank first ≤ rank second) rows
  have sortedOthers := List.perm_insertionSort (fun first second => rank first ≤ rank second) others
  refine eq_of_sorted_by ?_ (sorted.trans (same.trans sortedOthers.symm)) (pairwise_sort_by rank rows)
    (pairwise_sort_by rank others)
  exact ((sorted.map rank).nodup_iff).mpr distinct

/-- In strict order an element stands behind exactly the smaller ones. -/
theorem getElem_smaller {ranks : List Rank} (sorted : ranks.Pairwise (· < ·)) (member : rank ∈ ranks) :
    ranks[ranks.countP (· < rank)]? = some rank := by
  induction ranks with
  | nil => cases member
  | cons head rest ih =>
    obtain ⟨below, onward⟩ := List.pairwise_cons.mp sorted
    rcases List.mem_cons.mp member with rfl | later
    · have none : rest.countP (· < rank) = 0 :=
        List.countP_eq_zero.mpr fun other present => by simpa using (below other present).le
      simp [none]
    · have less : head < rank := below rank later
      simpa [List.countP_cons, less] using ih onward later

end Sorting

end OrderProcessing.Library
