import Mathlib.Logic.Function.Basic
import OrderProcessing.Library.Keyed

/-! Several lists of parties that stand, scattered, in one list of all of them. When a
party moves in its own list, the same move in the whole keeps the picture. -/

namespace OrderProcessing.Library

variable {Item : Type}

/-- The member of one of the lists. -/
def pick (parts : List (List Item)) (home index : Nat) : Option Item := parts[home]?.bind (·[index]?)

/-- Every member has a place in the whole, and no two have the same. -/
structure Scattered (place : Nat → Nat → Nat) (whole : List Item) (parts : List (List Item)) : Prop where
  found : ∀ home index item, pick parts home index = some item → whole[place home index]? = some item
  apart : ∀ home index other position, (pick parts home index).isSome → (pick parts other position).isSome →
    place home index = place other position → home = other ∧ index = position

/-- What a step can do to a list and, at the places of its members, to the whole. -/
inductive Mirrored (place : Nat → Nat) (part whole : List Item) : List Item → List Item → Prop where
  | kept : Mirrored place part whole part whole
  | set (found : part[index]? = some old) (new : Item) :
      Mirrored place part whole (part.set index new) (whole.set (place index) new)
  | push (new : Item) : Mirrored place part whole (part ++ [new]) (whole ++ [new])

variable {place : Nat → Nat → Nat} {whole part after next : List Item} {parts : List (List Item)}

theorem pick_set (here : parts[home]? = some part) (after : List Item) (other position : Nat) :
    pick (parts.set home after) other position = if other = home then after[position]? else pick parts other position := by
  unfold pick
  split
  · rename_i same
    subst same
    rw [getElem_set_found here]
    rfl
  · rename_i different
    rw [List.getElem?_set_ne (Ne.symm different)]

theorem pick_here (here : parts[home]? = some part) (index : Nat) : pick parts home index = part[index]? := by
  rw [pick, here]
  rfl

theorem pick_clear (picked : pick (parts.set home []) other position = some item) :
    pick parts other position = some item := by
  cases here : parts[home]? with
  | none =>
    rw [List.set_eq_of_length_le (List.getElem?_eq_none_iff.mp here)] at picked
    exact picked
  | some part =>
    rw [pick_set here] at picked
    split at picked
    · cases picked
    · exact picked

theorem pick_push (here : parts[home]? = some part)
    (picked : pick (parts.set home (part ++ [new])) other position = some item) :
    (other = home ∧ position = part.length ∧ item = new) ∨ pick parts other position = some item := by
  rw [pick_set here] at picked
  split at picked
  · rename_i same
    subst same
    rw [pick_here here]
    rw [List.getElem?_append] at picked
    split at picked
    · exact .inr picked
    · obtain ⟨inside, rfl⟩ := List.getElem?_eq_some_iff.mp picked
      rw [List.length_singleton] at inside
      exact .inl ⟨rfl, by omega, by simp⟩
  · exact .inr picked

theorem Scattered.subset (scattered : Scattered place whole parts) (member : part ∈ parts) : part ⊆ whole := by
  intro item inside
  obtain ⟨home, here⟩ := List.getElem?_of_mem member
  obtain ⟨index, found⟩ := List.getElem?_of_mem inside
  exact List.mem_of_getElem? (scattered.found home index item ((pick_here here index).trans found))

theorem Scattered.empty (place : Nat → Nat → Nat) (count : Nat) :
    Scattered place ([] : List Item) (List.replicate count []) := by
  have none (home index : Nat) : pick (List.replicate count ([] : List Item)) home index = none := by
    unfold pick
    rw [List.getElem?_replicate]
    split <;> rfl
  refine ⟨fun home index item picked => ?_, fun home index other position picked => ?_⟩
  · rw [none] at picked
    cases picked
  · rw [none] at picked
    cases picked

/-- A list that is dropped leaves its places to nobody. -/
theorem Scattered.clear (scattered : Scattered place whole parts) (home : Nat) :
    Scattered place whole (parts.set home []) := by
  refine ⟨fun other index item picked => scattered.found other index item (pick_clear picked),
    fun one index other position first second => ?_⟩
  obtain ⟨_, left⟩ := Option.isSome_iff_exists.mp first
  obtain ⟨_, right⟩ := Option.isSome_iff_exists.mp second
  exact scattered.apart one index other position (by simp [pick_clear left]) (by simp [pick_clear right])

theorem Scattered.set (scattered : Scattered place whole parts) (here : parts[home]? = some part)
    (found : part[index]? = some old) (new : Item) :
    Scattered place (whole.set (place home index) new) (parts.set home (part.set index new)) := by
  have present (other position : Nat) :
      (pick (parts.set home (part.set index new)) other position).isSome = (pick parts other position).isSome := by
    rw [pick_set here]
    split
    · rename_i same
      subst same
      rw [pick_here here, Bool.eq_iff_iff]
      simp
    · rfl
  have mine : pick parts home index = some old := (pick_here here index).trans found
  refine ⟨fun other position item picked => ?_, fun one position other index first second => ?_⟩
  · by_cases same : other = home ∧ position = index
    · obtain ⟨rfl, rfl⟩ := same
      rw [pick_set here, if_pos rfl, getElem_set_found found] at picked
      rw [← picked]
      exact getElem_set_found (scattered.found _ _ _ mine) new
    · have before : pick parts other position = some item := by
        rw [pick_set here] at picked
        split at picked
        · rename_i there
          subst there
          rcases getElem_set_cases picked with ⟨rfl, _⟩ | ⟨_, before⟩
          · exact absurd ⟨rfl, rfl⟩ same
          · exact (pick_here here position).trans before
        · exact picked
      refine getElem_set_other (scattered.found other position item before) (fun shared => same ?_) new
      exact scattered.apart _ _ _ _ (by simp [before]) (by simp [mine]) shared
  · rw [present] at first second
    exact scattered.apart one position other index first second

theorem Scattered.push (scattered : Scattered place whole parts) (here : parts[home]? = some part) (new : Item) :
    Scattered (fun other position => if other = home ∧ position = part.length then whole.length else place other position)
      (whole ++ [new]) (parts.set home (part ++ [new])) := by
  have old {other position : Nat} {item : Item} (before : pick parts other position = some item) :
      ¬ (other = home ∧ position = part.length) ∧ place other position < whole.length := by
    refine ⟨?_, (List.getElem?_eq_some_iff.mp (scattered.found other position item before)).1⟩
    rintro ⟨rfl, rfl⟩
    rw [pick_here here] at before
    simp at before
  refine ⟨fun other position item picked => ?_, fun one index other position first second shared => ?_⟩
  · rcases pick_push here picked with ⟨rfl, rfl, rfl⟩ | before
    · simp
    · obtain ⟨elsewhere, inside⟩ := old before
      rw [if_neg elsewhere, List.getElem?_append_left inside]
      exact scattered.found other position item before
  · obtain ⟨_, left⟩ := Option.isSome_iff_exists.mp first
    obtain ⟨_, right⟩ := Option.isSome_iff_exists.mp second
    rcases pick_push here left with ⟨rfl, rfl, _⟩ | before <;>
      rcases pick_push here right with ⟨rfl, rfl, _⟩ | also
    · exact ⟨rfl, rfl⟩
    · obtain ⟨elsewhere, inside⟩ := old also
      rw [if_pos ⟨rfl, rfl⟩, if_neg elsewhere] at shared
      omega
    · obtain ⟨elsewhere, inside⟩ := old before
      rw [if_neg elsewhere, if_pos ⟨rfl, rfl⟩] at shared
      omega
    · rw [if_neg (old before).1, if_neg (old also).1] at shared
      exact scattered.apart one index other position (by simp [before]) (by simp [also]) shared

theorem Scattered.mirror (scattered : Scattered place whole parts) (here : parts[home]? = some part)
    (mirrored : Mirrored (place home) part whole after next) :
    ∃ place, Scattered place next (parts.set home after) := by
  cases mirrored with
  | kept =>
    obtain ⟨inside, rfl⟩ := List.getElem?_eq_some_iff.mp here
    rw [List.set_getElem_self]
    exact ⟨place, scattered⟩
  | set found new => exact ⟨place, scattered.set here found new⟩
  | push new => exact ⟨_, scattered.push here new⟩

end OrderProcessing.Library
