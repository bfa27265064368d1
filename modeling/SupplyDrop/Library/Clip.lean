import Mathlib

namespace SupplyDrop.Library.Clip
variable {α : Type} {size : α → Nat} {xs part : List α} {room cut : Nat}

/-! Cutting a list by the total size of its elements: `fitting` keeps the longest start whose total
stays within `room`, `reaching` the shortest start whose total comes up to `cut`. -/

def total (size : α → Nat) (xs : List α) : Nat := (xs.map size).sum

@[simp] theorem total_nil : total size [] = 0 := rfl

@[simp] theorem total_cons (x : α) : total size (x :: xs) = size x + total size xs := rfl

/-! ## The longest start within -/

def fitting (size : α → Nat) : List α → Nat → List α
  | [], _ => []
  | x :: xs, room => if size x ≤ room then x :: fitting size xs (room - size x) else []

theorem fitting_prefix (xs : List α) (room : Nat) : fitting size xs room <+: xs := by
  induction xs generalizing room with
  | nil => exact List.prefix_rfl
  | cons x xs ih =>
      unfold fitting
      split
      · exact (List.prefix_cons_inj x).mpr (ih _)
      · exact List.nil_prefix

theorem total_fitting_le (xs : List α) (room : Nat) : total size (fitting size xs room) ≤ room := by
  induction xs generalizing room with
  | nil => exact Nat.zero_le room
  | cons x xs ih =>
      unfold fitting
      split
      · next fits =>
        have := ih (room - size x)
        rw [total_cons]
        omega
      · exact Nat.zero_le room

/-- What is cut at the end of a start is that start's length. -/
theorem total_fitting_of_prefix (starts : part <+: xs) :
    total size (fitting size xs (total size part)) = total size part := by
  induction xs generalizing part with
  | nil => rw [List.prefix_nil.mp starts]; rfl
  | cons x xs ih =>
      cases part with
      | nil => exact Nat.le_zero.mp (total_fitting_le _ 0)
      | cons y part =>
          obtain ⟨rfl, tail⟩ := List.cons_prefix_cons.mp starts
          rw [total_cons, fitting, if_pos (by omega), Nat.add_sub_cancel_left, total_cons, ih tail]

/-! ## The shortest start that comes up to a cut -/

def reaching (size : α → Nat) : List α → Nat → List α
  | [], _ => []
  | x :: xs, cut => if 0 < cut then x :: reaching size xs (cut - size x) else []

theorem reaching_prefix (xs : List α) (cut : Nat) : reaching size xs cut <+: xs := by
  induction xs generalizing cut with
  | nil => exact List.prefix_rfl
  | cons x xs ih =>
      unfold reaching
      split
      · exact (List.prefix_cons_inj x).mpr (ih _)
      · exact List.nil_prefix

theorem le_total_reaching (long : cut ≤ total size xs) :
    cut ≤ total size (reaching size xs cut) := by
  induction xs generalizing cut with
  | nil => exact long
  | cons x xs ih =>
      unfold reaching
      split
      · rw [total_cons] at long
        have := @ih (cut - size x) (by omega)
        rw [total_cons]
        omega
      · omega

theorem reaching_total (positive : ∀ x, 0 < size x) (starts : part <+: xs) :
    reaching size xs (total size part) = part := by
  induction xs generalizing part with
  | nil => rw [List.prefix_nil.mp starts, reaching]
  | cons x xs ih =>
      cases part with
      | nil => rfl
      | cons y part =>
          obtain ⟨rfl, tail⟩ := List.cons_prefix_cons.mp starts
          have := positive y
          rw [total_cons, reaching, if_pos (by omega), Nat.add_sub_cancel_left, ih tail]

/-- The start ends at the cut exactly if some start of the list does. -/
theorem total_reaching_le_iff (positive : ∀ x, 0 < size x) (long : cut ≤ total size xs) :
    total size (reaching size xs cut) ≤ cut ↔ ∃ part, part <+: xs ∧ total size part = cut := by
  constructor
  · intro within
    exact ⟨reaching size xs cut, reaching_prefix xs cut,
      le_antisymm within (le_total_reaching long)⟩
  · rintro ⟨part, starts, rfl⟩
    rw [reaching_total positive starts]

/-! ## The bytes of characters -/

theorem total_utf8Size (cs : List Char) : total Char.utf8Size cs = String.utf8Len cs := by
  induction cs with
  | nil => rfl
  | cons c cs ih => rw [total_cons, String.utf8Len_cons, ih, Nat.add_comm]

theorem bytes_ofList (cs : List Char) : (String.ofList cs).utf8ByteSize = total Char.utf8Size cs := by
  rw [String.utf8ByteSize_ofList, total_utf8Size]

theorem bytes_eq (s : String) : s.utf8ByteSize = total Char.utf8Size s.toList := by
  rw [← bytes_ofList, String.ofList_toList]

theorem bytes_ellipsis : "…".utf8ByteSize = 3 := by decide +kernel

end SupplyDrop.Library.Clip
