import Mathlib

namespace SupplyDrop.Library.Paging
variable {α κ : Type} {key : α → κ} {cursor next : κ} {xs : List α} {n : Nat}

/-! Pages of a list that is in ascending order of a key. A page holds the first `n` of the elements
behind a cursor, and where there are more the key of its last element is the next cursor. -/

def nextCursor (key : α → κ) (n : Nat) (xs : List α) : Option κ :=
  if n < xs.length then (xs.take n).getLast?.map key else none

theorem nextCursor_none_iff (positive : 0 < n) :
    nextCursor key n xs = none ↔ xs.take n = xs := by
  unfold nextCursor
  by_cases longer : n < xs.length
  · have last : xs.take n ≠ [] := by
      rw [Ne, List.take_eq_nil_iff]
      rintro (zero | empty)
      · omega
      · rw [empty] at longer
        exact absurd longer (Nat.not_lt_zero n)
    rw [if_pos longer, Option.map_eq_none_iff, List.getLast?_eq_none_iff]
    refine iff_of_false last fun whole => ?_
    have := congrArg List.length whole
    rw [List.length_take] at this
    omega
  · rw [if_neg longer]
    exact iff_of_true rfl (List.take_of_length_le (not_lt.mp longer))

theorem fewer_left (positive : 0 < n) (more : nextCursor key n xs = some next) :
    (xs.drop n).length < xs.length := by
  unfold nextCursor at more
  split at more
  · next longer =>
    rw [List.length_drop]
    omega
  · cases more

variable [LinearOrder κ]

def behind (key : α → κ) (cursor : κ) (xs : List α) : List α := xs.filter (cursor < key ·)

/-- The elements behind the next cursor are those the page has left. -/
theorem behind_next (sorted : xs.Pairwise fun a b => key a < key b)
    (more : nextCursor key n (behind key cursor xs) = some next) :
    behind key next xs = (behind key cursor xs).drop n := by
  unfold nextCursor at more
  split at more
  · obtain ⟨last, ends, rfl⟩ := Option.map_eq_some_iff.mp more
    have sorted' : (behind key cursor xs).Pairwise fun a b => key a < key b := sorted.filter _
    obtain ⟨front, split⟩ := List.getLast?_eq_some_iff.mp ends
    have here : cursor < key last := by
      have mem : last ∈ behind key cursor xs :=
        List.mem_of_mem_take (List.mem_of_mem_getLast? ends)
      simpa using (List.mem_filter.mp mem).2
    have narrowed : behind key (key last) xs = behind key (key last) (behind key cursor xs) := by
      unfold behind
      rw [List.filter_filter]
      apply List.filter_congr
      intro x _
      by_cases later : key last < key x
      · simp [later, here.trans later]
      · simp [later]
    have whole : behind key cursor xs = (front ++ [last]) ++ (behind key cursor xs).drop n := by
      rw [← split, List.take_append_drop]
    rw [whole] at sorted'
    obtain ⟨page, -, apart⟩ := List.pairwise_append.mp sorted'
    have passed : behind key (key last) (front ++ [last]) = [] := by
      apply List.filter_eq_nil_iff.mpr
      intro x mem later
      have later : key last < key x := by simpa using later
      rcases List.mem_append.mp mem with earlier | same
      · have := (List.pairwise_append.mp page).2.2 x earlier last (List.mem_singleton_self last)
        exact lt_asymm this later
      · rw [List.mem_singleton.mp same] at later
        exact lt_irrefl _ later
    have kept : behind key (key last) ((behind key cursor xs).drop n) =
        (behind key cursor xs).drop n := by
      apply List.filter_eq_self.mpr
      intro x mem
      exact decide_eq_true (apart last (List.mem_append_right _ (List.mem_singleton_self last)) x mem)
    calc behind key (key last) xs
        = behind key (key last) ((front ++ [last]) ++ (behind key cursor xs).drop n) := by
          rw [narrowed, ← whole]
      _ = behind key (key last) (front ++ [last]) ++
          behind key (key last) ((behind key cursor xs).drop n) := List.filter_append _ _
      _ = (behind key cursor xs).drop n := by rw [passed, kept, List.nil_append]
  · cases more

end SupplyDrop.Library.Paging
