import Mathlib

namespace SupplyDrop.Library.Recent
variable {α : Type} {cap : Nat} {counted queue rest : List α} {seen : Finset α} {x old : α}

/-! Counting entries of a stream, except those that are among the last `cap` counted ones. What was
counted is written with the newest first. -/

section Count
variable [DecidableEq α]

def count (cap : Nat) (counted : List α) (x : α) : List α :=
  if x ∈ counted.take cap then counted else x :: counted

theorem count_known (known : x ∈ counted.take cap) : count cap counted x = counted := if_pos known

theorem count_new (new : x ∉ counted.take cap) : count cap counted x = x :: counted := if_neg new

theorem nodup_count (distinct : (counted.take cap).Nodup) :
    ((count cap counted x).take cap).Nodup := by
  by_cases known : x ∈ counted.take cap
  · rwa [count_known known]
  · rw [count_new known]
    cases cap with
    | zero => exact List.nodup_nil
    | succ room =>
        have fewer : (counted.take room).Sublist (counted.take (room + 1)) :=
          List.take_sublist_take_left room.le_succ
        rw [List.take_succ_cons, List.nodup_cons]
        exact ⟨fun again => known (fewer.subset again), distinct.sublist fewer⟩

theorem nodup_counts (xs : List α) (distinct : (counted.take cap).Nodup) :
    ((xs.foldl (count cap) counted).take cap).Nodup := by
  induction xs generalizing counted with
  | nil => exact distinct
  | cons x xs ih => exact ih (nodup_count distinct)

theorem nodup_start (xs : List α) : ((xs.foldl (count cap) []).take cap).Nodup :=
  nodup_counts xs (List.nodup_nil.sublist (List.take_sublist cap []))

theorem counts_grow (cap : Nat) (counted xs : List α) :
    ∃ fresh, xs.foldl (count cap) counted = fresh ++ counted ∧ fresh ⊆ xs := by
  induction xs generalizing counted with
  | nil => exact ⟨[], rfl, List.Subset.refl []⟩
  | cons x xs ih =>
      obtain ⟨fresh, grown, within⟩ := ih (count cap counted x)
      rw [List.foldl_cons, grown]
      by_cases known : x ∈ counted.take cap
      · exact ⟨fresh, by rw [count_known known], List.subset_cons_of_subset x within⟩
      · refine ⟨fresh ++ [x], by rw [count_new known, List.append_assoc, List.singleton_append], ?_⟩
        exact List.append_subset.mpr ⟨List.subset_cons_of_subset x within,
          List.cons_subset_cons x (List.nil_subset xs)⟩

/-- An entry that is counted once more had `cap` others come in since. -/
theorem others_between {between : List α} (distinct : (counted.take cap).Nodup)
    (first : x ∉ counted.take cap)
    (again : x ∉ (between.foldl (count cap) (count cap counted x)).take cap) :
    cap ≤ (between.toFinset.erase x).card := by
  have nodup := nodup_counts between (nodup_count (x := x) distinct)
  rw [count_new first] at again nodup
  obtain ⟨fresh, grown, within⟩ := counts_grow cap (x :: counted) between
  rw [grown] at again nodup
  -- `x` itself is only out of the window once `cap` entries came after it
  have long : cap ≤ fresh.length := by
    by_contra short
    apply again
    rw [List.take_append, List.mem_append]
    right
    obtain ⟨room, eq⟩ : ∃ room, cap - fresh.length = room + 1 :=
      ⟨cap - fresh.length - 1, by omega⟩
    rw [eq, List.take_succ_cons]
    exact List.mem_cons_self
  rw [List.take_append_of_le_length long] at again nodup
  have others : (fresh.take cap).toFinset ⊆ between.toFinset.erase x := by
    intro y mem
    rw [List.mem_toFinset] at mem
    refine Finset.mem_erase.mpr ⟨fun same => again (same ▸ mem), ?_⟩
    exact List.mem_toFinset.mpr (within (List.mem_of_mem_take mem))
  calc cap = (fresh.take cap).toFinset.card := by
        rw [List.toFinset_card_of_nodup nodup, List.length_take_of_le long]
    _ ≤ _ := Finset.card_le_card others

end Count

/-! ## Keeping the last counted entries in a queue and a set -/

/-- The queue has the entries with the oldest in front. -/
structure Keeps (cap : Nat) (counted queue : List α) (seen : Finset α) : Prop where
  queue_eq : queue = (counted.take cap).reverse
  mem_seen : ∀ y, y ∈ seen ↔ y ∈ queue

namespace Keeps

theorem nil : Keeps cap ([] : List α) [] ∅ :=
  ⟨by rw [List.take_nil, List.reverse_nil], fun y => by simp⟩

theorem length_le (keeps : Keeps cap counted queue seen) : queue.length ≤ cap := by
  rw [keeps.queue_eq, List.length_reverse]
  exact List.length_take_le cap counted

theorem known_iff (keeps : Keeps cap counted queue seen) : x ∈ seen ↔ x ∈ counted.take cap := by
  rw [keeps.mem_seen, keeps.queue_eq, List.mem_reverse]

theorem nodup (keeps : Keeps cap counted queue seen) (distinct : (counted.take cap).Nodup) :
    queue.Nodup := by
  rw [keeps.queue_eq]
  exact List.nodup_reverse.mpr distinct

variable [DecidableEq α]

theorem card_le (keeps : Keeps cap counted queue seen) : seen.card ≤ cap := by
  have same : seen = queue.toFinset := by
    ext y
    rw [keeps.mem_seen, List.mem_toFinset]
  rw [same]
  exact (List.toFinset_card_le queue).trans keeps.length_le

theorem mem_pushed (keeps : Keeps cap counted queue seen) (y : α) :
    y ∈ insert x seen ↔ y ∈ queue ++ [x] := by
  rw [Finset.mem_insert, keeps.mem_seen, List.mem_append, List.mem_singleton, or_comm]

/-- A further entry while there is room. -/
theorem push (keeps : Keeps cap counted queue seen) (room : (queue ++ [x]).length ≤ cap) :
    Keeps cap (x :: counted) (queue ++ [x]) (insert x seen) := by
  refine ⟨?_, keeps.mem_pushed⟩
  have short : counted.length < cap := by
    rw [keeps.queue_eq] at room
    simp only [List.length_append, List.length_reverse, List.length_take, List.length_singleton] at room
    omega
  rw [keeps.queue_eq, List.take_of_length_le short.le, List.take_of_length_le, List.reverse_cons]
  exact short

/-- A further entry drives out the oldest. -/
theorem push_pop (keeps : Keeps cap counted queue seen) (distinct : (counted.take cap).Nodup)
    (new : x ∉ seen) (full : cap < (queue ++ [x]).length) (split : queue ++ [x] = old :: rest) :
    Keeps cap (x :: counted) rest ((insert x seen).erase old) := by
  have longest : (queue ++ [x]).length = cap + 1 := by
    have := keeps.length_le
    rw [List.length_append, List.length_singleton] at full ⊢
    omega
  have nodup : (old :: rest).Nodup := by
    rw [← split, List.nodup_append]
    refine ⟨keeps.nodup distinct, List.nodup_singleton x, ?_⟩
    intro y mem z last same
    rw [List.mem_singleton] at last
    exact new ((keeps.mem_seen x).mpr (last ▸ same ▸ mem))
  refine ⟨?_, fun y => ?_⟩
  · have all : old :: rest = ((x :: counted).take (cap + 1)).reverse := by
      rw [← split, keeps.queue_eq, List.take_succ_cons, List.reverse_cons]
    have len := congrArg List.length all
    rw [← split, longest, List.length_reverse] at len
    have kept : ((x :: counted).take (cap + 1)).dropLast = (x :: counted).take cap := by
      rw [List.dropLast_eq_take, ← len, Nat.add_sub_cancel, List.take_take,
        Nat.min_eq_left cap.le_succ]
    rw [← kept, ← List.tail_reverse, ← all, List.tail_cons]
  · rw [Finset.mem_erase, keeps.mem_pushed, split, List.mem_cons]
    rw [List.nodup_cons] at nodup
    constructor
    · rintro ⟨other, same | mem⟩
      · exact absurd same other
      · exact mem
    · intro mem
      exact ⟨fun same => nodup.1 (same ▸ mem), .inr mem⟩

end Keeps

end SupplyDrop.Library.Recent
