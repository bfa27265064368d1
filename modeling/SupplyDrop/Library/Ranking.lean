import Mathlib

/-!
# Places in a sorted page

Rows that carry ascending keys, sorted by an order of their own and cut off after `n`: a row is on
the page exactly when fewer than `n` rows are ahead of it.
-/

namespace SupplyDrop.Library.Ranking

theorem mem_take_iff {α : Type} {ahead : α → α → Bool} {l : List α}
    (strict : ∀ a b, ahead a b = true → ahead b a = false)
    (ordered : l.Pairwise fun a b => ahead a b = true) {a : α} (mem : a ∈ l) (n : Nat) :
    a ∈ l.take n ↔ l.countP (ahead · a) < n := by
  induction l generalizing n with
  | nil => simp at mem
  | cons b l ih =>
      obtain ⟨first, rest⟩ := List.pairwise_cons.mp ordered
      cases n with
      | zero => simp
      | succ n =>
          rw [List.take_succ_cons, List.mem_cons]
          rcases List.mem_cons.mp mem with rfl | behind
          · have self : ahead a a = false := by
              by_contra both
              have yes : ahead a a = true := by simpa using both
              rw [strict a a yes] at yes
              simp at yes
            have none : l.countP (ahead · a) = 0 := by
              rw [List.countP_eq_zero]
              intro c hc
              simp [strict a c (first c hc)]
            simp [self, none]
          · have counted : (b :: l).countP (ahead · a) = l.countP (ahead · a) + 1 := by
              simp [first a behind]
            have other : a ≠ b := by
              rintro rfl
              have yes := first a behind
              rw [strict a a yes] at yes
              simp at yes
            rw [counted, Nat.add_lt_add_iff_right, ← ih rest behind n]
            simp [other]

theorem not_both_ways {α : Type} {l : List α} (distinct : l.Nodup) {a b : α}
    (forth : [a, b].Sublist l) (back : [b, a].Sublist l) : False := by
  induction l with
  | nil => simp at forth
  | cons c l ih =>
      obtain ⟨apart, distinct⟩ := List.nodup_cons.mp distinct
      cases forth with
      | cons _ forth =>
          cases back with
          | cons _ back => exact ih distinct forth back
          | cons_cons _ back => exact apart (forth.subset (by simp))
      | cons_cons _ forth =>
          cases back with
          | cons _ back => exact apart (back.subset (by simp))
          | cons_cons _ back => exact apart (back.subset (by simp))

variable {α : Type} {le : Int × α → Int × α → Bool}

/-- Ties go to the smaller key. -/
def ahead (le : Int × α → Int × α → Bool) (a b : Int × α) : Bool :=
  le a b && (!le b a || a.1 < b.1)

def rank (le : Int × α → Int × α → Bool) (rows : List (Int × α)) (r : Int × α) : Nat :=
  rows.countP fun other => ahead le other r

theorem ahead_strict (a b : Int × α) (h : ahead le a b = true) : ahead le b a = false := by
  by_contra both
  simp only [ahead, Bool.and_eq_true, Bool.or_eq_true, Bool.not_eq_true', decide_eq_true_eq,
    Bool.not_eq_false] at h both
  obtain ⟨forth, first⟩ := h
  obtain ⟨back, second⟩ := both
  simp only [forth, back, Bool.true_eq_false, false_or] at first second
  omega

section Sorted
variable {rows : List (Int × α)} (sorted : rows.Pairwise fun a b => a.1 < b.1)
include sorted

theorem rows_nodup : rows.Nodup := by
  apply sorted.imp
  rintro a b less rfl
  exact lt_irrefl _ less

theorem pair_sublist {a b : Int × α} (ha : a ∈ rows) (hb : b ∈ rows) (less : a.1 < b.1) :
    [a, b].Sublist rows := by
  induction rows with
  | nil => simp at ha
  | cons c rows ih =>
      obtain ⟨first, sorted⟩ := List.pairwise_cons.mp sorted
      rcases List.mem_cons.mp ha with rfl | inside
      · rcases List.mem_cons.mp hb with rfl | behind
        · exact absurd less (lt_irrefl _)
        · exact List.Sublist.cons_cons _ (List.singleton_sublist.mpr behind)
      · rcases List.mem_cons.mp hb with rfl | behind
        · exact absurd (first a inside) (not_lt.mpr (le_of_lt less))
        · exact (ih sorted inside behind).cons _

theorem eq_of_key {a b : Int × α} (ha : a ∈ rows) (hb : b ∈ rows) (same : a.1 = b.1) : a = b := by
  have keys : (rows.map (·.1)).Nodup := by
    rw [List.Nodup, List.pairwise_map]
    exact sorted.imp fun less => ne_of_lt less
  exact List.inj_on_of_nodup_map keys ha hb same

/-- The sort is stable, so that rows the order does not tell apart stay in the order of their
keys. -/
theorem mergeSort_ahead (trans : ∀ a b c, le a b → le b c → le a c)
    (total : ∀ a b, le a b || le b a) :
    (rows.mergeSort le).Pairwise fun a b => ahead le a b = true := by
  have perm := List.mergeSort_perm rows le
  have distinct : (rows.mergeSort le).Nodup := perm.nodup_iff.mpr (rows_nodup sorted)
  rw [List.pairwise_iff_forall_sublist]
  intro a b inOrder
  have forth : le a b = true :=
    List.pairwise_iff_forall_sublist.mp (List.pairwise_mergeSort trans total rows) inOrder
  have ha : a ∈ rows := perm.mem_iff.mp (inOrder.subset (by simp))
  have hb : b ∈ rows := perm.mem_iff.mp (inOrder.subset (by simp))
  by_cases back : le b a = true
  · rcases lt_trichotomy a.1 b.1 with less | same | more
    · simp [ahead, forth, less]
    · obtain rfl := eq_of_key sorted ha hb same
      exact (not_both_ways distinct inOrder inOrder).elim
    · have turned := List.pair_sublist_mergeSort trans total back (pair_sublist sorted hb ha more)
      exact (not_both_ways distinct inOrder turned).elim
  · simp [ahead, forth, back]

theorem take_mergeSort_perm (trans : ∀ a b c, le a b → le b c → le a c)
    (total : ∀ a b, le a b || le b a) (n : Nat) :
    ((rows.mergeSort le).take n).Perm (rows.filter fun r => rank le rows r < n) := by
  have perm := List.mergeSort_perm rows le
  have ordered := mergeSort_ahead sorted trans total
  have distinct := rows_nodup sorted
  have listed : ((rows.mergeSort le).take n).Nodup :=
    (perm.nodup_iff.mpr distinct).sublist (List.take_sublist n _)
  rw [List.perm_ext_iff_of_nodup listed (distinct.filter _)]
  intro r
  rw [List.mem_filter, decide_eq_true_eq]
  constructor
  · intro onPage
    have mem := List.mem_of_mem_take onPage
    refine ⟨perm.mem_iff.mp mem, ?_⟩
    rw [rank, ← perm.countP_eq]
    exact (mem_take_iff ahead_strict ordered mem n).mp onPage
  · rintro ⟨mem, few⟩
    rw [rank, ← perm.countP_eq] at few
    exact (mem_take_iff ahead_strict ordered (perm.mem_iff.mpr mem) n).mpr few

end Sorted

end SupplyDrop.Library.Ranking
