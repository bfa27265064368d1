import Mathlib

namespace SupplyDrop.Library.Text

def lines (text : String) : List String := (text.toList.splitOn '\n').map String.ofList

theorem lines_intercalate {ls : List String} (plain : ∀ l ∈ ls, '\n' ∉ l.toList)
    (some : ls ≠ []) : lines ("\n".intercalate ls) = ls := by
  have parts : ("\n".intercalate ls).toList.splitOn '\n' = ls.map String.toList := by
    rw [String.toList_intercalate]
    apply List.splitOn_intercalate
    · simpa using plain
    · simpa using some
  rw [lines, parts, List.map_map]
  simp [Function.comp_def]

/-- The lines of a text can be told from it. -/
theorem lines_injective {xs ys : List String} (plain : ∀ l ∈ xs, '\n' ∉ l.toList)
    (plain' : ∀ l ∈ ys, '\n' ∉ l.toList) (some : xs ≠ []) (some' : ys ≠ [])
    (same : "\n".intercalate xs = "\n".intercalate ys) : xs = ys := by
  rw [← lines_intercalate plain some, ← lines_intercalate plain' some', same]

theorem number_plain (n : Int) : ∀ c ∈ (toString n).toList, c = '-' ∨ c.isDigit := by
  have digits (n : Nat) : ∀ c ∈ (toString n).toList, c.isDigit := by
    intro c hc
    exact Nat.isDigit_of_mem_toDigits (b := 10) (by decide) (by decide) (by simpa using hc)
  intro c hc
  cases n with
  | ofNat n => exact .inr (digits n c hc)
  | negSucc n =>
      have : toString (Int.negSucc n) = "-" ++ toString (n + 1) := rfl
      rw [this, String.toList_append, List.mem_append] at hc
      rcases hc with sign | digit
      · left; simpa using sign
      · exact .inr (digits _ c digit)

/-- A number and a blank tell the number. -/
theorem numbered_inj {a b : Int} {r s : List Char}
    (same : (toString a).toList ++ ' ' :: r = (toString b).toList ++ ' ' :: s) : a = b := by
  have blank (n : Int) : ∀ c ∈ (toString n).toList, decide (c ≠ ' ') := by
    intro c mem
    rcases number_plain n c mem with rfl | h
    · rfl
    · apply decide_eq_true
      rintro rfl
      cases h
  have numbers := congrArg (List.takeWhile fun c => decide (c ≠ ' ')) same
  rw [List.takeWhile_append_of_pos (blank a), List.takeWhile_append_of_pos (blank b)] at numbers
  simp only [ne_eq, not_true_eq_false, decide_false, Bool.false_eq_true, not_false_eq_true,
    List.takeWhile_cons_of_neg, List.append_nil, String.toList_inj] at numbers
  exact Int.repr_inj.mp numbers

end SupplyDrop.Library.Text
