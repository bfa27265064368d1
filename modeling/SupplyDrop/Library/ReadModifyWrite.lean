import Mathlib

namespace SupplyDrop.Library.ReadModifyWrite

inductive Caller where
  | first
  | second
deriving DecidableEq

/-- A call reads the cell in one turn and writes it in the next, from what it read. -/
inductive Phase (ρ : Type) where
  | ready
  | loaded (seen : ρ)
  | finished

structure Cell (ρ : Type) where
  first : Phase ρ
  second : Phase ρ
  value : ρ

section Turns
variable {ρ : Type} (one two : ρ → ρ → ρ)

def advance (write : ρ → ρ → ρ) : Phase ρ → ρ → Phase ρ × ρ
  | .ready, value => (.loaded value, value)
  | .loaded seen, value => (.finished, write seen value)
  | .finished, value => (.finished, value)

def turn (cell : Cell ρ) : Caller → Cell ρ
  | .first =>
      { cell with
        first := (advance one cell.first cell.value).1
        value := (advance one cell.first cell.value).2 }
  | .second =>
      { cell with
        second := (advance two cell.second cell.value).1
        value := (advance two cell.second cell.value).2 }

def interleave (schedule : List Caller) (value : ρ) : Cell ρ :=
  schedule.foldl (turn one two) ⟨.ready, .ready, value⟩

theorem count_callers (schedule : List Caller) :
    schedule.count .first + schedule.count .second = schedule.length := by
  induction schedule with
  | nil => rfl
  | cons caller schedule ih => cases caller <;> simp <;> omega

/-- Two calls of two turns each interleave in six ways: one after the other, or overlapping with
either of them writing last. -/
theorem interleave_value {schedule : List Caller} (first : schedule.count .first = 2)
    (second : schedule.count .second = 2) (value : ρ) :
    schedule = [.first, .first, .second, .second] ∧
      (interleave one two schedule value).value = two (one value value) (one value value) ∨
    schedule = [.second, .second, .first, .first] ∧
      (interleave one two schedule value).value = one (two value value) (two value value) ∨
    schedule ≠ [.first, .first, .second, .second] ∧ schedule.getLast? = some .second ∧
      (interleave one two schedule value).value = two value (one value value) ∨
    schedule ≠ [.second, .second, .first, .first] ∧ schedule.getLast? = some .first ∧
      (interleave one two schedule value).value = one value (two value value) := by
  have four := count_callers schedule
  rw [first, second] at four
  obtain ⟨a, b, c, d, rfl⟩ : ∃ a b c d, schedule = [a, b, c, d] := by
    match schedule, four with
    | [a, b, c, d], _ => exact ⟨a, b, c, d, rfl⟩
  clear four
  cases a <;> cases b <;> cases c <;> cases d <;>
    first
    | exact absurd first (by decide)
    | simp [interleave, turn, advance]

end Turns
end SupplyDrop.Library.ReadModifyWrite
