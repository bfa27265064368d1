import Mathlib

namespace SupplyDrop.Library
variable {α β : Type} {f : α → Option β} {g : β → Option α} {a a' : α} {b : β}

/-- Two lookups that undo each other. -/
def Inverse (f : α → Option β) (g : β → Option α) : Prop := ∀ a b, f a = some b ↔ g b = some a

namespace Inverse

def toPEquiv (h : Inverse f g) : α ≃. β := ⟨f, g, fun a b => (h a b).symm⟩

theorem empty : Inverse (fun _ : α => (none : Option β)) (fun _ => none) := fun _ _ => ⟨nofun, nofun⟩

theorem same_source (h : Inverse f g) (first : f a = some b) (second : f a' = some b) : a = a' :=
  Option.some.inj (((h a b).mp first).symm.trans ((h a' b).mp second))

variable [DecidableEq α] [DecidableEq β]

theorem insert (h : Inverse f g) (new : f a = none) (unused : g b = none) :
    Inverse (Function.update f a (some b)) (Function.update g b (some a)) := by
  intro x y
  by_cases sameX : x = a
  · subst sameX
    by_cases sameY : y = b
    · simp [sameY]
    · have other : g y ≠ some x := fun eq => by
        rw [← h, new] at eq
        cases eq
      simp [sameY, other, Ne.symm sameY]
  · by_cases sameY : y = b
    · subst sameY
      have other : f x ≠ some y := fun eq => by
        rw [h, unused] at eq
        cases eq
      simp [sameX, other, Ne.symm sameX]
    · simp [sameX, sameY, h x y]

theorem erase (h : Inverse f g) (pair : f a = some b) :
    Inverse (Function.update f a none) (Function.update g b none) := by
  intro x y
  by_cases sameX : x = a
  · subst sameX
    by_cases sameY : y = b
    · simp [sameY]
    · have other : g y ≠ some x := fun eq => by
        rw [← h, pair] at eq
        exact sameY (Option.some.inj eq).symm
      simp [sameY, other]
  · by_cases sameY : y = b
    · subst sameY
      have other : f x ≠ some y := fun eq => sameX (h.same_source eq pair)
      simp [sameX, other]
    · simp [sameX, sameY, h x y]

end Inverse

end SupplyDrop.Library
